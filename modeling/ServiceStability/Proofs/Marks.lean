import ServiceStability.Graph.Blockage
import ServiceStability.Proofs.Search
/-!
# Proofs.Marks — what marking changes and what it cannot change

Resolution writes two things: the unavailable dependencies of a service, and whether a dormant one is down or blocked.
Neither of them decides what is unavailable or which chains of dependencies exist, so a graph and one that differs from
it in these alone (`Graph.Alike`) have the same blocked services.  So do graphs that differ in names and failures
besides (`Graph.Akin`).

- `Graph.Alike`: the same services up to what resolution writes.
- `Graph.Akin.blocked_iff`: what blockage does not tell apart has the same blocked services.
- `Graph.Prepared`: a graph in the course of resolution.
- `Graph.mark_eq_of_settle`: after the passes no mark changes anything.
-/
namespace ServiceStability

/-- **Sub-states that resolution does not tell apart**: equal, or both dormant. -/
def Substate.Alike (a b : Substate) : Prop := a = b ∨ a.isDormant = true ∧ b.isDormant = true

namespace Substate.Alike

variable {a b c : Substate}

theorem symm (h : a.Alike b) : b.Alike a := h.imp Eq.symm And.symm

theorem trans (h : a.Alike b) (further : b.Alike c) : a.Alike c := by
  rcases h with rfl | ⟨ha, hb⟩
  · exact further
  · rcases further with rfl | ⟨-, hc⟩
    · exact Or.inr ⟨ha, hb⟩
    · exact Or.inr ⟨ha, hc⟩

theorem isDormant_eq (h : a.Alike b) : a.isDormant = b.isDormant := by
  rcases h with rfl | ⟨ha, hb⟩
  · rfl
  · rw [ha, hb]

theorem isLeaving_eq (h : a.Alike b) : a.isLeaving = b.isLeaving := by
  rcases h with rfl | ⟨ha, hb⟩
  · rfl
  · rcases isDormant_iff.1 ha with rfl | rfl | rfl <;> rcases isDormant_iff.1 hb with rfl | rfl | rfl <;> rfl

theorem eq_of_not_dormant (h : a.Alike b) (awake : a.isDormant = false) : a = b := by
  rcases h with rfl | ⟨ha, -⟩
  · rfl
  · rw [ha] at awake; cases awake

theorem eq_iff (h : a.Alike b) (awake : c.isDormant = false) : a = c ↔ b = c := by
  constructor
  · rintro rfl
    exact (h.eq_of_not_dormant awake).symm
  · rintro rfl
    exact (h.symm.eq_of_not_dormant awake).symm

end Substate.Alike

/-- **Records that blockage does not tell apart.**  What a service is called and why it failed does not matter to it. -/
structure ServiceRecord.Akin (r s : ServiceRecord) : Prop where
  mode : r.mode = s.mode
  dependencies : r.dependencies = s.dependencies
  substate : r.substate.Alike s.substate

namespace ServiceRecord.Akin

variable {r s : ServiceRecord}

theorem symm (h : r.Akin s) : s.Akin r := ⟨h.mode.symm, h.dependencies.symm, h.substate.symm⟩

theorem canBeBlocked_eq (h : r.Akin s) : Graph.canBeBlocked r = Graph.canBeBlocked s := by
  rw [Graph.canBeBlocked, Graph.canBeBlocked, h.substate.isDormant_eq, h.mode]

end ServiceRecord.Akin

/-- **Records that differ at most in what resolution writes.** -/
structure ServiceRecord.Alike (r s : ServiceRecord) : Prop where
  name : r.name = s.name
  mode : r.mode = s.mode
  dependencies : r.dependencies = s.dependencies
  startFailure : r.startFailure = s.startFailure
  substate : r.substate.Alike s.substate

namespace ServiceRecord.Alike

variable {r s t : ServiceRecord}

theorem refl (r : ServiceRecord) : r.Alike r := ⟨rfl, rfl, rfl, rfl, Or.inl rfl⟩

theorem symm (h : r.Alike s) : s.Alike r :=
  ⟨h.name.symm, h.mode.symm, h.dependencies.symm, h.startFailure.symm, h.substate.symm⟩

theorem trans (h : r.Alike s) (further : s.Alike t) : r.Alike t where
  name := h.name.trans further.name
  mode := h.mode.trans further.mode
  dependencies := h.dependencies.trans further.dependencies
  startFailure := h.startFailure.trans further.startFailure
  substate := h.substate.trans further.substate

theorem akin (h : r.Alike s) : r.Akin s := ⟨h.mode, h.dependencies, h.substate⟩

theorem of_dormant {substate : Substate} (dormant : r.substate.isDormant = true) (stays : substate.isDormant = true) :
    r.Alike { r with substate := substate } := ⟨rfl, rfl, rfl, rfl, Or.inr ⟨dormant, stays⟩⟩

theorem undecided (r : ServiceRecord) : r.Alike r.undecided := by
  unfold ServiceRecord.undecided
  split
  · rename_i dormant; exact of_dormant dormant rfl
  · exact refl r

end ServiceRecord.Alike

namespace Graph

variable {g h : Graph}

theorem canBeBlocked_iff {r : ServiceRecord} :
    canBeBlocked r = true ↔ r.substate.isDormant = true ∧ r.mode ≠ .never := by
  simp [canBeBlocked]

theorem Blocked.exists_record {name : ServiceName} (blocked : g.Blocked name) :
    ∃ r, g.get? name = some r ∧ r.substate.isDormant = true ∧ r.mode ≠ .never := by
  cases blocked with
  | unavailable found able | failed found able | chain found able => exact ⟨_, found, canBeBlocked_iff.1 able⟩

theorem Blocked.of_get? {name : ServiceName} {r : ServiceRecord} (blocked : g.Blocked name)
    (found : g.get? name = some r) : r.substate.isDormant = true ∧ r.mode ≠ .never := by
  obtain ⟨s, found', able⟩ := blocked.exists_record
  obtain rfl : r = s := Option.some.inj (found.symm.trans found')
  exact able

theorem substate?_eq_some_iff {name : ServiceName} {substate : Substate} :
    g.substate? name = some substate ↔ ∃ r, g.get? name = some r ∧ r.substate = substate := Option.map_eq_some_iff

theorem marked_alike (g : Graph) (r : ServiceRecord) : r.Alike (g.marked r) := by
  unfold marked
  split
  · rename_i able
    exact .of_dormant (canBeBlocked_iff.1 (Bool.and_eq_true_iff.1 able).1).1 rfl
  · exact .refl r

/-- **Graphs that blockage does not tell apart.** -/
structure Akin (g h : Graph) : Prop where
  keys : g.keys = h.keys
  record : ∀ {name r s}, g.get? name = some r → h.get? name = some s → r.Akin s

namespace Akin

theorem symm (akin : g.Akin h) : h.Akin g := ⟨akin.keys.symm, fun found found' => (akin.record found' found).symm⟩

theorem exists_record (akin : g.Akin h) {name : ServiceName} {r : ServiceRecord} (found : g.get? name = some r) :
    ∃ s, h.get? name = some s ∧ r.Akin s := by
  obtain ⟨s, found'⟩ := exists_get?_of_mem_keys (g := h) (akin.keys ▸ mem_keys_of_get? found)
  exact ⟨s, found', akin.record found found'⟩

theorem isUnavailable_eq (akin : g.Akin h) : g.isUnavailable = h.isUnavailable := by
  funext dependency
  unfold isUnavailable
  match found : g.get? dependency, found' : h.get? dependency with
  | none, none => rfl
  | some r, none => exact absurd (akin.keys ▸ mem_keys_of_get? found) (OrderedMap.get?_eq_none_iff.1 found')
  | none, some s => exact absurd (akin.keys ▸ mem_keys_of_get? found') (OrderedMap.get?_eq_none_iff.1 found)
  | some r, some s =>
    have same := akin.record found found'
    simp only [same.mode, same.substate.isLeaving_eq]

theorem startFailed (akin : g.Akin h) {name : ServiceName} (failed : g.substate? name = some .startFailed) :
    h.substate? name = some .startFailed := by
  obtain ⟨r, found, is⟩ := substate?_eq_some_iff.1 failed
  obtain ⟨s, found', same⟩ := akin.exists_record found
  have equal := same.substate.eq_of_not_dormant (by rw [is]; rfl)
  exact substate?_eq_some_iff.2 ⟨s, found', equal.symm.trans is⟩

theorem blocked (akin : g.Akin h) {name : ServiceName} (blocked : g.Blocked name) : h.Blocked name := by
  induction blocked with
  | unavailable found able edge missing =>
    obtain ⟨s, found', same⟩ := akin.exists_record found
    exact .unavailable found' (same.canBeBlocked_eq ▸ able) (same.dependencies ▸ edge) (akin.isUnavailable_eq ▸ missing)
  | failed found able edge broken =>
    obtain ⟨s, found', same⟩ := akin.exists_record found
    exact .failed found' (same.canBeBlocked_eq ▸ able) (same.dependencies ▸ edge) (akin.startFailed broken)
  | chain found able edge _ ih =>
    obtain ⟨s, found', same⟩ := akin.exists_record found
    exact .chain found' (same.canBeBlocked_eq ▸ able) (same.dependencies ▸ edge) ih

theorem blocked_iff (akin : g.Akin h) {name : ServiceName} : g.Blocked name ↔ h.Blocked name :=
  ⟨akin.blocked, akin.symm.blocked⟩

end Akin

/-- **Graphs that differ at most in what resolution writes.** -/
structure Alike (g h : Graph) : Prop where
  keys : g.keys = h.keys
  record : ∀ {name r s}, g.get? name = some r → h.get? name = some s → r.Alike s

namespace Alike

theorem refl (g : Graph) : g.Alike g :=
  ⟨rfl, fun found found' => Option.some.inj (found.symm.trans found') ▸ .refl _⟩

theorem symm (alike : g.Alike h) : h.Alike g :=
  ⟨alike.keys.symm, fun found found' => (alike.record found' found).symm⟩

theorem exists_record (alike : g.Alike h) {name : ServiceName} {r : ServiceRecord} (found : g.get? name = some r) :
    ∃ s, h.get? name = some s ∧ r.Alike s := by
  obtain ⟨s, found'⟩ := exists_get?_of_mem_keys (g := h) (alike.keys ▸ mem_keys_of_get? found)
  exact ⟨s, found', alike.record found found'⟩

theorem trans {k : Graph} (alike : g.Alike h) (further : h.Alike k) : g.Alike k where
  keys := alike.keys.trans further.keys
  record := fun found found' =>
    have ⟨_, between, first⟩ := alike.exists_record found
    first.trans (further.record between found')

theorem update (alike : g.Alike h) (name : ServiceName) {change : ServiceRecord → ServiceRecord}
    (keeps : ∀ r : ServiceRecord, r.Alike (change r)) : g.Alike (h.update name change) where
  keys := alike.keys.trans (OrderedMap.keys_update ..).symm
  record := by
    intro other r s found found'
    rw [OrderedMap.get?_update] at found'
    split at found'
    · rename_i same
      obtain ⟨t, between, rfl⟩ := Option.map_eq_some_iff.1 found'
      exact (alike.record found (same ▸ between)).trans (keeps t)
    · exact alike.record found found'

theorem akin (alike : g.Alike h) : g.Akin h := ⟨alike.keys, fun found found' => (alike.record found found').akin⟩

theorem isUnavailable_fun_eq (alike : g.Alike h) : g.isUnavailable = h.isUnavailable := alike.akin.isUnavailable_eq

/-- **Which services are blocked does not depend on what resolution writes.** -/
theorem blocked_iff (alike : g.Alike h) {name : ServiceName} : g.Blocked name ↔ h.Blocked name :=
  alike.akin.blocked_iff

end Alike

/-- **A graph in the course of resolution**: what is unavailable is on record, and the marks are under way. -/
structure Prepared (g h : Graph) : Prop where
  alike : g.Alike h
  unavailable : ∀ {name r}, h.get? name = some r → r.unavailable = r.dependencies.filter g.isUnavailable

theorem prepared_refreshUnavailable (g : Graph) : g.Prepared g.refreshUnavailable where
  alike :=
    { keys := (keys_refreshUnavailable g).symm
      record := by
        intro name r s found found'
        rw [refreshUnavailable, OrderedMap.get?_mapValues, found] at found'
        cases found'
        exact ⟨rfl, rfl, rfl, rfl, Or.inl rfl⟩ }
  unavailable := by
    intro name r found
    rw [refreshUnavailable, OrderedMap.get?_mapValues] at found
    obtain ⟨s, -, rfl⟩ := Option.map_eq_some_iff.1 found
    rfl

namespace Prepared

theorem update (prepared : g.Prepared h) (name : ServiceName) {change : ServiceRecord → ServiceRecord}
    (keeps : ∀ r : ServiceRecord, r.Alike (change r)) (leaves : ∀ r, (change r).unavailable = r.unavailable) :
    g.Prepared (h.update name change) where
  alike := prepared.alike.update name keeps
  unavailable := by
    intro other r found
    rw [OrderedMap.get?_update] at found
    split at found
    · obtain ⟨s, found', rfl⟩ := Option.map_eq_some_iff.1 found
      rw [leaves, prepared.unavailable found', (keeps s).dependencies]
    · exact prepared.unavailable found

theorem reset (prepared : g.Prepared h) (name : ServiceName) : g.Prepared (h.reset name) :=
  prepared.update name .undecided fun r => by unfold ServiceRecord.undecided; split <;> rfl

theorem mark (prepared : g.Prepared h) (name : ServiceName) : g.Prepared (h.mark name) :=
  prepared.update name h.marked_alike fun r => by unfold marked; split <;> rfl

/-- **What blocks a service**: an unavailable dependency, or one that has failed to start or bears a mark. -/
theorem blocks_iff (prepared : g.Prepared h) {name : ServiceName} {r : ServiceRecord} (found : h.get? name = some r) :
    h.blocks r = true ↔ ∃ dependency ∈ r.dependencies,
      g.isUnavailable dependency = true ∨ h.isBroken dependency = true := by
  have direct : (!r.unavailable.isEmpty) = true ↔ ∃ d ∈ r.dependencies, g.isUnavailable d = true := by
    rw [prepared.unavailable found, Bool.not_eq_true', ← Bool.not_eq_true, OrderedSet.isEmpty_iff,
      OrderedSet.toList_filter, List.filter_eq_nil_iff]
    simp [OrderedSet.mem_def]
  rw [blocks, Bool.or_eq_true, direct, List.any_eq_true]
  constructor
  · rintro (⟨d, edge, missing⟩ | ⟨d, edge, broken⟩)
    · exact ⟨d, edge, Or.inl missing⟩
    · exact ⟨d, edge, Or.inr broken⟩
  · rintro ⟨d, edge, missing | broken⟩
    · exact Or.inl ⟨d, edge, missing⟩
    · exact Or.inr ⟨d, edge, broken⟩

end Prepared

theorem isBroken_iff {dependency : ServiceName} :
    h.isBroken dependency = true ↔
      h.substate? dependency = some .startFailed ∨ h.substate? dependency = some .problem := by
  unfold isBroken substate?
  match h.get? dependency with
  | none => simp
  | some r => simp [Substate.isBroken_iff]

/-! ## Passes -/

def unmarked (h : Graph) (members : List ServiceName) : List ServiceName :=
  members.filter fun name => decide (h.substate? name ≠ some .problem)

theorem get?_mark_of_ne {name : ServiceName} (changes : h.mark name ≠ h) :
    ∃ r, h.get? name = some r ∧ r.substate ≠ .problem ∧
      ∀ other, (h.mark name).get? other =
        if other = name then some { r with substate := .problem } else h.get? other := by
  match found : h.get? name with
  | none =>
    refine absurd (OrderedMap.ext_get? (keys_mark h name) fun other => ?_) changes
    rw [get?_mark, found]
    split
    · rename_i same; rw [same, found]; rfl
    · rfl
  | some r =>
    have new : h.marked r ≠ r := fun same => changes (OrderedMap.ext_get? (keys_mark h name) fun other => by
      rw [get?_mark, found]
      split
      · rename_i is; rw [is, found, Option.map_some, same]
      · rfl)
    have is := (h.marked_eq r).resolve_left new
    refine ⟨r, rfl, fun had => new (is.trans ?_), fun other => ?_⟩
    · rw [← had]
    · rw [get?_mark, found, Option.map_some, is]

/-- **A mark changes nothing, or leaves fewer members without one.** -/
theorem mark_eq_or_unmarked_lt {members : List ServiceName} {name : ServiceName} (member : name ∈ members) :
    h.mark name = h ∨ ((h.mark name).unmarked members).length < (h.unmarked members).length := by
  by_cases same : h.mark name = h
  · exact Or.inl same
  · obtain ⟨r, found, bare, after⟩ := get?_mark_of_ne same
    have fewer : (h.mark name).unmarked members = (h.unmarked members).filter fun other => decide (other ≠ name) := by
      simp only [unmarked, List.filter_filter]
      refine List.filter_congr fun other _ => ?_
      rw [substate?, after other]
      by_cases is : other = name
      · simp [is]
      · simp [is, substate?]
    refine Or.inr ?_
    rw [fewer]
    refine List.length_filter_lt_length_iff_exists.2 ⟨name, List.mem_filter.2 ⟨member, ?_⟩, by simp⟩
    simp [substate?, found, bare]

/-- **A pass in which every single mark changes nothing, or that leaves fewer members without one.** -/
theorem pass_eq_or_unmarked_lt {members : List ServiceName} : ∀ {h : Graph} {part : List ServiceName},
    (∀ name ∈ part, name ∈ members) → (h.pass part = h ∧ ∀ name ∈ part, h.mark name = h) ∨
      ((h.pass part).unmarked members).length < (h.unmarked members).length
  | h, [], _ => Or.inl ⟨rfl, fun _ member => nomatch member⟩
  | h, first :: part, included => by
    have included' : ∀ name ∈ part, name ∈ members := fun name member => included name (List.mem_cons_of_mem _ member)
    have later := pass_eq_or_unmarked_lt (h := h.mark first) included'
    rcases mark_eq_or_unmarked_lt (h := h) (included first (List.mem_cons_self ..)) with same | fewer
    · rw [same] at later
      have step : h.pass (first :: part) = h.pass part := by rw [pass, List.foldl_cons, same, pass]
      rw [step]
      refine later.imp_left fun ⟨whole, each⟩ => ⟨whole, fun name member => ?_⟩
      rcases List.mem_cons.1 member with rfl | member
      · exact same
      · exact each name member
    · have step : h.pass (first :: part) = (h.mark first).pass part := rfl
      rw [step]
      rcases later with ⟨whole, -⟩ | fewer'
      · rw [whole]; exact Or.inr fewer
      · exact Or.inr (Nat.lt_trans fewer' fewer)

/-- **Enough passes settle a component**: no mark changes anything afterwards. -/
theorem mark_eq_of_settle {members : List ServiceName} : ∀ {passes : Nat} {h : Graph},
    (h.unmarked members).length < passes →
      ∀ name ∈ members, (settle members passes h).mark name = settle members passes h
  | 0, h, enough => absurd enough (Nat.not_lt_zero _)
  | passes + 1, h, enough => by
    rw [settle]
    rcases pass_eq_or_unmarked_lt (h := h) fun name (member : name ∈ members) => member with ⟨whole, each⟩ | fewer
    · rw [if_pos whole]; exact each
    · split
      · rename_i whole
        rw [whole] at fewer
        exact absurd fewer (Nat.lt_irrefl _)
      · exact mark_eq_of_settle (by omega)

end Graph
end ServiceStability
