import ServiceStability.Proofs.Components
import ServiceStability.Proofs.Marks
/-!
# Proofs.Resolution — resolution finds exactly the blocked services

Take the components one by one.  All dependencies of a component lie in it or in an earlier one, and the earlier ones
are decided.  While a component is settled, only services that are blocked get a mark (`Graph.Settling`).  Once no mark
changes anything, every blocked member has one: along a chain that blocks it, the mark comes from an earlier component
or from further down the chain.

- `Graph.Resolution`: what resolution makes of a graph.
- `Graph.resolution_resolveIn`: resolution makes that of it, in whatever order it takes the components.
-/
namespace ServiceStability
namespace Graph

variable {g h : Graph} {earlier members : List ServiceName}

/-- **A decided service**: if it is dormant, it bears a mark when it is blocked, and is down otherwise. -/
def Decided (g h : Graph) (name : ServiceName) : Prop :=
  ∀ r, h.get? name = some r → r.substate.isDormant = true →
    r.substate = .problem ∧ g.Blocked name ∨ r.substate = .down ∧ ¬ g.Blocked name

/-- **A component being settled**: the earlier services are decided, and a member with a mark is blocked. -/
structure Settling (g : Graph) (earlier members : List ServiceName) (h : Graph) : Prop where
  prepared : g.Prepared h
  decided : ∀ name ∈ earlier, g.Decided h name
  sound : ∀ name ∈ members, ∀ r, h.get? name = some r → r.substate.isDormant = true →
    r.substate = .down ∨ r.substate = .problem ∧ g.Blocked name

/-- **Where a component stands**: apart from the earlier services, and depending on nothing but them and itself. -/
structure Enclosed (g : Graph) (earlier members : List ServiceName) : Prop where
  apart : ∀ name ∈ members, name ∉ earlier
  closed : ∀ {name dependency r}, name ∈ members → g.get? name = some r → dependency ∈ r.dependencies →
    dependency ∈ g.keys → dependency ∈ earlier ∨ dependency ∈ members

theorem DependenciesFirst.enclosed {before after : List (List ServiceName)}
    (order : g.DependenciesFirst (before ++ members :: after)) : g.Enclosed before.flatten members where
  apart := fun _ member => order.notMem_earlier g.keys_nodup member
  closed := order.closed

@[simp] theorem undecided_undecided (r : ServiceRecord) : r.undecided.undecided = r.undecided := by
  unfold ServiceRecord.undecided
  split
  · rfl
  · rfl

theorem get?_foldl_reset : ∀ (members : List ServiceName) (h : Graph) (name : ServiceName),
    (members.foldl reset h).get? name = if name ∈ members then (h.get? name).map .undecided else h.get? name
  | [], h, name => by simp
  | first :: members, h, name => by
    rw [List.foldl_cons, get?_foldl_reset members (h.reset first) name, get?_reset]
    by_cases same : name = first
    · subst same; cases h.get? name <;> simp
    · simp [same]

theorem prepared_foldl_reset : ∀ {members : List ServiceName} {h : Graph}, g.Prepared h →
    g.Prepared (members.foldl reset h)
  | [], _, prepared => prepared
  | first :: _, h, prepared => prepared_foldl_reset (h := h.reset first) (prepared.reset first)

theorem settling_foldl_reset (enclosed : g.Enclosed earlier members) (prepared : g.Prepared h)
    (decided : ∀ name ∈ earlier, g.Decided h name) : g.Settling earlier members (members.foldl reset h) where
  prepared := prepared_foldl_reset prepared
  decided := by
    intro name before r found dormant
    rw [get?_foldl_reset, if_neg fun member => enclosed.apart name member before] at found
    exact decided name before r found dormant
  sound := by
    intro name member r found dormant
    rw [get?_foldl_reset, if_pos member] at found
    obtain ⟨s, -, rfl⟩ := Option.map_eq_some_iff.1 found
    unfold ServiceRecord.undecided at dormant ⊢
    split
    · exact Or.inl rfl
    · rename_i awake; rw [if_neg awake] at dormant; exact absurd dormant awake

namespace Settling

theorem blocked_of_problem (settling : g.Settling earlier members h) {name : ServiceName}
    (near : name ∈ earlier ∨ name ∈ members) (mark : h.substate? name = some .problem) : g.Blocked name := by
  obtain ⟨r, found, is⟩ := Option.map_eq_some_iff.1 mark
  have dormant : r.substate.isDormant = true := by rw [is]; rfl
  rcases near with before | member
  · rcases settling.decided name before r found dormant with ⟨-, blocked⟩ | ⟨down, -⟩
    · exact blocked
    · rw [is] at down; cases down
  · rcases settling.sound name member r found dormant with down | ⟨-, blocked⟩
    · rw [is] at down; cases down
    · exact blocked

theorem blocked_of_blocks (settling : g.Settling earlier members h) (enclosed : g.Enclosed earlier members)
    {name : ServiceName} (member : name ∈ members) {r : ServiceRecord} (found : h.get? name = some r)
    (able : canBeBlocked r = true) (blocks : h.blocks r = true) : g.Blocked name := by
  obtain ⟨s, found', same⟩ := settling.prepared.alike.symm.exists_record found
  have able' : canBeBlocked s = true := same.akin.canBeBlocked_eq ▸ able
  obtain ⟨d, edge, missing | broken⟩ := (settling.prepared.blocks_iff found).1 blocks
  · exact .unavailable found' able' (same.dependencies ▸ edge) missing
  · rcases isBroken_iff.1 broken with failed | mark
    · exact .failed found' able' (same.dependencies ▸ edge) (settling.prepared.alike.symm.akin.startFailed failed)
    · have edge' : d ∈ s.dependencies := same.dependencies ▸ edge
      obtain ⟨t, found_d, -⟩ := Option.map_eq_some_iff.1 mark
      have installed : d ∈ g.keys := settling.prepared.alike.keys ▸ mem_keys_of_get? found_d
      exact .chain found' able' edge' (settling.blocked_of_problem (enclosed.closed member found' edge' installed) mark)

/-- **One mark keeps a component being settled.** -/
theorem mark (settling : g.Settling earlier members h) (enclosed : g.Enclosed earlier members) {name : ServiceName}
    (member : name ∈ members) : g.Settling earlier members (h.mark name) where
  prepared := settling.prepared.mark name
  decided := by
    intro other before r found dormant
    have other_ne : other ≠ name := fun same => enclosed.apart name member (same ▸ before)
    rw [get?_mark, if_neg other_ne] at found
    exact settling.decided other before r found dormant
  sound := by
    intro other member' r found dormant
    rw [get?_mark] at found
    split at found
    · rename_i same
      obtain ⟨s, found', rfl⟩ := Option.map_eq_some_iff.1 found
      subst same
      unfold marked at dormant ⊢
      split
      · rename_i able
        obtain ⟨able, blocks⟩ := Bool.and_eq_true_iff.1 able
        exact Or.inr ⟨rfl, settling.blocked_of_blocks enclosed member found' able blocks⟩
      · rename_i unable
        rw [if_neg unable] at dormant
        exact settling.sound other member s found' dormant
    · exact settling.sound other member' r found dormant

theorem pass (enclosed : g.Enclosed earlier members) : ∀ {part : List ServiceName} {h : Graph},
    (∀ name ∈ part, name ∈ members) → g.Settling earlier members h → g.Settling earlier members (h.pass part)
  | [], _, _, settling => settling
  | first :: _, h, included, settling =>
    pass (h := h.mark first) enclosed (fun name member => included name (List.mem_cons_of_mem _ member))
      (settling.mark enclosed (included first (List.mem_cons_self ..)))

theorem settle (enclosed : g.Enclosed earlier members) : ∀ {passes : Nat} {h : Graph},
    g.Settling earlier members h → g.Settling earlier members (settle members passes h)
  | 0, _, settling => settling
  | passes + 1, h, settling => by
    rw [Graph.settle]
    split
    · exact settling
    · exact settle enclosed (settling.pass enclosed fun _ member => member)

/-- **Once no mark changes anything, every blocked member bears one.**  The induction is along the chain that blocks
it. -/
theorem problem_of_blocked (settling : g.Settling earlier members h) (enclosed : g.Enclosed earlier members)
    (still : ∀ name ∈ members, h.mark name = h) {name : ServiceName} (blocked : g.Blocked name)
    (member : name ∈ members) : h.substate? name = some .problem := by
  have marked_of : ∀ {name r d}, name ∈ members → g.get? name = some r → canBeBlocked r = true →
      d ∈ r.dependencies → g.isUnavailable d = true ∨ h.isBroken d = true → h.substate? name = some .problem := by
    intro name r d member found able edge cause
    obtain ⟨s, found', same⟩ := settling.prepared.alike.exists_record found
    have blocks : h.blocks s = true := (settling.prepared.blocks_iff found').2 ⟨d, same.dependencies ▸ edge, cause⟩
    have able' : canBeBlocked s = true := same.akin.canBeBlocked_eq ▸ able
    have after : (h.mark name).get? name = some (h.marked s) := by rw [get?_mark, if_pos rfl, found', Option.map_some]
    rw [still name member, marked, able', blocks] at after
    rw [substate?, after]; rfl
  induction blocked with
  | unavailable found able edge missing => exact marked_of member found able edge (Or.inl missing)
  | failed found able edge broken =>
    have failed := settling.prepared.alike.akin.startFailed broken
    exact marked_of member found able edge (Or.inr (isBroken_iff.2 (Or.inl failed)))
  | @chain name d r found able edge blocked ih =>
    refine marked_of member found able edge (Or.inr (isBroken_iff.2 (Or.inr ?_)))
    obtain ⟨s, found_d, dormant, -⟩ := blocked.exists_record
    rcases enclosed.closed member found edge (mem_keys_of_get? found_d) with before | member'
    · obtain ⟨t, found_t, same⟩ := settling.prepared.alike.exists_record found_d
      rcases settling.decided d before t found_t (same.substate.isDormant_eq ▸ dormant) with ⟨is, -⟩ | ⟨-, free⟩
      · rw [substate?, found_t, Option.map_some, is]
      · exact absurd blocked free
    · exact ih member'

theorem decided_of_still (settling : g.Settling earlier members h) (enclosed : g.Enclosed earlier members)
    (still : ∀ name ∈ members, h.mark name = h) : ∀ name ∈ members, g.Decided h name := by
  intro name member r found dormant
  rcases settling.sound name member r found dormant with down | marked
  · refine Or.inr ⟨down, fun blocked => ?_⟩
    have mark := settling.problem_of_blocked enclosed still blocked member
    rw [substate?, found, Option.map_some, down] at mark
    cases mark
  · exact Or.inl marked

end Settling

/-- **Settling a component decides it**, and leaves the earlier services decided. -/
theorem decided_settleComponent (enclosed : g.Enclosed earlier members) (prepared : g.Prepared h)
    (decided : ∀ name ∈ earlier, g.Decided h name) :
    g.Prepared (h.settleComponent members) ∧
      ∀ name ∈ earlier ++ members, g.Decided (h.settleComponent members) name := by
  have settling : g.Settling earlier members (h.settleComponent members) :=
    (settling_foldl_reset enclosed prepared decided).settle enclosed
  have still : ∀ name ∈ members, (h.settleComponent members).mark name = h.settleComponent members :=
    mark_eq_of_settle (Nat.lt_succ_of_le (List.length_filter_le ..))
  refine ⟨settling.prepared, fun name member => ?_⟩
  rcases List.mem_append.1 member with before | member
  · exact settling.decided name before
  · exact settling.decided_of_still enclosed still name member

/-- **Settling the components one after another decides all of them.** -/
theorem decided_foldl_settleComponent : ∀ {after before : List (List ServiceName)} {h : Graph},
    g.DependenciesFirst (before ++ after) → g.Prepared h → (∀ name ∈ before.flatten, g.Decided h name) →
      g.Prepared (after.foldl settleComponent h) ∧
        ∀ name ∈ (before ++ after).flatten, g.Decided (after.foldl settleComponent h) name
  | [], before, h, _, prepared, decided => by
    rw [List.append_nil]; exact ⟨prepared, decided⟩
  | members :: after, before, h, order, prepared, decided => by
    obtain ⟨prepared', decided'⟩ := decided_settleComponent order.enclosed prepared decided
    have regroup : before ++ members :: after = (before ++ [members]) ++ after := by simp
    rw [regroup] at order ⊢
    exact decided_foldl_settleComponent order prepared' (by simpa using decided')

/-- **What resolution makes of a graph**: a service keeps all but its mark and the list of what is unavailable. -/
structure Resolution (g h : Graph) : Prop where
  alike : g.Alike h
  unavailable : ∀ {name r}, h.get? name = some r → r.unavailable = r.dependencies.filter g.isUnavailable
  decided : ∀ name, g.Decided h name

/-- **Resolution is right in whatever order the components are taken**, as long as dependencies come first. -/
theorem resolution_resolveIn {components : List (List ServiceName)} (order : g.DependenciesFirst components) :
    g.Resolution (g.resolveIn components) := by
  have none : ∀ name ∈ ([] : List (List ServiceName)).flatten, g.Decided g.refreshUnavailable name :=
    fun _ member => nomatch member
  obtain ⟨prepared, decided⟩ := decided_foldl_settleComponent order (prepared_refreshUnavailable g) none
  refine ⟨prepared.alike, prepared.unavailable, fun name r found => ?_⟩
  have installed : name ∈ components.flatten :=
    order.mem_flatten.2 (prepared.alike.keys ▸ mem_keys_of_get? found)
  exact decided name installed r found

theorem resolution_resolve (g : Graph) : g.Resolution g.resolve :=
  resolution_resolveIn (dependenciesFirst_components g)

theorem Resolution.problem_iff (resolution : g.Resolution h) {name : ServiceName} {r : ServiceRecord}
    (found : h.get? name = some r) : r.substate = .problem ↔ g.Blocked name := by
  constructor
  · intro problem
    rcases resolution.decided name r found (by rw [problem]; rfl) with ⟨-, blocked⟩ | ⟨down, -⟩
    · exact blocked
    · rw [problem] at down
      cases down
  · intro blocked
    have dormant := ((resolution.alike.blocked_iff.1 blocked).of_get? found).1
    rcases resolution.decided name r found dormant with ⟨problem, -⟩ | ⟨-, free⟩
    · exact problem
    · exact absurd blocked free

theorem Resolution.down_of_free (resolution : g.Resolution h) {name : ServiceName} {r : ServiceRecord}
    (found : h.get? name = some r) (dormant : r.substate.isDormant = true) (free : ¬ g.Blocked name) :
    r.substate = .down := by
  rcases resolution.decided name r found dormant with ⟨-, blocked⟩ | ⟨down, -⟩
  · exact absurd blocked free
  · exact down

/-- **A record is the same behind two resolutions** of graphs in which the same is unavailable and the same blocked. -/
theorem Resolution.record_eq {k h' : Graph} (first : g.Resolution h) (second : k.Resolution h') {name : ServiceName}
    {r s : ServiceRecord} (found : h.get? name = some r) (found' : h'.get? name = some s) (same : r.Alike s)
    (reach : g.isUnavailable = k.isUnavailable) (blocked : g.Blocked name ↔ k.Blocked name) : r = s := by
  have substate : r.substate = s.substate := by
    rcases same.substate with is | ⟨dormant, dormant'⟩
    · exact is
    by_cases stuck : k.Blocked name
    · exact ((first.problem_iff found).2 (blocked.2 stuck)).trans ((second.problem_iff found').2 stuck).symm
    · exact (first.down_of_free found dormant fun h => stuck (blocked.1 h)).trans
        (second.down_of_free found' dormant' stuck).symm
  have unavailable : r.unavailable = s.unavailable := by
    rw [first.unavailable found, second.unavailable found', same.dependencies, reach]
  obtain ⟨_, _, _, _, _, _⟩ := r
  obtain ⟨_, _, _, _, _, _⟩ := s
  obtain ⟨rfl, rfl, rfl, rfl, -⟩ := same
  cases substate
  cases unavailable
  rfl

theorem Resolution.unique {h' : Graph} (first : g.Resolution h) (second : g.Resolution h') : h = h' := by
  have alike := first.alike.symm.trans second.alike
  refine OrderedMap.ext_get? alike.keys fun name => ?_
  match found : h.get? name, found' : h'.get? name with
  | none, none => rfl
  | some r, none => exact absurd (alike.keys ▸ mem_keys_of_get? found) (OrderedMap.get?_eq_none_iff.1 found')
  | none, some s => exact absurd (alike.keys ▸ mem_keys_of_get? found') (OrderedMap.get?_eq_none_iff.1 found)
  | some r, some s => rw [first.record_eq second found found' (alike.record found found') rfl Iff.rfl]

/-- What a graph resolves to does not depend on the marks that it bears. -/
theorem Resolution.of_alike {k : Graph} (resolution : h.Resolution k) (alike : g.Alike h) : g.Resolution k where
  alike := alike.trans resolution.alike
  unavailable := fun found => by rw [alike.isUnavailable_fun_eq]; exact resolution.unavailable found
  decided := fun name r found dormant => by
    rw [alike.blocked_iff]
    exact resolution.decided name r found dormant

theorem Alike.resolve_eq (alike : g.Alike h) : g.resolve = h.resolve :=
  (resolution_resolve g).unique ((resolution_resolve h).of_alike alike)

end Graph
end ServiceStability
