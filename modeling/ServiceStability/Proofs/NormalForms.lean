import ServiceStability.Proofs.BlockingChains
import ServiceStability.Proofs.Restoration
/-!
# Proofs.NormalForms — what setting up a snapshot and putting it down again leaves of it

Setting up a snapshot resolves its dormant services, whatever the entries lead to.  Resolution writes nothing that a
snapshot shows: what is up or has failed stays as it is, and what is dormant is put down as down, blocked or not.  So
the snapshot that comes back is the one that was set up, entry by entry, less what an entry says twice or in vain.

- `RuntimeSnapshot.normalised`: what comes back of a snapshot.
- `RuntimeSnapshot.installAll_eq_error_iff`: which entry a snapshot is refused for.
- `RuntimeSnapshot.capture_of_alike`: snapshots do not show what resolution writes.
- `RuntimeSnapshot.restore_normalises`: restoration fails as it should, or comes back in normal form.
-/
namespace ServiceStability

theorem OrderedSet.eraseDups_eq_self_iff {α : Type} [DecidableEq α] {items : List α} :
    items.eraseDups = items ↔ items.Nodup := by
  rw [← toList_ofList_eq_eraseDups]
  exact ⟨fun same => same ▸ (ofList items).nodup, toList_ofList⟩

theorem RestState.ofSubstate_substate (state : RestState) : ofSubstate state.substate = state := by
  cases state <;> rfl

/-- Dormant services are put down alike. -/
theorem Substate.Alike.ofSubstate_eq {a b : Substate} (same : a.Alike b) :
    RestState.ofSubstate a = RestState.ofSubstate b := by
  have down : ∀ {c : Substate}, c.isDormant = true → RestState.ofSubstate c = .down := fun dormant => by
    rcases isDormant_iff.1 dormant with rfl | rfl | rfl <;> rfl
  rcases same with rfl | ⟨dormant, dormant'⟩
  · rfl
  · rw [down dormant, down dormant']

namespace ServiceEntry

/-- **What comes back of an entry**: each dependency where it is first listed, and a failure only if it counts. -/
def normalised (e : ServiceEntry) : ServiceEntry where
  name := e.name
  mode := e.mode
  state := e.state
  failure := if e.state = .failed then e.failure else none
  dependencies := e.dependencies.eraseDups

/-- **An entry that says nothing twice and nothing in vain**: no dependency is repeated, and only a failed service has a
failure. -/
structure IsNormal (e : ServiceEntry) : Prop where
  dependencies : e.dependencies.Nodup
  failure : e.state ≠ .failed → e.failure = none

theorem normalised_eq_self_iff {e : ServiceEntry} : e.normalised = e ↔ e.IsNormal := by
  have failure : (if e.state = .failed then e.failure else none) = e.failure ↔
      (e.state ≠ .failed → e.failure = none) := by
    split
    · next failed => exact iff_of_true rfl fun unfailed => absurd failed unfailed
    · next unfailed => exact ⟨fun same _ => same.symm, fun without => (without unfailed).symm⟩
  constructor
  · intro same
    exact ⟨OrderedSet.eraseDups_eq_self_iff.1 (congrArg dependencies same),
      failure.1 (congrArg ServiceEntry.failure same)⟩
  · rintro ⟨distinct, without⟩
    rw [normalised, OrderedSet.eraseDups_eq_self_iff.2 distinct, failure.2 without]

/-- An entry is set up as what comes back of it would be. -/
theorem toRecord_normalised (e : ServiceEntry) : e.normalised.toRecord = e.toRecord := by
  have dependencies : OrderedSet.ofList e.dependencies.eraseDups = .ofList e.dependencies := by
    rw [← OrderedSet.toList_ofList_eq_eraseDups, OrderedSet.ofList_toList]
  have failure : (if e.state = .failed then if e.state = .failed then e.failure else none else none) =
      if e.state = .failed then e.failure else none := by
    split <;> rfl
  rw [toRecord, toRecord, normalised, dependencies, failure]

theorem ofSnapshot_toRecord (e : ServiceEntry) (runtime : RuntimeId) :
    ofSnapshot (e.toRecord.snapshot runtime) = e.normalised := by
  simp only [ofSnapshot, toRecord, ServiceRecord.snapshot, normalised, RestState.ofSubstate_substate,
    OrderedSet.toList_ofList_eq_eraseDups]

/-- **A snapshot does not show what resolution writes.** -/
theorem ofSnapshot_of_alike {r s : ServiceRecord} (same : r.Alike s) (runtime : RuntimeId) :
    ofSnapshot (r.snapshot runtime) = ofSnapshot (s.snapshot runtime) := by
  simp only [ofSnapshot, ServiceRecord.snapshot, same.name, same.mode, same.dependencies, same.startFailure,
    same.substate.ofSubstate_eq]

end ServiceEntry

namespace RuntimeSnapshot

variable {g h : Graph} {s : RuntimeSnapshot} {problem : OperationError}

/-- **What comes back of a snapshot.** -/
def normalised (s : RuntimeSnapshot) : RuntimeSnapshot := ⟨s.services.map ServiceEntry.normalised⟩

def IsNormal (s : RuntimeSnapshot) : Prop := ∀ e ∈ s.services, e.IsNormal

theorem normalised_eq_self_iff : s.normalised = s ↔ s.IsNormal := by
  have apart : s.services.map ServiceEntry.normalised = s.services.map id ↔ s.IsNormal := by
    rw [List.map_inj_left]
    exact forall₂_congr fun e _ => ServiceEntry.normalised_eq_self_iff
  rwa [List.map_id, ← RuntimeSnapshot.mk.injEq] at apart

/-- **Setting up entries is refused for the first one whose name is taken**: by a service that is there already, or by
an earlier entry. -/
theorem installAll_eq_error_iff : ∀ {entries : List ServiceEntry} {g : Graph},
    installAll g entries = .error problem ↔
      ∃ before e after, entries = before ++ e :: after ∧ (g.keys ++ before.map (·.name)).Nodup ∧
        e.name ∈ g.keys ++ before.map (·.name) ∧ problem = .duplicateService e.name
  | [], g => by
    refine iff_of_false nofun ?_
    rintro ⟨before, e, after, split, -⟩
    exact absurd split.symm (List.append_ne_nil_of_right_ne_nil before nofun)
  | first :: entries, g => by
    by_cases taken : first.name ∈ g.keys
    · have refused : installAll g (first :: entries) = .error (.duplicateService first.name) := by
        rw [installAll, if_pos (OrderedMap.contains_iff.2 taken)]
      rw [refused, Except.error.injEq]
      constructor
      · rintro rfl
        have distinct : (g.keys ++ []).Nodup := by rw [List.append_nil]; exact g.keys_nodup
        exact ⟨[], first, entries, rfl, distinct, List.mem_append_left [] taken, rfl⟩
      · rintro ⟨before, e, after, split, distinct, -, rfl⟩
        cases before with
        | nil => rw [(List.cons.inj split).1]
        | cons other before =>
          obtain ⟨rfl, -⟩ := List.cons.inj split
          exact absurd rfl ((List.nodup_append.1 distinct).2.2 _ taken _ (List.mem_cons_self ..))
    · have keys : (g.insert first.name first.toRecord).keys = g.keys ++ [first.name] := by
        rw [OrderedMap.keys_insert, if_neg taken]
      have free : g.contains first.name = false := Bool.eq_false_iff.2 fun is => taken (OrderedMap.contains_iff.1 is)
      have further : installAll g (first :: entries) = installAll (g.insert first.name first.toRecord) entries := by
        rw [installAll, free]
        rfl
      rw [further, installAll_eq_error_iff]
      simp only [keys, List.append_assoc, List.singleton_append]
      constructor
      · rintro ⟨before, e, after, rfl, distinct, repeated, rfl⟩
        exact ⟨first :: before, e, after, rfl, distinct, repeated, rfl⟩
      · rintro ⟨before, e, after, split, distinct, repeated, rfl⟩
        cases before with
        | nil =>
          obtain ⟨rfl, -⟩ := List.cons.inj split
          exact absurd (by simpa using repeated) taken
        | cons other before =>
          obtain ⟨rfl, rfl⟩ := List.cons.inj split
          exact ⟨before, e, after, rfl, distinct, repeated, rfl⟩

theorem restore_eq_error_iff : s.restore = .error problem ↔
    ∃ before e after, s.services = before ++ e :: after ∧ (before.map (·.name)).Nodup ∧
      e.name ∈ before.map (·.name) ∧ problem = .duplicateService e.name := by
  have unresolved : s.restore = .error problem ↔ installAll .empty s.services = .error problem := by
    rw [restore]
    cases installAll .empty s.services <;> simp [Except.map]
  rw [unresolved, installAll_eq_error_iff]
  rfl

theorem exists_restore_iff : (∃ g, s.restore = .ok g) ↔ s.names.Nodup :=
  ⟨fun ⟨_, restored⟩ => (restore_eq_ok_iff.1 restored).1, exists_restore_of_nodup⟩

theorem services_capture (g : Graph) :
    (capture g).services = g.toList.map fun entry => ServiceEntry.ofSnapshot (entry.2.snapshot ⟨0⟩) := by
  rw [capture, Graph.snapshots, OrderedMap.values, List.map_map, List.map_map]
  rfl

/-- **Resolution does not change the snapshot of a graph.** -/
theorem capture_of_alike (alike : g.Alike h) : capture g = capture h := by
  have shown : (g.mapValues fun _ r => ServiceEntry.ofSnapshot (r.snapshot ⟨0⟩)) =
      h.mapValues fun _ r => ServiceEntry.ofSnapshot (r.snapshot ⟨0⟩) := by
    refine OrderedMap.ext_get? ?_ fun name => ?_
    · rw [OrderedMap.keys_mapValues, OrderedMap.keys_mapValues, alike.keys]
    · rw [OrderedMap.get?_mapValues, OrderedMap.get?_mapValues]
      cases found : g.get? name with
      | none => rw [OrderedMap.get?_eq_none_iff.2 (alike.keys ▸ OrderedMap.get?_eq_none_iff.1 found)]
      | some r =>
        obtain ⟨s, found', same⟩ := alike.exists_record found
        rw [found', Option.map_some, Option.map_some, ServiceEntry.ofSnapshot_of_alike same]
  have values : ∀ k : Graph, (capture k).services =
      (k.mapValues fun _ r => ServiceEntry.ofSnapshot (r.snapshot ⟨0⟩)).values := fun k => by
    rw [services_capture, OrderedMap.values, OrderedMap.mapValues, List.map_map]
    rfl
  have services : (capture g).services = (capture h).services := by rw [values, values, shown]
  exact congrArg RuntimeSnapshot.mk services

/-- **What comes back of a snapshot is its normal form.** -/
theorem capture_of_restore (restored : s.restore = .ok g) : capture g = s.normalised := by
  obtain ⟨-, h, entries, rfl⟩ := restore_eq_ok_iff.1 restored
  have services : (capture h).services = s.normalised.services := by
    rw [services_capture, entries, List.map_map]
    exact List.map_congr_left fun e _ => e.ofSnapshot_toRecord ⟨0⟩
  rw [← capture_of_alike (Graph.resolution_resolve h).alike]
  exact congrArg RuntimeSnapshot.mk services

/-- **A snapshot and its normal form are set up as one graph.** -/
theorem restore_normalised (restored : s.restore = .ok g) : s.normalised.restore = .ok g := by
  obtain ⟨distinct, h, entries, resolved⟩ := restore_eq_ok_iff.1 restored
  refine restore_eq_ok_iff.2 ⟨?_, h, ?_, resolved⟩
  · rw [names, normalised, List.map_map]
    exact distinct
  · rw [entries, normalised, List.map_map]
    exact List.map_congr_left fun e _ => Prod.ext rfl e.toRecord_normalised.symm

/-- **Restoration normalises, and capturing inverts it.**  For every snapshot:

- It is refused exactly if two entries have the same name, and then for the first entry whose name an earlier one has.
- Otherwise what is captured of the restored graph has the same entries in the same order, each with its name, mode and
  state, with each dependency where it was first listed, and with its failure if it failed and with none if not.
- This snapshot is restored to the very same graph, so it is captured of it again.
- It is the snapshot itself exactly if no entry lists a dependency twice, or has a failure without having failed. -/
theorem restore_normalises (s : RuntimeSnapshot) :
    ((∃ problem, s.restore = .error problem) ↔ ¬ s.names.Nodup) ∧
    (∀ problem, s.restore = .error problem ↔ ∃ before e after, s.services = before ++ e :: after ∧
      (before.map (·.name)).Nodup ∧ e.name ∈ before.map (·.name) ∧ problem = .duplicateService e.name) ∧
    ∀ g, s.restore = .ok g →
      (capture g).services = s.services.map (fun e =>
        { name := e.name, mode := e.mode, state := e.state
          failure := if e.state = .failed then e.failure else none
          dependencies := e.dependencies.eraseDups }) ∧
      (capture g).restore = .ok g ∧
      (capture g = s ↔ ∀ e ∈ s.services, e.dependencies.Nodup ∧ (e.state ≠ .failed → e.failure = none)) := by
  refine ⟨?_, fun problem => restore_eq_error_iff, fun g restored => ?_⟩
  · rw [← exists_restore_iff]
    cases s.restore <;> simp
  · have captured := capture_of_restore restored
    refine ⟨congrArg services captured, captured ▸ restore_normalised restored, ?_⟩
    rw [captured, normalised_eq_self_iff]
    exact forall₂_congr fun e _ => ⟨fun normal => ⟨normal.dependencies, normal.failure⟩, fun ⟨d, f⟩ => ⟨d, f⟩⟩

/-- A service that lists a dependency twice and tells of a failure without having failed, and one that depends on it. -/
def talkative : RuntimeSnapshot := ⟨[
  ⟨Graph.simpleName "app", .never, .up, some ⟨"old".toList, []⟩, [Graph.simpleName "db", Graph.simpleName "db"]⟩,
  ⟨Graph.simpleName "web", .passive, .down, none, [Graph.simpleName "app", Graph.simpleName "web"]⟩]⟩

theorem talkative_shortened : ∃ g, talkative.restore = .ok g ∧ capture g ≠ talkative ∧ (capture g).services =
    [⟨Graph.simpleName "app", .never, .up, none, [Graph.simpleName "db"]⟩,
      ⟨Graph.simpleName "web", .passive, .down, none, [Graph.simpleName "app", Graph.simpleName "web"]⟩] := by
  obtain ⟨g, restored⟩ := exists_restore_of_nodup (s := talkative) (by decide)
  obtain ⟨-, -, comes⟩ := restore_normalises talkative
  obtain ⟨entries, -, same⟩ := comes g restored
  refine ⟨g, restored, fun is => ?_, entries.trans (by decide)⟩
  have normal := same.1 is _ (List.mem_cons_self ..)
  exact absurd (normal.2 (by decide)) (by decide)

end RuntimeSnapshot
end ServiceStability
