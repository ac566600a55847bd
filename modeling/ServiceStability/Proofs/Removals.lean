import ServiceStability.Proofs.FailureNotes
import ServiceStability.Proofs.LiveSnapshots
/-!
# Proofs.Removals — services that are being removed

A removal writes the sub-state and the mode together.  The sub-state has no way back: until the service is gone, nothing
that moves it goes through.  The mode is written by whoever asks for it, also on a service that is being removed, so it
is `remove` only while no mode was set since.  In the graph itself this makes no difference, as the sub-state alone
keeps the service out of reach.  A snapshot puts the service down as down, and then only the mode tells.

- `Operation.modeSet?`: the modes that were set.
- `Graph.Leaving`: what is known of a service that is being removed; every step keeps it.
- `Graph.removal_kept_but_for_modes`: what its dependents find, in the graph and in its snapshot.
-/
namespace ServiceStability
namespace Operation

/-- The mode that an operation sets for a service. -/
def modeSet? (name : ServiceName) : Operation → Option Mode
  | .setMode other mode => if other = name then some mode else none
  | _ => none

theorem modeSet?_of_ne {operation : Operation} {name : ServiceName} (different : name ≠ operation.name) :
    operation.modeSet? name = none := by
  cases operation with
  | setMode other mode => exact if_neg different.symm
  | _ => rfl

theorem modeSet?_setMode (name : ServiceName) (mode : Mode) : (setMode name mode).modeSet? name = some mode :=
  if_pos rfl

/-- The last mode that was set for a service, if any was. -/
def lastMode? (name : ServiceName) (done : List Operation) : Option Mode := (done.filterMap (modeSet? name)).getLast?

theorem lastMode?_append_singleton (name : ServiceName) (done : List Operation) (operation : Operation) :
    lastMode? name (done ++ [operation]) = (operation.modeSet? name).or (lastMode? name done) := by
  rw [lastMode?, lastMode?, List.filterMap_append]
  cases set : operation.modeSet? name with
  | none => simp [set]
  | some mode => simp [set]

end Operation

namespace RestState

/-- What is set up is not on its way out. -/
theorem isLeaving_substate (state : RestState) : state.substate.isLeaving = false := by cases state <;> rfl

end RestState

namespace Graph

variable {g h k start : Graph} {operation : Operation} {done : List Operation} {name : ServiceName}
  {r s : ServiceRecord}

/-- **What is known of a service that is being removed**: when its removal began, that nothing has moved it since, and
where its mode is from. -/
def Leaving (done : List Operation) (name : ServiceName) (r : ServiceRecord) : Prop :=
  r.substate = .removing → ∃ after, Since (Operation.Moves name) (.remove name) done after ∧
    r.mode = (Operation.lastMode? name after).getD .remove

theorem Leaving.of_alike (leaving : Leaving done name r) (same : r.Alike s) : Leaving done name s := fun removing => by
  rw [← same.mode]
  exact leaving ((same.substate.eq_iff rfl).2 removing)

/-- A call on another service changes nothing here. -/
theorem Leaving.apart (leaving : Leaving done name r) (different : name ≠ operation.name) :
    Leaving (done ++ [operation]) name r := fun removing => by
  obtain ⟨after, since, mode⟩ := leaving removing
  refine ⟨_, since.later fun moves => different moves.name_eq.symm, ?_⟩
  rw [Operation.lastMode?_append_singleton, Operation.modeSet?_of_ne different, Option.none_or]
  exact mode

/-- **A mode can be set while the service is being removed**, and replaces the one that the removal wrote. -/
theorem Leaving.setMode (leaving : Leaving done name r) (mode : Mode) :
    Leaving (done ++ [.setMode name mode]) name { r with mode := mode } := fun removing => by
  obtain ⟨after, since, -⟩ := leaving removing
  refine ⟨_, since.later id, ?_⟩
  rw [Operation.lastMode?_append_singleton, Operation.modeSet?_setMode]
  rfl

theorem Change.leaving (change : g.Change operation k) (before : ∀ name r, g.get? name = some r → Leaving done name r)
    (found : k.get? name = some s) : Leaving (done ++ [operation]) name s := by
  by_cases own : name = operation.name
  · subst own
    cases change with
    | install | start | started | fail | retry | stop =>
      obtain rfl := eq_of_get?_insert found
      exact nofun
    | remove =>
      obtain rfl := eq_of_get?_insert found
      exact fun _ => ⟨[], since_self _ _ done, rfl⟩
    | removed =>
      have gone : none = some s := (OrderedMap.get?_erase_self ..).symm.trans found
      cases gone
    | setMode found' =>
      obtain rfl := eq_of_get?_insert found
      exact (before _ _ found').setMode _
  · have kept := (change.get?_of_ne own).symm.trans found
    exact (before name s kept).apart own

/-- No service of a new or restored runtime is being removed. -/
theorem substate_ne_removing_of_begins (begins : start = .empty ∨ ∃ s : RuntimeSnapshot, s.restore = .ok start)
    (found : start.get? name = some r) : r.substate ≠ .removing := by
  rcases begins with rfl | ⟨s, restored⟩
  · cases found
  · obtain ⟨-, h, entries, rfl⟩ := RuntimeSnapshot.restore_eq_ok_iff.1 restored
    obtain ⟨t, found', same⟩ := (resolution_resolve h).alike.symm.exists_record found
    have member := OrderedMap.get?_eq_some_iff.1 found'
    rw [entries, List.mem_map] at member
    obtain ⟨e, -, rfl, rfl⟩ := member
    have staying : r.substate.isLeaving = false := by
      rw [same.substate.isLeaving_eq]
      exact RestState.isLeaving_substate e.state
    intro removing
    rw [removing] at staying
    cases staying

/-- **What is out of reach in a graph that was set up again**: what is not installed, and what is not meant to run. -/
theorem isUnavailable_undecidedAgain (found : g.get? name = some r) :
    Graph.isUnavailable (g.mapValues fun _ r => undecidedAgain r) name = r.mode.isInert := by
  have staying : (undecidedAgain r).substate.isLeaving = false := RestState.isLeaving_substate _
  rw [isUnavailable, OrderedMap.get?_mapValues, found]
  simp only [Option.map_some, staying, Bool.or_false]
  rfl

/-- A dependent of a service, set up again from a snapshot. -/
theorem exists_dependent_of_restored {dependent : ServiceName} (found : g.get? dependent = some s)
    (edge : name ∈ s.dependencies) (installed : g.get? name = some r) :
    ∃ t, (resolve (g.mapValues fun _ r => undecidedAgain r)).get? dependent = some t ∧
      t.dependencies = s.dependencies ∧ (name ∈ t.unavailable ↔ r.mode.isInert = true) := by
  have resolution := resolution_resolve (g.mapValues fun _ r => undecidedAgain r)
  have before : OrderedMap.get? (g.mapValues fun _ r => undecidedAgain r) dependent = some (undecidedAgain s) := by
    rw [OrderedMap.get?_mapValues, found]
    rfl
  obtain ⟨t, found', same⟩ := resolution.alike.exists_record before
  have dependencies : t.dependencies = s.dependencies := same.dependencies.symm.trans (OrderedSet.ofList_toList _)
  refine ⟨t, found', dependencies, ?_⟩
  rw [resolution.unavailable found', dependencies, OrderedSet.mem_def, OrderedSet.toList_filter, List.mem_filter,
    isUnavailable_undecidedAgain installed]
  exact and_iff_right edge

/-- **A removal is kept, but for the mode.**  A runtime starts without services or from a snapshot, and calls follow.
If a service is being removed then, its removal is among the calls that went through, nothing has moved it since, and
its mode is the one that was set last since, or `remove` if none was.  Every service that depends on it cannot reach it;
when the runtime is put down and set up again, that is so exactly if the mode is one of those that never run. -/
theorem removal_kept_but_for_modes (begins : start = .empty ∨ ∃ s : RuntimeSnapshot, s.restore = .ok start)
    (calls : List Operation) (found : (calls.foldl attempt start).get? name = some r)
    (removing : r.substate = .removing) :
    (∃ after, Since (Operation.Moves name) (.remove name) (carriedOut start calls) after ∧
      r.mode = (Operation.lastMode? name after).getD .remove) ∧
    ∃ again, (RuntimeSnapshot.capture (calls.foldl attempt start)).restore = .ok again ∧
      ∀ dependent s, (calls.foldl attempt start).get? dependent = some s → name ∈ s.dependencies →
        name ∈ s.unavailable ∧ ∃ t, again.get? dependent = some t ∧ t.dependencies = s.dependencies ∧
          (name ∈ t.unavailable ↔ r.mode.isInert = true) := by
  have reachable : start.Reachable := by
    rcases begins with rfl | ⟨s, restored⟩
    · exact .new
    · exact .restore restored
  have settled := (reachable.foldl_attempt calls).settled
  have leaving : Leaving (carriedOut start calls) name r :=
    record_of_calls (fun _ _ present is => absurd is (substate_ne_removing_of_begins begins present))
      (fun before change _ _ present => change.leaving before present) (fun known same => known.of_alike same) calls
      name r found
  refine ⟨leaving removing, _, settled.named.restore_capture_eq, fun dependent s present edge => ⟨?_, ?_⟩⟩
  · have out : (calls.foldl attempt start).isUnavailable name = true :=
      isUnavailable_iff.2 fun t found' => by
        obtain rfl := Option.some.inj (found'.symm.trans found)
        exact Or.inr (Or.inr (Or.inl removing))
    exact (settled.mem_unavailable_iff present).2 ⟨edge, out⟩
  · exact exists_dependent_of_restored present edge found

/-- A service is being removed, and a mode is set for the one that depends on it. -/
def withdrawal : List Operation :=
  [.install (simpleName "db") .active .empty, .install (simpleName "app") .active (.ofList [simpleName "db"]),
    .remove (simpleName "db"), .setMode (simpleName "app") .passive]

/-- The same, with a mode set for the service that is being removed. -/
def revival : List Operation :=
  [.install (simpleName "db") .active .empty, .install (simpleName "app") .active (.ofList [simpleName "db"]),
    .remove (simpleName "db"), .setMode (simpleName "db") .active]

theorem withdrawal_kept : Graph.empty = .empty ∧
    ∃ r, (withdrawal.foldl attempt .empty).get? (simpleName "db") = some r ∧ r.substate = .removing ∧
      r.mode = .remove ∧
      ∃ again, (RuntimeSnapshot.capture (withdrawal.foldl attempt .empty)).restore = .ok again ∧
        ∃ t, again.get? (simpleName "app") = some t ∧ simpleName "db" ∈ t.unavailable := by
  let db : ServiceRecord := ⟨simpleName "db", .remove, .removing, .empty, .empty, none⟩
  let app : ServiceRecord :=
    ⟨simpleName "app", .passive, .problem, .ofList [simpleName "db"], .ofList [simpleName "db"], none⟩
  have found : (withdrawal.foldl attempt .empty).get? (simpleName "db") = some db := by cbv
  have found' : (withdrawal.foldl attempt .empty).get? (simpleName "app") = some app := by cbv
  obtain ⟨-, again, restored, dependents⟩ := removal_kept_but_for_modes (Or.inl rfl) withdrawal found rfl
  obtain ⟨-, t, present, -, missing⟩ := dependents (simpleName "app") app found' (by decide)
  exact ⟨rfl, db, found, rfl, rfl, again, restored, t, present, missing.2 rfl⟩

/-- **A removal can be taken back**: a service is being removed with a mode that runs, and in the runtime that is set up
from the snapshot its dependent reaches it. -/
theorem removal_revived :
    (∃ r, (revival.foldl attempt .empty).get? (simpleName "db") = some r ∧ r.substate = .removing ∧
      r.mode ≠ .remove) ∧
    ∃ again, (RuntimeSnapshot.capture (revival.foldl attempt .empty)).restore = .ok again ∧
      ∃ t, again.get? (simpleName "app") = some t ∧ simpleName "db" ∈ t.dependencies ∧
        simpleName "db" ∉ t.unavailable := by
  let db : ServiceRecord := ⟨simpleName "db", .active, .removing, .empty, .empty, none⟩
  let again : Graph := .ofList
    [(simpleName "db", ⟨simpleName "db", .active, .down, .empty, .empty, none⟩),
      (simpleName "app", ⟨simpleName "app", .active, .down, .ofList [simpleName "db"], .empty, none⟩)]
  have found : (revival.foldl attempt .empty).get? (simpleName "db") = some db := by cbv
  have restored : (RuntimeSnapshot.capture (revival.foldl attempt .empty)).restore = .ok again := by cbv
  exact ⟨⟨db, found, rfl, by decide⟩, again, restored, _, rfl, by decide, by decide⟩

end Graph
end ServiceStability
