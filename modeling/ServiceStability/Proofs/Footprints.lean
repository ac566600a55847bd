import ServiceStability.Proofs.Influence
import ServiceStability.Proofs.Transitions
/-!
# Proofs.Footprints — what an operation leaves as it was

An operation writes one record, brings one in or drops one, and resolution goes over the whole graph behind it.  So
services that the operation does not name are written to, any number of them.  But all that changes of what a service is
by itself is whether a dormant one is down or blocked: its mode, its dependencies and its start failure stay, and so
does any other sub-state.  The service that the operation does name comes to stand where it was moved to, unless that is
for resolution to decide.

- `ServiceRecord.Spared`: what stays of a service that an operation does not name.
- `Graph.Footprint`: what an operation leaves, and where its own service comes to stand.
- `Graph.operation_footprint`: every operation that goes through leaves that.
- `Graph.spared_by_calls`: so does any number of calls for the services that none of them names.
-/
namespace ServiceStability
namespace Substate

variable {a b c : Substate}

/-- Down or blocked: what resolution decides between. -/
def IsDecided (s : Substate) : Prop := s = .down ∨ s = .problem

/-- **A sub-state that stays as it is**, or is down or blocked before and after. -/
def Keeps (before after : Substate) : Prop := after = before ∨ before.IsDecided ∧ after.IsDecided

theorem isDecided_of_isDormant (dormant : a.isDormant = true) (resolved : a ≠ .new) : a.IsDecided :=
  (isDormant_iff.1 dormant).resolve_left resolved

theorem Alike.keeps (same : a.Alike b) (resolved : a ≠ .new) (resolved' : b ≠ .new) : a.Keeps b := by
  rcases same with equal | ⟨dormant, dormant'⟩
  · exact Or.inl equal.symm
  · exact Or.inr ⟨isDecided_of_isDormant dormant resolved, isDecided_of_isDormant dormant' resolved'⟩

theorem Keeps.trans (first : a.Keeps b) (second : b.Keeps c) : a.Keeps c := by
  rcases first with rfl | ⟨decided, decided'⟩
  · exact second
  · rcases second with rfl | ⟨-, decided''⟩
    · exact Or.inr ⟨decided, decided'⟩
    · exact Or.inr ⟨decided, decided''⟩

/-- **The sub-states that only an operation brings a service to.** -/
def broughtByCall : List Substate := [.starting, .up, .startFailed, .removing]

theorem isDormant_of_mem_broughtByCall (member : a ∈ broughtByCall) : a.isDormant = false := by
  have awake : ∀ b ∈ broughtByCall, b.isDormant = false := by decide
  exact awake a member

end Substate

namespace ServiceRecord

variable {r s t : ServiceRecord}

/-- **What stays of a service that an operation does not name.** -/
structure Spared (r s : ServiceRecord) : Prop where
  name : s.name = r.name
  mode : s.mode = r.mode
  dependencies : s.dependencies = r.dependencies
  startFailure : s.startFailure = r.startFailure
  substate : r.substate.Keeps s.substate

theorem Spared.refl (r : ServiceRecord) : r.Spared r := ⟨rfl, rfl, rfl, rfl, Or.inl rfl⟩

theorem Spared.trans (first : r.Spared s) (second : s.Spared t) : r.Spared t where
  name := second.name.trans first.name
  mode := second.mode.trans first.mode
  dependencies := second.dependencies.trans first.dependencies
  startFailure := second.startFailure.trans first.startFailure
  substate := first.substate.trans second.substate

theorem Alike.spared (same : r.Alike s) (resolved : r.substate ≠ .new) (resolved' : s.substate ≠ .new) :
    r.Spared s where
  name := same.name.symm
  mode := same.mode.symm
  dependencies := same.dependencies.symm
  startFailure := same.startFailure.symm
  substate := same.substate.keeps resolved resolved'

end ServiceRecord

namespace Operation

/-- **The names behind an operation**: a new one is the last, and a removed one is gone. -/
def namesAfter (names : List ServiceName) : Operation → List ServiceName
  | .install name _ _ => names ++ [name]
  | .removed name => names.filter fun other => other != name
  | _ => names

theorem filter_namesAfter (names : List ServiceName) (operation : Operation) :
    (operation.namesAfter names).filter (fun other => other != operation.name) =
      names.filter fun other => other != operation.name := by
  cases operation with
  | install name mode dependencies =>
    rw [namesAfter, List.filter_append, Operation.name, List.filter_cons_of_neg (by simp), List.filter_nil,
      List.append_nil]
  | removed name =>
    rw [namesAfter, Operation.name, List.filter_filter]
    simp only [Bool.and_self]
  | _ => rfl

/-- The sub-state that an operation itself leaves its service in, which had one if it was installed. -/
def written (current : Option Substate) (operation : Operation) : Substate :=
  operation.target?.getD (current.getD .new)

variable {operation : Operation} {current : Option Substate} {goal : Substate}

theorem written_eq_iff (moves : ∀ mode, operation ≠ .setMode operation.name mode)
    (absent : operation.IsInstall → current = none) (awake : goal.isDormant = false) :
    operation.written current = goal ↔ operation.target? = some goal := by
  cases operation with
  | install name mode dependencies =>
    rw [written, absent ⟨name, mode, dependencies, rfl⟩]
    refine iff_of_false ?_ nofun
    rintro rfl
    cases awake
  | setMode name mode => exact absurd rfl (moves mode)
  | start | started | fail | retry | stop | remove | removed =>
    simp only [written, target?, Option.getD_some, Option.some.injEq]

theorem isDormant_written (dormant : operation.IsInstall ∨ operation = .retry operation.name ∨
    operation = .stop operation.name) (absent : operation.IsInstall → current = none) :
    (operation.written current).isDormant = true := by
  rcases dormant with install | retry | stop
  · obtain ⟨name, mode, dependencies, rfl⟩ := install
    rw [absent ⟨name, mode, dependencies, rfl⟩]
    rfl
  · rw [retry]
    rfl
  · rw [stop]
    rfl

theorem ne_removed_of_dormant (dormant : operation.IsInstall ∨ operation = .retry operation.name ∨
    operation = .stop operation.name) : operation ≠ .removed operation.name := by
  rintro removed
  rw [removed] at dormant
  rcases dormant with ⟨name, mode, dependencies, same⟩ | same | same <;> cases same

end Operation

namespace Graph

variable {g h k : Graph} {operation : Operation} {name other : ServiceName} {r s : ServiceRecord}

/-- **What an operation leaves, and where its own service comes to stand.** -/
structure Footprint (g : Graph) (operation : Operation) (h : Graph) : Prop where
  names : h.keys = operation.namesAfter g.keys
  order : h.keys.filter (fun other => other != operation.name) = g.keys.filter fun other => other != operation.name
  others : ∀ other r, other ≠ operation.name → g.get? other = some r →
    ∃ s, h.get? other = some s ∧ r.Spared s
  installed : operation.name ∈ h.keys ↔ operation ≠ .removed operation.name
  /-- An operation that is there to move its service brings it to where it leads, and to no other such place. -/
  moved : (∀ mode, operation ≠ .setMode operation.name mode) → ∀ s, h.get? operation.name = some s →
    ∀ goal ∈ Substate.broughtByCall, s.substate = goal ↔ operation.target? = some goal
  dormant : operation.IsInstall ∨ operation = .retry operation.name ∨ operation = .stop operation.name →
    ∃ s, h.get? operation.name = some s ∧ s.substate.IsDecided
  /-- A change of the mode moves its service no more than those that it does not name. -/
  unmoved : ∀ mode, operation = .setMode operation.name mode → ∃ r s, g.get? operation.name = some r ∧
    h.get? operation.name = some s ∧ r.substate.Keeps s.substate

theorem keys_insert_of_get? (found : g.get? name = some r) (s : ServiceRecord) :
    (g.insert name s).keys = g.keys := by
  rw [OrderedMap.keys_insert, if_pos (mem_keys_of_get? found)]

/-- **An operation brings in its own name, drops it, or leaves the names alone.** -/
theorem Change.keys_eq (change : g.Change operation k) : k.keys = operation.namesAfter g.keys := by
  cases change with
  | install fresh => rw [OrderedMap.keys_insert, if_neg fresh, Operation.namesAfter]
  | removed found => rw [OrderedMap.keys_erase, keys_insert_of_get? found, Operation.namesAfter]
  | start found | started found | fail found | retry found | stop found | remove found | setMode found =>
    exact keys_insert_of_get? found _

theorem Change.name_mem_keys_iff (change : g.Change operation k) :
    operation.name ∈ k.keys ↔ operation ≠ .removed operation.name := by
  cases change with
  | removed found => simp [OrderedMap.keys_erase, Operation.name]
  | install | start | started | fail | retry | stop | remove | setMode =>
    exact iff_of_true (mem_keys_of_get? (OrderedMap.get?_insert_self ..)) fun is => by cases is

theorem Change.absent (change : g.Change operation k) (install : operation.IsInstall) :
    g.substate? operation.name = none := by
  obtain ⟨name, mode, dependencies, rfl⟩ := install
  cases change with
  | install fresh => rw [substate?, Operation.name, OrderedMap.get?_eq_none_iff.2 fresh, Option.map_none]

theorem Change.exists_record_of_setMode {mode : Mode} (change : g.Change operation k)
    (is : operation = .setMode operation.name mode) : ∃ r, g.get? operation.name = some r := by
  cases change with
  | setMode found => exact ⟨_, found⟩
  | _ => cases is

theorem substate?_insert_self (g : Graph) (name : ServiceName) (s : ServiceRecord) :
    Graph.substate? (g.insert name s) name = some s.substate := by
  rw [substate?, OrderedMap.get?_insert_self, Option.map_some]

/-- **What an operation writes to its own service** is where it leads, or else what was there before. -/
theorem Change.substate?_own (change : g.Change operation k) (stays : operation ≠ .removed operation.name) :
    k.substate? operation.name = some (operation.written (g.substate? operation.name)) := by
  cases change with
  | @install name mode dependencies fresh =>
    have absent : g.substate? name = none := by rw [substate?, OrderedMap.get?_eq_none_iff.2 fresh, Option.map_none]
    rw [Operation.name, substate?_insert_self, absent]
    rfl
  | @setMode name mode r found =>
    have current : g.substate? name = some r.substate := by rw [substate?, found, Option.map_some]
    rw [Operation.name, substate?_insert_self, current]
    rfl
  | removed => exact absurd rfl stays
  | start | started | fail | retry | stop | remove => exact substate?_insert_self ..

/-- What resolution leaves of a service that an operation has written to. -/
theorem Change.exists_own (change : g.Change operation k) (stays : operation ≠ .removed operation.name) :
    ∃ s, k.resolve.get? operation.name = some s ∧
      (operation.written (g.substate? operation.name)).Alike s.substate := by
  obtain ⟨r, found, written⟩ := substate?_eq_some_iff.1 (change.substate?_own stays)
  obtain ⟨s, found', same⟩ := (resolution_resolve k).alike.exists_record found
  exact ⟨s, found', written ▸ same.substate⟩

/-- **An operation spares every service that it does not name.** -/
theorem Settled.exists_spared (settled : g.Settled) (applied : g.apply operation = .ok h)
    (different : other ≠ operation.name) (found : g.get? other = some r) :
    ∃ s, h.get? other = some s ∧ r.Spared s := by
  have settled' := settled_of_apply settled applied
  obtain ⟨k, change, rfl⟩ := apply_eq_ok_iff.1 applied
  obtain ⟨s, found', same⟩ :=
    (resolution_resolve k).alike.exists_record ((change.get?_of_ne different).trans found)
  exact ⟨s, found', same.spared (settled.substate_ne_new found) (settled'.substate_ne_new found')⟩

/-- **Whatever is called, a service that no call names is spared.**  This is so whether the calls go through or are
refused. -/
theorem spared_by_calls (reachable : g.Reachable) (calls : List Operation) (found : g.get? other = some r)
    (unnamed : ∀ operation ∈ calls, other ≠ operation.name) :
    ∃ s, (calls.foldl attempt g).get? other = some s ∧ r.Spared s := by
  induction calls generalizing g r with
  | nil => exact ⟨r, found, .refl r⟩
  | cons operation calls ih =>
    have later : ∀ operation ∈ calls, other ≠ operation.name := fun operation member =>
      unnamed operation (List.mem_cons_of_mem _ member)
    have once : ∃ s, (g.attempt operation).get? other = some s ∧ r.Spared s := by
      unfold Graph.attempt
      split
      · rename_i applied
        exact reachable.settled.exists_spared applied (unnamed operation (List.mem_cons_self ..)) found
      · exact ⟨r, found, .refl r⟩
    obtain ⟨s, found', spared⟩ := once
    obtain ⟨t, found'', further⟩ := ih (reachable.attempt operation) found' later
    exact ⟨t, found'', spared.trans further⟩

/-- **Every operation that goes through keeps to its footprint.**  Take any reachable graph.  The names change only by
the one that is installed, which comes last, or removed, and the others keep their order.  A service that the operation
does not name keeps its mode, its dependencies, its start failure and its sub-state, unless it is down or blocked before
and after.  The service of the operation is starting, up, failed or being removed exactly if the operation leads there;
it is down or blocked behind an installation, a retry and a stop; and a change of its mode leaves its sub-state, unless
it is down or blocked before and after. -/
theorem operation_footprint (reachable : g.Reachable) (applied : g.apply operation = .ok h) :
    g.Footprint operation h := by
  have settled := reachable.settled
  have settled' := settled_of_apply settled applied
  have others := fun other r (different : other ≠ operation.name) (found : g.get? other = some r) =>
    settled.exists_spared applied different found
  obtain ⟨k, change, rfl⟩ := apply_eq_ok_iff.1 applied
  have alike := (resolution_resolve k).alike
  have names : k.resolve.keys = operation.namesAfter g.keys := alike.keys.symm.trans change.keys_eq
  have installed : operation.name ∈ k.resolve.keys ↔ operation ≠ .removed operation.name := by
    rw [← alike.keys, change.name_mem_keys_iff]
  refine ⟨names, ?_, others, installed, fun moves s found goal member => ?_, fun kind => ?_, fun mode is => ?_⟩
  · rw [names, operation.filter_namesAfter]
  · obtain ⟨t, found', same⟩ := change.exists_own (installed.1 (mem_keys_of_get? found))
    obtain rfl : t = s := Option.some.inj (found'.symm.trans found)
    have awake := Substate.isDormant_of_mem_broughtByCall member
    rw [← same.eq_iff awake, Operation.written_eq_iff moves change.absent awake]
  · obtain ⟨s, found, same⟩ := change.exists_own (Operation.ne_removed_of_dormant kind)
    have dormant : s.substate.isDormant = true :=
      same.isDormant_eq ▸ Operation.isDormant_written kind change.absent
    exact ⟨s, found, Substate.isDecided_of_isDormant dormant (settled'.substate_ne_new found)⟩
  · obtain ⟨r, found⟩ := change.exists_record_of_setMode is
    obtain ⟨s, found', same⟩ := change.exists_own (by rw [is]; exact nofun)
    have kept : operation.written (g.substate? operation.name) = r.substate := by
      rw [substate?, found, is]
      rfl
    rw [kept] at same
    exact ⟨r, s, found, found', same.keeps (settled.substate_ne_new found) (settled'.substate_ne_new found')⟩

/-- The retry of one service of a cycle frees the other, and changes nothing else of it. -/
theorem retry_frees_deadlock : deadlocked.Reachable ∧ ∃ h,
    deadlocked.apply (.retry (simpleName "db")) = .ok h ∧ h.keys = [simpleName "app", simpleName "db"] ∧
      deadlocked.substate? (simpleName "app") = some .problem ∧ h.substate? (simpleName "app") = some .down ∧
      (∃ r s, deadlocked.get? (simpleName "app") = some r ∧ h.get? (simpleName "app") = some s ∧ r.Spared s) ∧
      ∃ s, h.get? (simpleName "db") = some s ∧ s.substate.IsDecided := by
  have carried : ∃ h, deadlocked.apply (.retry (simpleName "db")) = .ok h ∧
      h.substate? (simpleName "app") = some .down := ⟨_, rfl, by cbv⟩
  obtain ⟨h, applied, freed⟩ := carried
  have footprint := operation_footprint reachable_deadlocked applied
  obtain ⟨s, found, spared⟩ := footprint.others (simpleName "app") _ (by decide) rfl
  exact ⟨reachable_deadlocked, h, applied, footprint.names, rfl, freed, ⟨_, s, rfl, found, spared⟩,
    footprint.dormant (Or.inr (Or.inl rfl))⟩

end Graph
end ServiceStability
