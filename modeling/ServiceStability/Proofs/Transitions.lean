import ServiceStability.Proofs.BlockingChains
import ServiceStability.Proofs.Reachability
import ServiceStability.Proofs.Refusals
/-!
# Proofs.Transitions — from which sub-states an operation goes through

Every operation that moves a service is meant for certain sub-states.  What is checked is the target alone: whether the
table of moves leads there from where the service is.  `retry` and `stop` have the same target, and the table has the
moves of resolution in it besides, so either of the two goes through where only the other is meant, and both do on a
blocked service.  Nothing else goes through where it is not meant.

- `Operation.sources`: what an operation is meant for.
- `Operation.Strays`: where it goes through besides.
- `Graph.goes_through_iff`: these are all.
-/
namespace ServiceStability
namespace Operation

variable {operation : Operation} {current target : Substate}

/-- **The sub-states that an operation is meant for.** -/
def sources : Operation → List Substate
  | .install _ _ _ => []
  | .start _ => [.down]
  | .started _ | .fail _ _ => [.starting]
  | .retry _ => [.startFailed]
  | .stop _ => [.up]
  | .remove _ => [.down, .problem, .startFailed, .up]
  | .removed _ => [.removing]
  | .setMode _ _ => Substate.all

/-- A retry of a service whose start has not failed, or a stop of one that is not up, that goes through all the same. -/
def Strays (operation : Operation) (current : Substate) : Prop :=
  (∃ name, operation = .retry name) ∧ (current = .problem ∨ current = .up) ∨
    (∃ name, operation = .stop name) ∧ (current = .problem ∨ current = .startFailed)

/-- The table of moves, read by operations.  A service is `new` only until it is resolved. -/
theorem mem_successors_iff (moves : operation.target? = some target) (resolved : current ≠ .new) :
    target ∈ current.successors ↔ current ∈ operation.sources ∨ operation.Strays current := by
  cases operation with
  | install name mode dependencies | setMode name mode => cases moves
  | _ => cases moves; cases current <;> simp_all [sources, Strays, Substate.successors]

theorem Strays.moves_down (strays : operation.Strays current) :
    operation.target? = some .down ∧ current ∉ operation.sources ∧ ∀ name, operation ≠ .start name := by
  rcases strays with ⟨⟨name, rfl⟩, rfl | rfl⟩ | ⟨⟨name, rfl⟩, rfl | rfl⟩ <;> simp [target?, sources]

end Operation

namespace Graph

variable {g h : Graph} {operation : Operation} {name : ServiceName} {r : ServiceRecord} {target : Substate}

theorem alike_insert (found : g.get? name = some r) {s : ServiceRecord} (same : s.Alike r) :
    Graph.Alike (g.insert name s) g where
  keys := by rw [OrderedMap.keys_insert, if_pos (mem_keys_of_get? found)]
  record := fun {other t u} foundT foundU => by
    rw [OrderedMap.get?_insert] at foundT
    split at foundT
    · rename_i is
      cases foundT
      rw [is, found] at foundU
      cases foundU
      exact same
    · rw [foundT] at foundU
      cases foundU
      exact .refl _

theorem exists_record_resolve (found : g.get? name = some r) (dormant : r.substate.isDormant = true) :
    ∃ s, g.resolve.get? name = some s ∧ (s.substate = .down ∨ s.substate = .problem) := by
  have resolution := resolution_resolve g
  obtain ⟨s, found', same⟩ := resolution.alike.exists_record found
  refine ⟨s, found', ?_⟩
  rcases resolution.decided name s found' (same.substate.isDormant_eq ▸ dormant) with ⟨problem, -⟩ | ⟨down, -⟩
  · exact Or.inr problem
  · exact Or.inl down

theorem exists_change_iff (moves : operation.target? = some target) (found : g.get? operation.name = some r) :
    (∃ h, g.Change operation h) ↔
      target ∈ r.substate.successors ∧ ∀ name, operation = .start name → g.pending r = [] := by
  constructor
  · rintro ⟨h, change⟩
    cases change with
    | install fresh | setMode found' => cases moves
    | start found' allowed ready =>
      cases moves
      obtain rfl := Option.some.inj (found'.symm.trans found)
      exact ⟨allowed, fun _ _ => ready⟩
    | started found' allowed | fail found' allowed | retry found' allowed | stop found' allowed | remove found' allowed
    | removed found' allowed =>
      cases moves
      obtain rfl := Option.some.inj (found'.symm.trans found)
      exact ⟨allowed, fun _ same => nomatch same⟩
  · rintro ⟨allowed, ready⟩
    rcases change_or_refusal g operation with change | ⟨problem, refusal⟩
    · exact change
    cases refusal with
    | duplicate present => cases moves
    | unknown later absent => exact absurd (mem_keys_of_get? found) absent
    | illegal moves' found' forbidden =>
      obtain rfl := Option.some.inj (moves'.symm.trans moves)
      obtain rfl := Option.some.inj (found'.symm.trans found)
      exact absurd allowed forbidden
    | waiting found' allowed' waits ordered exact =>
      obtain rfl := Option.some.inj (found'.symm.trans found)
      exact absurd ((eq_pending ordered exact).trans (ready _ rfl)) waits

/-- **Where each operation goes through.**  On an installed service of a reachable graph an operation that moves it goes
through from the sub-states that it is meant for, if nothing is pending for a start, and besides only where it strays;
from any other the move is refused as illegal.  A straying one sets the service down; a stop that strays on a blocked
service changes nothing at all. -/
theorem goes_through_iff (reachable : g.Reachable) (moves : operation.target? = some target)
    (found : g.get? operation.name = some r) :
    ((∃ h, g.apply operation = .ok h) ↔ (r.substate ∈ operation.sources ∨ operation.Strays r.substate) ∧
      ∀ name, operation = .start name → g.pending r = []) ∧
    (r.substate ∉ operation.sources → ¬ operation.Strays r.substate →
      g.apply operation = .error (.illegalTransition operation.name r.substate target)) ∧
    (operation.Strays r.substate → ∃ h s, g.apply operation = .ok h ∧ h.get? operation.name = some s ∧
      (s.substate = .down ∨ s.substate = .problem)) ∧
    (operation = .stop operation.name → r.substate = .problem → g.apply operation = .ok g) := by
  have settled := reachable.settled
  have allowed_iff := Operation.mem_successors_iff moves (settled.substate_ne_new found)
  have carried_out : (∃ h, g.apply operation = .ok h) ↔ ∃ h, g.Change operation h := by
    simp only [apply_eq_ok_iff]
    exact ⟨fun ⟨_, changed, change, _⟩ => ⟨changed, change⟩, fun ⟨changed, change⟩ => ⟨_, changed, change, rfl⟩⟩
  refine ⟨?_, fun unmeant regular => ?_, fun strays => ?_, fun stop problem => ?_⟩
  · rw [carried_out, exists_change_iff moves found, allowed_iff]
  · exact apply_eq_error_iff.2 (.illegal moves found fun allowed => (allowed_iff.1 allowed).elim unmeant regular)
  · obtain ⟨down, -, later⟩ := strays.moves_down
    obtain rfl : target = .down := Option.some.inj (moves.symm.trans down)
    obtain ⟨changed, change⟩ := (exists_change_iff moves found).2
      ⟨allowed_iff.2 (Or.inr strays), fun name same => absurd same (later name)⟩
    have written : ∃ s, changed.get? operation.name = some s ∧ s.substate = .down := by
      cases change with
      | retry | stop => exact ⟨_, OrderedMap.get?_insert_self .., rfl⟩
      | _ => cases moves
    obtain ⟨s, found', is⟩ := written
    obtain ⟨t, found'', resolved⟩ := exists_record_resolve found' (by rw [is]; rfl)
    exact ⟨_, t, apply_eq_ok_iff.2 ⟨changed, change, rfl⟩, found'', resolved⟩
  · rw [stop]
    refine apply_eq_ok_iff.2 ⟨_, .stop found (by rw [problem]; decide), ?_⟩
    have same : ServiceRecord.Alike { r with substate := .down } r :=
      ⟨rfl, rfl, rfl, rfl, Or.inr ⟨rfl, by rw [problem]; rfl⟩⟩
    rw [(alike_insert found same).resolve_eq, settled.resolve_eq]

/-- A service that is up, and one whose start has failed. -/
def mixed : Graph := .ofList
  [(simpleName "db", ⟨simpleName "db", .active, .up, .empty, .empty, none⟩),
    (simpleName "cache", ⟨simpleName "cache", .active, .startFailed, .empty, .empty, some ⟨[], []⟩⟩)]

theorem reachable_mixed : mixed.Reachable :=
  .restore
    (s := ⟨[⟨simpleName "db", .active, .up, none, []⟩, ⟨simpleName "cache", .active, .failed, some ⟨[], []⟩, []⟩]⟩)
    (by cbv)

theorem stop_strays_on_failed : mixed.Reachable ∧ (Operation.stop (simpleName "cache")).Strays .startFailed ∧
    ∃ h s, mixed.apply (.stop (simpleName "cache")) = .ok h ∧ h.get? (simpleName "cache") = some s ∧
      (s.substate = .down ∨ s.substate = .problem) := by
  have strays : (Operation.stop (simpleName "cache")).Strays .startFailed := Or.inr ⟨⟨_, rfl⟩, Or.inr rfl⟩
  have moves : (Operation.stop (simpleName "cache")).target? = some .down := rfl
  have found : mixed.get? (simpleName "cache") =
      some ⟨simpleName "cache", .active, .startFailed, .empty, .empty, some ⟨[], []⟩⟩ := rfl
  exact ⟨reachable_mixed, strays, (goes_through_iff reachable_mixed moves found).2.2.1 strays⟩

/-- **Not every operation keeps to the sub-states that it is meant for**: here a retry goes through on a service that is
up, and a stop on one whose start has failed. -/
theorem sources_not_kept : mixed.Reachable ∧
    mixed.substate? (simpleName "db") = some .up ∧ .up ∉ (Operation.retry (simpleName "db")).sources ∧
    (∃ h, mixed.apply (.retry (simpleName "db")) = .ok h) ∧
    mixed.substate? (simpleName "cache") = some .startFailed ∧
    .startFailed ∉ (Operation.stop (simpleName "cache")).sources ∧
    ∃ h, mixed.apply (.stop (simpleName "cache")) = .ok h :=
  ⟨reachable_mixed, rfl, by decide, ⟨_, rfl⟩, rfl, by decide, ⟨_, rfl⟩⟩

end Graph
end ServiceStability
