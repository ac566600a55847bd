import Mathlib.Data.List.Perm.Subperm
import ServiceStability.Graph.Call
import ServiceStability.Proofs.Changes
/-!
# Proofs.Refusals — which operations are refused, and what a refused one leaves

`Graph.Change` lists what an operation needs; `Graph.Refusal` lists what it is refused for, the first reason in order.
Every operation on every graph has exactly one of the two.  A call writes to the graph before its last check only where
no check can fail any more, so a refused call leaves the graph that it found.

- `Graph.change_or_refusal`: carried out or refused.
- `Graph.apply_eq_error_iff`: for which reason.
- `Graph.call_of_refusal`: what a refused call leaves.
-/
namespace ServiceStability

/-- The sub-state that an operation moves a service to, if it is there to move one. -/
def Operation.target? : Operation → Option Substate
  | .install _ _ _ | .setMode _ _ => none
  | .start _ => some .starting
  | .started _ => some .up
  | .fail _ _ => some .startFailed
  | .retry _ | .stop _ => some .down
  | .remove _ => some .removing
  | .removed _ => some .removed

def Operation.IsInstall (operation : Operation) : Prop :=
  ∃ name mode dependencies, operation = .install name mode dependencies

namespace Graph

variable {g h : Graph} {operation : Operation} {problem : OperationError} {name dependency : ServiceName}
  {r : ServiceRecord} {target : Substate}

/-- A dependency that is not up, be it that it is not installed. -/
def NotUp (g : Graph) (dependency : ServiceName) : Prop := ∀ r, g.get? dependency = some r → r.substate ≠ .up

/-- **What an operation is refused for.**  The reasons exclude each other. -/
inductive Refusal (g : Graph) : Operation → OperationError → Prop where
  | duplicate {name : ServiceName} {mode : Mode} {dependencies : OrderedSet ServiceName} (present : name ∈ g.keys) :
      Refusal g (.install name mode dependencies) (.duplicateService name)
  | unknown {operation : Operation} (later : ¬ operation.IsInstall) (absent : operation.name ∉ g.keys) :
      Refusal g operation (.unknownService operation.name)
  | illegal {operation : Operation} {r : ServiceRecord} {target : Substate} (moves : operation.target? = some target)
      (found : g.get? operation.name = some r) (forbidden : target ∉ r.substate.successors) :
      Refusal g operation (.illegalTransition operation.name r.substate target)
  | waiting {name : ServiceName} {r : ServiceRecord} {pending : List ServiceName} (found : g.get? name = some r)
      (allowed : .starting ∈ r.substate.successors) (waits : pending ≠ [])
      (ordered : pending.Sublist r.dependencies.toList)
      (exact : ∀ dependency, dependency ∈ pending ↔ dependency ∈ r.dependencies ∧ g.NotUp dependency) :
      Refusal g (.start name) (.dependenciesNotSatisfied name pending)

theorem substate?_ne_up_iff : (g.substate? dependency != some .up) = true ↔ g.NotUp dependency := by
  unfold substate? NotUp
  cases g.get? dependency <;> simp

theorem mem_pending_iff : dependency ∈ g.pending r ↔ dependency ∈ r.dependencies ∧ g.NotUp dependency := by
  rw [pending, List.mem_filter, substate?_ne_up_iff, OrderedSet.mem_def]

theorem refusal_of_pending (found : g.get? name = some r) (allowed : .starting ∈ r.substate.successors)
    (waits : g.pending r ≠ []) : g.Refusal (.start name) (.dependenciesNotSatisfied name (g.pending r)) :=
  .waiting found allowed waits List.filter_sublist fun _ => mem_pending_iff

/-- The dependencies that are not up, in their order, can be listed in one way only, as none of them is listed twice. -/
theorem eq_pending {pending : List ServiceName} (ordered : pending.Sublist r.dependencies.toList)
    (exact : ∀ dependency, dependency ∈ pending ↔ dependency ∈ r.dependencies ∧ g.NotUp dependency) :
    pending = g.pending r := by
  have distinct := r.dependencies.nodup
  have part : (g.pending r).Sublist r.dependencies.toList := List.filter_sublist
  have perm : pending.Perm (g.pending r) :=
    (List.perm_ext_iff_of_nodup (ordered.nodup distinct) (part.nodup distinct)).2 fun dependency => by
      rw [exact, mem_pending_iff]
  exact (distinct.perm_iff_eq_of_sublist ordered part).1 perm

theorem change_or_refusal (g : Graph) (operation : Operation) :
    (∃ h, g.Change operation h) ∨ ∃ problem, g.Refusal operation problem := by
  by_cases present : operation.name ∈ g.keys
  · obtain ⟨r, found⟩ := exists_get?_of_mem_keys present
    have move : ∀ {target}, operation.target? = some target →
        (target ∈ r.substate.successors → ∃ h, g.Change operation h) →
        (∃ h, g.Change operation h) ∨ ∃ problem, g.Refusal operation problem := fun {target} moves change => by
      by_cases allowed : target ∈ r.substate.successors
      · exact Or.inl (change allowed)
      · exact Or.inr ⟨_, .illegal moves found allowed⟩
    cases operation with
    | install name mode dependencies => exact Or.inr ⟨_, .duplicate present⟩
    | start name =>
      by_cases allowed : .starting ∈ r.substate.successors
      · by_cases ready : g.pending r = []
        · exact Or.inl ⟨_, .start found allowed ready⟩
        · exact Or.inr ⟨_, refusal_of_pending found allowed ready⟩
      · exact Or.inr ⟨_, .illegal rfl found allowed⟩
    | started name => exact move rfl fun allowed => ⟨_, .started found allowed⟩
    | fail name failure => exact move rfl fun allowed => ⟨_, .fail found allowed⟩
    | retry name => exact move rfl fun allowed => ⟨_, .retry found allowed⟩
    | stop name => exact move rfl fun allowed => ⟨_, .stop found allowed⟩
    | remove name => exact move rfl fun allowed => ⟨_, .remove found allowed⟩
    | removed name => exact move rfl fun allowed => ⟨_, .removed found allowed⟩
    | setMode name mode => exact Or.inl ⟨_, .setMode found⟩
  · by_cases install : operation.IsInstall
    · obtain ⟨name, mode, dependencies, rfl⟩ := install
      exact Or.inl ⟨_, .install present⟩
    · exact Or.inr ⟨_, .unknown install present⟩

theorem find_of_absent (absent : name ∉ g.keys) : g.find name = .error (.unknownService name) := by
  rw [find, OrderedMap.get?_eq_none_iff.2 absent]

theorem move_of_absent (change : ServiceRecord → ServiceRecord) (absent : name ∉ g.keys) :
    g.move name target change = .error (.unknownService name) := by
  rw [move, find_of_absent absent]
  rfl

theorem move_of_forbidden (change : ServiceRecord → ServiceRecord) (found : g.get? name = some r)
    (forbidden : target ∉ r.substate.successors) :
    g.move name target change = .error (.illegalTransition name r.substate target) := by
  simp only [move, bind, Except.bind, find_eq_ok_iff.2 found, if_neg forbidden]

theorem change_of_move_error (moves : operation.target? = some target)
    (failed : ∀ change, g.move operation.name target change = .error problem) :
    g.change operation = .error problem := by
  cases operation with
  | install name mode dependencies | setMode name mode => cases moves
  | start name | removed name =>
    cases moves
    have failed : g.move name _ id = .error problem := failed id
    simp only [change, bind, Except.bind, failed]
  | started name | fail name failure | retry name | stop name | remove name =>
    cases moves
    rw [change]
    exact failed _

theorem change_of_refusal (refusal : g.Refusal operation problem) : g.change operation = .error problem := by
  cases refusal with
  | duplicate present => simp only [change, OrderedMap.contains_iff.2 present, if_true]
  | unknown later absent =>
    cases moves : operation.target? with
    | some target => exact change_of_move_error moves fun change => move_of_absent change absent
    | none =>
      cases operation with
      | install name mode dependencies => exact absurd ⟨name, mode, dependencies, rfl⟩ later
      | setMode name mode =>
        have missing : g.find name = .error (.unknownService name) := find_of_absent absent
        simp only [change, bind, Except.bind, missing, Operation.name]
      | _ => cases moves
  | illegal moves found forbidden =>
    exact change_of_move_error moves fun change => move_of_forbidden change found forbidden
  | waiting found allowed waits ordered exact =>
    rw [eq_pending ordered exact] at waits ⊢
    simp only [change, bind, Except.bind, move_of_allowed _ found allowed, find_eq_ok_iff.2 found, if_neg waits]

theorem apply_eq_error_iff : g.apply operation = .error problem ↔ g.Refusal operation problem := by
  constructor
  · intro refused
    rcases change_or_refusal g operation with ⟨changed, change⟩ | ⟨other, refusal⟩
    · rw [apply_eq_ok_iff.2 ⟨changed, change, rfl⟩] at refused
      cases refused
    · rw [apply, change_of_refusal refusal] at refused
      cases refused
      exact refusal
  · intro refusal
    rw [apply, change_of_refusal refusal]
    rfl

open Work in
theorem perform_of_change (change : g.Change operation h) : (perform operation).on g = (.ok (), h) := by
  have read : (get : Work Graph).on g = (.ok g, g) := rfl
  cases change with
  | install fresh =>
    have absent : g.contains _ = false := Bool.eq_false_iff.2 fun present => fresh (OrderedMap.contains_iff.1 present)
    rw [perform, on_bind_ok read, absent]
    rfl
  | start found allowed ready =>
    rw [perform, on_bind_ok (on_lookUp found), on_bind_ok (on_check allowed), on_bind_ok read, ready]
    exact on_moveTo found allowed
  | started found allowed => exact on_moveTo found allowed
  | fail found allowed => exact on_moveTo_write found allowed _
  | retry found allowed => exact on_moveTo_write found allowed _
  | stop found allowed => exact on_moveTo found allowed
  | remove found allowed => exact on_moveTo_write found allowed _
  | removed found allowed =>
    rw [perform, on_bind_ok (on_moveTo found allowed)]
    rfl
  | setMode found =>
    rw [perform, on_bind_ok (on_lookUp found), on_write, OrderedMap.update_of_get? found]

open Work in
theorem perform_of_moveTo_error (moves : operation.target? = some target) (later : ∀ name, operation ≠ .start name)
    (failed : (moveTo operation.name target).on g = (.error problem, g)) :
    (perform operation).on g = (.error problem, g) := by
  cases operation with
  | install name mode dependencies | setMode name mode => cases moves
  | start name => exact absurd rfl (later name)
  | started name | stop name =>
    cases moves
    exact failed
  | fail name failure | retry name | remove name | removed name =>
    cases moves
    exact on_bind_error failed _

open Work in
/-- **The steps of an operation that is refused** end before the first of them writes. -/
theorem perform_of_refusal (refusal : g.Refusal operation problem) :
    (perform operation).on g = (.error problem, g) := by
  have read : (get : Work Graph).on g = (.ok g, g) := rfl
  cases refusal with
  | duplicate present =>
    rw [perform, on_bind_ok read, OrderedMap.contains_iff.2 present]
    rfl
  | unknown later absent =>
    cases operation with
    | install name mode dependencies => exact absurd ⟨name, mode, dependencies, rfl⟩ later
    | start name | setMode name mode => exact on_bind_error (on_lookUp_of_absent absent) _
    | _ => exact perform_of_moveTo_error rfl (fun _ same => nomatch same) (on_moveTo_of_absent absent)
  | @illegal _ r _ moves found forbidden =>
    cases operation with
    | start name =>
      cases moves
      have found : g.get? name = some r := found
      rw [perform, on_bind_ok (on_lookUp found)]
      exact on_bind_error (on_check_of_forbidden forbidden) _
    | _ => exact perform_of_moveTo_error moves (fun _ same => nomatch same) (on_moveTo_of_forbidden found forbidden)
  | waiting found allowed waits ordered exact =>
    rw [eq_pending ordered exact] at waits ⊢
    rw [perform, on_bind_ok (on_lookUp found), on_bind_ok (on_check allowed), on_bind_ok read]
    simp only [if_pos waits]
    rfl

theorem call_of_change (change : g.Change operation h) : g.call operation = (.ok (), h.resolve) := by
  rw [call, Work.on_bind_ok (perform_of_change change)]
  rfl

theorem call_of_refusal (refusal : g.Refusal operation problem) : g.call operation = (.error problem, g) := by
  rw [call, Work.on_bind_error (perform_of_refusal refusal)]

theorem call_eq_error_iff : g.call operation = (.error problem, h) ↔ g.Refusal operation problem ∧ h = g := by
  constructor
  · intro refused
    rcases change_or_refusal g operation with ⟨changed, change⟩ | ⟨other, refusal⟩
    · rw [call_of_change change] at refused
      cases refused
    · rw [call_of_refusal refusal] at refused
      cases refused
      exact ⟨refusal, rfl⟩
  · rintro ⟨refusal, rfl⟩
    exact call_of_refusal refusal

theorem call_eq_ok_iff : g.call operation = (.ok (), h) ↔ g.apply operation = .ok h := by
  rcases change_or_refusal g operation with ⟨changed, change⟩ | ⟨problem, refusal⟩
  · rw [call_of_change change, apply_eq_ok_iff.2 ⟨changed, change, rfl⟩]
    simp
  · rw [call_of_refusal refusal, apply_eq_error_iff.2 refusal]
    simp

/-- A service that depends on itself is not up when it is asked to start, so it waits for itself. -/
theorem Refusal.mem_of_self {pending : List ServiceName}
    (refusal : g.Refusal operation (.dependenciesNotSatisfied name pending)) (found : g.get? name = some r)
    (itself : name ∈ r.dependencies) : name ∈ pending := by
  cases refusal with
  | waiting found' allowed waits ordered exact =>
    obtain rfl := Option.some.inj (found'.symm.trans found)
    refine (exact name).2 ⟨itself, fun s found'' up => ?_⟩
    obtain rfl := Option.some.inj (found''.symm.trans found)
    rw [up] at allowed
    exact absurd allowed (by decide)

/-- **A refused call leaves no trace.**  An operation that is called on any graph either does what it does to the graph
or fails.  It fails exactly for the reasons that are listed: an installed name that is to be installed, a name that is
not installed, a move that is not allowed, and for a start the dependencies that are not up, all of them in their order
and the service itself among them if it depends on itself.  The graph is then the one that it was, and when there is no
such reason the operation goes through. -/
theorem refused_call_leaves_graph (g : Graph) (operation : Operation) :
    (∀ problem h, g.call operation = (.error problem, h) ↔ g.Refusal operation problem ∧ h = g) ∧
    (∀ h, g.call operation = (.ok (), h) ↔ g.apply operation = .ok h) ∧
    ((∃ h, g.call operation = (.ok (), h)) ↔ ∀ problem, ¬ g.Refusal operation problem) ∧
    ∀ name pending r, g.Refusal operation (.dependenciesNotSatisfied name pending) → g.get? name = some r →
      name ∈ r.dependencies → name ∈ pending := by
  refine ⟨fun problem h => call_eq_error_iff, fun h => call_eq_ok_iff, ⟨?_, fun free => ?_⟩,
    fun name pending r refusal found itself => refusal.mem_of_self found itself⟩
  · rintro ⟨h, done⟩ problem refusal
    rw [call_of_refusal refusal] at done
    cases done
  · rcases change_or_refusal g operation with ⟨changed, change⟩ | ⟨problem, refusal⟩
    · exact ⟨_, call_of_change change⟩
    · exact absurd refusal (free problem)

/-- The record of a service that depends on itself and on another one. -/
def selfish : ServiceRecord :=
  ⟨⟨["a".toList]⟩, .active, .down, .ofList [⟨["a".toList]⟩, ⟨["b".toList]⟩], .empty, none⟩

def alone : Graph := .ofList [(selfish.name, selfish)]

theorem selfish_start_refused :
    alone.call (.start selfish.name) =
      (.error (.dependenciesNotSatisfied selfish.name [⟨["a".toList]⟩, ⟨["b".toList]⟩]), alone) :=
  ((refused_call_leaves_graph alone (.start selfish.name)).1 _ _).2
    ⟨refusal_of_pending (g := alone) (r := selfish) rfl (by decide) (by decide), rfl⟩

end Graph
end ServiceStability
