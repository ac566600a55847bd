import ServiceStability.Graph.Operation
import ServiceStability.Steps
/-!
# Graph.Call — an operation carried out on the graph itself

`Graph.apply` gives the graph that comes of an operation.  Whoever calls an operation has one graph, and it is written
to while the operation runs: a record is looked up, checked and changed where it stands, and a check that fails late
does not take back what was written before it.  Only an operation that comes through all its checks has the graph
resolved.

- `Graph.Work`: steps on a graph that may fail on the way.
- `Graph.call`: the steps of an operation; the answer, and the graph that they leave.
-/
namespace ServiceStability
namespace Graph

/-- **Steps on a graph**, each of which may fail; what was written before a failure stays written. -/
abbrev Work := ExceptT OperationError (StateM Graph)

namespace Work

def on {α : Type} (work : Work α) (g : Graph) : Except OperationError α × Graph := Id.run (work.run.run g)

def lookUp (name : ServiceName) : Work ServiceRecord := do
  match (← get).get? name with
  | none => throw (.unknownService name)
  | some r => pure r

def check (name : ServiceName) (current target : Substate) : Work Unit :=
  if target ∈ current.successors then pure () else throw (.illegalTransition name current target)

def write (name : ServiceName) (change : ServiceRecord → ServiceRecord) : Work Unit :=
  modify fun g => g.update name change

def moveTo (name : ServiceName) (target : Substate) : Work Unit := do
  let r ← lookUp name
  check name r.substate target
  write name fun r => { r with substate := target }

/-- **The steps of an operation**, up to resolution. -/
def perform : Operation → Work Unit
  | .install name mode dependencies => do
    if (← get).contains name then throw (.duplicateService name)
    modify fun g => g.insert name (.installed name mode dependencies)
  | .start name => do
    let r ← lookUp name
    check name r.substate .starting
    let waiting := (← get).pending r
    if waiting ≠ [] then throw (.dependenciesNotSatisfied name waiting)
    moveTo name .starting
  | .started name => moveTo name .up
  | .fail name failure => do
    moveTo name .startFailed
    write name fun r => { r with startFailure := some failure }
  | .retry name => do
    moveTo name .down
    write name fun r => { r with startFailure := none }
  | .stop name => moveTo name .down
  | .remove name => do
    moveTo name .removing
    write name fun r => { r with mode := .remove }
  | .removed name => do
    moveTo name .removed
    modify fun g => g.erase name
  | .setMode name mode => do
    let _ ← lookUp name
    write name fun r => { r with mode := mode }

end Work

/-- **A call**: the steps of an operation, and resolution behind them. -/
def call (g : Graph) (operation : Operation) : Except OperationError Unit × Graph :=
  (do Work.perform operation; modify resolve : Work Unit).on g

namespace Work

variable {α β : Type} {g h : Graph} {name : ServiceName} {r : ServiceRecord} {current target : Substate}

theorem on_bind_ok {work : Work α} {a : α} (done : work.on g = (.ok a, h)) (next : α → Work β) :
    (work >>= next).on g = (next a).on h := Steps.on_bind_ok done next

theorem on_bind_error {work : Work α} {problem : OperationError} (failed : work.on g = (.error problem, h))
    (next : α → Work β) : (work >>= next).on g = (.error problem, h) := Steps.on_bind_error failed next

theorem on_lookUp (found : g.get? name = some r) : (lookUp name).on g = (.ok r, g) := by
  have read : (get : Work Graph).on g = (.ok g, g) := rfl
  rw [lookUp, on_bind_ok read, found]
  rfl

theorem on_lookUp_of_absent (absent : name ∉ g.keys) : (lookUp name).on g = (.error (.unknownService name), g) := by
  have read : (get : Work Graph).on g = (.ok g, g) := rfl
  rw [lookUp, on_bind_ok read, OrderedMap.get?_eq_none_iff.2 absent]
  rfl

theorem on_check (allowed : target ∈ current.successors) : (check name current target).on g = (.ok (), g) := by
  rw [check, if_pos allowed]
  rfl

theorem on_check_of_forbidden (forbidden : target ∉ current.successors) :
    (check name current target).on g = (.error (.illegalTransition name current target), g) := by
  rw [check, if_neg forbidden]
  rfl

theorem on_write (g : Graph) (name : ServiceName) (change : ServiceRecord → ServiceRecord) :
    (write name change).on g = (.ok (), g.update name change) := rfl

/-- **A move that is allowed** writes the sub-state. -/
theorem on_moveTo (found : g.get? name = some r) (allowed : target ∈ r.substate.successors) :
    (moveTo name target).on g = (.ok (), g.insert name { r with substate := target }) := by
  rw [moveTo, on_bind_ok (on_lookUp found), on_bind_ok (on_check allowed), on_write, OrderedMap.update_of_get? found]

theorem on_moveTo_of_absent (absent : name ∉ g.keys) :
    (moveTo name target).on g = (.error (.unknownService name), g) := by
  rw [moveTo, on_bind_error (on_lookUp_of_absent absent)]

theorem on_moveTo_of_forbidden (found : g.get? name = some r) (forbidden : target ∉ r.substate.successors) :
    (moveTo name target).on g = (.error (.illegalTransition name r.substate target), g) := by
  rw [moveTo, on_bind_ok (on_lookUp found), on_bind_error (on_check_of_forbidden forbidden)]

/-- A move and a further change are one change of the record. -/
theorem on_moveTo_write (found : g.get? name = some r) (allowed : target ∈ r.substate.successors)
    (change : ServiceRecord → ServiceRecord) :
    (do moveTo name target; write name change : Work Unit).on g =
      (.ok (), g.insert name (change { r with substate := target })) := by
  rw [on_bind_ok (on_moveTo found allowed), on_write, OrderedMap.update_insert]

end Work
end Graph
end ServiceStability
