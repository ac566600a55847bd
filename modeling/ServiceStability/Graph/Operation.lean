import ServiceStability.Graph.Blockage
import ServiceStability.Text.Literal
/-!
# Graph.Operation — what callers do to a graph

The component that runs start actions drives every transition; the graph checks that the move is allowed, makes it and
resolves the dormant services anew.  An operation that fails leaves the graph as it was.

- `Operation`: the operations.
- `Graph.apply`: the graph after an operation, or why it is refused.
-/
namespace ServiceStability

/-- **An operation on a graph.** -/
inductive Operation where
  | install (name : ServiceName) (mode : Mode) (dependencies : OrderedSet ServiceName)
  | start (name : ServiceName)
  | started (name : ServiceName)
  | fail (name : ServiceName) (failure : StartFailure)
  /-- Forget a start failure. -/
  | retry (name : ServiceName)
  /-- Stop a running service. -/
  | stop (name : ServiceName)
  | remove (name : ServiceName)
  | removed (name : ServiceName)
  | setMode (name : ServiceName) (mode : Mode)
deriving DecidableEq

/-- **Why an operation is refused.** -/
inductive OperationError where
  | unknownService (name : ServiceName)
  | duplicateService (name : ServiceName)
  | illegalTransition (name : ServiceName) (current target : Substate)
  | dependenciesNotSatisfied (name : ServiceName) (pending : List ServiceName)
deriving DecidableEq

namespace OperationError

def segmentsText (name : ServiceName) : Text :=
  "ServiceName([".toList ++ Text.commaJoined (name.segments.map Text.literal) ++ "])".toList

def message : OperationError → Text
  | .unknownService name => "service not found: ".toList ++ name.canonical
  | .duplicateService name => "duplicate service: ".toList ++ name.canonical
  | .illegalTransition name current target =>
    "illegal transition for ".toList ++ name.canonical ++ ": ".toList ++ current.name ++ " -> ".toList ++ target.name
  | .dependenciesNotSatisfied name pending =>
    "dependencies of ".toList ++ name.canonical ++ " are not up: [".toList
      ++ Text.commaJoined (pending.map segmentsText) ++ "]".toList

end OperationError

namespace Operation

def name : Operation → ServiceName
  | .install name _ _ | .start name | .started name | .fail name _ | .retry name | .stop name | .remove name
  | .removed name | .setMode name _ => name

end Operation

namespace Graph

def find (g : Graph) (name : ServiceName) : Except OperationError ServiceRecord :=
  match g.get? name with
  | none => .error (.unknownService name)
  | some r => .ok r

/-- **Move a service to a sub-state**, if it is installed and the move is allowed, and make a further change to its
record. -/
def move (g : Graph) (name : ServiceName) (target : Substate) (change : ServiceRecord → ServiceRecord) :
    Except OperationError Graph := do
  let r ← g.find name
  if target ∈ r.substate.successors then .ok (g.insert name (change { r with substate := target }))
  else .error (.illegalTransition name r.substate target)

/-- The dependencies of a service that are not installed or not up. -/
def pending (g : Graph) (r : ServiceRecord) : List ServiceName :=
  r.dependencies.toList.filter fun dependency => g.substate? dependency != some .up

/-- **What an operation changes by itself**, before resolution. -/
def change (g : Graph) : Operation → Except OperationError Graph
  | .install name mode dependencies =>
    if g.contains name then .error (.duplicateService name)
    else .ok (g.insert name (.installed name mode dependencies))
  | .start name => do
    let next ← g.move name .starting id
    let r ← g.find name
    if g.pending r = [] then .ok next else .error (.dependenciesNotSatisfied name (g.pending r))
  | .started name => g.move name .up id
  | .fail name failure => g.move name .startFailed fun r => { r with startFailure := some failure }
  | .retry name => g.move name .down fun r => { r with startFailure := none }
  | .stop name => g.move name .down id
  | .remove name => g.move name .removing fun r => { r with mode := .remove }
  | .removed name => do
    let next ← g.move name .removed id
    .ok (next.erase name)
  | .setMode name mode => do
    let r ← g.find name
    .ok (g.insert name { r with mode := mode })

/-- **The graph after an operation**: changed and resolved anew, or refused. -/
def apply (g : Graph) (operation : Operation) : Except OperationError Graph := (g.change operation).map resolve

end Graph
end ServiceStability
