import ServiceStability.Graph.Operation
/-!
# RuntimeSnapshot — a whole runtime put down and set up again

A snapshot lists every service with its mode, the state it was at rest in, and its dependencies.  What is on the move is
put down as down.  Setting a snapshot up again resolves its dormant services as if they had been installed one by one.

- `RuntimeSnapshot.capture`: the snapshot of a graph.
- `RuntimeSnapshot.restore`: the graph of a snapshot.
-/
namespace ServiceStability

/-- **A state that a service can be at rest in.** -/
inductive RestState where
  | down
  | up
  | failed
deriving DecidableEq

namespace RestState

def all : List RestState := [.down, .up, .failed]

def name : RestState → Text
  | .down => "DOWN".toList
  | .up => "UP".toList
  | .failed => "FAILED".toList

def ofSubstate : Substate → RestState
  | .up => .up
  | .startFailed => .failed
  | _ => .down

/-- The sub-state that a rest state is set up as, before resolution. -/
def substate : RestState → Substate
  | .down => .new
  | .up => .up
  | .failed => .startFailed

end RestState

/-- **One service of a snapshot.** -/
structure ServiceEntry where
  name : ServiceName
  mode : Mode
  state : RestState
  failure : Option StartFailure
  dependencies : List ServiceName
deriving DecidableEq

/-- **A whole runtime**, in order of installation. -/
structure RuntimeSnapshot where
  services : List ServiceEntry
deriving DecidableEq

namespace ServiceEntry

def ofSnapshot (s : ServiceSnapshot) : ServiceEntry where
  name := s.name
  mode := s.mode
  state := .ofSubstate s.substate
  failure := s.startFailure
  dependencies := s.dependencies.toList

/-- The record that an entry is set up as; a failure counts only for a failed service. -/
def toRecord (e : ServiceEntry) : ServiceRecord where
  name := e.name
  mode := e.mode
  substate := e.state.substate
  dependencies := .ofList e.dependencies
  unavailable := .empty
  startFailure := if e.state = .failed then e.failure else none

end ServiceEntry

namespace RuntimeSnapshot

/-- **The snapshot of a graph.**  The identity of the runtime is not part of it. -/
def capture (g : Graph) : RuntimeSnapshot := ⟨(g.snapshots ⟨0⟩).map .ofSnapshot⟩

/-- Set up entries one after another, until a name comes up again. -/
def installAll : Graph → List ServiceEntry → Except OperationError Graph
  | g, [] => .ok g
  | g, e :: rest =>
    if g.contains e.name then .error (.duplicateService e.name) else installAll (g.insert e.name e.toRecord) rest

/-- **The graph of a snapshot**, resolved; a name that comes up twice is an error. -/
def restore (s : RuntimeSnapshot) : Except OperationError Graph := (installAll .empty s.services).map Graph.resolve

end RuntimeSnapshot
end ServiceStability
