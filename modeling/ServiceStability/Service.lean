import ServiceStability.Name.Basic
import ServiceStability.State
import ServiceStability.StartFailure
import ServiceStability.OrderedSet
import ServiceStability.RuntimeId
/-!
# Service — what a runtime shows of a service

A `ServiceSnapshot` is the full view of one service at one moment; a `ServiceStatus` is the row that a status listing
shows of it.
-/
namespace ServiceStability

/-- **One service at one moment.** -/
structure ServiceSnapshot where
  name : ServiceName
  /-- The graph that the service belongs to. -/
  runtime : RuntimeId
  substate : Substate
  mode : Mode
  startFailure : Option StartFailure
  dependencies : OrderedSet ServiceName
  /-- The direct dependencies that cannot be reached at all. -/
  unavailable : OrderedSet ServiceName
deriving DecidableEq

/-- **One row of a status listing.**  It is plain text: a listing need not come from a graph. -/
structure ServiceStatus where
  name : Text
  state : Text
  dependencies : List Text
deriving DecidableEq

namespace ServiceSnapshot

def fresh (name : ServiceName) (runtime : RuntimeId) : ServiceSnapshot where
  name := name
  runtime := runtime
  substate := .down
  mode := .active
  startFailure := none
  dependencies := .empty
  unavailable := .empty

def withSubstate (s : ServiceSnapshot) (substate : Substate) : ServiceSnapshot := { s with substate := substate }

def withMode (s : ServiceSnapshot) (mode : Mode) : ServiceSnapshot := { s with mode := mode }

def withStartFailure (s : ServiceSnapshot) (failure : StartFailure) : ServiceSnapshot :=
  { s with substate := .startFailed, startFailure := some failure }

def withDependency (s : ServiceSnapshot) (dependency : ServiceName) : ServiceSnapshot :=
  { s with dependencies := s.dependencies.insert dependency }

def withUnavailable (s : ServiceSnapshot) (dependency : ServiceName) : ServiceSnapshot :=
  { s with dependencies := s.dependencies.insert dependency, unavailable := s.unavailable.insert dependency }

def state (s : ServiceSnapshot) : State := s.substate.state

def isProblem (s : ServiceSnapshot) : Bool := s.substate = .problem

def status (s : ServiceSnapshot) : ServiceStatus where
  name := s.name.canonical
  state := s.state.name
  dependencies := s.dependencies.toList.map ServiceName.canonical

end ServiceSnapshot
end ServiceStability
