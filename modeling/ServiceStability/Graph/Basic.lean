import ServiceStability.Service
import ServiceStability.OrderedMap
/-!
# Graph.Basic — the services of one runtime

A graph holds every installed service under its name, in order of installation, together with the edges from each
service to what it depends on.  Edges may lead nowhere, back to the service itself, or round in a cycle.

- `Graph.snapshots`: every service as an outsider sees it.
- `Graph.statuses`: the status listing.
- `Graph.problemsOfUnit`: what failed or is blocked at or below a name.
-/
namespace ServiceStability

/-- **What a graph knows of one service.** -/
structure ServiceRecord where
  name : ServiceName
  mode : Mode
  substate : Substate
  dependencies : OrderedSet ServiceName
  /-- The dependencies that cannot be reached, as of the last resolution. -/
  unavailable : OrderedSet ServiceName
  startFailure : Option StartFailure
deriving DecidableEq

namespace ServiceRecord

def installed (name : ServiceName) (mode : Mode) (dependencies : OrderedSet ServiceName) : ServiceRecord where
  name := name
  mode := mode
  substate := .new
  dependencies := dependencies
  unavailable := .empty
  startFailure := none

def snapshot (r : ServiceRecord) (runtime : RuntimeId) : ServiceSnapshot where
  name := r.name
  runtime := runtime
  substate := r.substate
  mode := r.mode
  startFailure := r.startFailure
  dependencies := r.dependencies
  unavailable := r.unavailable

end ServiceRecord

/-- **The services of one runtime**, by name and in order of installation. -/
abbrev Graph := OrderedMap ServiceName ServiceRecord

namespace Graph

def empty : Graph := OrderedMap.empty

def substate? (g : Graph) (name : ServiceName) : Option Substate := (g.get? name).map (·.substate)

def snapshot? (g : Graph) (runtime : RuntimeId) (name : ServiceName) : Option ServiceSnapshot :=
  (g.get? name).map (·.snapshot runtime)

def snapshots (g : Graph) (runtime : RuntimeId) : List ServiceSnapshot := g.values.map (·.snapshot runtime)

def statuses (g : Graph) (runtime : RuntimeId) : List ServiceStatus := (g.snapshots runtime).map (·.status)

def ofUnit (unit : ServiceName) (services : List ServiceSnapshot) : List ServiceSnapshot :=
  services.filter fun s => unit.covers s.name

/-- **The failed and blocked services at or below a name**; nothing when no service is there at all. -/
def problemsOfUnit (unit : ServiceName) (services : List ServiceSnapshot) : Option (List ServiceSnapshot) :=
  if (ofUnit unit services).isEmpty then none
  else some ((ofUnit unit services).filter fun s => s.substate.isBroken)

end Graph
end ServiceStability
