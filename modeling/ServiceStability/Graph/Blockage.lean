import ServiceStability.Graph.Components
/-!
# Graph.Blockage — which dormant services are blocked

A dependency is unavailable when it is not installed, will not run, or is being removed.  A dormant service is blocked
when one of its dependencies is unavailable, has failed to start, or is blocked itself; a service that is never to run
is not.  The components are settled one after another, dependencies first.  Marks left over from earlier resolutions
count for nothing: every dormant member of a component starts out as `down`, and the marks spread through the component
until nothing changes, so a cycle is blocked only if something outside blocks it.

- `Graph.resolve`: record the unavailable dependencies and mark the blocked services.
- `Graph.Blocked`: the chains of services that resolution has to find.
-/
namespace ServiceStability
namespace ServiceRecord

/-- A service about which no decision has been made: every dormant one counts as down. -/
def undecided (r : ServiceRecord) : ServiceRecord := if r.substate.isDormant then { r with substate := .down } else r

end ServiceRecord

namespace Graph

/-- **Whether a dependency cannot be reached at all.** -/
def isUnavailable (g : Graph) (dependency : ServiceName) : Bool :=
  match g.get? dependency with
  | none => true
  | some r => r.mode.isInert || r.substate.isLeaving

def isBroken (g : Graph) (dependency : ServiceName) : Bool :=
  match g.get? dependency with
  | none => false
  | some r => r.substate.isBroken

def refreshUnavailable (g : Graph) : Graph :=
  g.mapValues fun _ r => { r with unavailable := r.dependencies.filter g.isUnavailable }

/-- Whether a service can be blocked at all: it is dormant, and meant to run at some time. -/
def canBeBlocked (r : ServiceRecord) : Bool := r.substate.isDormant && r.mode != .never

/-- Whether the marks made so far block a service. -/
def blocks (g : Graph) (r : ServiceRecord) : Bool :=
  !r.unavailable.isEmpty || r.dependencies.toList.any g.isBroken

/-- A service with a mark, if the marks made so far block it. -/
def marked (g : Graph) (r : ServiceRecord) : ServiceRecord :=
  if canBeBlocked r && g.blocks r then { r with substate := .problem } else r

def reset (g : Graph) (name : ServiceName) : Graph := g.update name ServiceRecord.undecided

def mark (g : Graph) (name : ServiceName) : Graph := g.update name g.marked

/-- **One pass** over the members of a component: a mark counts at once for the members behind it. -/
def pass (g : Graph) (members : List ServiceName) : Graph := members.foldl mark g

/-- Make passes until one changes nothing, at most as many as given. -/
def settle (members : List ServiceName) : Nat → Graph → Graph
  | 0, g => g
  | passes + 1, g => if g.pass members = g then g else settle members passes (g.pass members)

/-- **Settle a component**: forget what was decided on its members, and decide anew.  A pass for each member, and one
that changes nothing, are enough for every mark to reach its place. -/
def settleComponent (g : Graph) (members : List ServiceName) : Graph :=
  settle members (members.length + 1) (members.foldl reset g)

def resolveIn (g : Graph) (components : List (List ServiceName)) : Graph :=
  components.foldl settleComponent g.refreshUnavailable

/-- **Resolve**: record what is unavailable, and settle the components of the graph, dependencies first. -/
def resolve (g : Graph) : Graph := g.resolveIn g.components

/-- **Blocked through a chain of dependencies**: the service can be blocked, and one of its dependencies is
unavailable, has failed to start, or is blocked through a chain itself. -/
inductive Blocked (g : Graph) : ServiceName → Prop where
  | unavailable {name dependency : ServiceName} {r : ServiceRecord} (installed : g.get? name = some r)
      (able : canBeBlocked r = true) (edge : dependency ∈ r.dependencies)
      (missing : g.isUnavailable dependency = true) : Blocked g name
  | failed {name dependency : ServiceName} {r : ServiceRecord} (installed : g.get? name = some r)
      (able : canBeBlocked r = true) (edge : dependency ∈ r.dependencies)
      (broken : g.substate? dependency = some .startFailed) : Blocked g name
  | chain {name dependency : ServiceName} {r : ServiceRecord} (installed : g.get? name = some r)
      (able : canBeBlocked r = true) (edge : dependency ∈ r.dependencies)
      (blocked : Blocked g dependency) : Blocked g name

@[simp] theorem keys_refreshUnavailable (g : Graph) : g.refreshUnavailable.keys = g.keys := OrderedMap.keys_mapValues ..

@[simp] theorem keys_reset (g : Graph) (name : ServiceName) : (g.reset name).keys = g.keys := OrderedMap.keys_update ..

@[simp] theorem keys_mark (g : Graph) (name : ServiceName) : (g.mark name).keys = g.keys := OrderedMap.keys_update ..

theorem get?_reset (g : Graph) (name other : ServiceName) :
    (g.reset name).get? other = if other = name then (g.get? name).map ServiceRecord.undecided else g.get? other :=
  OrderedMap.get?_update ..

theorem get?_mark (g : Graph) (name other : ServiceName) :
    (g.mark name).get? other = if other = name then (g.get? name).map g.marked else g.get? other :=
  OrderedMap.get?_update ..

theorem marked_eq (g : Graph) (r : ServiceRecord) :
    g.marked r = r ∨ g.marked r = { r with substate := .problem } := by
  unfold marked; split <;> simp

end Graph
end ServiceStability
