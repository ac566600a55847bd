import ServiceStability.Graph.Basic
/-!
# Registry — looking services up across runtimes

The diagnosis may have to look at every service of some runtime.  A `ServiceLookup` answers such questions; a `Registry`
is the list of runtimes that take part.
-/
namespace ServiceStability

/-- **The services of a runtime**, unless the runtime is unknown. -/
abbrev ServiceLookup := RuntimeId → Option (List ServiceSnapshot)

def Graph.lookup (g : Graph) (runtime : RuntimeId) : ServiceLookup := fun asked =>
  if asked = runtime then some (g.snapshots runtime) else none

/-- **The registered runtimes**, in order of registration. -/
structure Registry where
  known : OrderedSet RuntimeId
deriving DecidableEq

namespace Registry

def empty : Registry := ⟨.empty⟩

def register (r : Registry) (runtime : RuntimeId) : Registry := ⟨r.known.insert runtime⟩

def unregister (r : Registry) (runtime : RuntimeId) : Registry := ⟨r.known.erase runtime⟩

def knows (r : Registry) (runtime : RuntimeId) : Bool := decide (runtime ∈ r.known)

/-- **What the registry answers**, given the graphs as they are now. -/
def lookup (r : Registry) (graphOf : RuntimeId → Graph) : ServiceLookup := fun runtime =>
  if r.knows runtime then some ((graphOf runtime).snapshots runtime) else none

end Registry
end ServiceStability
