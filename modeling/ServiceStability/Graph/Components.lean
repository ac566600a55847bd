import ServiceStability.Graph.Rest
/-!
# Graph.Components — services that lead to each other

Services that depend on each other, directly or through others, form a component.  Nothing in a component can be
decided before what it depends on, so the components are listed with dependencies before dependents.  A service leads
to strictly more than anything it depends on outside its own component; that is the order of the list.

- `Graph.gather`: what some services lead to.
- `Graph.components`: the components of a graph.
- `Graph.DependenciesFirst`: what a list of components has to satisfy.
-/
namespace ServiceStability
namespace Graph

/-- **Gather what is left**: the services seen so far, and every installed one on the way. -/
def gather (g : Graph) (seen : List ServiceName) : List ServiceName → List ServiceName
  | [] => seen
  | name :: rest =>
    if _fresh : name ∈ seen then gather g seen rest
    else
      match _found : g.get? name with
      | none => gather g seen rest
      | some r => gather g (name :: seen) (r.dependencies.toList ++ rest)
termination_by pending => ((g.unseen seen).length, pending.length)
decreasing_by
  · exact Prod.Lex.right _ (by simp)
  · exact Prod.Lex.right _ (by simp)
  · refine Prod.Lex.left _ _ (length_unseen_cons_lt ?_ _fresh)
    exact Decidable.byContradiction fun h => by simp [OrderedMap.get?_eq_none_iff.2 h] at _found

def below (g : Graph) (name : ServiceName) : List ServiceName := g.gather [] [name]

/-- Whether two services, each with what it leads to, lead to each other. -/
def together (a b : ServiceName × List ServiceName) : Bool := decide (b.1 ∈ a.2) && decide (a.1 ∈ b.2)

/-- The services, each with what it leads to, those that lead to little first. -/
def ranked (g : Graph) : List (ServiceName × List ServiceName) :=
  (g.keys.map fun name => (name, g.below name)).mergeSort fun a b => decide (a.2.length ≤ b.2.length)

/-- The services that do not belong together with a given one. -/
def apartFrom (a : ServiceName × List ServiceName) (entries : List (ServiceName × List ServiceName)) :
    List (ServiceName × List ServiceName) := entries.filter fun b => !together a b

/-- Take the first service with all that belong together with it, and go on with the others. -/
def cut : List (ServiceName × List ServiceName) → List (List ServiceName)
  | [] => []
  | a :: rest => (a.1 :: (rest.filter (together a)).map Prod.fst) :: cut (apartFrom a rest)
termination_by entries => entries.length
decreasing_by exact Nat.lt_succ_of_le (List.length_filter_le ..)

/-- **The components of a graph**, dependencies before dependents. -/
def components (g : Graph) : List (List ServiceName) := cut g.ranked

/-- **A list of the strongly connected components of a graph, dependencies before dependents.**  The members of a
component may stand in any order, and components that do not lead to each other as well. -/
structure DependenciesFirst (g : Graph) (components : List (List ServiceName)) : Prop where
  /-- Every installed service is a member of one component, once. -/
  once : components.flatten.Perm g.keys
  /-- Members of one component lead to each other. -/
  connected : ∀ members ∈ components, ∀ a ∈ members, ∀ b ∈ members, g.Reaches [a] b
  /-- No component leads to a later one. -/
  ordered : components.Pairwise fun earlier later => ∀ a ∈ earlier, ∀ b ∈ later, ¬ g.Reaches [a] b

end Graph
end ServiceStability
