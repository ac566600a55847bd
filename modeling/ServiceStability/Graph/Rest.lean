import ServiceStability.Graph.Basic
/-!
# Graph.Rest — whether a part of a graph has come to rest

The part that matters to a set of roots is what they lead to through the dependencies of installed services; names that
are not installed lead nowhere.  The search keeps the services it has seen, so cycles do no harm, and every step either
sees one more installed service or shortens what is left to visit.

- `Graph.isQuiescent`: the test.
- `Graph.Reaches`: what the test has to look at.
-/
namespace ServiceStability
namespace Graph

def unseen (g : Graph) (seen : List ServiceName) : List ServiceName := g.keys.filter fun name => decide (name ∉ seen)

theorem length_unseen_cons_lt {g : Graph} {seen : List ServiceName} {name : ServiceName} (installed : name ∈ g.keys)
    (fresh : name ∉ seen) : (g.unseen (name :: seen)).length < (g.unseen seen).length := by
  have smaller : g.unseen (name :: seen) = (g.unseen seen).filter fun other => decide (other ≠ name) := by
    simp only [unseen, List.filter_filter]
    congr 1
    funext other
    simp
  rw [smaller]
  refine List.length_filter_lt_length_iff_exists.2 ⟨name, ?_, by simp⟩
  simp [unseen, installed, fresh]

/-- **Visit what is left**: whether every service on the way is at rest. -/
def visit (g : Graph) (seen : List ServiceName) : List ServiceName → Bool
  | [] => true
  | name :: rest =>
    if _fresh : name ∈ seen then visit g seen rest
    else
      match _found : g.get? name with
      | none => visit g seen rest
      | some r => r.substate.isRest && visit g (name :: seen) (r.dependencies.toList ++ rest)
termination_by pending => ((g.unseen seen).length, pending.length)
decreasing_by
  · exact Prod.Lex.right _ (by simp)
  · exact Prod.Lex.right _ (by simp)
  · refine Prod.Lex.left _ _ (length_unseen_cons_lt ?_ _fresh)
    exact Decidable.byContradiction fun h => by simp [OrderedMap.get?_eq_none_iff.2 h] at _found

/-- **Whether the roots, and all that they lead to, are at rest.** -/
def isQuiescent (g : Graph) (roots : List ServiceName) : Bool := g.visit [] roots

/-- **What the roots lead to**: the installed roots, and the installed dependencies of what they lead to. -/
inductive Reaches (g : Graph) (roots : List ServiceName) : ServiceName → Prop where
  | root {name : ServiceName} (member : name ∈ roots) (installed : name ∈ g.keys) : Reaches g roots name
  | step {name dependency : ServiceName} {r : ServiceRecord} (reached : Reaches g roots name)
      (found : g.get? name = some r) (edge : dependency ∈ r.dependencies) (installed : dependency ∈ g.keys) :
      Reaches g roots dependency

end Graph
end ServiceStability
