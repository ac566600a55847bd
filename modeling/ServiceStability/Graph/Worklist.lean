import ServiceStability.Graph.Rest
/-!
# Graph.Worklist — the rest test turn by turn

The rest test as a loop over a stack.  A turn takes the name on top.  A name that was taken before is dropped; any other
is noted, whether it is installed or not, and if its service is at rest, the dependencies go onto the stack.  The loop
is over when a service is not at rest, or when the stack is empty.

- `Worklist.turn`: one turn of the loop.
- `Worklist.Ends`: how the loop ends.
-/
namespace ServiceStability

/-- **The rest test under way**: the names it has noted, and those it has still to take. -/
structure Worklist where
  seen : OrderedSet ServiceName
  /-- From the top down. -/
  stack : List ServiceName

namespace Worklist

/-- **What a turn leads to**: the answer, or the next turn. -/
inductive Turn where
  | stop (answer : Bool)
  | next (w : Worklist)

/-- The last root is on top. -/
def start (roots : List ServiceName) : Worklist := ⟨.empty, roots.reverse⟩

/-- **One turn of the loop.** -/
def turn (g : Graph) : Worklist → Turn
  | ⟨_, []⟩ => .stop true
  | ⟨seen, name :: rest⟩ =>
    if name ∈ seen then .next ⟨seen, rest⟩
    else
      match g.get? name with
      | none => .next ⟨seen.insert name, rest⟩
      | some r =>
        if r.substate.isRest then .next ⟨seen.insert name, r.dependencies.toList.reverse ++ rest⟩ else .stop false

/-- **The loop ends**, with an answer and after so many turns that led to a next one. -/
inductive Ends (g : Graph) : Worklist → Nat → Bool → Prop where
  | last {w : Worklist} {answer : Bool} (turn : w.turn g = .stop answer) : Ends g w 0 answer
  | next {w w' : Worklist} {turns : Nat} {answer : Bool} (turn : w.turn g = .next w') (ends : Ends g w' turns answer) :
      Ends g w (turns + 1) answer

end Worklist
end ServiceStability
