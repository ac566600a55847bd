import ServiceStability.Graph.Operation
import ServiceStability.Monitor
/-!
# Waiting — many waits on one runtime

Several monitors watch one graph, and several waits are under way, each for one monitor and with a token that cancels
it.  The graph is behind a lock: an operation holds it while it changes and resolves the graph, and a wait holds it from
reading its token until it has decided, but not while it sleeps.  Interests and tokens are not behind that lock and
change at any time; a wait therefore works on a copy of the interest, made when it is called.

- `World.Step`: what may happen next.
- `World.Run`: what may happen one after another.
-/
namespace ServiceStability

/-- **How far a wait has come.** -/
inductive Stage where
  /-- Called or asleep, without the lock. -/
  | between
  /-- With the lock, knowing whether its token was cancelled. -/
  | looking (cancelled : Bool)
  | ended (answer : Except WaitError QuiescenceResult)

/-- The stage after a look: asleep again, unless the look ended the wait. -/
def Stage.afterLook : Option (Except WaitError QuiescenceResult) → Stage
  | none => .between
  | some answer => .ended answer

structure Wait where
  monitor : Nat
  token : Nat
  /-- The monitor as it was when the wait was called. -/
  copied : Monitor
  stage : Stage

def Wait.at (wait : Wait) (stage : Stage) : Wait := { wait with stage := stage }

inductive Holder where
  | operation
  | wait (number : Nat)

/-- **A runtime with its monitors and its waits**, which are numbered in the order of their calls. -/
structure World where
  runtime : RuntimeId
  graph : Graph
  holder : Option Holder
  monitors : Nat → Monitor
  cancelled : Nat → Bool
  waits : List Wait

inductive Event where
  | watch (monitor : Nat) (name : ServiceName)
  | clear (monitor : Nat)
  | cancel (token : Nat)
  /-- An operation takes the lock and makes its change, unless it is refused. -/
  | begin (operation : Operation)
  /-- The operation under way resolves the graph and gives the lock back. -/
  | finish
  | call (monitor token : Nat)
  /-- A wait takes the lock and reads its token. -/
  | look (number : Nat)
  /-- The wait with the lock decides and gives it back. -/
  | conclude (number : Nat)

def Event.isOfWait : Event → Bool
  | .call _ _ | .look _ | .conclude _ => true
  | _ => false

namespace World

def overwrite {α : Type} (family : Nat → α) (place : Nat) (value : α) : Nat → α := fun other =>
  if other = place then value else family other

/-- **What may happen next.** -/
inductive Step (w : World) : Event → World → Prop where
  | watch (monitor : Nat) (name : ServiceName) :
      Step w (.watch monitor name)
        { w with monitors := overwrite w.monitors monitor ((w.monitors monitor).watch name) }
  | clear (monitor : Nat) :
      Step w (.clear monitor) { w with monitors := overwrite w.monitors monitor (w.monitors monitor).clear }
  | cancel (token : Nat) : Step w (.cancel token) { w with cancelled := overwrite w.cancelled token true }
  | begin {operation : Operation} {changed : Graph} (free : w.holder = none)
      (done : w.graph.change operation = .ok changed) :
      Step w (.begin operation) { w with graph := changed, holder := some .operation }
  | refuse {operation : Operation} {problem : OperationError} (free : w.holder = none)
      (refused : w.graph.change operation = .error problem) : Step w (.begin operation) w
  | finish (held : w.holder = some .operation) : Step w .finish { w with graph := w.graph.resolve, holder := none }
  | call (monitor token : Nat) :
      Step w (.call monitor token)
        { w with waits := w.waits ++ [⟨monitor, token, w.monitors monitor, .between⟩] }
  | look {number : Nat} {wait : Wait} (free : w.holder = none) (found : w.waits[number]? = some wait)
      (between : wait.stage = .between) :
      Step w (.look number)
        { w with
          holder := some (.wait number)
          waits := w.waits.set number (wait.at (.looking (w.cancelled wait.token))) }
  | conclude {number : Nat} {wait : Wait} {seen : Bool} (held : w.holder = some (.wait number))
      (found : w.waits[number]? = some wait) (looking : wait.stage = .looking seen) :
      Step w (.conclude number)
        { w with
          holder := none
          waits := w.waits.set number (wait.at (.afterLook (wait.copied.look w.runtime seen w.graph))) }

inductive Run (start : World) : List Event → World → Prop where
  | nil : Run start [] start
  | snoc {events : List Event} {w w' : World} {event : Event} (run : Run start events w) (step : w.Step event w') :
      Run start (events ++ [event]) w'

end World
end ServiceStability
