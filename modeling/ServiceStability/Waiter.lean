import ServiceStability.Waiting
/-!
# Waiter — clients that wait one at a time

A waiter owns one monitor of a runtime, and a lock of its own.  Its clients register services as they touch them; that
needs no lock.  In the end a client waits, once: it takes the lock, its wait copies the interest of the monitor and
looks until it has an answer, and then the interest is released and the lock given back.  What is released is all of the
interest, whoever registered it.

- `Waiter.Step`: what may happen next.
- `Waiter.Run`: what may happen one after another.
- `Waiter.waitOf?`: the wait of a client.
-/
namespace ServiceStability

/-- **How far a client of a waiter has come.** -/
inductive ClientStage where
  | registering
  /-- With the lock, before its wait copies the interest. -/
  | entered
  /-- With the lock, and with the wait of this number called. -/
  | waiting (number : Nat)
  | served (number : Nat)

/-- The number of a client's wait, once it has been called. -/
def ClientStage.wait? : ClientStage → Option Nat
  | .registering | .entered => none
  | .waiting number | .served number => some number

/-- **A runtime with a waiter on it, and the waiter's clients.** -/
structure Waiter where
  world : World
  monitor : Nat
  turn : Option Nat
  clients : Nat → ClientStage

inductive WaiterEvent where
  | register (client : Nat) (name : ServiceName)
  | enter (client : Nat)
  /-- The wait of a client is called, and copies the interest. -/
  | copy (client token : Nat)
  /-- A client whose wait is over releases the interest and gives the lock back. -/
  | release (client : Nat)
  /-- Anything else in the runtime: operations, cancellations, the looks of all waits, other monitors. -/
  | runtime (event : Event)

/-- Whether an event has nothing to do with the interest of a monitor. -/
def Event.spares (monitor : Nat) : Event → Bool
  | .watch other _ | .clear other | .call other _ => other != monitor
  | .cancel _ | .begin _ | .finish | .look _ | .conclude _ => true

namespace Waiter

def interest (s : Waiter) : OrderedSet ServiceName := (s.world.monitors s.monitor).interest

/-- **The wait of a client**, once it has been called. -/
def waitOf? (s : Waiter) (client : Nat) : Option Wait := (s.clients client).wait?.bind (s.world.waits[·]?)

/-- **What may happen next.** -/
inductive Step (s : Waiter) : WaiterEvent → Waiter → Prop where
  | register {client : Nat} {name : ServiceName} {w : World} (early : s.clients client = .registering)
      (step : s.world.Step (.watch s.monitor name) w) : Step s (.register client name) { s with world := w }
  | enter {client : Nat} (early : s.clients client = .registering) (free : s.turn = none) :
      Step s (.enter client)
        { s with turn := some client, clients := World.overwrite s.clients client .entered }
  | copy {client token : Nat} {w : World} (entered : s.clients client = .entered)
      (step : s.world.Step (.call s.monitor token) w) :
      Step s (.copy client token)
        { s with world := w, clients := World.overwrite s.clients client (.waiting s.world.waits.length) }
  | release {client number : Nat} {wait : Wait} {answer : Except WaitError QuiescenceResult} {w : World}
      (waiting : s.clients client = .waiting number) (found : s.world.waits[number]? = some wait)
      (ended : wait.stage = .ended answer) (step : s.world.Step (.clear s.monitor) w) :
      Step s (.release client)
        { s with world := w, turn := none, clients := World.overwrite s.clients client (.served number) }
  | runtime {event : Event} {w : World} (apart : event.spares s.monitor = true) (step : s.world.Step event w) :
      Step s (.runtime event) { s with world := w }

inductive Run (start : Waiter) : List WaiterEvent → Waiter → Prop where
  | nil : Run start [] start
  | snoc {events : List WaiterEvent} {s s' : Waiter} {event : WaiterEvent} (run : Run start events s)
      (step : s.Step event s') : Run start (events ++ [event]) s'

/-- What an event of a waiter on this monitor is in its runtime. -/
def inRuntime (monitor : Nat) : WaiterEvent → Option Event
  | .register _ name => some (.watch monitor name)
  | .enter _ => none
  | .copy _ token => some (.call monitor token)
  | .release _ => some (.clear monitor)
  | .runtime event => some event

end Waiter
end ServiceStability
