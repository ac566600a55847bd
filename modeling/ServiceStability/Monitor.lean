import ServiceStability.Graph.Rest
import ServiceStability.Quiescence
/-!
# Monitor — waiting until the services of interest are at rest

A monitor belongs to one graph and has an interest of its own: the services that somebody registered.  A wait looks at
the graph again and again.  Each look happens at one state of the graph: a cancelled wait ends there, a quiescent
interest is captured there, and otherwise the wait goes on.

- `Monitor.look`: one look.
- `Monitor.await`: a wait over the states that its looks meet.
-/
namespace ServiceStability

inductive WaitError where
  | cancelled
deriving DecidableEq

def WaitError.message : WaitError → Text
  | .cancelled => "wait for stability was cancelled".toList

/-- **The interest registered with one monitor**, in order of registration. -/
structure Monitor where
  interest : OrderedSet ServiceName
deriving DecidableEq

namespace Monitor

def idle : Monitor := ⟨.empty⟩

def watch (m : Monitor) (name : ServiceName) : Monitor := ⟨m.interest.insert name⟩

def watchAll (m : Monitor) (names : List ServiceName) : Monitor := names.foldl watch m

def clear (_ : Monitor) : Monitor := idle

/-- **What a wait returns at a quiescent graph**: the failed and blocked services of the interest. -/
def capture (m : Monitor) (runtime : RuntimeId) (g : Graph) : QuiescenceResult :=
  .partition (m.interest.toList.filterMap (g.snapshot? runtime))

def atRest (m : Monitor) (g : Graph) : Bool := g.isQuiescent m.interest.toList

/-- **One look at the graph**; nothing while the wait has to go on. -/
def look (m : Monitor) (runtime : RuntimeId) (cancelled : Bool) (g : Graph) :
    Option (Except WaitError QuiescenceResult) :=
  if cancelled then some (.error .cancelled)
  else if m.atRest g then some (.ok (m.capture runtime g))
  else none

/-- **A wait that meets these states one after another** and is cancelled when none is left: its end, and the number of
states that it waited through. -/
def await (m : Monitor) (runtime : RuntimeId) : List Graph → Except WaitError QuiescenceResult × Nat
  | [] => (.error .cancelled, 0)
  | g :: later =>
    match m.look runtime false g with
    | some answer => (answer, 0)
    | none => ((m.await runtime later).1, (m.await runtime later).2 + 1)

/-- A look that ends the wait in a result was not cancelled and met the interest at rest. -/
theorem look_eq_ok_iff {m : Monitor} {runtime : RuntimeId} {cancelled : Bool} {g : Graph} {result : QuiescenceResult} :
    m.look runtime cancelled g = some (.ok result) ↔
      cancelled = false ∧ m.atRest g = true ∧ m.capture runtime g = result := by
  cases cancelled <;> simp [look]

end Monitor
end ServiceStability
