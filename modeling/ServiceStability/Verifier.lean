import ServiceStability.Verification
/-!
# Verifier — one operation verified again and again

A verifier has a source: something that services are registered with, and that can be waited on.  An operation registers
the services that it touches and has the verifier wait; when the outcome is on its context it may go on, and have the
verifier wait once more.

- `StabilitySource`: what a verifier asks of a source.
- `StabilitySource.asked`: what becomes of a source that is asked for rounds of registrations, a wait and a release.
- `Verifier.execute`: a wait, after which the interest is released, and its outcome.
- `Verifier.rounds`: registrations and a wait, again and again.
- `StabilitySource.logged`: the same source, which remembers what was asked of it.
-/
namespace ServiceStability

/-- **Something that can be waited on**, with states `σ`.  What a wait meets while it lasts is an `ε`: that it is
cancelled, or the states that a runtime goes through. -/
structure StabilitySource (σ ε : Type) where
  /-- The services that were registered since the interest was last cleared. -/
  interest : σ → List ServiceName
  register : ServiceName → σ → σ
  wait : ε → σ → Except WaitError QuiescenceResult × σ
  /-- Forget every registered service. -/
  clear : σ → σ

/-- **What can be asked of a source.** -/
inductive SourceCall (ε : Type) where
  | register (name : ServiceName)
  | wait (met : ε)
  | clear

def SourceCall.isClear {ε : Type} : SourceCall ε → Bool
  | .clear => true
  | _ => false

/-- **What an operation has a verifier do in one round**: the services that it touched, what the wait meets, and what
the registered runtimes answer when its result is diagnosed. -/
structure Round (ε : Type) where
  touched : List ServiceName
  met : ε
  lookup : ServiceLookup

def Round.calls {ε : Type} (r : Round ε) : List (SourceCall ε) := r.touched.map .register ++ [.wait r.met, .clear]

namespace StabilitySource

variable {σ ε : Type}

def registerAll (S : StabilitySource σ ε) (names : List ServiceName) (s : σ) : σ :=
  names.foldl (fun s name => S.register name s) s

/-- **A source after some rounds**, in each of which it registers what was touched, waits, and forgets. -/
def asked (S : StabilitySource σ ε) (s : σ) (rounds : List (Round ε)) : σ :=
  rounds.foldl (fun s r => S.clear (S.wait r.met (S.registerAll r.touched s)).2) s

/-- **The same source, which remembers what was asked of it.** -/
def logged (S : StabilitySource σ ε) : StabilitySource (σ × List (SourceCall ε)) ε where
  interest s := S.interest s.1
  register name s := (S.register name s.1, s.2 ++ [.register name])
  wait met s := ((S.wait met s.1).1, (S.wait met s.1).2, s.2 ++ [.wait met])
  clear s := (S.clear s.1, s.2 ++ [.clear])

end StabilitySource

/-- **A monitor as a source.**  Its wait meets cancellation, or one state of the graph after another. -/
def Monitor.source (runtime : RuntimeId) : StabilitySource Monitor (Bool × List Graph) where
  interest m := m.interest.toList
  register name m := m.watch name
  wait met m := (if met.1 then .error .cancelled else (m.await runtime met.2).1, m)
  clear := Monitor.clear

/-- **A verifier in use**: the state of its source, and the context of the operation. -/
structure Verifier (σ : Type) where
  source : σ
  context : OperationContext

/-- **A round that is over**: its outcome, and the verifier after it. -/
structure Ended (σ : Type) where
  outcome : Outcome
  verifier : Verifier σ

namespace Verifier

variable {σ ε : Type}

/-- **Wait, release the interest however the wait ended, and conclude the wait on the context.** -/
def execute (S : StabilitySource σ ε) (v : Verifier σ) (r : Round ε) : Ended σ :=
  let (waited, source) := S.wait r.met v.source
  let (outcome, context) := v.context.conclude r.lookup waited
  ⟨outcome, S.clear source, context⟩

def round (S : StabilitySource σ ε) (v : Verifier σ) (r : Round ε) : Ended σ :=
  execute S { v with source := S.registerAll r.touched v.source } r

/-- **One round after another**, on one source and one context. -/
def rounds (S : StabilitySource σ ε) : Verifier σ → List (Round ε) → List (Ended σ)
  | _, [] => []
  | v, r :: rest => v.round S r :: rounds S (v.round S r).verifier rest

/-- The verifier after some rounds. -/
def after (S : StabilitySource σ ε) (v : Verifier σ) (rounds : List (Round ε)) : Verifier σ :=
  rounds.foldl (fun v r => (v.round S r).verifier) v

/-- With a monitor as its source a verifier does what `verify` does. -/
theorem execute_source (runtime : RuntimeId) (v : Verifier Monitor) (r : Round (Bool × List Graph)) :
    let ended := v.execute (Monitor.source runtime) r
    verify v.source v.context r.lookup ((Monitor.source runtime).wait r.met v.source).1 =
      ⟨ended.outcome, ended.verifier.context, ended.verifier.source⟩ := rfl

end Verifier
end ServiceStability
