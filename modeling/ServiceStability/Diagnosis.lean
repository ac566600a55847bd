import ServiceStability.Quiescence
import ServiceStability.Registry
import ServiceStability.Report
/-!
# Diagnosis — from the failed and blocked services to a report

A blocked service either cannot reach a dependency itself or is blocked by something further away.  For the second kind
the diagnosis looks through the whole runtimes of such services for what is missing there.

- `Diagnosis.missingRequired`, `Diagnosis.missingLines`, `Diagnosis.failures`: what the result itself tells.
- `Diagnosis.allMissing`: what the runtimes tell.
- `diagnose`: the report.
-/
namespace ServiceStability
namespace Diagnosis

/-- Whether a blocked service cannot reach one of its own dependencies. -/
def isDirect (s : ServiceSnapshot) : Bool := !s.unavailable.isEmpty

/-- **The failed services, and then what the blocked ones cannot reach.** -/
def missingRequired (result : QuiescenceResult) : OrderedSet ServiceName :=
  .ofList (result.failedServices.map (·.name) ++ result.problemServices.flatMap (·.unavailable.toList))

/-- **The services blocked by something further away.** -/
def missingTransitive (result : QuiescenceResult) : List ServiceSnapshot :=
  result.problemServices.filter fun s => !isDirect s

def missingLine (s : ServiceSnapshot) : Text :=
  s.name.canonical ++ " is missing [".toList ++ ServiceName.listText s.unavailable.toList ++ "]".toList

/-- **A line for each service that cannot reach some of its dependencies.** -/
def missingLines (result : QuiescenceResult) : List Text := (result.problemServices.filter isDirect).map missingLine

/-- The start failure of a service in full; nothing is shown when none was recorded. -/
def failureText (s : ServiceSnapshot) : Text :=
  match s.startFailure with
  | none => []
  | some failure => failure.describe

/-- **Each failed service with its start failure.** -/
def failures (result : QuiescenceResult) : OrderedMap ServiceName Text :=
  .ofList (result.failedServices.map fun s => (s.name, failureText s))

def runtimesOf (services : List ServiceSnapshot) : List RuntimeId :=
  (OrderedSet.ofList (services.map (·.runtime))).toList

def runtimesToScan (result : QuiescenceResult) : List RuntimeId :=
  if result.isStable then [] else runtimesOf (missingTransitive result)

/-- Whether what a service cannot reach counts as missing: the service is blocked, and meant to run. -/
def countsAsSource (s : ServiceSnapshot) : Bool := s.isProblem && !s.mode.isInert

/-- What is missing in one runtime; nothing if the runtime is unknown. -/
def missingIn (services : Option (List ServiceSnapshot)) : List ServiceName :=
  match services with
  | none => []
  | some services => (services.filter countsAsSource).flatMap (·.unavailable.toList)

/-- **What is missing anywhere in the runtimes of some services.** -/
def allMissing (lookup : ServiceLookup) (services : List ServiceSnapshot) : NameSet :=
  .ofList ((runtimesOf services).flatMap fun runtime => missingIn (lookup runtime))

/-- The transitive section, present when something is missing that the result itself does not tell. -/
def transitive (lookup : ServiceLookup) (result : QuiescenceResult) : Option TransitiveProblem :=
  if (allMissing lookup (missingTransitive result)).toList.all fun name => decide (name ∈ missingRequired result) then
    none
  else some ⟨.ofList ((missingTransitive result).map (·.name)), allMissing lookup (missingTransitive result)⟩

end Diagnosis

open Diagnosis in
/-- **The report on a result.**  A stable result has the empty report. -/
def diagnose (lookup : ServiceLookup) (result : QuiescenceResult) : DiagnosticReport :=
  if result.isStable then .empty
  else ⟨failures result, missingRequired result, missingLines result, transitive lookup result⟩

namespace Diagnosis

theorem diagnose_of_isStable {lookup : ServiceLookup} {result : QuiescenceResult} (h : result.isStable = true) :
    diagnose lookup result = .empty := by simp [diagnose, h]

end Diagnosis
end ServiceStability
