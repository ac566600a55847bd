import ServiceStability.Monitor
import ServiceStability.Diagnosis
/-!
# Verification — the step after an operation

After an operation has changed a graph, verification waits until the services that it touched are at rest.  If some of
them failed or are blocked, the report goes onto the operation's context, and the context may ask for a rollback.

- `OperationContext.conclude`: what the end of a wait does to a context.
- `verify`: a whole step, after which the interest is released.
- `VerifyConfig`, `OperationContext`: the settings and the state of an operation.
-/
namespace ServiceStability

/-- **Why a step of verification gives no answer.** -/
inductive VerifyError where
  | cancelled
  | unknownUnit (unit : ServiceName)
deriving DecidableEq

def VerifyError.message : VerifyError → Text
  | .cancelled => "operation cancelled while waiting for stability".toList
  | .unknownUnit unit => "unknown unit: ".toList ++ unit.canonical

/-- **The settings of verification.** -/
structure VerifyConfig where
  /-- Ask for a rollback when services failed or are blocked. -/
  rollbackOnRuntimeFailure : Bool
deriving DecidableEq

def VerifyConfig.default : VerifyConfig := ⟨true⟩

inductive FailureDescription where
  | cancelled (text : Text)
  | report (report : DiagnosticReport)
deriving DecidableEq

/-- **The state of one operation.** -/
structure OperationContext where
  rollbackOnRuntimeFailure : Bool
  rollbackOnly : Bool
  failureDescription : Option FailureDescription
deriving DecidableEq

/-- **How a verification ends.** -/
inductive Outcome where
  /-- Every touched service is where it should be. -/
  | stable
  /-- Services failed or are blocked; a report is attached. -/
  | failed
  | cancelled
deriving DecidableEq

namespace OperationContext

def new (config : VerifyConfig) : OperationContext := ⟨config.rollbackOnRuntimeFailure, false, none⟩

def setRollbackOnly (c : OperationContext) : OperationContext := { c with rollbackOnly := true }

def describeFailure (c : OperationContext) (description : FailureDescription) : OperationContext :=
  { c with failureDescription := some description }

def report? (c : OperationContext) : Option DiagnosticReport :=
  match c.failureDescription with
  | some (.report report) => some report
  | _ => none

def cancelledText : Text := "Operation cancelled".toList

/-- The context after a report: an empty one changes nothing. -/
def attach (c : OperationContext) (report : DiagnosticReport) : OperationContext :=
  if report.isEmpty then c
  else
    let described := c.describeFailure (.report report)
    if c.rollbackOnRuntimeFailure then described.setRollbackOnly else described

/-- **What the end of a wait does to a context.** -/
def conclude (c : OperationContext) (lookup : ServiceLookup) :
    Except WaitError QuiescenceResult → Outcome × OperationContext
  | .error .cancelled => (.cancelled, (c.describeFailure (.cancelled cancelledText)).setRollbackOnly)
  | .ok result =>
    let report := diagnose lookup result
    (if report.isEmpty then .stable else .failed, c.attach report)

theorem rollbackOnRuntimeFailure_conclude (c : OperationContext) (lookup : ServiceLookup)
    (waited : Except WaitError QuiescenceResult) :
    (c.conclude lookup waited).2.rollbackOnRuntimeFailure = c.rollbackOnRuntimeFailure := by
  rcases waited with ⟨⟨⟩⟩ | result
  · rfl
  · simp only [conclude, attach, describeFailure, setRollbackOnly]
    split
    · rfl
    · split <;> rfl

end OperationContext

/-- **What a verification leaves behind**: its outcome, the context, and the monitor. -/
structure Verified where
  outcome : Outcome
  context : OperationContext
  monitor : Monitor

/-- **Verify**: conclude the wait on the context, and release the interest however the wait ended. -/
def verify (m : Monitor) (c : OperationContext) (lookup : ServiceLookup)
    (waited : Except WaitError QuiescenceResult) : Verified where
  outcome := (c.conclude lookup waited).1
  context := (c.conclude lookup waited).2
  monitor := m.clear

end ServiceStability
