import ServiceStability.CommandLine.Run
import ServiceStability.Steps
/-!
# CommandLine.Output — a verification as it writes

`Command.run` gives what a command writes as a whole.  The program writes as it goes, behind what the output holds
already; the report and the line about a rollback are two writes.

- `VerifyRequest.steps`: a verification, step by step.
- `VerifyRequest.on_steps`: it leaves behind what the command gives as a whole, and nothing if the command fails.
-/
namespace ServiceStability
namespace CommandLine

/-- **Steps that write to an output.** -/
abbrev Writing := Steps RunError Text

def put (text : Text) : Writing Unit := modify fun out => out ++ text

/-- **Write the report of a verification.** -/
def ReportFormat.put (v : Verified) : ReportFormat → Writing Unit
  | .text =>
    if (reportOf v).isEmpty then CommandLine.put (Text.line "stable".toList)
    else do
      CommandLine.put (reportOf v).text
      if v.context.rollbackOnly then CommandLine.put (Text.line "rollback: required".toList)
  | .json => CommandLine.put (Text.line (reportOf v).toJson.pretty)
  | .yaml => CommandLine.put (Yaml.write (reportOf v).toJson)

/-- **The steps of a verification**, given the text of the snapshot file if it can be read: whether there are
problems. -/
def VerifyRequest.steps (request : VerifyRequest) (file : Option Text) : Writing Bool := do
  let snapshot ← Steps.of (load request.snapshot file)
  let g ← Steps.of (restored snapshot)
  let v := verifyGraph g request.touched request.rollback
  request.format.put v
  pure (v.outcome != .stable)

variable {request : VerifyRequest} {file : Option Text} {snapshot : RuntimeSnapshot}

theorem on_put (text out : Text) : (put text).on out = (.ok (), out ++ text) := rfl

/-- **The writes of a report are its whole text**, behind what was there. -/
theorem ReportFormat.on_put (format : ReportFormat) (v : Verified) (out : Text) :
    (format.put v).on out = (.ok (), out ++ format.write v) := by
  cases format with
  | json => rfl
  | yaml => rfl
  | text =>
    simp only [ReportFormat.put, ReportFormat.write, reportText]
    split
    · rfl
    · rw [Steps.on_bind_ok (CommandLine.on_put _ out)]
      split
      · rw [CommandLine.on_put, List.append_assoc]
      · rw [List.append_nil]
        rfl

/-- **What a verification leaves of the output** if this is what comes of the command: an answer is behind what was
there, and an error has nothing written. -/
def leaves (out : Text) : Except RunError Answer → Except RunError Bool × Text
  | .ok answer => (.ok answer.problems, out ++ answer.out)
  | .error problem => (.error problem, out)

theorem VerifyRequest.on_steps_of_loaded (loaded : load request.snapshot file = .ok snapshot) (out : Text) :
    (request.steps file).on out = leaves out (request.answer snapshot) := by
  rw [steps, loaded, Steps.on_bind_ok (Steps.on_of_ok snapshot out), answer]
  cases restored snapshot with
  | error problem => exact Steps.on_bind_error (Steps.on_of_error problem out) _
  | ok g =>
    rw [Steps.on_bind_ok (Steps.on_of_ok g out), Steps.on_bind_ok (ReportFormat.on_put ..)]
    rfl

/-- **A verification as it writes does what the command does as a whole.** -/
theorem VerifyRequest.on_steps (request : VerifyRequest) (file : Option Text) (out : Text) :
    (request.steps file).on out = leaves out ((Command.verify request).run file) := by
  rw [Command.run, show (Command.verify request).snapshot = request.snapshot from rfl]
  cases loaded : load request.snapshot file with
  | error problem =>
    rw [steps, loaded]
    exact Steps.on_bind_error (Steps.on_of_error problem out) _
  | ok snapshot => exact on_steps_of_loaded loaded out

end CommandLine
end ServiceStability
