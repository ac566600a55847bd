import ServiceStability.CommandLine.Invocation
import ServiceStability.Codec.Reports
import ServiceStability.Codec.Snapshots
import ServiceStability.Units.Diagnosis
import ServiceStability.Yaml.Writer
/-!
# CommandLine.Run — from an invocation to what is written and the exit code

A command restores the graph of its snapshot.  A verification treats the services of interest as touched by an operation
that has just ended; a restored graph is at rest, so the wait ends at once.

- `Command.run`: what a command writes, given the text of its snapshot.
- `Invocation.finish`: what the whole program writes, and its exit code.
-/
namespace ServiceStability
namespace CommandLine

/-- **Why a command fails.** -/
inductive RunError where
  /-- The file cannot be read as text. -/
  | unreadable (path : Text)
  | noSnapshot (path : Text) (cause : RuntimeSnapshot.ReadError)
  | notRestored (cause : OperationError)
  | noAnswer (cause : VerifyError)
deriving DecidableEq

/-- **What a command answers**: whether there are problems, and what it writes. -/
structure Answer where
  problems : Bool
  out : Text
deriving DecidableEq

/-- The last part of a path that names something; nothing if the path ends in the directory above. -/
def fileName? (path : Text) : Option Text :=
  match ((path.splitOn '/').filter fun part => part != [] && part != ['.']).getLast? with
  | none => none
  | some name => if name = "..".toList then none else some name

/-- The part of a file name behind its last dot, unless the dot is its first character. -/
def extension? (name : Text) : Option Text :=
  let tail := (name.reverse.takeWhile fun c => c != '.').reverse
  if name.length ≤ tail.length + 1 then none else some tail

/-- **The format of a file**: the extension tells, in any case of its letters. -/
def formatOf (path : Text) : RuntimeSnapshot.Format :=
  match (fileName? path).bind extension? with
  | some tail => if Text.lowerAscii tail = "json".toList then .json else .yaml
  | none => .yaml

def load (path : Text) (file : Option Text) : Except RunError RuntimeSnapshot :=
  match file with
  | none => .error (.unreadable path)
  | some source =>
    match RuntimeSnapshot.ofText (formatOf path) source with
    | .ok snapshot => .ok snapshot
    | .error cause => .error (.noSnapshot path cause)

def restored (snapshot : RuntimeSnapshot) : Except RunError Graph :=
  match snapshot.restore with
  | .ok g => .ok g
  | .error cause => .error (.notRestored cause)

def ownRuntime : RuntimeId := ⟨0⟩

/-- The services that count as touched: those given, or all. -/
def touchedIn (g : Graph) (given : List ServiceName) : List ServiceName :=
  if given = [] then (g.snapshots ownRuntime).map (·.name) else given

/-- **Verify the touched services of a graph** as it stands. -/
def verifyGraph (g : Graph) (touched : List ServiceName) (rollback : Bool) : Verified :=
  let monitor := Monitor.idle.watchAll (touchedIn g touched)
  verify monitor (.new ⟨rollback⟩) (g.lookup ownRuntime) (monitor.await ownRuntime [g]).1

def reportOf (v : Verified) : DiagnosticReport := v.context.report?.getD .empty

def reportText (report : DiagnosticReport) (rollbackOnly : Bool) : Text :=
  if report.isEmpty then Text.line "stable".toList
  else report.text ++ (if rollbackOnly then Text.line "rollback: required".toList else [])

def ReportFormat.write (v : Verified) : ReportFormat → Text
  | .text => reportText (reportOf v) v.context.rollbackOnly
  | .json => Text.line (reportOf v).toJson.pretty
  | .yaml => Yaml.write (reportOf v).toJson

def VerifyRequest.answer (request : VerifyRequest) (snapshot : RuntimeSnapshot) : Except RunError Answer := do
  let g ← restored snapshot
  let v := verifyGraph g request.touched request.rollback
  .ok ⟨v.outcome != .stable, request.format.write v⟩

/-- **Answer a question about a unit** on a snapshot. -/
def UnitsRequest.answer (request : UnitsRequest) (snapshot : RuntimeSnapshot) : Except RunError Answer := do
  let g ← restored snapshot
  match Units.examineGraph request.naming request.unit g with
  | .error cause => .error (.noAnswer cause)
  | .ok found => .ok ⟨!found.isEmpty, found.flatMap fun d => Text.line d.text⟩

def Command.answer (snapshot : RuntimeSnapshot) : Command → Except RunError Answer
  | .verify request => request.answer snapshot
  | .units request => request.answer snapshot

/-- **Run a command**, given the text of its snapshot file if it can be read. -/
def Command.run (command : Command) (file : Option Text) : Except RunError Answer := do
  let snapshot ← load command.snapshot file
  command.answer snapshot

/-- **What the program leaves behind**: its exit code and its output.  The help has no text here; it is made from the
levels of the command line. -/
structure Ending where
  code : Nat
  out : Option Text
deriving DecidableEq

def versionLine : Text := Text.line "steady 0.1.0".toList

/-- **The end of a program whose arguments make no command.** -/
def UsageError.finish : UsageError → Ending
  | .helpAsked => ⟨0, none⟩
  | .versionAsked => ⟨0, some versionLine⟩
  | _ => ⟨2, some []⟩

def logLevels : List Text :=
  ["off".toList, "error".toList, "warn".toList, "info".toList, "debug".toList, "trace".toList]

/-- The number that digits stand for, a plus in front of them allowed. -/
def levelNumber? (level : Text) : Option Nat :=
  let digits := match level with
    | '+' :: rest => rest
    | _ => level
  if digits.isEmpty || !digits.all Char.isDigit then none
  else some (digits.foldl (fun n c => 10 * n + (c.toNat - '0'.toNat)) 0)

/-- **Whether a text is a log level**: a name, a number below six, or nothing. -/
def isLogLevel (level : Text) : Bool :=
  level.isEmpty || logLevels.contains (Text.lowerAscii level) || (levelNumber? level).any (· < logLevels.length)

def Answer.code (a : Answer) : Nat := if a.problems then 1 else 0

/-- **The end of the program**, given the text of the snapshot file if it can be read. -/
def Invocation.finish (i : Invocation) (file : Option Text) : Ending :=
  if isLogLevel i.logLevel then
    match i.command.run file with
    | .ok a => ⟨a.code, some a.out⟩
    | .error _ => ⟨2, some []⟩
  else ⟨2, some []⟩

/-- A dot at the start of a name is no extension. -/
example : (["a/s.JSON", ".json", "s.json/", "s.json.yml"].map fun path => formatOf path.toList)
    = [.json, .yaml, .json, .yaml] := by decide +kernel

end CommandLine
end ServiceStability
