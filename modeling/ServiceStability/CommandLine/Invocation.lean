import ServiceStability.CommandLine.Level
import ServiceStability.Name.Reader
import ServiceStability.Units.Naming
/-!
# CommandLine.Invocation — what a command line asks for

The program reads one snapshot and either verifies it or explains what one of its units waits for.

- `Invocation.parse`: the invocation that arguments make.
-/
namespace ServiceStability
namespace CommandLine

inductive ReportFormat where
  | text
  | json
  | yaml
deriving DecidableEq

inductive LogFormat where
  | pretty
  | json
deriving DecidableEq

/-- **A verification**: the snapshot, the services that an operation touched, and how to report. -/
structure VerifyRequest where
  snapshot : Text
  /-- None at all stands for every service. -/
  touched : List ServiceName
  format : ReportFormat
  rollback : Bool
deriving DecidableEq

structure UnitsRequest where
  snapshot : Text
  unit : ServiceName
  naming : UnitNaming
deriving DecidableEq

/-- **What the program is asked to do.** -/
inductive Command where
  | verify (request : VerifyRequest)
  | units (request : UnitsRequest)
deriving DecidableEq

def Command.snapshot : Command → Text
  | .verify request => request.snapshot
  | .units request => request.snapshot

/-- **A command, and how to log what it does.** -/
structure Invocation where
  command : Command
  logLevel : Text
  logFormat : LogFormat
deriving DecidableEq

structure LogSettings where
  level : Option Text
  format : Option LogFormat
deriving DecidableEq

namespace LogSettings

def none : LogSettings := ⟨.none, .none⟩

def isNone (s : LogSettings) : Bool := s.level.isNone && s.format.isNone

/-- The settings of an inner level, and where they are silent those of an outer one. -/
def withOuter (inner outer : LogSettings) : LogSettings := ⟨inner.level.or outer.level, inner.format.or outer.format⟩

def formats : List (Text × LogFormat) := [("pretty".toList, .pretty), ("json".toList, .json)]

/-- The options for the log, at a level that keeps them in its own state. -/
def named {σ : Type} (get : σ → LogSettings) (put : LogSettings → σ → σ) (name : Text) : Option (Named σ) :=
  if name = "log-level".toList then
    some (.option fun value s => (once (get s).level (.ok value)).map fun level => put { get s with level := level } s)
  else if name = "log-format".toList then
    some (.option fun value s =>
      (once (get s).format (choice formats value)).map fun format => put { get s with format := format } s)
  else .none

end LogSettings

def helpName (name : Text) : Bool := name == "help".toList

def helpLetter (c : Char) : Option UsageError := if c = 'h' then some .helpAsked else none

def nameValue (value : Text) : Except UsageError ServiceName :=
  match ServiceName.parse value with
  | .ok name => .ok name
  | .error _ => .error .valueValidation

/-- A path as a value: it may not be empty. -/
def pathValue (value : Text) : Except UsageError Text := if value = [] then .error .invalidValue else .ok value

namespace VerifyRequest

structure Draft where
  log : LogSettings
  snapshot : Option Text
  touched : List ServiceName
  format : Option ReportFormat
  noRollback : Bool

def Draft.empty : Draft := ⟨.none, none, [], none, false⟩

def formats : List (Text × ReportFormat) := [("text".toList, .text), ("json".toList, .json), ("yaml".toList, .yaml)]

def named (name : Text) : Option (Named Draft) :=
  if name = "touched".toList then
    some (.option fun value d => (nameValue value).map fun unit => { d with touched := d.touched ++ [unit] })
  else if name = "format".toList then
    some (.option fun value d => (once d.format (choice formats value)).map fun format => { d with format := format })
  else if name = "no-rollback".toList then
    some (.flag fun d => if d.noRollback then .error .argumentConflict else .ok { d with noRollback := true })
  else if helpName name then some (.stop .helpAsked)
  else LogSettings.named Draft.log (fun log d => { d with log := log }) name

/-- **The level of a verification**: a snapshot and options. -/
def level : Level Draft where
  named := named
  letter := helpLetter
  positions := [fun value d => (once d.snapshot (pathValue value)).map fun path => { d with snapshot := path }]
  subcommands := []
  stray := fun _ _ => .unknownArgument

def ofDraft (d : Draft) : Except UsageError VerifyRequest :=
  match d.snapshot with
  | none => .error .missingRequiredArgument
  | some path => .ok ⟨path, d.touched, d.format.getD .text, !d.noRollback⟩

end VerifyRequest

namespace UnitsRequest

structure Draft where
  log : LogSettings
  snapshot : Option Text
  unit : Option ServiceName
  namespaceText : Option Text
  installSuffix : Option Text
  completionSuffix : Option Text

def Draft.empty : Draft := ⟨.none, none, none, none, none, none⟩

def named (name : Text) : Option (Named Draft) :=
  if name = "unit".toList then
    some (.option fun value d => (once d.unit (nameValue value)).map fun unit => { d with unit := unit })
  else if name = "namespace".toList then
    some (.option fun value d => (once d.namespaceText (.ok value)).map fun text => { d with namespaceText := text })
  else if name = "install-suffix".toList then
    some (.option fun value d => (once d.installSuffix (.ok value)).map fun text => { d with installSuffix := text })
  else if name = "completion-suffix".toList then
    some (.option fun value d =>
      (once d.completionSuffix (.ok value)).map fun text => { d with completionSuffix := text })
  else if helpName name then some (.stop .helpAsked)
  else LogSettings.named Draft.log (fun log d => { d with log := log }) name

/-- **The level of a question about a unit**: a snapshot and options. -/
def level : Level Draft where
  named := named
  letter := helpLetter
  positions := [fun value d => (once d.snapshot (pathValue value)).map fun path => { d with snapshot := path }]
  subcommands := []
  stray := fun _ _ => .unknownArgument

def Draft.naming (d : Draft) : UnitNaming where
  namespaceText := d.namespaceText.getD UnitNaming.default.namespaceText
  installSuffix := d.installSuffix.getD UnitNaming.default.installSuffix
  completionSuffix := d.completionSuffix.getD UnitNaming.default.completionSuffix

def ofDraft (d : Draft) : Except UsageError UnitsRequest :=
  match d.snapshot, d.unit with
  | some path, some unit => .ok ⟨path, unit, d.naming⟩
  | _, _ => .error .missingRequiredArgument

end UnitsRequest

namespace Invocation

def verifyName : Text := "verify".toList
def unitsName : Text := "units".toList
def helpCommand : Text := "help".toList

def subcommands : List Text := [verifyName, unitsName, helpCommand]

def named (name : Text) : Option (Named LogSettings) :=
  if helpName name then some (.stop .helpAsked)
  else if name = "version".toList then some (.stop .versionAsked)
  else LogSettings.named id (fun log _ => log) name

/-- **The level of the program itself**: it takes no value without a name.  Behind two dashes a subcommand is taken for
a value that should not be there. -/
def level : Level LogSettings where
  named := named
  letter := fun c => if c = 'V' then some .versionAsked else helpLetter c
  positions := []
  subcommands := subcommands
  stray := fun isOpen value => if !isOpen && subcommands.contains value then .unknownArgument else .invalidSubcommand

/-- What a subcommand says: its command, and its settings for the log. -/
def ofSubcommand (name : Text) (args : List Text) : Except UsageError (Command × LogSettings) :=
  if name = verifyName then do
    let said ← VerifyRequest.level.read .empty args
    let draft ← said.pending.settle said.value
    let request ← VerifyRequest.ofDraft draft
    .ok (.verify request, draft.log)
  else if name = unitsName then do
    let said ← UnitsRequest.level.read .empty args
    let draft ← said.pending.settle said.value
    let request ← UnitsRequest.ofDraft draft
    .ok (.units request, draft.log)
  else if args.length = 0 ∨ (args.length = 1 ∧ args.all subcommands.contains) then .error .helpAsked
  else .error .invalidSubcommand

def defaultLevel : Text := "warn".toList

/-- **The invocation that arguments make.**  The mistakes of a subcommand come before those of the program. -/
def parse (args : List Text) : Except UsageError Invocation := do
  let said ← level.read .none args
  match said.subcommand with
  | some (name, rest) =>
    let (command, inner) ← ofSubcommand name rest
    let outer ← said.pending.settle said.value
    let log := inner.withOuter outer
    .ok ⟨command, log.level.getD defaultLevel, log.format.getD .pretty⟩
  | none =>
    let outer ← said.pending.settle said.value
    if outer.isNone then .error .nothingGiven else .error .missingSubcommand

end Invocation

/-- A snapshot with one touched service. -/
example : Invocation.parse ["verify".toList, "s.json".toList, "--touched=a.b".toList]
    = .ok ⟨.verify ⟨"s.json".toList, [⟨["a".toList, "b".toList]⟩], .text, true⟩, "warn".toList, .pretty⟩ := by rfl

/-- An option that is unknown wins over a bad value in front of it. -/
example : Invocation.parse (["verify", "--touched", "a..b", "--bogus"].map String.toList) = .error .unknownArgument := by
  rfl

end CommandLine
end ServiceStability
