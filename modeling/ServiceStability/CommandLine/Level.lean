import ServiceStability.Text.Basic
/-!
# CommandLine.Level — reading arguments at one level of a command line

A command line has levels: the program itself, and the subcommand that it runs.  At each level the arguments are options
with a name, flags, and values that are known by their position.  A value is taken into account only when the argument
behind it is reached, or the end; so a mistake further to the right can win over a bad value.

- `Level`: what a level knows.
- `Level.read`: what the arguments of a level say, up to a subcommand.
-/
namespace ServiceStability
namespace CommandLine

/-- **Why arguments make no command.** -/
inductive UsageError where
  /-- A value that is no name. -/
  | valueValidation
  /-- A value that is missing, empty or not among the choices. -/
  | invalidValue
  | tooManyValues
  /-- An option that may be given once is given again. -/
  | argumentConflict
  | missingRequiredArgument
  | unknownArgument
  | invalidSubcommand
  | missingSubcommand
  /-- Nothing is given at all. -/
  | nothingGiven
  | helpAsked
  | versionAsked
deriving DecidableEq

/-- **What an argument with a name does**, where what is said so far is a value of `σ`. -/
inductive Named (σ : Type) where
  | option (set : Text → σ → Except UsageError σ)
  | flag (set : σ → Except UsageError σ)
  /-- It ends the reading. -/
  | stop (reason : UsageError)

/-- **What a level knows.** -/
structure Level (σ : Type) where
  named : Text → Option (Named σ)
  letter : Char → Option UsageError
  positions : List (Text → σ → Except UsageError σ)
  subcommands : List Text
  /-- The error of a value that has no position; `false` behind two dashes. -/
  stray : Bool → Text → UsageError

/-- **What still has to be taken into account.** -/
inductive Pending (σ : Type) where
  | nothing
  | awaits (set : Text → σ → Except UsageError σ)
  | value (set : σ → Except UsageError σ)

namespace Pending

variable {σ : Type}

def settle : Pending σ → σ → Except UsageError σ
  | .nothing, s => .ok s
  | .awaits _, _ => .error .invalidValue
  | .value set, s => set s

end Pending

/-- **What the arguments of a level say**: what is said so far, what is still to be taken into account, and the
subcommand with the arguments behind it. -/
structure Said (σ : Type) where
  value : σ
  pending : Pending σ
  subcommand : Option (Text × List Text)

/-- The parts of an argument that begins with two dashes: its name, and the value behind an equals sign. -/
def longParts (text : Text) : Text × Option Text :=
  let name := text.takeWhile fun c => c != '='
  match text.dropWhile fun c => c != '=' with
  | [] => (name, none)
  | _ :: value => (name, some value)

/-- **The forms of an argument.** -/
inductive Form where
  | separator
  | long (name : Text) (value : Option Text)
  | short (letter : Char)
  | plain
deriving DecidableEq

/-- The form of an argument; one dash alone is plain. -/
def Form.of : Text → Form
  | ['-', '-'] => .separator
  | '-' :: '-' :: text => .long (longParts text).1 (longParts text).2
  | '-' :: letter :: _ => .short letter
  | _ => .plain

namespace Level

variable {σ : Type} (level : Level σ)

/-- What an argument with a name does to what is said so far. -/
def takeNamed (pending : Pending σ) (s : σ) (name : Text) (value : Option Text) : Except UsageError (Pending σ × σ) :=
  match level.named name, value with
  | none, _ => .error .unknownArgument
  | some (.option set), some value => do
    let s ← set value (← pending.settle s)
    .ok (.nothing, s)
  | some (.option set), none => do
    let s ← pending.settle s
    .ok (.awaits set, s)
  | some _, some _ => .error .tooManyValues
  | some (.flag set), none => do
    let s ← set (← pending.settle s)
    .ok (.nothing, s)
  | some (.stop reason), none => do
    let _ ← pending.settle s
    .error reason

/-- What a letter does: it ends the reading, one way or another. -/
def takeLetter (pending : Pending σ) (s : σ) (letter : Char) : UsageError :=
  match level.letter letter with
  | none => .unknownArgument
  | some reason =>
    match pending.settle s with
    | .error problem => problem
    | .ok _ => reason

/-- What a value without a name does, behind so many others. -/
def takePosition (isOpen : Bool) (taken : Nat) (pending : Pending σ) (s : σ) (value : Text) :
    Except UsageError (Pending σ × σ) :=
  match level.positions[taken]? with
  | none => .error (level.stray isOpen value)
  | some set => do
    let s ← pending.settle s
    .ok (.value (set value), s)

/-- **Read arguments** behind so many values without a name; behind two dashes all of them are values. -/
def readFrom (isOpen : Bool) (taken : Nat) (pending : Pending σ) (s : σ) : List Text → Except UsageError (Said σ)
  | [] => .ok ⟨s, pending, none⟩
  | arg :: rest =>
    if isOpen then
      match pending, Form.of arg with
      | .awaits set, .plain => readFrom true taken (.value (set arg)) s rest
      | _, .separator => readFrom false taken pending s rest
      | _, .long name value =>
        match level.takeNamed pending s name value with
        | .error problem => .error problem
        | .ok (pending, s) => readFrom true taken pending s rest
      | _, .short letter => .error (level.takeLetter pending s letter)
      | _, .plain =>
        if level.subcommands.contains arg then .ok ⟨s, pending, some (arg, rest)⟩
        else
          match level.takePosition true taken pending s arg with
          | .error problem => .error problem
          | .ok (pending, s) => readFrom true (taken + 1) pending s rest
    else
      match level.takePosition false taken pending s arg with
      | .error problem => .error problem
      | .ok (pending, s) => readFrom false (taken + 1) pending s rest

def read (s : σ) (args : List Text) : Except UsageError (Said σ) := level.readFrom true 0 .nothing s args

end Level

/-- The value of an option that may be given once. -/
def once {α : Type} (old : Option α) (value : Except UsageError α) : Except UsageError (Option α) :=
  match old with
  | some _ => .error .argumentConflict
  | none => value.map some

def choice {α : Type} (table : List (Text × α)) (name : Text) : Except UsageError α :=
  match table.lookup name with
  | some value => .ok value
  | none => .error .invalidValue

/-- A value may stand behind an equals sign. -/
example : Form.of "--a=b=c".toList = .long ['a'] (some "b=c".toList) := by decide

end CommandLine
end ServiceStability
