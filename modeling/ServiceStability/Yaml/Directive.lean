import ServiceStability.Yaml.Tag
/-!
# Yaml.Directive — what a line in front of a document tells

A line that begins with a percent sign tells the version of the language, or what a handle stands for.

- `Directive`: what is told.
- `directiveBehind`: the directive behind a percent sign.
-/
namespace ServiceStability
namespace Yaml

/-- **What a line in front of a document tells.** -/
inductive Directive where
  | version (major minor : Nat)
  | handle (handle : Text) (start : TagName)
deriving DecidableEq

def isKnownVersion (major minor : Nat) : Bool := major == 1 && (minor == 1 || minor == 2)

def behindBlanks (here : List Mark) : List Mark := here.dropWhile fun m => isSpaceOrTab m.char

def versionNumber (here : List Mark) : Option (Nat × List Mark) :=
  let digits := here.takeWhile fun m => m.char.isDigit
  if digits.isEmpty || 9 < digits.length then none
  else some (digits.foldl (fun n m => n * 10 + (m.char.toNat - '0'.toNat)) 0, here.drop digits.length)

/-- **A version**: two numbers with a point between them. -/
def versionBehind (here : List Mark) : Option (Directive × List Mark) := do
  let (major, rest) ← versionNumber (behindBlanks here)
  if Mark.startsWith '.' rest then
    let (minor, rest) ← versionNumber rest.tail
    some (.version major minor, rest)
  else none

/-- **A handle**: an exclamation mark alone, or two with a name between them that may be empty. -/
def handleOf (here : List Mark) : Option (Text × List Mark) :=
  if !Mark.startsWith '!' here then none
  else
    let word := here.tail.takeWhile fun m => isNameChar m.char
    let rest := here.tail.drop word.length
    if Mark.startsWith '!' rest then some ('!' :: (Mark.chars word ++ ['!']), rest.tail)
    else if word.isEmpty then some (['!'], rest)
    else none

/-- **What a handle stands for**: the handle, blanks, and the beginning of a name. -/
def handleBehind (here : List Mark) : Option (Directive × List Mark) := do
  let (handle, rest) ← handleOf (behindBlanks here)
  if rest.head?.any fun m => isSpaceOrTab m.char then
    let (start, rest) ← someTagName true (behindBlanks rest)
    if Mark.endsWord rest then some (.handle handle start, rest) else none
  else none

/-- **The directive behind a percent sign**, and what is left behind its line. -/
def directiveBehind (here : List Mark) : Option (Directive × List Mark) := do
  let word := here.takeWhile fun m => isNameChar m.char
  let rest := here.drop word.length
  if !Mark.endsWord rest then none
  else
    let (directive, rest) ←
      if Mark.chars word = "YAML".toList then versionBehind rest
      else if Mark.chars word = "TAG".toList then handleBehind rest
      else none
    some (directive, ← Mark.behindLine rest)

/-- A comment may stand behind a version. -/
example : (directiveBehind (Mark.ofText "YAML 1.2 # c\n---".toList)).map (·.1) = some (.version 1 2) := by decide +kernel

/-- A handle stands for the beginning of a name. -/
example : (directiveBehind (Mark.ofText "TAG !e! tag:x,2000:\n".toList)).map (·.1)
    = some (.handle "!e!".toList (TagName.ofText "tag:x,2000:".toList)) := by decide +kernel

end Yaml
end ServiceStability
