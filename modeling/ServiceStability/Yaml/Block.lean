import ServiceStability.Yaml.Mark
/-!
# Yaml.Block — scalars in blocks of their own

A literal block keeps its lines, a folded block joins them.  Its indentation is that of its first line that is not
blank, unless the header gives it, and the header also tells what becomes of the line breaks at the end.

- `Yaml.block`: the scalar behind its first indicator.
-/
namespace ServiceStability
namespace Yaml

/-- **What becomes of the line breaks at the end.** -/
inductive Chomping where
  | strip
  | clip
  | keep
deriving DecidableEq

/-- **One line of a block**: its text, its line break, and the breaks of the blank lines behind it. -/
structure BlockLine where
  text : Text
  ending : Text
  blank : Text

def chomping? : List Mark → Option Chomping × List Mark
  | [] => (none, [])
  | m :: rest =>
    if m.char == '+' then (some .keep, rest) else if m.char == '-' then (some .strip, rest) else (none, m :: rest)

/-- A digit in a header, which may not be zero. -/
def indentation? : List Mark → Option (Option Nat × List Mark)
  | [] => some (none, [])
  | m :: rest =>
    if m.char == '0' then none
    else if m.char.isDigit then some (some (m.char.toNat - '0'.toNat), rest)
    else some (none, m :: rest)

/-- **The header**: a sign and a digit in either order, each of them optional. -/
def blockHeader (here : List Mark) : Option (Chomping × Option Nat × List Mark) := do
  match chomping? here with
  | (some sign, rest) =>
    let (digit, rest) ← indentation? rest
    some (sign, digit, rest)
  | (none, _) =>
    let (digit, rest) ← indentation? here
    if digit.isNone then some (.clip, none, rest)
    else
      let (sign, rest) := chomping? rest
      some (sign.getD .clip, digit, rest)

/-- **Blank lines**, and the indentation of the line behind them up to a limit: their breaks, the widest indentation,
and what is left.  No tab may stand within the indentation. -/
def blankLines (limit : Option Nat) (widest : Nat) : List Mark → Option (Text × Nat × List Mark)
  | [] => some ([], widest, [])
  | m :: rest =>
    if m.char == ' ' && limit.all (m.column < ·) then blankLines limit (max widest (m.column + 1)) rest
    else if m.char == '\t' && limit.all (m.column < ·) then none
    else if m.isBreak then
      (blankLines limit widest rest).map fun (breaks, widest, left) => (m.char :: breaks, widest, left)
    else some ([], widest, m :: rest)

/-- The lines at an indentation; each takes one unit of the last number. -/
def blockLines (indentation : Nat) : Nat → List Mark → Option (List BlockLine × List Mark)
  | 0, _ => none
  | lines + 1, here =>
    if here.head?.any (·.column == indentation) then do
      let text := here.takeWhile fun m => !m.isBreak
      let behind := here.dropWhile fun m => !m.isBreak
      let (blank, _, left) ← blankLines (some indentation) 0 behind.tail
      let (more, rest) ← blockLines indentation lines left
      some (⟨Mark.chars text, Mark.chars (behind.take 1), blank⟩ :: more, rest)
    else some ([], here)

def BlockLine.isIndented (line : BlockLine) : Bool := line.text.head?.any isSpaceOrTab

def BlockLine.separator (folded : Bool) (line next : BlockLine) : Text :=
  if folded && line.ending == ['\n'] && !line.isIndented && !next.isIndented then
    if line.blank.isEmpty then [' '] else line.blank
  else line.ending ++ line.blank

/-- What is left of the line breaks behind the last line. -/
def Chomping.apply (ending blank : Text) : Chomping → Text
  | .strip => []
  | .clip => ending
  | .keep => ending ++ blank

def blockText (folded : Bool) (chomping : Chomping) : List BlockLine → Text
  | [] => []
  | [line] => line.text ++ chomping.apply line.ending line.blank
  | line :: next :: rest => line.text ++ line.separator folded next ++ blockText folded chomping (next :: rest)

/-- **The scalar behind its first indicator**, and what is left, in a block that is indented to `parent` and whose
content stands at a margin. -/
def block (folded : Bool) (parent margin : Nat) (here : List Mark) : Option (Text × List Mark) := do
  let (chomping, digit, rest) ← blockHeader here
  let rest ← Mark.behindLine rest
  let given := digit.map (parent + ·)
  let (first, widest, rest) ← blankLines given 0 rest
  let (lines, rest) ← blockLines (given.getD (max widest (max margin 1))) (rest.length + 1) rest
  if lines.isEmpty then some (chomping.apply [] first, rest)
  else some (first ++ blockText folded chomping lines, rest)

/-- A literal block keeps its lines, and a further indentation belongs to the text. -/
example : (block false 0 0 (Mark.ofText "\n  a\n    b\nc".toList)).map (·.1) = some "a\n  b\n".toList := by decide

/-- A folded block joins its lines, and the header may drop the last break. -/
example : (block true 0 0 (Mark.ofText "-\n  a\n  b\n\n  c\n".toList)).map (·.1) = some "a b\nc".toList := by decide

end Yaml
end ServiceStability
