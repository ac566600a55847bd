import ServiceStability.Yaml.Characters
import ServiceStability.Yaml.Resolution
/-!
# Yaml.Scalar — how a string is written

A string is written plain if it can be, and otherwise in single quotes, as a literal block or, as a last resort, in
double quotes with escapes.
-/
namespace ServiceStability
namespace Yaml

/-- **The four ways to write a string.** -/
inductive Style where
  | plain
  | single
  | double
  | literal
deriving DecidableEq

/-- Whether a character can be written without an escape. -/
def isWritable (c : Char) : Bool :=
  c == '\n' || ('\x20' ≤ c && c ≤ '\x7e') || ('\u00a0' ≤ c && c != '\ufeff' && c != '\ufffe' && c != '\uffff')

/-- Characters that mean something at the start of a plain scalar. -/
def startIndicators : List Char := "#,[]\x7b\x7d&*!|>'\"%@\x60".toList

def startsWithIndicator : Text → Bool
  | [] => false
  | c :: rest =>
    startIndicators.contains c || ((c == '?' || c == ':' || c == '-') && endsWord rest)
      || "---".toList.isPrefixOf (c :: rest) || "...".toList.isPrefixOf (c :: rest)

/-- Whether a colon in front of a blank, or a hash sign behind one, stands inside a text. -/
def holdsIndicator : Text → Bool
  | [] => false
  | c :: rest =>
    (match rest with
      | [] => false
      | d :: after => (d == ':' && endsWord after) || (d == '#' && (isSpaceOrTab c || isBreak c)))
    || holdsIndicator rest

def holdsSpaceBreak : Text → Bool
  | [] => false
  | c :: rest => (c == ' ' && rest.head?.any isBreak) || holdsSpaceBreak rest

def holdsBreakSpace : Text → Bool
  | [] => false
  | c :: rest => (isBreak c && rest.head? == some ' ') || holdsBreakSpace rest

def isEdge (c : Char) : Bool := c == ' ' || isBreak c

def isMultiline (text : Text) : Bool := text.any isBreak

/-- Whether a text may stand plain in a block. -/
def plainAllowed (text : Text) : Bool :=
  !(text.head?.any isEdge) && !(text.getLast?.any isEdge) && !isMultiline text && text.all isWritable
    && !startsWithIndicator text && !holdsIndicator text

def singleAllowed (text : Text) : Bool :=
  text.all isWritable && !holdsSpaceBreak text && !holdsBreakSpace text

def literalAllowed (text : Text) : Bool :=
  text.all isWritable && !holdsSpaceBreak text && text.getLast? != some ' '

/-- **The way to write a text.**  Lines ask for a literal block. -/
def styleOf (text : Text) : Style :=
  if text.contains '\n' then (if literalAllowed text then .literal else .double)
  else if !looksTyped text && plainAllowed text then .plain
  else if singleAllowed text then .single
  else .double

/-- The digits of a number in upper-case hexadecimal, in so many places. -/
def upperHex (places n : Nat) : Text :=
  let digits := (Nat.toDigits 16 n).map Char.toUpper
  List.replicate (places - digits.length) '0' ++ digits

def letterEscapes : List (Char × Char) :=
  [('\x00', '0'), ('\x07', 'a'), ('\x08', 'b'), ('\t', 't'), ('\n', 'n'), ('\x0b', 'v'), ('\x0c', 'f'), ('\r', 'r'),
   ('\x1b', 'e'), ('"', '"'), ('\\', '\\'), ('\x85', 'N'), ('\u00a0', '_'), ('\u2028', 'L'), ('\u2029', 'P')]

def escaped (c : Char) : Text :=
  match letterEscapes.lookup c with
  | some letter => ['\\', letter]
  | none =>
    if c.toNat ≤ 0xff then '\\' :: 'x' :: upperHex 2 c.toNat
    else if c.toNat ≤ 0xffff then '\\' :: 'u' :: upperHex 4 c.toNat
    else '\\' :: 'U' :: upperHex 8 c.toNat

def doubleChar (c : Char) : Text :=
  if !isWritable c || isBreak c || c == '"' || c == '\\' then escaped c else [c]

def indent (columns : Nat) : Text := List.replicate columns ' '

/-- The lines of a block, each that is not empty indented; `fresh` tells whether a line is about to begin. -/
def indentLines (columns : Nat) (char : Char → Text) : Bool → Text → Text
  | _, [] => []
  | fresh, c :: rest =>
    if isBreak c then c :: indentLines columns char true rest
    else (if fresh then indent columns else []) ++ char c ++ indentLines columns char false rest

def singleChar (c : Char) : Text := if c == '\'' then ['\'', '\''] else [c]

/-- How many line breaks end a text, up to two, a text of breaks alone counting as two. -/
def chomping (text : Text) : Text :=
  match text.reverse with
  | [] => ['-']
  | c :: rest =>
    if !isBreak c then ['-']
    else match rest with
      | [] => ['+']
      | d :: _ => if isBreak d then ['+'] else []

/-- The header of a literal block: the indentation is given when the text itself begins with a blank or a break. -/
def literalHeader (text : Text) : Text :=
  '|' :: ((if text.head?.any isEdge then ['2'] else []) ++ chomping text)

/-- The end of a line, unless the text is at one. -/
def finishLine (text : Text) : Text := if text.getLast?.any isBreak then [] else ['\n']

/-- **A scalar in its style**, its further lines indented, with the end of its last line. -/
def scalarLine (columns : Nat) (text : Text) : Text :=
  match styleOf text with
  | .plain => text ++ ['\n']
  | .single =>
    '\'' :: (indentLines columns singleChar false text
      ++ (if text.getLast?.any isBreak then indent columns else []) ++ ['\'', '\n'])
  | .double => '"' :: (text.flatMap doubleChar ++ ['"', '\n'])
  | .literal => literalHeader text ++ '\n' :: (indentLines columns (fun c => [c]) true text ++ finishLine text)

/-- Text on two lines stands in a block that is indented. -/
example : scalarLine 2 "a\n  b".toList = "|-\n  a\n    b\n".toList := by decide +kernel

/-- A colon in front of a blank asks for quotes. -/
example : scalarLine 2 "key: it's".toList = "'key: it''s'\n".toList := by decide +kernel

end Yaml
end ServiceStability
