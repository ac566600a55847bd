import ServiceStability.Yaml.Characters
/-!
# Yaml.Mark — characters with their places

Where a character stands decides what it means: columns open and close blocks, and a key has to stand on one line.  So a
text is read as a list of marks, each a character with its line and column.

- `Mark.ofText`: the marks of a text.
- `Mark.behindLine`: what follows a line.
- `Mark.foldedGap`: what the blanks and line breaks between two words stand for.
-/
namespace ServiceStability
namespace Yaml

/-- **One character with its place**: its line, its column, and the number of bytes in front of it. -/
structure Mark where
  char : Char
  line : Nat
  column : Nat
  index : Nat
deriving DecidableEq

namespace Mark

def placed (line column index : Nat) : Text → List Mark
  | [] => []
  | c :: rest =>
    ⟨c, line, column, index⟩ ::
      (if isBreak c then placed (line + 1) 0 (index + c.utf8Size) rest
       else placed line (column + 1) (index + c.utf8Size) rest)

/-- **The marks of a text**, a line break being one character. -/
def ofText (text : Text) : List Mark := placed 0 0 0 (withLineFeeds text)

def chars (marks : List Mark) : Text := marks.map (·.char)

def isGap (m : Mark) : Bool := Yaml.isGap m.char

def isBreak (m : Mark) : Bool := Yaml.isBreak m.char

def endsWord : List Mark → Bool
  | [] => true
  | m :: _ => m.isGap

def startsWith (c : Char) (marks : List Mark) : Bool := marks.head?.any (·.char == c)

/-- What follows a line: blanks and a comment are passed over, and there has to be a line break or the end. -/
def behindLine (here : List Mark) : Option (List Mark) :=
  let here := here.dropWhile fun m => isSpaceOrTab m.char
  let here := if startsWith '#' here then here.dropWhile fun m => !m.isBreak else here
  match here with
  | [] => some []
  | m :: rest => if m.isBreak then some rest else none

/-- **Whether a marker between documents stands here**: three dashes or dots at the start of a line. -/
def isDocumentMarker (marks : List Mark) : Bool :=
  marks.head?.any (·.column == 0)
    && (["---".toList, "...".toList].contains (chars (marks.take 3)) && endsWord (marks.drop 3))

/-- What line breaks alone stand for: one line feed is a space, and of more than one the first one is lost. -/
def foldedBreaks : Text → Text
  | ['\n'] => [' ']
  | '\n' :: more => more
  | breaks => breaks

def breaksOf (marks : List Mark) : Text := chars (marks.filter isBreak)

/-- **What stands between two words**: blanks as they are, but around line breaks they are lost. -/
def foldedGap (gap : List Mark) : Text := if gap.any isBreak then foldedBreaks (breaksOf gap) else chars gap

/-- An empty line is one line feed. -/
example : foldedGap (ofText " \n \n".toList) = ['\n'] := by decide

end Mark
end Yaml
end ServiceStability
