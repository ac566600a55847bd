import ServiceStability.Name.Basic
/-!
# Name.Reader — reading a name from its canonical form

The reader takes one character at a time and knows only where it stands: at the start of a segment, in a bare segment,
between quotes, behind a backslash, or behind a closing quote.  The first fault from the left decides the error.
-/
namespace ServiceStability

/-- **Why a text is no name.** -/
inductive NameError where
  | empty
  /-- A bare segment without characters, as in `a..b`. -/
  | emptySegment
  /-- A quote or backslash in a bare segment, or anything but a dot behind a closing quote. -/
  | invalidSegment (input : Text)
  | unterminatedQuote (input : Text)
deriving DecidableEq

def NameError.message : NameError → Text
  | .empty => "service name is empty".toList
  | .emptySegment => "service name contains empty segment".toList
  | .invalidSegment input => "invalid segment in service name: ".toList ++ input
  | .unterminatedQuote input => "unterminated quote in service name: ".toList ++ input

namespace ServiceName

inductive Place where
  | segmentStart
  | bare
  | quoted
  | escaped
  | closed
deriving DecidableEq

inductive Fault where
  | emptySegment
  | invalidSegment
  | unterminatedQuote
deriving DecidableEq

abbrev Remainder := Text × List Text

def Remainder.push (c : Char) (r : Remainder) : Remainder := (c :: r.1, r.2)

def Remainder.next (r : Remainder) : Remainder := ([], r.1 :: r.2)

/-- **Read on from a place**: the rest of the segment at hand and all segments after it, or the first fault. -/
def readFrom : Place → Text → Except Fault Remainder
  | .segmentStart, [] => .error .emptySegment
  | .segmentStart, c :: rest =>
    if c = '"' then readFrom .quoted rest
    else if c = '.' then .error .emptySegment
    else if c = '\\' then .error .invalidSegment
    else (readFrom .bare rest).map (·.push c)
  | .bare, [] => .ok ([], [])
  | .bare, c :: rest =>
    if c = '.' then (readFrom .segmentStart rest).map (·.next)
    else if c = '"' ∨ c = '\\' then .error .invalidSegment
    else (readFrom .bare rest).map (·.push c)
  | .quoted, [] => .error .unterminatedQuote
  | .quoted, c :: rest =>
    if c = '\\' then readFrom .escaped rest
    else if c = '"' then readFrom .closed rest
    else (readFrom .quoted rest).map (·.push c)
  | .escaped, [] => .error .unterminatedQuote
  | .escaped, c :: rest => (readFrom .quoted rest).map (·.push c)
  | .closed, [] => .ok ([], [])
  | .closed, c :: rest =>
    if c = '.' then (readFrom .segmentStart rest).map (·.next) else .error .invalidSegment

def Fault.inText (input : Text) : Fault → NameError
  | .emptySegment => .emptySegment
  | .invalidSegment => .invalidSegment input
  | .unterminatedQuote => .unterminatedQuote input

def parse (input : Text) : Except NameError ServiceName :=
  if input = [] then .error .empty
  else match readFrom .segmentStart input with
    | .ok (first, rest) => .ok ⟨first :: rest⟩
    | .error fault => .error (fault.inText input)

/-- Quotes may enclose any segment, and a backslash stands for the character behind it. -/
example : parse "a.\"b.\\\"\".\"\"".toList = .ok ⟨["a".toList, "b.\"".toList, []]⟩ := by rfl

/-- A dot at the end leaves an empty segment. -/
example : parse "a.".toList = .error .emptySegment := by rfl

/-- Behind a closing quote only a dot or the end may follow. -/
example : parse "\"a\"b".toList = .error (.invalidSegment "\"a\"b".toList) := by rfl

end ServiceName
end ServiceStability
