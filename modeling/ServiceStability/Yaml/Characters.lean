import ServiceStability.Text.Basic
/-!
# Yaml.Characters — blanks, line breaks and what a text may hold

The classes of characters that reading and writing share, the value of a digit, and the text with each line break as
one character.
-/
namespace ServiceStability
namespace Yaml

def isBreak (c : Char) : Bool := c == '\n' || c == '\r' || c == '\x85' || c == '\u2028' || c == '\u2029'

def isSpaceOrTab (c : Char) : Bool := c == ' ' || c == '\t'

def isGap (c : Char) : Bool := isSpaceOrTab c || isBreak c

/-- Whether the character behind a place is a blank, a line break or the end of the text. -/
def endsWord : Text → Bool
  | [] => true
  | c :: _ => isGap c

/-- Characters that open and close collections in brackets, or stand between their items. -/
def flowIndicators : List Char := [',', '[', ']', '\x7b', '\x7d']

/-- **Whether a character may stand in a text at all**: control characters may not. -/
def isAllowed (c : Char) : Bool :=
  c == '\t' || c == '\n' || c == '\r' || c == '\x85' || ('\x20' ≤ c && c ≤ '\x7e')
    || ('\u00a0' ≤ c && c != '\ufffe' && c != '\uffff')

/-- **The text with each line break as one character**: a carriage return, alone or in front of a line feed, and a
next-line character count as line feeds. -/
def withLineFeeds : Text → Text
  | '\r' :: '\n' :: rest => '\n' :: withLineFeeds rest
  | '\r' :: rest => '\n' :: withLineFeeds rest
  | '\x85' :: rest => '\n' :: withLineFeeds rest
  | c :: rest => c :: withLineFeeds rest
  | [] => []

/-- The mark of byte order, which may stand in front of a line. -/
def byteOrderMark : Char := '\ufeff'

/-- Whether a character can be part of a name: of an anchor, a handle or a directive. -/
def isNameChar (c : Char) : Bool := c.isAlphanum || c == '_' || c == '-'

def hexValue? (c : Char) : Option Nat :=
  if c.isDigit then some (c.toNat - '0'.toNat)
  else if 'a' ≤ c ∧ c ≤ 'f' then some (c.toNat - 'a'.toNat + 10)
  else if 'A' ≤ c ∧ c ≤ 'F' then some (c.toNat - 'A'.toNat + 10)
  else none

def charOf? (n : Nat) : Option Char := if n.isValidChar then some (Char.ofNat n) else none

/-- Two characters can make one break. -/
example : withLineFeeds "a\r\nb\rc".toList = "a\nb\nc".toList := by decide

end Yaml
end ServiceStability
