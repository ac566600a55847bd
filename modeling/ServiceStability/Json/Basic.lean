import ServiceStability.Text.Literal
/-!
# Json.Basic — documents and their two written forms

A document is what reports and snapshots are written as.  The members of an object keep their order.

- `Json.compact`: without any blank.
- `Json.pretty`: one member or item on a line, indented by two blanks a level.
-/
namespace ServiceStability

/-- **A document.**  Numbers do not occur in what this library writes. -/
inductive Json where
  | null
  | bool (value : Bool)
  | text (value : Text)
  | array (items : List Json)
  | object (members : List (Text × Json))

namespace Json

def fourHex (n : Nat) : Text :=
  let digits := Text.hexDigits n
  List.replicate (4 - digits.length) '0' ++ digits

/-- **One character inside a string**: quote, backslash and control characters are escaped, all else is raw. -/
def stringChar (c : Char) : Text :=
  if c = '"' then ['\\', '"']
  else if c = '\\' then ['\\', '\\']
  else if c = '\n' then ['\\', 'n']
  else if c = '\r' then ['\\', 'r']
  else if c = '\t' then ['\\', 't']
  else if c = '\x08' then ['\\', 'b']
  else if c = '\x0c' then ['\\', 'f']
  else if c.toNat < 0x20 then ['\\', 'u'] ++ fourHex c.toNat
  else [c]

def stringText (value : Text) : Text := '"' :: (value.flatMap stringChar ++ ['"'])

def boolText (value : Bool) : Text := if value then "true".toList else "false".toList

mutual

/-- **The document without blanks.** -/
def compact : Json → Text
  | .null => "null".toList
  | .bool value => boolText value
  | .text value => stringText value
  | .array items => '[' :: (compactItems items ++ [']'])
  | .object members => '\x7b' :: (compactMembers members ++ ['\x7d'])

def compactItems : List Json → Text
  | [] => []
  | [item] => compact item
  | item :: rest => compact item ++ ',' :: compactItems rest

def compactMembers : List (Text × Json) → Text
  | [] => []
  | [(key, value)] => stringText key ++ ':' :: compact value
  | (key, value) :: rest => stringText key ++ ':' :: (compact value ++ ',' :: compactMembers rest)

end

def newLine (level : Nat) : Text := '\n' :: List.replicate (2 * level) ' '

mutual

/-- The document on lines of its own, inside so many others. -/
def prettyAt (level : Nat) : Json → Text
  | .null => "null".toList
  | .bool value => boolText value
  | .text value => stringText value
  | .array [] => "[]".toList
  | .array (item :: rest) => '[' :: (prettyItems (level + 1) (item :: rest) ++ newLine level ++ [']'])
  | .object [] => ['\x7b', '\x7d']
  | .object (member :: rest) => '\x7b' :: (prettyMembers (level + 1) (member :: rest) ++ newLine level ++ ['\x7d'])

def prettyItems (level : Nat) : List Json → Text
  | [] => []
  | [item] => newLine level ++ prettyAt level item
  | item :: rest => newLine level ++ prettyAt level item ++ ',' :: prettyItems level rest

def prettyMembers (level : Nat) : List (Text × Json) → Text
  | [] => []
  | [(key, value)] => newLine level ++ stringText key ++ ": ".toList ++ prettyAt level value
  | (key, value) :: rest =>
    newLine level ++ stringText key ++ ": ".toList ++ prettyAt level value ++ ',' :: prettyMembers level rest

end

def pretty (document : Json) : Text := prettyAt 0 document

def texts (values : List Text) : Json := .array (values.map .text)

/-- A member that is left out when there is nothing to say. -/
def memberUnless (absent : Bool) (key : Text) (value : Json) : List (Text × Json) :=
  if absent then [] else [(key, value)]

/-- Empty containers stay on one line. -/
example : pretty (.object [("a".toList, .array []), ("b".toList, texts ["c".toList])])
    = "\x7b\n  \"a\": [],\n  \"b\": [\n    \"c\"\n  ]\n\x7d".toList := by decide

end Json
end ServiceStability
