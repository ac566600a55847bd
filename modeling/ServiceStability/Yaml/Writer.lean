import ServiceStability.Yaml.Scalar
import ServiceStability.Json.Basic
/-!
# Yaml.Writer — documents in block notation

Mappings inside mappings are indented by two blanks, sequences stand at the column of their key, and empty containers
are written in brackets.

- `Yaml.write`: the text of a document.
-/
namespace ServiceStability
namespace Yaml

/-- The most bytes that a key may have in front of a colon on its own line. -/
def longestSimpleKey : Nat := 128

def isSimpleKey (key : Text) : Bool := !isMultiline key && decide (Text.byteCount key ≤ longestSimpleKey)

/-- A key and its colon, at a column; a key that does not fit in front of a colon stands behind a question mark. -/
def keyText (column : Nat) (key : Text) : Text :=
  if isSimpleKey key then (scalarLine (column + 2) key).dropLast ++ [':']
  else "? ".toList ++ scalarLine (column + 2) key ++ indent column ++ [':']

mutual

def memberValue (column : Nat) : Json → Text
  | .null => " null\n".toList
  | .bool value => ' ' :: Text.line (Json.boolText value)
  | .text value => ' ' :: scalarLine (column + 2) value
  | .array [] => " []\n".toList
  | .array (item :: rest) => '\n' :: (indent column ++ sequence column (item :: rest))
  | .object [] => [' ', '\x7b', '\x7d', '\n']
  | .object (member :: rest) => '\n' :: (indent (column + 2) ++ mapping (column + 2) (member :: rest))

def itemValue (column : Nat) : Json → Text
  | .null => " null\n".toList
  | .bool value => ' ' :: Text.line (Json.boolText value)
  | .text value => ' ' :: scalarLine (column + 2) value
  | .array [] => " []\n".toList
  | .array (item :: rest) => ' ' :: sequence (column + 2) (item :: rest)
  | .object [] => [' ', '\x7b', '\x7d', '\n']
  | .object (member :: rest) => ' ' :: mapping (column + 2) (member :: rest)

/-- The members of a mapping at a column, the first one where the text stands. -/
def mapping (column : Nat) : List (Text × Json) → Text
  | [] => []
  | [(key, value)] => keyText column key ++ memberValue column value
  | (key, value) :: rest =>
    keyText column key ++ memberValue column value ++ indent column ++ mapping column rest

/-- The items of a sequence at a column, the first one where the text stands. -/
def sequence (column : Nat) : List Json → Text
  | [] => []
  | [item] => '-' :: itemValue column item
  | item :: rest => '-' :: (itemValue column item ++ indent column ++ sequence column rest)

end

def write : Json → Text
  | .null => "null\n".toList
  | .bool value => Text.line (Json.boolText value)
  | .text value => scalarLine 2 value
  | .array [] => "[]\n".toList
  | .array (item :: rest) => sequence 0 (item :: rest)
  | .object [] => ['\x7b', '\x7d', '\n']
  | .object (member :: rest) => mapping 0 (member :: rest)

/-- A sequence stands at the column of its key. -/
example : write (.object [("a".toList, Json.texts ["b".toList, "12".toList])]) = "a:\n- b\n- '12'\n".toList := by
  decide +kernel

end Yaml
end ServiceStability
