import ServiceStability.Yaml.Tag
/-!
# Yaml.Node — the value that a text stands for

A document holds one value: a scalar, a sequence or a mapping.  A value can have a number, and an alias stands for the
value with its number, which may be anywhere in the document, even around the alias.

- `Node`: the values.
- `Document`: a value, and the values that aliases stand for.
-/
namespace ServiceStability
namespace Yaml

/-- **A value.** -/
inductive Node where
  | scalar (tag : Option TagName) (isPlain : Bool) (text : Text)
  | sequence (items : List Node)
  | mapping (entries : List (Node × Node))
  | alias (number : Nat)

namespace Node

def empty : Node := .scalar none true []

mutual

/-- **The number of parts of a value**: a scalar or alias is one, and what opens and closes has two more than its
content. -/
def parts : Node → Nat
  | .scalar _ _ _ => 1
  | .alias _ => 1
  | .sequence items => itemParts items + 2
  | .mapping entries => entryParts entries + 2

def itemParts : List Node → Nat
  | [] => 0
  | item :: rest => item.parts + itemParts rest

def entryParts : List (Node × Node) → Nat
  | [] => 0
  | (key, value) :: rest => key.parts + value.parts + entryParts rest

end

end Node

/-- **A document**: its value, and the values with numbers. -/
structure Document where
  root : Node
  numbered : List (Nat × Node)

/-- A mapping with one entry has four parts. -/
example : (Node.mapping [(.empty, .alias 0)]).parts = 4 := by decide

end Yaml
end ServiceStability
