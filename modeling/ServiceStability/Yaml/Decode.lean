import ServiceStability.Yaml.Grammar
import ServiceStability.Yaml.Resolution
/-!
# Yaml.Decode — taking values out of a document

A scalar is whatever the place where it stands needs, so the reading of a node follows the type that is asked for, and
so it ends even where an alias stands for a value around it.  Nothing is told about what does not fit.

- `Node.Decoder`: from a node to a value.
- `Document.decode`: from a document to a value.
-/
namespace ServiceStability
namespace Yaml

/-- **What aliases stand for**, and how many of them may still be followed. -/
structure Aliases where
  numbered : List (Nat × Node)
  left : Nat

abbrev Decoding := StateT Aliases Option

namespace Node

abbrev Decoder (α : Type) := Node → Decoding α

/-- **What is meant by a node**: an alias stands for another one. -/
def meant : Decoder Node
  | .alias number => do
    let s ← get
    match s.left, s.numbered.lookup number with
    | left + 1, some n =>
      set { s with left := left }
      return n
    | _, _ => failure
  | n => return n

/-- **A string**: any scalar, however it is written. -/
def toText : Decoder Text := fun n => do
  match ← n.meant with
  | .scalar _ _ text => return text
  | _ => failure

def isMissing : Node → Bool
  | .scalar _ true [] => true
  | _ => false

/-- **A list**: a sequence, or nothing at all. -/
def toList {α : Type} (decode : Decoder α) : Decoder (List α) := fun n => do
  match ← n.meant with
  | .sequence items => items.mapM decode
  | n => if n.isMissing then return [] else failure

/-- Whether a plain scalar with a tag is null, if the tag allows it to be anything else. -/
def isNullUnder (tag : Option TagName) (text : Text) : Option Bool :=
  match tag with
  | none => some (text.isEmpty || isNull text)
  | some name =>
    if name = .ofLanguage "null" then if isNull text then some true else none
    else some false

def toOption {α : Type} (decode : Decoder α) : Decoder (Option α) := fun n => do
  let n ← n.meant
  match n with
  | .scalar tag true text =>
    match isNullUnder tag text with
    | none => failure
    | some true => return none
    | some false => return some (← decode n)
  | _ => return some (← decode n)

def variantTag? (tag : Option TagName) : Option Text :=
  match tag >>= TagName.text? with
  | some ['!'] => some ['!']
  | some ('!' :: name) => some name
  | _ => none

def variant {α : Type} (table : List (Text × α)) (name : Text) : Decoding α :=
  match table.lookup name with
  | some value => return value
  | none => failure

/-- **One of several names**: a scalar, or a tag on nothing. -/
def toVariant {α : Type} (table : List (Text × α)) : Decoder α := fun n => do
  match ← n.meant with
  | .scalar tag isPlain text =>
    match variantTag? tag with
    | none => variant table text
    | some name => if isPlain && (text.isEmpty || isNull text) then variant table name else failure
  | _ => failure

/-- **A record**: what stands under its keys. -/
abbrev Record := List (Text × Node)

/-- The entries with certain keys, each at most once.  What stands under another key is passed over. -/
def entriesOf (keys : List Text) : List (Node × Node) → Decoding Record
  | [] => return []
  | (key, value) :: rest => do
    let key ← key.toText
    let others ← entriesOf keys rest
    if !keys.contains key then return others
    else if others.any (·.1 == key) then failure
    else return (key, value) :: others

/-- **The record with certain keys**: a mapping, or nothing at all. -/
def toRecord (keys : List String) : Decoder Record := fun n => do
  match ← n.meant with
  | .mapping entries => entriesOf (keys.map String.toList) entries
  | n => if n.isMissing then return [] else failure

def Record.required {α : Type} (record : Record) (key : String) (decode : Decoder α) : Decoding α :=
  match record.lookup key.toList with
  | some n => decode n
  | none => failure

/-- What stands under a key that may be left out. -/
def Record.defaulted {α : Type} (record : Record) (key : String) (value : α) (decode : Decoder α) : Decoding α :=
  match record.lookup key.toList with
  | some n => decode n
  | none => return value

end Node

namespace Document

/-- For each part of a document, aliases may be followed so many times. -/
def mostAliases : Nat := 100

def decode {α : Type} (decode : Node.Decoder α) (document : Document) : Option α :=
  (decode document.root).run' ⟨document.numbered, mostAliases * document.root.parts⟩

/-- An entry with two fields, one of which may be left out. -/
example :
    let fields : Node.Decoder (Text × List Text) := fun n => do
      let record ← n.toRecord ["a", "b"]
      return (← record.required "a" Node.toText, ← record.defaulted "b" [] (Node.toList Node.toText))
    (ofText "a: x".toList >>= decode fields) = some ("x".toList, []) := by decide +kernel

/-- An anchor that is written again shares its number with the next new one, whose value then counts. -/
example : (ofText "[&a x, &a y, *a, &b z]".toList >>= decode (Node.toList Node.toText))
    = some ["x".toList, "y".toList, "z".toList, "z".toList] := by decide +kernel

end Document
end Yaml
end ServiceStability
