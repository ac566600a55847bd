import ServiceStability.Json.Reader
/-!
# Json.Decode — taking values out of an outline

A decoder walks an outline from left to right and stops at the first problem: a place where the text breaks, or a value
that does not fit.

- `Decoder`: from an outline to a value.
- `Fields`: the fields of a record, each with its key, its decoder and what holds when it is absent.
-/
namespace ServiceStability

/-- **Why a document cannot be decoded.** -/
inductive DecodeError where
  | endsEarly
  /-- The text is no document, or not one that can stand here. -/
  | malformed
  | data (message : Text)
deriving DecidableEq

def Json.Break.error : Json.Break → DecodeError
  | .endsEarly => .endsEarly
  | .malformed => .malformed

namespace Decode

open Json (Break Number Outline)

abbrev Decoder (α : Type) := Outline → Except DecodeError α

def unbroken {α : Type} : Except Break α → Except DecodeError α
  | .ok value => .ok value
  | .error cause => .error cause.error

def noBreak : Option Break → Except DecodeError Unit
  | none => .ok ()
  | some cause => .error cause.error

/-- The message that something of one kind stands where another is expected. -/
def wrongKind (found expected : Text) : DecodeError :=
  .data ("invalid type: ".toList ++ found ++ ", expected ".toList ++ expected)

def ticked (text : Text) : Text := '\x60' :: (text ++ ['\x60'])

def numberText (n : Number) : Text :=
  match n with
  | .integer _ => "integer ".toList ++ ticked n.text
  | .double _ => "floating point ".toList ++ ticked n.text

/-- **The error of a value of the wrong kind.**  What cannot be read at all is no value of any kind. -/
def mismatch (expected : Text) : Outline → DecodeError
  | .null => wrongKind "null".toList expected
  | .bool value => wrongKind ("boolean ".toList ++ ticked (Json.boolText value)) expected
  | .number value _ =>
    match value with
    | .ok n => wrongKind (numberText n) expected
    | .error cause => cause.error
  | .text value _ =>
    match value with
    | .ok text => wrongKind ("string ".toList ++ Text.literal text) expected
    | .error cause => cause.error
  | .array _ _ => wrongKind "sequence".toList expected
  | .object _ _ => wrongKind "map".toList expected
  | .broken cause => cause.error
  | .cutOff => .endsEarly

def textAs (expected : Text) : Decoder Text
  | .text value _ => unbroken value
  | other => .error (mismatch expected other)

def text : Decoder Text := textAs "a string".toList

def bool : Decoder Bool
  | .bool value => .ok value
  | other => .error (mismatch "a boolean".toList other)

def unit : Decoder Unit
  | .null => .ok ()
  | other => .error (mismatch "unit".toList other)

def option {α : Type} (decode : Decoder α) : Decoder (Option α)
  | .null => .ok none
  | other => (decode other).map some

def items {α : Type} (decode : Decoder α) : List Outline → Except DecodeError (List α)
  | [] => .ok []
  | item :: rest => do
    let value ← decode item
    let values ← items decode rest
    .ok (value :: values)

def listAs {α : Type} (expected : Text) (decode : Decoder α) : Decoder (List α)
  | .array elements ending => do
    let values ← items decode elements
    noBreak ending
    .ok values
  | other => .error (mismatch expected other)

def list {α : Type} (decode : Decoder α) : Decoder (List α) := listAs "a sequence".toList decode

/-- **An array read as a set** in order of first occurrence. -/
def orderedSet {α : Type} [DecidableEq α] (decode : Decoder α) : Decoder (List α) := listAs "a set".toList decode

def members {κ ν : Type} (key : Text → Except DecodeError κ) (value : Decoder ν) :
    List (Except Break Text × Outline) → Except DecodeError (List (κ × ν))
  | [] => .ok []
  | (k, v) :: rest => do
    let k ← key (← unbroken k)
    let v ← value v
    let entries ← members key value rest
    .ok ((k, v) :: entries)

def map {κ ν : Type} (key : Text → Except DecodeError κ) (value : Decoder ν) : Decoder (List (κ × ν))
  | .object entries ending => do
    let entries ← members key value entries
    noBreak ending
    .ok entries
  | other => .error (mismatch "a map".toList other)

def alternatives : List Text → Text
  | [a, b] => ticked a ++ " or ".toList ++ ticked b
  | names => "one of ".toList ++ Text.commaJoined (names.map ticked)

def variant {α : Type} (table : List (Text × α)) (name : Text) : Except DecodeError α :=
  match table.lookup name with
  | some value => .ok value
  | none =>
    .error (.data ("unknown variant ".toList ++ ticked name ++ ", expected ".toList ++ alternatives (table.map (·.1))))

/-- The only member of an object that names a variant; anything behind it is out of place. -/
def onlyMember {α : Type} (value : α) (rest : List (Except Break Text × Outline)) (ending : Option Break) :
    Except DecodeError α :=
  match rest with
  | [] => do
    noBreak ending
    .ok value
  | _ :: _ => .error .malformed

/-- Neither a string nor an object with a member stands where a variant is expected; how a word would go on does not
matter there. -/
def noVariant : Outline → DecodeError
  | .broken cause => cause.error
  | .object _ (some cause) => cause.error
  | _ => .malformed

/-- **One of several names**: the name as a string, or as the only key of an object, with `null` under it. -/
def enumeration {α : Type} (table : List (Text × α)) : Decoder α
  | .text name _ => do variant table (← unbroken name)
  | .object ((key, content) :: rest) ending => do
    let value ← variant table (← unbroken key)
    unit content
    onlyMember value rest ending
  | other => .error (noVariant other)

/-- **A value under the name of its variant**: an object with that name as its only key. -/
def tagged {α : Type} (table : List (Text × Decoder α)) : Decoder α
  | .text name _ => do
    let _ ← variant table (← unbroken name)
    .error (wrongKind "unit variant".toList "newtype variant".toList)
  | .object ((key, content) :: rest) ending => do
    let decode ← variant table (← unbroken key)
    let value ← decode content
    onlyMember value rest ending
  | other => .error (noVariant other)

/-- **What holds when a field is absent.** -/
inductive Absence (α : Type) where
  /-- The field has to be there. -/
  | refused
  /-- The field may be left out of an object, where this value stands for it. -/
  | optional (value : α)
  /-- The field may be left out anywhere; this value stands for it. -/
  | default (value : α)

/-- **The fields of a record**, with the values found so far. -/
inductive Fields : Type → Type 1 where
  | done : Fields Unit
  | field {α β : Type} (key : Text) (absence : Absence α) (decode : Decoder α) (found : Option α)
      (rest : Fields β) : Fields (α × β)

namespace Fields

def count {α : Type} : Fields α → Nat
  | .done => 0
  | .field _ _ _ _ rest => rest.count + 1

/-- **Take the value under a key**, unless it is the second one; nothing if no field has the key. -/
def accept {α : Type} (key : Text) (source : Outline) : Fields α → Except DecodeError (Option (Fields α))
  | .done => .ok none
  | .field own absence decode found rest =>
    if key = own then
      if found.isSome then .error (.data ("duplicate field ".toList ++ ticked key))
      else (decode source).map fun value => some (.field own absence decode (some value) rest)
    else (rest.accept key source).map fun taken => taken.map (.field own absence decode found ·)

/-- **The values of all fields**; the first one that is absent and has to be there is an error. -/
def finish {α : Type} : Fields α → Except DecodeError α
  | .done => .ok ()
  | .field key absence _ found rest =>
    match found, absence with
    | some value, _ => rest.finish.map (value, ·)
    | none, .optional value => rest.finish.map (value, ·)
    | none, .default value => rest.finish.map (value, ·)
    | none, .refused => .error (.data ("missing field ".toList ++ ticked key))

/-- **The values of all fields from items in their order**, and the items that are left.  The count is that of the
fields read before. -/
def fromItems {α : Type} (tooFew : Nat → DecodeError) (ending : Except DecodeError Unit) (count : Nat) :
    Fields α → List Outline → Except DecodeError (α × List Outline)
  | .done, left => .ok ((), left)
  | .field _ _ decode _ rest, item :: left => do
    let value ← decode item
    let (values, left) ← rest.fromItems tooFew ending (count + 1) left
    .ok ((value, values), left)
  | .field _ absence _ _ rest, [] => do
    ending
    match absence with
    | .default value => do
      let (values, left) ← rest.fromItems tooFew ending (count + 1) []
      .ok ((value, values), left)
    | _ => .error (tooFew count)

end Fields

def required {α β : Type} (key : String) (decode : Decoder α) (rest : Fields β) :
    Fields (α × β) := .field key.toList .refused decode none rest

def optional {α β : Type} (key : String) (decode : Decoder (Option α)) (rest : Fields β) :
    Fields (Option α × β) := .field key.toList (.optional none) decode none rest

def defaulted {α β : Type} (key : String) (value : α) (decode : Decoder α) (rest : Fields β) :
    Fields (α × β) := .field key.toList (.default value) decode none rest

/-- **The members of an object, one after another.**  What no field takes is passed over. -/
def takeMembers {α : Type} : List (Except Break Text × Outline) → Fields α →
    Except DecodeError (Fields α)
  | [], fields => .ok fields
  | (.error cause, _) :: _, _ => .error cause.error
  | (.ok key, value) :: rest, fields =>
    match fields.accept key value with
    | .error problem => .error problem
    | .ok (some fields) => takeMembers rest fields
    | .ok none =>
      match value.skipped with
      | some cause => .error cause.error
      | none => takeMembers rest fields

def recordText (name : String) : Text := "struct ".toList ++ name.toList

def tooFewItems (name : String) (fields found : Nat) : DecodeError :=
  .data ("invalid length ".toList ++ Nat.toDigits 10 found ++ ", expected ".toList ++ recordText name
    ++ " with ".toList ++ Nat.toDigits 10 fields ++ (if fields = 1 then " element" else " elements").toList)

/-- **A record**: an object with its fields as members, or an array with its fields in order. -/
def record {α : Type} (name : String) (fields : Fields α) : Decoder α
  | .object entries ending =>
    match takeMembers entries fields with
    | .error problem => .error problem
    | .ok fields => do
      noBreak ending
      fields.finish
  | .array elements ending => do
    let (values, left) ← fields.fromItems (tooFewItems name fields.count) (noBreak ending) 0 elements
    if left.isEmpty then do
      noBreak ending
      .ok values
    else .error .malformed
  | other => .error (mismatch (recordText name) other)

/-- **A text as a document**: the decoder's answer, unless something follows the document. -/
def ofText {α : Type} (decode : Decoder α) (source : Text) : Except DecodeError α := do
  let (outline, trailing) := Json.read source
  let value ← decode outline
  if trailing then .error .malformed else .ok value

end Decode
end ServiceStability
