import ServiceStability.Yaml.Node
import ServiceStability.Yaml.Token
/-!
# Yaml.Grammar — from tokens to a document

The grammar over tokens is that of blocks, in which a missing item or value is an empty scalar, and that of brackets.
In front of the value stand the directives of the document.

Values get their numbers from their anchors: the number of a value is that of the different anchors in front of it.  So
an anchor that is written again has a new number, which it may share with the next new anchor; among values with one
number the last one counts.

- `Document.ofText`: the document that a text holds.
-/
namespace ServiceStability
namespace Yaml

/-- **A value with a number**, and how many tokens were left where it began. -/
structure Numbered where
  number : Nat
  left : Nat
  value : Node

/-- **What is left to read**: the tokens, what handles stand for, the number that each anchor has so far, and the values
with numbers. -/
structure Remaining where
  tokens : List Token
  handles : Handles
  anchors : List (Text × Nat)
  numbered : List Numbered

abbrev Reader := StateT Remaining Option

namespace Reader

def next? : Reader (Option Token) := return (← get).tokens.head?

def skip : Reader Unit := modify fun s => { s with tokens := s.tokens.tail }

def nextIsIn (tokens : List Token) : Reader Bool := return (← next?).any tokens.contains

def accept (t : Token) : Reader Bool := do
  let found ← nextIsIn [t]
  if found then skip
  return found

def expect (t : Token) : Reader Unit := do
  unless ← accept t do failure

/-! ## Directives -/

/-- **Take one directive**: the version may be told once, and a handle too. -/
def direct (isVersionKnown : Bool) : Directive → Reader Bool
  | .version major minor => do
    if isVersionKnown || !isKnownVersion major minor then failure
    return true
  | .handle handle start => do
    if (← get).handles.any (·.1 == handle) then failure
    modify fun s => { s with handles := (handle, start) :: s.handles }
    return isVersionKnown

/-- The directives from here on; each takes one unit of the first number. -/
def directives : Nat → Bool → Reader Unit
  | 0, _ => failure
  | more + 1, isVersionKnown => do
    match ← next? with
    | some (.directive d) =>
      skip
      directives more (← direct isVersionKnown d)
    | _ => return

/-! ## Anchors and tags -/

def numberFor (anchor : Text) : Reader Nat := do
  let s ← get
  let number := s.anchors.length
  set { s with anchors := (anchor, number) :: s.anchors.filter fun other => other.1 != anchor }
  return number

/-- The number of an anchor, if there is one in front of the value. -/
def number? : Reader (Option Nat) := do
  match ← next? with
  | some (.anchor name) =>
    skip
    return some (← numberFor name)
  | _ => return none

def tag? : Reader (Option Tag) := do
  match ← next? with
  | some (.tag tag) =>
    skip
    return some tag
  | _ => return none

def properties : Reader (Option Nat × Option Tag) := do
  match ← number? with
  | some number => return (some number, ← tag?)
  | none =>
    let tag ← tag?
    if tag.isSome then return (← number?, tag) else return (none, none)

def fullName (tag : Option Tag) : Reader (Option TagName) := do
  match tag with
  | none => return none
  | some tag =>
    match tag.fullName (← get).handles with
    | some name => return some name
    | none => failure

/-- Whether a value with the same number begins further behind than a place. -/
def isOutdone (number left : Nat) (others : List Numbered) : Bool :=
  others.any fun other => other.number == number && decide (other.left < left)

/-- **Note a value with its number**, unless another one with that number begins behind it. -/
def note (number : Option Nat) (left : Nat) (value : Node) : Reader Unit :=
  match number with
  | none => return
  | some number => modify fun s =>
    if isOutdone number left s.numbered then s else { s with numbered := ⟨number, left, value⟩ :: s.numbered }

def aliasFor (anchor : Text) : Reader Node := do
  match (← get).anchors.lookup anchor with
  | some number => return .alias number
  | none => failure

end Reader

open Reader (next? skip nextIsIn accept expect)

/-! ## Values -/

/-- **A reader of values that tells blocks apart**: whether the value stands inside a block, and whether it is the value
of a key there. -/
abbrev ValueReader := Bool → Bool → Reader Node

namespace ValueReader

variable (read : ValueReader)

/-- A value, or nothing in front of some tokens. -/
def before (ends : List Token) (inBlock atKey : Bool) : Reader Node := do
  if ← nextIsIn ends then return .empty else read inBlock atKey

def afterColon (ends : List Token) (inBlock atKey : Bool) : Reader Node := do
  if ← accept .value then read.before ends inBlock atKey else return .empty

def blockItems : Nat → Reader (List Node)
  | 0 => failure
  | items + 1 => do
    if ← accept .blockEnd then return []
    expect .item
    let item ← read.before [.item, .blockEnd] true false
    return item :: (← blockItems items)

def bareItems : Nat → Reader (List Node)
  | 0 => failure
  | items + 1 => do
    if ← accept .item then
      let item ← read.before [.item, .key, .value, .blockEnd] true false
      return item :: (← bareItems items)
    else return []

def blockEntries : Nat → Reader (List (Node × Node))
  | 0 => failure
  | entries + 1 => do
    if ← accept .blockEnd then return []
    expect .key
    let key ← read.before [.key, .value, .blockEnd] true true
    let value ← read.afterColon [.key, .value, .blockEnd] true true
    return (key, value) :: (← blockEntries entries)

/-- One item in brackets; a key makes a mapping with one entry.  A question mark without a key takes the token behind
it. -/
def flowItem : Reader Node := do
  if ← accept .key then
    let keyEnds : List Token := [.value, .comma, .flowSequenceEnd]
    let missing ← nextIsIn keyEnds
    let key ← read.before keyEnds false false
    if missing then skip
    let value ← read.afterColon [.comma, .flowSequenceEnd] false false
    return .mapping [(key, value)]
  else read false false

/-- One entry in braces; without a key mark it is a key alone. -/
def flowEntry : Reader (Node × Node) := do
  if ← accept .key then
    let key ← read.before [.value, .comma, .flowMappingEnd] false false
    let value ← read.afterColon [.comma, .flowMappingEnd] false false
    return (key, value)
  else return (← read false false, .empty)

end ValueReader

/-- **What stands in brackets or braces**: parts with commas between them, and perhaps one behind the last. -/
def flowParts {α : Type} (close : Token) (part : Reader α) (isFirst : Bool) : Nat → Reader (List α)
  | 0 => failure
  | parts + 1 => do
    if ← accept close then return []
    unless isFirst do expect .comma
    if ← accept close then return []
    let first ← part
    return first :: (← flowParts close part false parts)

/-- **A value behind its number and tag**, given the reader of the values inside it and the most parts that it can
have. -/
def content (read : ValueReader) (parts : Nat) (inBlock atKey : Bool) (isNumbered : Bool)
    (tag : Option TagName) : Reader Node := do
  match ← next?, inBlock with
  | some (.scalar isPlain text), _ =>
    skip
    return .scalar tag isPlain text
  | some .flowSequence, _ =>
    skip
    .sequence <$> flowParts .flowSequenceEnd read.flowItem true parts
  | some .flowMapping, _ =>
    skip
    .mapping <$> flowParts .flowMappingEnd read.flowEntry true parts
  | some .blockSequence, true =>
    skip
    .sequence <$> read.blockItems parts
  | some .blockMapping, true =>
    skip
    .mapping <$> read.blockEntries parts
  | token, _ =>
    if atKey && token == some .item then .sequence <$> read.bareItems parts
    else if isNumbered || tag.isSome then return .scalar tag true []
    else failure

/-- **A value**, at most so many levels deep.  Only inside a block can it be a block itself; as the value of a key it
can be items at the column of the key. -/
def Node.read (parts : Nat) : Nat → ValueReader
  | 0, _, _ => failure
  | levels + 1, inBlock, atKey => do
    match ← next? with
    | some (.alias name) =>
      skip
      Reader.aliasFor name
    | _ =>
      let left := (← get).tokens.length
      let (number, tag) ← Reader.properties
      let tag ← Reader.fullName tag
      let value ← content (read parts levels) parts inBlock atKey number.isSome tag
      Reader.note number left value
      return value

namespace Document

def withoutMarkers (tokens : List Token) : List Token := tokens.dropWhile fun t => t == .documentEnd

/-- Whether a directive, or the marker in front of a document, is next. -/
def hasHeading : Reader Bool := do
  match ← next? with
  | some (.directive _) => return true
  | token => return token == some .documentStart

/-- A document with or without a heading; nothing at all is an empty one. -/
def read (most : Nat) (read : ValueReader) : Reader Node := do
  if (← next?).isNone then return .empty
  let isHeaded ← hasHeading
  Reader.directives most false
  modify fun s => { s with handles := s.handles ++ .standard }
  if isHeaded then
    expect .documentStart
    if (← next?).isNone then return .empty
    read.before [.documentStart, .documentEnd] true false
  else read true false

/-- **The document that some tokens are**; nothing if they are not one document.  Every level and every part of a value
has a token of its own. -/
def ofTokens (tokens : List Token) : Option Document := do
  let most := tokens.length + 1
  let (root, s) ← (read most (Node.read most most)).run ⟨tokens, [], [], []⟩
  if (withoutMarkers s.tokens).isEmpty then some ⟨root, s.numbered.map fun n => (n.number, n.value)⟩ else none

/-- **The document that a text holds**; nothing if it does not hold exactly one. -/
def ofText (text : Text) : Option Document := Token.ofText text >>= ofTokens

end Document
end Yaml
end ServiceStability
