import ServiceStability.Yaml.Block
import ServiceStability.Yaml.Directive
import ServiceStability.Yaml.Plain
import ServiceStability.Yaml.Quoted
/-!
# Yaml.Token — what a text consists of

The grammar sees a text as a list of tokens.  Blocks have no brackets: their starts and ends follow from the columns at
which their items and keys stand.  A key shows itself only at the colon behind it, so every place where a key may begin
is remembered, and a colon inserts the key there.

- `Token`: the tokens.
- `Layout`: what is open at a place, and the tokens so far.
- `Token.ofText`: the tokens of a text.
-/
namespace ServiceStability
namespace Yaml

/-- **A token.** -/
inductive Token where
  | directive (directive : Directive)
  | documentStart
  | documentEnd
  | blockSequence
  | blockMapping
  | blockEnd
  | flowSequence
  | flowSequenceEnd
  | flowMapping
  | flowMappingEnd
  | item
  | comma
  | key
  | value
  | alias (name : Text)
  | anchor (name : Text)
  | tag (tag : Tag)
  | scalar (isPlain : Bool) (text : Text)
deriving DecidableEq

/-- **A place where a key may have begun.** -/
structure PossibleKey where
  /-- The number of tokens in front of the place. -/
  position : Nat
  /-- Nothing but a key can stand there. -/
  required : Bool
  start : Mark

/-- A key may not be longer than so many bytes. -/
def longestKey : Nat := 1024

/-- Whether a key can no longer end at a place: it is on another line, or too long. -/
def PossibleKey.isOver (place : Mark) (k : PossibleKey) : Bool :=
  decide (k.start.line < place.line) || decide (k.start.index + longestKey < place.index)

/-- **What is open at a place**, and the tokens so far. -/
structure Layout where
  depth : Nat
  /-- The columns of the open blocks, innermost first. -/
  columns : List Nat
  /-- Whether a key may begin here. -/
  keyAllowed : Bool
  /-- The key that may have begun inside the innermost bracket. -/
  possibleKey : Option PossibleKey
  /-- The keys that may have begun around it. -/
  outerKeys : List (Option PossibleKey)
  /-- The tokens so far, the last one first. -/
  tokens : List Token

namespace Layout

def start : Layout := ⟨0, [], true, none, [], []⟩

def inFlow (s : Layout) : Bool := decide (0 < s.depth)

/-- The least column at which content of the innermost block can stand. -/
def margin (s : Layout) : Nat :=
  match s.columns with
  | [] => 0
  | column :: _ => column + 1

def push (t : Token) (s : Layout) : Layout := { s with tokens := t :: s.tokens }

/-- A token that tells whether a key may begin behind it. -/
def pushThen (keyAllowed : Bool) (t : Token) (s : Layout) : Layout :=
  { s with keyAllowed := keyAllowed, tokens := t :: s.tokens }

def insertAt (position : Nat) (t : Token) (s : Layout) : Layout :=
  let behind := s.tokens.length - position
  { s with tokens := s.tokens.take behind ++ t :: s.tokens.drop behind }

/-- **No key begins at the remembered place**, which is an error if one had to. -/
def dropKey (s : Layout) : Option Layout :=
  if s.possibleKey.any (·.required) then none else some { s with possibleKey := none }

/-- **Remember that a key may begin here**, if it may. -/
def rememberKey (m : Mark) (s : Layout) : Option Layout :=
  if s.keyAllowed then do
    let key : PossibleKey := ⟨s.tokens.length, !s.inFlow && s.columns.head? == some m.column, m⟩
    let s ← s.dropKey
    some { s with possibleKey := some key }
  else some s

def kept (place : Mark) (k : Option PossibleKey) : Option PossibleKey := k.filter fun k => !k.isOver place

/-- **Forget every key that is over**, which is an error if one had to stand there. -/
def dropOverdue (place : Mark) (s : Layout) : Option Layout :=
  if (s.possibleKey :: s.outerKeys).any fun k => k.any fun k => k.required && k.isOver place then none
  else some { s with possibleKey := kept place s.possibleKey, outerKeys := s.outerKeys.map (kept place) }

/-- **Close the blocks to the right of a column.** -/
def closeBlocks (column : Nat) (s : Layout) : Layout :=
  if s.inFlow then s
  else
    let closed := s.columns.takeWhile fun c => decide (column < c)
    { s with columns := s.columns.drop closed.length, tokens := closed.map (fun _ => .blockEnd) ++ s.tokens }

def closeAll (s : Layout) : Layout :=
  if s.inFlow then s else { s with columns := [], tokens := s.columns.map (fun _ => .blockEnd) ++ s.tokens }

/-- **Open a block** whose first token is at an earlier place, unless one is open at the column. -/
def openBlock (column position : Nat) (t : Token) (s : Layout) : Layout :=
  if !s.inFlow && decide (s.margin ≤ column) then
    { (s.insertAt position t) with columns := column :: s.columns }
  else s

/-- A block that begins here, where a key or an item has to be allowed. -/
def beginBlock (column : Nat) (t : Token) (s : Layout) : Option Layout :=
  if s.inFlow then some s
  else if s.keyAllowed then some (s.openBlock column s.tokens.length t)
  else none

def marker (t : Token) (s : Layout) : Option Layout := s.closeAll.dropKey.map (·.pushThen false t)

def openFlow (m : Mark) (t : Token) (s : Layout) : Option Layout := do
  let s ← s.rememberKey m
  some ({ s with depth := s.depth + 1, possibleKey := none, outerKeys := s.possibleKey :: s.outerKeys }.pushThen true t)

def closeFlow (t : Token) (s : Layout) : Option Layout := do
  let s ← s.dropKey
  match s.outerKeys with
  | [] => some (s.pushThen false t)
  | key :: outer => some ({ s with depth := s.depth - 1, possibleKey := key, outerKeys := outer }.pushThen false t)

def comma (s : Layout) : Option Layout := s.dropKey.map (·.pushThen true .comma)

def item (m : Mark) (s : Layout) : Option Layout := do
  let s ← s.beginBlock m.column .blockSequence
  s.dropKey.map (·.pushThen true .item)

def explicitKey (m : Mark) (s : Layout) : Option Layout := do
  let s ← s.beginBlock m.column .blockMapping
  s.dropKey.map fun s => s.pushThen (!s.inFlow) .key

/-- **A colon**: it makes a key of what began at the remembered place, or follows an explicit key. -/
def value (m : Mark) (s : Layout) : Option Layout :=
  match s.possibleKey with
  | some k =>
    let s := (s.insertAt k.position .key).openBlock k.start.column k.position .blockMapping
    some ({ s with possibleKey := none }.pushThen false .value)
  | none => do
    let s ← s.beginBlock m.column .blockMapping
    some (s.pushThen (!s.inFlow) .value)

/-- A token that may be a key or part of one. -/
def keyPart (m : Mark) (t : Token) (s : Layout) : Option Layout := do
  let s ← s.rememberKey m
  some (s.pushThen false t)

/-- **Pass over blanks, line breaks and comments**, up to the next token; a new line allows a key.  Tabs are blanks
only where no key may begin, and a mark of byte order only in front of a line, whose first column it takes. -/
def skipBlanks (inComment : Bool) (s : Layout) : List Mark → Layout × List Mark
  | [] => (s, [])
  | m :: rest =>
    if m.isBreak then skipBlanks false { s with keyAllowed := s.keyAllowed || !s.inFlow } rest
    else if inComment then skipBlanks true s rest
    else if m.char == byteOrderMark && m.column == 0 then skipBlanks false s rest
    else if m.char == ' ' || (m.char == '\t' && (s.inFlow || !s.keyAllowed)) then skipBlanks false s rest
    else if m.char == '#' then skipBlanks true s rest
    else (s, m :: rest)

def finish (s : Layout) : Option (List Token) := s.closeAll.dropKey.map fun s => s.tokens.reverse

end Layout

/-- The name behind the sign of an anchor or alias, and what is left. -/
def anchorName (here : List Mark) : Option (Text × List Mark) :=
  let name := here.takeWhile fun m => isNameChar m.char
  let rest := here.dropWhile fun m => isNameChar m.char
  if name.isEmpty then none
  else if Mark.endsWord rest || rest.head?.any (fun m => "?:,]\x7d%@\x60".toList.contains m.char) then
    some (Mark.chars name, rest)
  else none

/-- Characters that cannot begin a plain scalar, unless a word follows some of them. -/
def indicators : List Char := "-?:#&*!|>'\"%@\x60".toList ++ flowIndicators

def startsPlain (inFlow : Bool) (m : Mark) (rest : List Mark) : Bool :=
  (!m.isGap && !indicators.contains m.char) || (m.char == '-' && !Mark.endsWord rest)
    || (!inFlow && (m.char == '?' || m.char == ':') && !Mark.endsWord rest)

/-- **The next token**: what is open behind it, and what is left to read. -/
def Token.read (s : Layout) (m : Mark) (rest : List Mark) : Option (Layout × List Mark) := do
  let here := m :: rest
  let wordEnds := Mark.endsWord rest
  if m.column == 0 && m.char == '%' then
    let (told, rest) ← directiveBehind rest
    return (← s.marker (.directive told), rest)
  else if Mark.isDocumentMarker here then
    return (← s.marker (if m.char == '-' then .documentStart else .documentEnd), rest.drop 2)
  else if m.char == '[' then return (← s.openFlow m .flowSequence, rest)
  else if m.char == '\x7b' then return (← s.openFlow m .flowMapping, rest)
  else if m.char == ']' then return (← s.closeFlow .flowSequenceEnd, rest)
  else if m.char == '\x7d' then return (← s.closeFlow .flowMappingEnd, rest)
  else if m.char == ',' then return (← s.comma, rest)
  else if m.char == '-' && wordEnds then return (← s.item m, rest)
  else if m.char == '?' && (s.inFlow || wordEnds) then return (← s.explicitKey m, rest)
  else if m.char == ':' && (s.inFlow || wordEnds) then return (← s.value m, rest)
  else if m.char == '*' then
    let (name, rest) ← anchorName rest
    return (← s.keyPart m (.alias name), rest)
  else if m.char == '&' then
    let (name, rest) ← anchorName rest
    return (← s.keyPart m (.anchor name), rest)
  else if m.char == '!' then
    let (name, rest) ← tagBehind s.inFlow rest
    return (← s.keyPart m (.tag name), rest)
  else if (m.char == '|' || m.char == '>') && !s.inFlow then
    let s ← s.dropKey
    let (text, rest) ← block (m.char == '>') (s.columns.head?.getD 0) s.margin rest
    return (s.pushThen true (.scalar false text), rest)
  else if m.char == '\'' || m.char == '"' then
    let (text, rest) ← quoted (m.char == '"') rest
    return (← s.keyPart m (.scalar false text), rest)
  else if startsPlain s.inFlow m rest then
    let scalar ← plain s.inFlow s.margin here
    let s ← s.keyPart m (.scalar true scalar.text)
    return ({ s with keyAllowed := scalar.endsLine }, scalar.rest)
  else none

/-- The tokens from a place on; each takes one unit of the first number. -/
def Token.readAll : Nat → Layout → List Mark → Option (List Token)
  | 0, _, _ => none
  | tokens + 1, s, here => do
    let (s, here) := s.skipBlanks false here
    match here with
    | [] => s.finish
    | m :: rest =>
      let s ← s.dropOverdue m
      let (s, rest) ← Token.read (s.closeBlocks m.column) m rest
      readAll tokens s rest

/-- **The tokens of a text**; nothing if the text holds a control character or something that is no token. -/
def Token.ofText (text : Text) : Option (List Token) :=
  if text.all isAllowed then readAll (text.length + 1) .start (Mark.ofText text) else none

/-- Columns open and close blocks. -/
example : Token.ofText "a:\n- b".toList
    = some [.blockMapping, .key, .scalar true ['a'], .value, .item, .scalar true ['b'], .blockEnd] := by decide +kernel

end Yaml
end ServiceStability
