import ServiceStability.Json.Numeral
/-!
# Json.Reader — from a text to its outline

The reader goes through the text once, from left to right.  A value that breaks off ends the reading, and every
container around it ends in the same break.

- `Json.read`: the outline of a text, and what is left of the text behind the document.
-/
namespace ServiceStability
namespace Json

def isSpace (c : Char) : Bool := c == ' ' || c == '\n' || c == '\t' || c == '\r'

def skipSpace (source : Text) : Text := source.dropWhile isSpace

def hexValue (c : Char) : Option Nat :=
  if '0' ≤ c ∧ c ≤ '9' then some (c.toNat - '0'.toNat)
  else if 'a' ≤ c ∧ c ≤ 'f' then some (c.toNat - 'a'.toNat + 10)
  else if 'A' ≤ c ∧ c ≤ 'F' then some (c.toNat - 'A'.toNat + 10)
  else none

def hexNumber (digits : Text) : Option Nat :=
  digits.foldlM (fun value c => (hexValue c).map (value * 16 + ·)) 0

/-- **Four hexadecimal digits.**  They take four bytes; a text with fewer bytes ends too early. -/
def readFourHex (source : Text) : Except Break (Nat × Text) :=
  match hexNumber (source.take 4) with
  | some value => if 4 ≤ source.length then .ok (value, source.drop 4) else .error .endsEarly
  | none => if Text.byteCount (source.take 4) < 4 then .error .endsEarly else .error .malformed

def simpleEscape : Char → Option Char
  | '"' => some '"'
  | '\\' => some '\\'
  | '/' => some '/'
  | 'b' => some '\x08'
  | 'f' => some '\x0c'
  | 'n' => some '\n'
  | 'r' => some '\r'
  | 't' => some '\t'
  | _ => none

def isHighSurrogate (n : Nat) : Bool := 0xd800 ≤ n && n < 0xdc00
def isLowSurrogate (n : Nat) : Bool := 0xdc00 ≤ n && n < 0xe000

def readLowSurrogate (high : Nat) : Text → Except Break (Char × Text)
  | [] => .error .endsEarly
  | ['\\'] => .error .endsEarly
  | '\\' :: 'u' :: rest => do
    let (low, rest) ← readFourHex rest
    if isLowSurrogate low then .ok (Char.ofNat (0x10000 + (high - 0xd800) * 0x400 + (low - 0xdc00)), rest)
    else .error .malformed
  | _ => .error .malformed

/-- **The character behind a backslash and the letter for a code unit.** -/
def readUnit (source : Text) : Except Break (Char × Text) := do
  let (value, rest) ← readFourHex source
  if isLowSurrogate value then .error .malformed
  else if isHighSurrogate value then readLowSurrogate value rest
  else .ok (Char.ofNat value, rest)

/-- **The rest of a string**, behind its opening quote, and what follows the string. -/
def readString : Nat → Text → Except Break (Text × Text)
  | 0, _ => .error .endsEarly
  | _ + 1, [] => .error .endsEarly
  | fuel + 1, c :: rest =>
    if c = '"' then .ok ([], rest)
    else if c = '\\' then
      match rest with
      | [] => .error .endsEarly
      | 'u' :: rest => do
        let (c, rest) ← readUnit rest
        let (value, rest) ← readString fuel rest
        .ok (c :: value, rest)
      | e :: rest =>
        match simpleEscape e with
        | none => .error .malformed
        | some c => do
          let (value, rest) ← readString fuel rest
          .ok (c :: value, rest)
    else if c.toNat < 0x20 then .error .malformed
    else do
      let (value, rest) ← readString fuel rest
      .ok (c :: value, rest)

/-- **What follows a string**, for a reader who does not care which characters its escapes stand for. -/
def passString : Nat → Text → Except Break Text
  | 0, _ => .error .endsEarly
  | _ + 1, [] => .error .endsEarly
  | fuel + 1, c :: rest =>
    if c = '"' then .ok rest
    else if c = '\\' then
      match rest with
      | [] => .error .endsEarly
      | 'u' :: rest =>
        match readFourHex rest with
        | .error cause => .error cause
        | .ok (_, rest) => passString fuel rest
      | e :: rest => if (simpleEscape e).isNone then .error .malformed else passString fuel rest
    else if c.toNat < 0x20 then .error .malformed
    else passString fuel rest

/-- A string as a reader who takes it, and one who passes over it, find it; what follows it. -/
structure StringOutline where
  value : Except Break Text
  skipped : Option Break
  rest : Text

def outlineString (source : Text) : StringOutline :=
  let value := (readString (source.length + 1) source).map (·.1)
  match passString (source.length + 1) source with
  | .ok rest => ⟨value, none, rest⟩
  | .error cause => ⟨value, some cause, []⟩

def readWord (word : Text) (value : Outline) (source : Text) : Outline × Text :=
  match word.isPrefixOf? source with
  | some rest => (value, rest)
  | none => (if source.isPrefixOf word then .cutOff else .broken .malformed, [])

/-- The break at the head of a text where neither a comma nor a closing bracket stands. -/
def breakAt (source : Text) : Break := if source.isEmpty then .endsEarly else .malformed

def outlineNumber (source : Text) : Outline × Text :=
  match readNumeral source with
  | .ok (n, rest) => (.number n.value none, rest)
  | .error cause => (.number (.error cause.taken) (some .malformed), [])

mutual

/-- **The value at the head of a text**, and what follows it. -/
def outlineValue : Nat → Text → Outline × Text
  | 0, _ => (.broken .endsEarly, [])
  | fuel + 1, source =>
    match skipSpace source with
    | [] => (.broken .endsEarly, [])
    | c :: rest =>
      if c = '"' then
        let string := outlineString rest
        (.text string.value string.skipped, string.rest)
      else if c = '[' then
        match skipSpace rest with
        | ']' :: rest => (.array [] none, rest)
        | [] => (.array [] (some .endsEarly), [])
        | rest =>
          let (items, ending, rest) := outlineItems fuel rest
          (.array items ending, rest)
      else if c = '\x7b' then
        match skipSpace rest with
        | '\x7d' :: rest => (.object [] none, rest)
        | '"' :: rest =>
          let (members, ending, rest) := outlineMembers fuel rest
          (.object members ending, rest)
        | rest => (.object [] (some (breakAt rest)), [])
      else if c = 'n' then readWord "null".toList .null (c :: rest)
      else if c = 't' then readWord "true".toList (.bool true) (c :: rest)
      else if c = 'f' then readWord "false".toList (.bool false) (c :: rest)
      else if c = '-' ∨ c.isDigit then outlineNumber (c :: rest)
      else (.broken .malformed, [])

/-- The items of an array from here on, how it ends, and what follows it. -/
def outlineItems : Nat → Text → List Outline × Option Break × Text
  | 0, _ => ([], some .endsEarly, [])
  | fuel + 1, source =>
    let (item, rest) := outlineValue fuel source
    match item.skipped with
    | some cause => ([item], some cause, [])
    | none =>
      match skipSpace rest with
      | ',' :: rest =>
        let (items, ending, rest) := outlineItems fuel rest
        (item :: items, ending, rest)
      | ']' :: rest => ([item], none, rest)
      | rest => ([item], some (breakAt rest), [])

/-- The members of an object from a key on, the text being behind the opening quote of the key. -/
def outlineMembers : Nat → Text → List (Except Break Text × Outline) × Option Break × Text
  | 0, _ => ([], some .endsEarly, [])
  | fuel + 1, source =>
    let key := outlineString source
    match key.skipped with
    | some cause => ([(key.value, .broken cause)], some cause, [])
    | none =>
      match skipSpace key.rest with
      | ':' :: rest =>
        let (value, rest) := outlineValue fuel rest
        match value.skipped with
        | some cause => ([(key.value, value)], some cause, [])
        | none =>
          match skipSpace rest with
          | ',' :: rest =>
            match skipSpace rest with
            | '"' :: rest =>
              let (members, ending, rest) := outlineMembers fuel rest
              ((key.value, value) :: members, ending, rest)
            | rest =>
              let cause := breakAt rest
              ([(key.value, value), (.error cause, .broken cause)], some cause, [])
          | '\x7d' :: rest => ([(key.value, value)], none, rest)
          | rest => ([(key.value, value)], some (breakAt rest), [])
      | rest => ([(key.value, .broken (breakAt rest))], some (breakAt rest), [])

end

/-- **The outline of a text**, and whether more than blanks follow the document. -/
def read (source : Text) : Outline × Bool :=
  let (outline, rest) := outlineValue (2 * source.length + 2) source
  (outline, !(skipSpace rest).isEmpty)

end Json
end ServiceStability
