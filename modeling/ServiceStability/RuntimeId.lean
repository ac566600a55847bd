import ServiceStability.Text.Basic
/-!
# RuntimeId — the identity of one running service graph

An identity has 128 bits.  It is written as 32 lower-case hexadecimal digits in five groups with hyphens between them,
and read in four forms: with hyphens, without them, in braces, or behind a scheme.
-/
namespace ServiceStability

/-- **The identity of one running service graph.** -/
structure RuntimeId where
  bits : BitVec 128
deriving DecidableEq

namespace RuntimeId

def ofNat (n : Nat) : RuntimeId := ⟨BitVec.ofNat 128 n⟩

def toNat (id : RuntimeId) : Nat := id.bits.toNat

/-- The digits of a number in base 16, in exactly so many places. -/
def hexPlaces : Nat → Nat → Text
  | 0, _ => []
  | places + 1, n => hexPlaces places (n / 16) ++ [Nat.digitChar (n % 16)]

def groupSizes : List Nat := [8, 4, 4, 4, 12]

def groups : List Nat → Text → List Text
  | [], _ => []
  | size :: sizes, text => text.take size :: groups sizes (text.drop size)

def text (id : RuntimeId) : Text := ['-'].intercalate (groups groupSizes (hexPlaces 32 id.toNat))

def isHex (c : Char) : Bool :=
  c.isDigit || ('a' ≤ c && c ≤ 'f') || ('A' ≤ c && c ≤ 'F')

def hexValue (c : Char) : Nat :=
  if c.isDigit then c.toNat - '0'.toNat
  else if 'a' ≤ c then c.toNat - 'a'.toNat + 10
  else c.toNat - 'A'.toNat + 10

def hexNumber (digits : Text) : Nat := digits.foldl (fun n c => 16 * n + hexValue c) 0

/-- **Why a text is no identity.** -/
inductive ReadError where
  /-- A character that cannot occur, with the number of bytes in front of it. -/
  | badCharacter (c : Char) (place : Nat)
  /-- A text that is too long, or digits without hyphens, but not 32 of them. -/
  | badLength (found : Nat)
  | badGroupCount (found : Nat)
  | badGroup (group expected found : Nat)

def ReadError.message : ReadError → Text
  | .badCharacter c place =>
    "invalid character: found \x60".toList ++ c :: "\x60 at ".toList ++ Nat.toDigits 10 place
  | .badLength found => "invalid length: found ".toList ++ Nat.toDigits 10 found
  | .badGroupCount found => "invalid group count: expected 5, found ".toList ++ Nat.toDigits 10 found
  | .badGroup group expected found =>
    "invalid group length in group ".toList ++ Nat.toDigits 10 group ++ ": expected ".toList
      ++ Nat.toDigits 10 expected ++ ", found ".toList ++ Nat.toDigits 10 found

/-- What may stand in front of an identity, in letters of either case. -/
def scheme : Text := "urn:uuid:".toList

/-- No written form has more bytes: the longest has the scheme in front of digits with hyphens. -/
def longest : Nat := 45

def hyphenatedSize : Nat := 36

/-- **Take away what may be written around the digits**: what is left, and how many bytes stood in front of it. -/
def unwrap (source : Text) : Text × Nat :=
  match source with
  | '\x7b' :: rest => if rest.getLast? = some '\x7d' then (rest.dropLast, 1) else (source, 0)
  | _ =>
    if (source.take scheme.length).map Char.toLower = scheme then (source.drop scheme.length, scheme.length)
    else (source, 0)

def pieceLengths (core : Text) : List Nat := (core.splitOn '-').map List.length

/-- The first character that is neither a digit nor a hyphen, and the bytes in front of it if so many stand in front of
the text. -/
def firstBad : Nat → Text → Option (Char × Nat)
  | _, [] => none
  | before, c :: rest => if isHex c || c = '-' then firstBad (before + c.utf8Size) rest else some (c, before)

/-- The first group of the wrong length; if the first four are right it is the last one, measured from its place to the
end of so many bytes. -/
def badGroup (total : Nat) : Nat → List Nat → List Nat → ReadError
  | group, size :: sizes@(_ :: _), length :: lengths =>
    if length = size then badGroup total (group + 1) sizes lengths else .badGroup group size length
  | group, sizes, _ => .badGroup group (sizes.headD 0) (total - 24)

/-- **The first fault of a text that should be digits with hyphens**: a character, then the number of groups, then a
group.  `before` bytes stand in front of the text, and `total` bytes is what the last group is measured against. -/
def fault (before total : Nat) (text : Text) : ReadError :=
  match firstBad before text with
  | some (c, place) => .badCharacter c place
  | none =>
    let lengths := pieceLengths text
    if lengths.length ≠ 5 then .badGroupCount lengths.length else badGroup total 0 groupSizes lengths

/-- **What is wrong with a text that is no identity.**  A text or a core that has the size of digits with hyphens is
examined by itself.  Any other core is examined as a part of the whole text, and a core of digits alone that is not
wrapped can only have the wrong length. -/
def explain (source : Text) : ReadError :=
  let total := Text.byteCount source
  let (core, before) := unwrap source
  if longest < total then .badLength total
  else if total = hyphenatedSize then fault 0 total source
  else if Text.byteCount core = hyphenatedSize then fault 0 hyphenatedSize core
  else if before = 0 ∧ core.all isHex then .badLength total
  else fault before total core

def parse (source : Text) : Except ReadError RuntimeId :=
  let (core, before) := unwrap source
  let digits := core.filter fun c => c != '-'
  if digits.all isHex ∧ (pieceLengths core = groupSizes ∨ (before = 0 ∧ pieceLengths core = [32])) then
    .ok (ofNat (hexNumber digits))
  else .error (explain source)

example : (ofNat 1).text = "00000000-0000-0000-0000-000000000001".toList := by decide +kernel

/-- A place is counted from the beginning of the whole text. -/
example : (explain "\x7b0g\x7d".toList).message = "invalid character: found \x60g\x60 at 2".toList := by decide +kernel

end RuntimeId
end ServiceStability
