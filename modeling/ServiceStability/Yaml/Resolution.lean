import ServiceStability.Text.Basic
/-!
# Yaml.Resolution — which plain scalars are not strings

A plain scalar may be read as null, a boolean or a number.  A string that looks like one of them has to be quoted when
it is written.

- `Yaml.isNull`: the spellings of null.
- `Yaml.looksTyped`: whether a string has to be quoted.
-/
namespace ServiceStability
namespace Yaml

def isNull (scalar : Text) : Bool :=
  ["null".toList, "Null".toList, "NULL".toList, ['~']].contains scalar

def isBool (scalar : Text) : Bool :=
  ["true".toList, "True".toList, "TRUE".toList, "false".toList, "False".toList, "FALSE".toList].contains scalar

def isSign (c : Char) : Bool := c == '+' || c == '-'

def withoutPlus : Text → Text
  | '+' :: rest => rest
  | text => text

def withoutSign : Text → Text
  | [] => []
  | c :: rest => if isSign c then rest else c :: rest

/-- The value of a digit or letter, as far as letters serve as digits. -/
def digitValue (c : Char) : Nat :=
  if c.isDigit then c.toNat - '0'.toNat
  else if 'a' ≤ c ∧ c ≤ 'z' then c.toNat - 'a'.toNat + 10
  else if 'A' ≤ c ∧ c ≤ 'Z' then c.toNat - 'A'.toNat + 10
  else 36

/-- The number that digits in a base stand for; nothing if there is none, or a character is no digit. -/
def naturalIn (base : Nat) (digits : Text) : Option Nat :=
  if digits.isEmpty || digits.any (fun c => decide (base ≤ digitValue c)) then none
  else some (digits.foldl (fun n c => n * base + digitValue c) 0)

def markedBases : List (Text × Nat) := [("0x".toList, 16), ("0o".toList, 8), ("0b".toList, 2)]

def markedNatural (text : Text) : Option Nat :=
  markedBases.findSome? fun (mark, base) => (mark.isPrefixOf? text).bind (naturalIn base)

/-- **Digits that begin with a zero but are not zero are a string**, with or without a sign. -/
def hasLeadingZero (scalar : Text) : Bool :=
  match withoutSign scalar with
  | '0' :: rest => !rest.isEmpty && rest.all Char.isDigit
  | _ => false

def isInteger (scalar : Text) : Bool :=
  let positive := (markedNatural (withoutPlus scalar)).any (· < Nat.pow 2 128)
    || (!hasLeadingZero scalar && (naturalIn 10 (withoutPlus scalar)).any (· < Nat.pow 2 128))
  let negative := match scalar with
    | '-' :: rest =>
      (markedNatural rest).any (· ≤ Nat.pow 2 127)
        || (!hasLeadingZero scalar && (naturalIn 10 rest).any (· ≤ Nat.pow 2 127))
    | _ => false
  positive || negative

/-- The number that the digits of an exponent stand for.  Once it has reached `2 ^ 16`, further digits do not count. -/
def exponentNumber (digits : Text) : Nat :=
  digits.foldl (fun n c => if n < Nat.pow 2 16 then 10 * n + digitValue c else n) 0

def exponentOf : Text → Option Int
  | [] => some 0
  | c :: rest =>
    let digits := withoutSign rest
    if (c ≠ 'e' ∧ c ≠ 'E') ∨ digits.isEmpty ∨ ¬ digits.all Char.isDigit then none
    else if rest.head? = some '-' then some (-(exponentNumber digits : Int))
    else some (exponentNumber digits)

/-- The point from which numbers round to infinity: half a step above the largest double. -/
def infinityBound : Nat := Nat.pow 2 1024 - Nat.pow 2 970

/-- **Whether `digits · 10^power` is a finite double**: it stays below the point from which numbers round to
infinity. -/
def isFinite (digits : Nat) (power : Int) : Bool :=
  decide (digits * Nat.pow 10 power.toNat < infinityBound * Nat.pow 10 (-power).toNat)

/-- Whether a text without a sign is a decimal, with or without point and exponent, that is a finite double. -/
def isFiniteDecimal (text : Text) : Bool :=
  let whole := text.takeWhile Char.isDigit
  let behind := text.dropWhile Char.isDigit
  let (fraction, rest) := match behind with
    | '.' :: r => (r.takeWhile Char.isDigit, r.dropWhile Char.isDigit)
    | r => ([], r)
  match naturalIn 10 (whole ++ fraction), exponentOf rest with
  | some digits, some power => isFinite digits (power - fraction.length)
  | _, _ => false

/-- The spellings of the doubles that are no decimals. -/
def isSpecialDouble (scalar : Text) : Bool :=
  [".inf".toList, ".Inf".toList, ".INF".toList].contains (withoutPlus scalar)
    || ["-.inf".toList, "-.Inf".toList, "-.INF".toList, ".nan".toList, ".NaN".toList, ".NAN".toList].contains scalar

def isDouble (scalar : Text) : Bool :=
  isSpecialDouble scalar || (!hasLeadingZero scalar && isFiniteDecimal (withoutSign scalar))

/-- **Whether a string would be taken for something else without quotes.**  Digits with a leading zero are quoted as
well, because other readers take them for numbers. -/
def looksTyped (scalar : Text) : Bool :=
  scalar.isEmpty || isNull scalar || isBool scalar || isInteger scalar || isDouble scalar || hasLeadingZero scalar

/-- Some that are typed, and some that are not. -/
example : (["12", "0x1f", "~", "1.5", "-3e2", ".5", "007", ""].map String.toList).all looksTyped = true
    ∧ (["no", "1.2.3", "0x", "e5", "1_0", "inf", "1e999"].map String.toList).any looksTyped = false := by
  decide +kernel

/-- The largest power of ten that is finite, however it is written, and the smallest that is not. -/
example : isFinite 1 308 = true ∧ isFinite (10 ^ 1409) (-1101) = true ∧ isFinite (10 ^ 1410) (-1101) = false := by
  decide +kernel

end Yaml
end ServiceStability
