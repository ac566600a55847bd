import ServiceStability.Json.Outline
/-!
# Json.Numeral — reading a number

A number has a whole part without leading zeros, and may have a fraction and an exponent.  One without either is an
integer if it fits into 64 bits, and a double otherwise.  The double is computed from as many leading digits as fit into
64 bits, by one multiplication or division by a power of ten.
-/
namespace ServiceStability
namespace Json

def spanDigits (text : Text) : Text × Text := (text.takeWhile Char.isDigit, text.dropWhile Char.isDigit)

def digitValue (c : Char) : Nat := c.toNat - '0'.toNat

/-- **A number as it is written.** -/
structure Numeral where
  negative : Bool
  whole : Text
  /-- The digits behind the point, none if there is no point. -/
  fraction : Text
  /-- The sign and the digits of the exponent. -/
  exponent : Option (Bool × Text)

/-- What is left of a number that breaks off: a reader who takes it is told whether the text has ended, and one who
passes over it finds it malformed. -/
structure NumeralBreak where
  taken : Break

def someDigits (text : Text) : Except NumeralBreak (Text × Text) :=
  match spanDigits text with
  | ([], []) => .error ⟨.endsEarly⟩
  | ([], _ :: _) => .error ⟨.malformed⟩
  | (digits, rest) => .ok (digits, rest)

/-- The whole part: a single zero, or digits that do not begin with one. -/
def readWhole (text : Text) : Except NumeralBreak (Text × Text) := do
  let (digits, rest) ← someDigits text
  if digits.head? = some '0' ∧ digits ≠ ['0'] then .error ⟨.malformed⟩ else .ok (digits, rest)

def readFraction : Text → Except NumeralBreak (Text × Text)
  | '.' :: rest => someDigits rest
  | rest => .ok ([], rest)

def readExponent : Text → Except NumeralBreak (Option (Bool × Text) × Text)
  | [] => .ok (none, [])
  | c :: rest =>
    if c = 'e' ∨ c = 'E' then do
      let (negative, rest) := match rest with
        | '+' :: r => (false, r)
        | '-' :: r => (true, r)
        | r => (false, r)
      let (digits, rest) ← someDigits rest
      .ok (some (negative, digits), rest)
    else .ok (none, c :: rest)

/-- **Read a number** and return what follows it. -/
def readNumeral (text : Text) : Except NumeralBreak (Numeral × Text) := do
  let (negative, rest) := match text with
    | '-' :: r => (true, r)
    | r => (false, r)
  let (whole, rest) ← readWhole rest
  let (fraction, rest) ← readFraction rest
  let (exponent, rest) ← readExponent rest
  .ok (⟨negative, whole, fraction, exponent⟩, rest)

/-- Take digits as long as the value fits into 64 bits: the value, and how many digits are left. -/
def takeFitting (value : Nat) : Text → Nat × Nat
  | [] => (value, 0)
  | c :: rest =>
    if value * 10 + digitValue c < Nat.pow 2 64 then takeFitting (value * 10 + digitValue c) rest
    else (value, rest.length + 1)

def tenPower (n : Nat) : Float := Float.ofScientific 1 false n

/-- Multiply or divide a double by a power of ten; a value that is too large is malformed. -/
def scaleByTen : Nat → Float → Int → Except Break Float
  | 0, value, _ => .ok value
  | fuel + 1, value, exponent =>
    if 0 ≤ exponent then
      if 308 < exponent then (if value == 0 then .ok value else .error .malformed)
      else if (value * tenPower exponent.toNat).isInf then .error .malformed
      else .ok (value * tenPower exponent.toNat)
    else if exponent < -308 then
      if value == 0 then .ok value else scaleByTen fuel (value / tenPower 308) (exponent + 308)
    else .ok (value / tenPower (-exponent).toNat)

def signed (negative : Bool) (magnitude : Float) : Number := .double (if negative then -magnitude else magnitude)

/-- The value of an exponent, unless it does not fit into 32 bits. -/
def exponentValue (digits : Text) : Option Nat :=
  let value := digits.foldl (fun n c => n * 10 + digitValue c) 0
  if value < Nat.pow 2 31 then some value else none

/-- The double that a number with fraction, exponent or too many digits is. -/
def Numeral.double (n : Numeral) : Except Break Number := do
  let (leading, dropped) := takeFitting 0 n.whole
  let (significand, left) := takeFitting leading n.fraction
  let base : Int := (dropped : Int) - ((n.fraction.length - left : Nat) : Int)
  let magnitude := (UInt64.ofNat significand).toFloat
  match n.exponent with
  | none => return signed n.negative (← scaleByTen 8 magnitude base)
  | some (negative, digits) =>
    match exponentValue digits with
    | some value => return signed n.negative (← scaleByTen 8 magnitude (if negative then base - value else base + value))
    | none => if significand ≠ 0 ∧ !negative then .error .malformed else return signed n.negative 0

def Numeral.value (n : Numeral) : Except Break Number :=
  let magnitude := n.whole.foldl (fun value c => value * 10 + digitValue c) 0
  if n.fraction = [] ∧ n.exponent = none then
    if n.negative then
      if magnitude ≠ 0 ∧ magnitude ≤ Nat.pow 2 63 then .ok (.integer (-magnitude)) else n.double
    else if magnitude < Nat.pow 2 64 then .ok (.integer magnitude)
    else n.double
  else n.double

end Json
end ServiceStability
