import ServiceStability.Text.Basic
/-!
# Decimal.Shortest — the fewest digits that read back as a double

A double is `m · 2^q`.  The reals that round to it form an interval around it, whose ends belong to it when `m` is even.
The shortest text takes the first decimal grid that has a point in the interval, and of two such points the nearer one;
an exact tie goes to the even digit.
-/
namespace ServiceStability
namespace Decimal

/-- **A positive double in exact form**: `significand · 2^exponent`. -/
structure Binary where
  significand : Nat
  exponent : Int
  /-- The double below is only half as far away as the one above. -/
  narrowBelow : Bool

/-- **A positive decimal**: `digits · 10^exponent`. -/
structure Digits where
  digits : Nat
  exponent : Int

/-- A point on the grid `10^k`, measured against a quarter of the last binary place of `b`: the factors for the
quarters and for the point. -/
def factors (b : Binary) (k : Int) : Nat × Nat :=
  (Nat.pow 2 (b.exponent - 2).toNat * Nat.pow 10 (-k).toNat, Nat.pow 2 (2 - b.exponent).toNat * Nat.pow 10 k.toNat)

def readsBack (b : Binary) (k : Int) (d : Nat) : Bool :=
  let (quarter, point) := factors b k
  let low := (4 * b.significand - (if b.narrowBelow then 1 else 2)) * quarter
  let high := (4 * b.significand + 2) * quarter
  if b.significand % 2 = 0 then decide (low ≤ d * point) && decide (d * point ≤ high)
  else decide (low < d * point) && decide (d * point < high)

/-- Of two neighbours at certain distances the nearer one, in a tie the even one. -/
def nearer (toBelow toAbove below above : Nat) : Nat :=
  if toBelow < toAbove ∨ (toBelow = toAbove ∧ below % 2 = 0) then below else above

/-- The point of the grid `10^k` that stands for `b`, if there is one. -/
def onGrid (b : Binary) (k : Int) : Option Digits :=
  let (quarter, point) := factors b k
  let value := 4 * b.significand * quarter
  let below := value / point
  let above := below + 1
  match readsBack b k below, readsBack b k above with
  | true, true => some ⟨nearer (value - below * point) (above * point - value) below above, k⟩
  | true, false => some ⟨below, k⟩
  | false, true => some ⟨above, k⟩
  | false, false => none

/-- The same decimal without a zero at the end, which the point above nine has. -/
def Digits.trimmed (d : Digits) : Digits :=
  if d.digits % 10 = 0 then ⟨d.digits / 10, d.exponent + 1⟩ else d

def atLeast (b : Binary) (k : Int) : Bool :=
  let (quarter, point) := factors b k
  decide (point ≤ 4 * b.significand * quarter)

/-- The first grid from `10^k` downwards that has a point for `b`. -/
def firstGrid (b : Binary) : Nat → Int → Digits
  | 0, k => ⟨0, k⟩
  | fuel + 1, k =>
    match onGrid b k with
    | some d => d.trimmed
    | none => firstGrid b fuel (k - 1)

/-- The greatest power of ten that is not above `b`, searched from `10^k` downwards. -/
def magnitude (b : Binary) : Nat → Int → Int
  | 0, k => k
  | fuel + 1, k => if atLeast b k then k else magnitude b fuel (k - 1)

/-- **The fewest digits that read back.**  Doubles lie between `10^-324` and `10^309`, and 17 digits are enough. -/
def shortest (b : Binary) : Digits := firstGrid b 18 (magnitude b 640 309)

/-- A decimal point put behind so many of the digits. -/
def pointed (text : Text) (places : Nat) : Text := text.take places ++ '.' :: text.drop places

/-- **The text of a positive decimal.**  With its point behind the first 16 places at most and at most 4 zeros behind
the point it is positional, and otherwise it has an exponent with a sign. -/
def Digits.text (d : Digits) : Text :=
  let text := Nat.toDigits 10 d.digits
  let point := (text.length : Int) + d.exponent
  if 0 ≤ d.exponent ∧ point ≤ 16 then text ++ List.replicate d.exponent.toNat '0' ++ ".0".toList
  else if 0 < point ∧ point ≤ 16 then pointed text point.toNat
  else if -5 < point ∧ point ≤ 0 then "0.".toList ++ List.replicate (-point).toNat '0' ++ text
  else
    let mantissa := if text.length = 1 then text else pointed text 1
    let power := point - 1
    mantissa ++ 'e' :: ((if power < 0 then '-' else '+') :: Nat.toDigits 10 power.natAbs)

/-- The exact form of the double with these 64 bits, its sign left out. -/
def Binary.ofBits (bits : Nat) : Binary :=
  let field : Nat := bits / Nat.pow 2 52 % Nat.pow 2 11
  let fraction : Nat := bits % Nat.pow 2 52
  if field = 0 then ⟨fraction, -1074, false⟩
  else ⟨Nat.pow 2 52 + fraction, (field : Int) - 1075, fraction = 0 ∧ field ≠ 1⟩

/-- **The text of a finite double**, from its 64 bits. -/
def textOfBits (bits : Nat) : Text :=
  let sign : Text := if bits / Nat.pow 2 63 % 2 = 1 then ['-'] else []
  if bits % Nat.pow 2 63 = 0 then sign ++ "0.0".toList
  else sign ++ (shortest (.ofBits bits)).text

example : textOfBits 0x3ff8000000000000 = "1.5".toList := by decide +kernel

example : textOfBits 0x4376345785d8a000 = "1e+17".toList := by decide +kernel

/-- Halfway between two of 17 digits, the even one is taken. -/
example : textOfBits 0x3e60000000000000 = "2.9802322387695312e-8".toList := by decide +kernel

example : textOfBits 0xbfb999999999999a = "-0.1".toList := by decide +kernel

end Decimal
end ServiceStability
