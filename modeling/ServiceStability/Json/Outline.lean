import ServiceStability.Json.Basic
import ServiceStability.Decimal.Shortest
/-!
# Json.Outline — a text read as far as it is a document

A text can stop being a document anywhere, and what is wrong with it further left counts first.  So the reader does not
refuse such a text: it returns the outline of the document up to the place where it breaks, and whoever walks the
outline from left to right meets either a value of the wrong kind or the break, whichever comes first.

Some places matter only to those who look inside: a string with half of a surrogate pair and a number out of range can
be passed over but not taken.
-/
namespace ServiceStability
namespace Json

/-- **How a text stops being a document.** -/
inductive Break where
  | endsEarly
  /-- Something stands where it cannot. -/
  | malformed
deriving DecidableEq

inductive Number where
  | integer (value : Int)
  | double (value : Float)

def Number.text : Number → Text
  | .integer value => if value < 0 then '-' :: Nat.toDigits 10 value.natAbs else Nat.toDigits 10 value.natAbs
  | .double value => Decimal.textOfBits value.toBits.toNat

/-- **The outline of a document.**  Numbers and strings say what they are worth to a reader who takes them, and whether
a reader who passes over them breaks off; containers say how they end. -/
inductive Outline where
  | null
  | bool (value : Bool)
  | number (value : Except Break Number) (skipped : Option Break)
  | text (value : Except Break Text) (skipped : Option Break)
  | array (items : List Outline) (ending : Option Break)
  | object (members : List (Except Break Text × Outline)) (ending : Option Break)
  | broken (cause : Break)
  /-- A word that the end of the text cuts off. -/
  | cutOff

namespace Outline

/-- **Where a reader who passes over a value breaks off.** -/
def skipped : Outline → Option Break
  | .null => none
  | .bool _ => none
  | .number _ skipped => skipped
  | .text _ skipped => skipped
  | .array _ ending => ending
  | .object _ ending => ending
  | .broken cause => some cause
  | .cutOff => some .endsEarly

mutual

/-- **The outline of a document that is all there.** -/
def ofJson : Json → Outline
  | .null => .null
  | .bool value => .bool value
  | .text value => .text (.ok value) none
  | .array items => .array (ofItems items) none
  | .object members => .object (ofMembers members) none

def ofItems : List Json → List Outline
  | [] => []
  | item :: rest => ofJson item :: ofItems rest

def ofMembers : List (Text × Json) → List (Except Break Text × Outline)
  | [] => []
  | (key, value) :: rest => (.ok key, ofJson value) :: ofMembers rest

end

/-- A document that is all there has no break. -/
@[simp] theorem skipped_ofJson (document : Json) : (ofJson document).skipped = none := by
  cases document <;> simp [ofJson, skipped]

@[simp] theorem ofItems_eq_map (items : List Json) : ofItems items = items.map ofJson := by
  induction items with
  | nil => rfl
  | cons item rest ih => simp [ofItems, ih]

@[simp] theorem ofMembers_eq_map (members : List (Text × Json)) :
    ofMembers members = members.map fun member => (.ok member.1, ofJson member.2) := by
  induction members with
  | nil => rfl
  | cons member rest ih => simp [ofMembers, ih]

end Outline
end Json
end ServiceStability
