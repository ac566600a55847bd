import ServiceStability.Text.Basic
/-!
# Blank — the white space of Unicode

The 25 characters with the property `White_Space`.  A name segment that holds one of them has to be quoted.
-/
namespace ServiceStability
namespace Text

/-- **The ranges of the property `White_Space`**, first and last code point. -/
def blankRanges : List (Nat × Nat) :=
  [(0x9, 0xd), (0x20, 0x20), (0x85, 0x85), (0xa0, 0xa0), (0x1680, 0x1680), (0x2000, 0x200a), (0x2028, 0x2029),
   (0x202f, 0x202f), (0x205f, 0x205f), (0x3000, 0x3000)]

def isBlank (c : Char) : Bool :=
  blankRanges.any fun range => decide (range.1 ≤ c.toNat) && decide (c.toNat ≤ range.2)

/-- The table counts 25 characters. -/
example : (blankRanges.map fun range => range.2 - range.1 + 1).sum = 25 := by decide

/-- The ranges ascend and do not touch. -/
example : blankRanges.Pairwise (fun a b => a.2 + 1 < b.1) := by decide

end Text
end ServiceStability
