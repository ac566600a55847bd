import Mathlib.Tactic.SplitIfs
import ServiceStability.Text.Basic
/-!
# Bytes — the UTF-8 form of a text

A text is compared byte by byte where it is stored, and character by character here.  The two orders are one: of two
characters the one with the smaller code point has the smaller bytes, and no character's bytes begin another's.
-/
namespace ServiceStability
namespace Text

/-- **The bytes of a text in UTF-8.** -/
def bytes (text : Text) : List UInt8 := text.flatMap String.utf8EncodeChar

theorem bytes_cons (c : Char) (text : Text) : bytes (c :: text) = String.utf8EncodeChar c ++ bytes text :=
  List.flatMap_cons

theorem compare_byte_eq_lt_iff {m n : Nat} (hm : m < 256) (hn : n < 256) :
    compare (UInt8.ofNat m) (UInt8.ofNat n) = .lt ↔ m < n := by
  rw [Std.compare_eq_lt, UInt8.lt_iff_toNat_lt, UInt8.toNat_ofNat_of_lt' hm, UInt8.toNat_ofNat_of_lt' hn]

theorem compare_byte_eq_eq_iff {m n : Nat} (hm : m < 256) (hn : n < 256) :
    compare (UInt8.ofNat m) (UInt8.ofNat n) = .eq ↔ m = n := by
  rw [Std.LawfulEqCmp.compare_eq_iff_eq, ← UInt8.toNat_inj, UInt8.toNat_ofNat_of_lt' hm, UInt8.toNat_ofNat_of_lt' hn]

theorem compare_char_eq_lt_iff {c d : Char} : compare c d = .lt ↔ c.toNat < d.toNat := by
  have order : compare c d = .lt ↔ c < d := compareOfLessAndEq_eq_lt
  rw [order, Char.lt_def, UInt32.lt_iff_toNat_lt]
  rfl

theorem toNat_lt (c : Char) : c.toNat < 0x110000 := by
  have valid : c.toNat.isValidChar := c.valid
  unfold Nat.isValidChar at valid
  omega

/-- Six bits are one digit: the last byte of a longer form has the last one. -/
theorem lt_iff_digits (v w : Nat) : v < w ↔ v / 64 < w / 64 ∨ v / 64 = w / 64 ∧ v % 64 < w % 64 := by omega

/-- **The smaller of two characters has the smaller bytes**, whatever stands behind it. -/
theorem compare_encoded_of_lt {c d : Char} (less : c.toNat < d.toNat) (x y : List UInt8) :
    compare (String.utf8EncodeChar c ++ x) (String.utf8EncodeChar d ++ y) = .lt := by
  have bound := toNat_lt d
  have second : ∀ v, v / 4096 = v / 64 / 64 := fun v => (Nat.div_div_eq_div_mul v 64 64).symm
  have third : ∀ v, v / 262144 = v / 64 / 64 / 64 := fun v => by rw [Nat.div_div_eq_div_mul, Nat.div_div_eq_div_mul]
  simp only [String.utf8EncodeChar, Char.toNat_val, second, third]
  generalize c.toNat = v at *
  generalize d.toNat = w at *
  have ones := lt_iff_digits v w
  have tens := lt_iff_digits (v / 64) (w / 64)
  have hundreds := lt_iff_digits (v / 64 / 64) (w / 64 / 64)
  -- A longer form has the larger first byte; forms of one length differ first where the digits do.
  split_ifs <;>
    simp (disch := omega) only [List.cons_append, List.nil_append, List.compare_cons_cons, Ordering.then_eq_lt,
      compare_byte_eq_lt_iff, compare_byte_eq_eq_iff] <;>
    omega

theorem compare_append_left (front x y : List UInt8) : compare (front ++ x) (front ++ y) = compare x y := by
  induction front with
  | nil => rfl
  | cons b front ih =>
    rw [List.cons_append, List.cons_append, List.compare_cons_cons, Std.compare_self, ih]
    rfl

theorem exists_bytes_cons (c : Char) (text : Text) : ∃ b more, bytes (c :: text) = b :: more := by
  have filled : String.utf8EncodeChar c ++ bytes text ≠ [] :=
    List.append_ne_nil_of_left_ne_nil String.utf8EncodeChar_ne_nil _
  exact List.exists_cons_of_ne_nil filled

/-- **Texts are ordered as their bytes are.** -/
theorem compare_bytes : ∀ s t : Text, compare (bytes s) (bytes t) = compare s t
  | [], [] => rfl
  | [], d :: t => by
    obtain ⟨b, more, is⟩ := exists_bytes_cons d t
    rw [is]
    rfl
  | c :: s, [] => by
    obtain ⟨b, more, is⟩ := exists_bytes_cons c s
    rw [is]
    rfl
  | c :: s, d :: t => by
    have further := compare_bytes s t
    rw [bytes_cons, bytes_cons, List.compare_cons_cons]
    rcases Nat.lt_trichotomy c.toNat d.toNat with less | same | greater
    · rw [compare_encoded_of_lt less, compare_char_eq_lt_iff.2 less]
      rfl
    · obtain rfl := Char.toNat_inj.1 same
      rw [compare_append_left, Std.compare_self, further]
      rfl
    · rw [Std.OrientedOrd.eq_swap, compare_encoded_of_lt greater, Std.OrientedOrd.eq_swap (a := c),
        compare_char_eq_lt_iff.2 greater]
      rfl

/-- The bytes of a character beyond the basic plane come last. -/
example : compare (bytes ['\uffff']) (bytes ['😀']) = .lt := by decide

end Text
end ServiceStability
