import Mathlib.Algebra.Ring.Nat
import ServiceStability.RuntimeId
/-!
# Proofs.Identities — an identity is read back from its text

The text of an identity has all 32 digits of its number, cut into groups of fixed sizes.  Cutting it at the hyphens
gives the groups again, and leaving out the hyphens gives the digits.

- `RuntimeId.hexNumber_hexPlaces`: digits stand for their number.
- `RuntimeId.parse_text`: an identity is read back from its text.
-/
namespace ServiceStability
namespace RuntimeId

theorem length_hexPlaces (places n : Nat) : (hexPlaces places n).length = places := by
  induction places generalizing n with
  | zero => rfl
  | succ places ih => rw [hexPlaces, List.length_append, ih, List.length_singleton]

theorem isHex_digitChar : ∀ d < 16, isHex d.digitChar = true ∧ hexValue d.digitChar = d := by decide

theorem exists_digit_of_mem_hexPlaces {places n : Nat} {c : Char} (member : c ∈ hexPlaces places n) :
    ∃ d < 16, c = d.digitChar := by
  induction places generalizing n with
  | zero => cases member
  | succ places ih =>
    rcases List.mem_append.1 member with member | member
    · exact ih member
    · exact ⟨n % 16, Nat.mod_lt _ (by decide), List.mem_singleton.1 member⟩

theorem isHex_of_mem_hexPlaces {places n : Nat} {c : Char} (member : c ∈ hexPlaces places n) : isHex c = true := by
  obtain ⟨d, small, rfl⟩ := exists_digit_of_mem_hexPlaces member
  exact (isHex_digitChar d small).1

/-- **The digits of a number stand for it**, as far as the places go. -/
theorem hexNumber_hexPlaces (places n : Nat) : hexNumber (hexPlaces places n) = n % 16 ^ places := by
  induction places generalizing n with
  | zero => exact (Nat.mod_one n).symm
  | succ places ih =>
    have split : hexNumber (hexPlaces (places + 1) n) =
        16 * hexNumber (hexPlaces places (n / 16)) + hexValue (n % 16).digitChar := by
      simp only [hexNumber, hexPlaces, List.foldl_append, List.foldl_cons, List.foldl_nil]
    rw [split, ih, (isHex_digitChar _ (Nat.mod_lt _ (by decide))).2, Nat.pow_succ', Nat.mod_mul, Nat.add_comm]

theorem flatten_groups {sizes : List Nat} {digits : Text} (all : digits.length = sizes.sum) :
    (groups sizes digits).flatten = digits := by
  induction sizes generalizing digits with
  | nil => exact (List.eq_nil_of_length_eq_zero all).symm
  | cons size sizes ih =>
    rw [List.sum_cons] at all
    rw [groups, List.flatten_cons, ih (by rw [List.length_drop]; omega), List.take_append_drop]

theorem length_groups {sizes : List Nat} {digits : Text} (all : digits.length = sizes.sum) :
    (groups sizes digits).map List.length = sizes := by
  induction sizes generalizing digits with
  | nil => rfl
  | cons size sizes ih =>
    rw [List.sum_cons] at all
    rw [groups, List.map_cons, ih (by rw [List.length_drop]; omega), List.length_take, Nat.min_eq_left (by omega)]

/-- Joined parts without the separator, with every separator left out. -/
theorem filter_intercalate {parts : List Text} (plain : ∀ part ∈ parts, '-' ∉ part) :
    (['-'].intercalate parts).filter (· != '-') = parts.flatten := by
  induction parts with
  | nil => rfl
  | cons part parts ih =>
    rw [List.forall_mem_cons] at plain
    have kept : part.filter (· != '-') = part :=
      List.filter_eq_self.2 fun c member => bne_iff_ne.2 fun same => plain.1 (same ▸ member)
    cases parts with
    | nil => simp [List.intercalate, kept]
    | cons next parts => simp [List.intercalate_cons_cons, kept, ih plain.2]

variable (id : RuntimeId)

theorem length_digits : (hexPlaces 32 id.toNat).length = groupSizes.sum := length_hexPlaces ..

theorem plain_groups : ∀ part ∈ groups groupSizes (hexPlaces 32 id.toNat), '-' ∉ part := by
  intro part listed member
  have digit : '-' ∈ hexPlaces 32 id.toNat := by
    rw [← flatten_groups (length_digits id)]
    exact List.mem_flatten_of_mem listed member
  exact absurd (isHex_of_mem_hexPlaces digit) (by decide)

theorem filter_text : id.text.filter (· != '-') = hexPlaces 32 id.toNat := by
  rw [text, filter_intercalate (plain_groups id), flatten_groups (length_digits id)]

theorem pieceLengths_text : pieceLengths id.text = groupSizes := by
  rw [pieceLengths, text, List.splitOn_intercalate '-' (plain_groups id) (by simp [groups, groupSizes]),
    length_groups (length_digits id)]

theorem exists_digit_head : ∃ d < 16, ∃ rest, id.text = d.digitChar :: rest := by
  obtain ⟨c, digits, places⟩ := List.exists_cons_of_length_eq_add_one (length_digits id)
  obtain ⟨d, small, rfl⟩ := exists_digit_of_mem_hexPlaces (places ▸ List.mem_cons_self .. : c ∈ hexPlaces 32 id.toNat)
  refine ⟨d, small, digits.take 7 ++ ['-'] ++ ['-'].intercalate (groups [4, 4, 4, 12] (digits.drop 7)), ?_⟩
  rw [text, places, groupSizes, groups, groups, List.intercalate_cons_cons]
  rfl

/-- Nothing stands around the text of an identity: it begins with a digit, and neither a brace nor the scheme does. -/
theorem unwrap_text : unwrap id.text = (id.text, 0) := by
  have other : ∀ d < 16, d.digitChar ≠ '\x7b' ∧ d.digitChar.toLower ≠ 'u' := by decide
  obtain ⟨d, small, rest, head⟩ := exists_digit_head id
  obtain ⟨brace, letter⟩ := other d small
  have scheme : ¬ ((d.digitChar :: rest).take scheme.length).map Char.toLower = scheme := fun same =>
    letter (List.cons.inj same).1
  rw [head, unwrap, if_neg scheme]
  exact fun _ same => brace (List.cons.inj same).1

/-- **An identity is read back from its text.** -/
theorem parse_text : parse id.text = .ok id := by
  have digits : (hexPlaces 32 id.toNat).all isHex = true := List.all_eq_true.2 fun _ => isHex_of_mem_hexPlaces
  have number : ofNat (hexNumber (hexPlaces 32 id.toNat)) = id := by
    have small : id.toNat < 16 ^ 32 := id.bits.isLt
    rw [hexNumber_hexPlaces, Nat.mod_eq_of_lt small, ofNat, toNat, BitVec.ofNat_toNat, BitVec.setWidth_eq]
  rw [parse, unwrap_text]
  simp only [filter_text, pieceLengths_text, digits, number, true_or, and_self, if_true]

end RuntimeId
end ServiceStability
