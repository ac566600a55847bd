import ServiceStability.Name.SortedSet
import ServiceStability.Proofs.Spellings
/-!
# Proofs.CanonicalForms — one spelling for every name

Of all spellings of a segment the canonical form takes one: bare, if nothing in the segment asks for quotes; otherwise
in quotes, with a backslash before each quote and backslash and before nothing else.  It spells the segments of the
name, so it is read back as that name, and a text that spells in one way determines it.  A set sorted by canonical forms
therefore loses no name.

- `Spelling.canonical`: the spelling that is taken; `Spelling.isCanonical_iff`: what it looks like.
- `ServiceName.canonical_injective`: the canonical form determines the name.
- `ServiceName.names_read_back`: it is read back, and when it is the text that was read.
- `NameSet.mem_ofList`: a sorted set holds every name that was put into it.
-/
namespace ServiceStability

/-- A character between quotes as the canonical form spells it. -/
def QuotedChar.canonical (c : Char) : QuotedChar :=
  if marked : c = '"' ∨ c = '\\' then .escaped c else .plain c (not_or.1 marked)

namespace QuotedChar

theorem text_canonical (c : Char) : (canonical c).text = ServiceName.escapeChar c := by
  unfold canonical ServiceName.escapeChar
  split <;> rfl

theorem char_canonical (c : Char) : (canonical c).char = c := by
  unfold canonical
  split <;> rfl

theorem canonical_char_eq_iff {c : QuotedChar} :
    canonical c.char = c ↔ ∀ d, c = .escaped d → d = '"' ∨ d = '\\' := by
  cases c with
  | plain c unmarked =>
    have plain : canonical c = .plain c unmarked := dif_neg (not_or.2 unmarked)
    refine ⟨fun _ d same => ?_, fun _ => plain⟩
    cases same
  | escaped c =>
    rw [char]
    by_cases marked : c = '"' ∨ c = '\\'
    · have escaped : canonical c = .escaped c := dif_pos marked
      exact ⟨fun _ d same => (QuotedChar.escaped.inj same) ▸ marked, fun _ => escaped⟩
    · have plain : canonical c = .plain c (not_or.1 marked) := dif_neg marked
      rw [plain]
      refine ⟨fun same => ?_, fun only => absurd (only c rfl) marked⟩
      cases same

end QuotedChar

namespace ServiceName

theorem needsQuotes_eq_false_iff {segment : Text} : needsQuotes segment = false ↔
    segment ≠ [] ∧ Ordinary segment ∧ ∀ c ∈ segment, Text.isBlank c = false := by
  have each : ∀ c, isSpecial c = false ↔ (c ≠ '.' ∧ c ≠ '"' ∧ c ≠ '\\') ∧ Text.isBlank c = false := by
    intro c
    simp [isSpecial, and_assoc]
  simp only [needsQuotes, Bool.or_eq_false_iff, List.isEmpty_eq_false_iff, List.any_eq_false, Bool.not_eq_true, each,
    forall_and, Ordinary]

end ServiceName

namespace Spelling

open ServiceName

/-- **The spelling of a segment in a canonical form.** -/
def canonical (segment : Text) : Spelling :=
  if bare : needsQuotes segment = false then
    .bare segment (needsQuotes_eq_false_iff.1 bare).1 (needsQuotes_eq_false_iff.1 bare).2.1
  else .quoted (segment.map QuotedChar.canonical)

/-- **What that spelling looks like**: quotes stand only around what needs them, a backslash only before a quote or a
backslash, and no blank stands outside of quotes. -/
def IsCanonical : Spelling → Prop
  | .bare text _ _ => ∀ c ∈ text, Text.isBlank c = false
  | .quoted chars => needsQuotes (chars.map QuotedChar.char) = true ∧ ∀ c, .escaped c ∈ chars → c = '"' ∨ c = '\\'

theorem text_canonical (segment : Text) : (canonical segment).text = segmentText segment := by
  unfold canonical segmentText
  split
  · rename_i bare
    rw [if_neg (Bool.eq_false_iff.1 bare)]
    rfl
  · rename_i quoted
    rw [if_pos ((Bool.not_eq_false _).mp quoted), text, quote, List.flatMap_map]
    simp only [QuotedChar.text_canonical]

theorem segment_canonical (s : Text) : (canonical s).segment = s := by
  unfold canonical
  split
  · rfl
  · simp only [segment, List.map_map, Function.comp_def, QuotedChar.char_canonical, List.map_id']

theorem map_eq_self_iff {α : Type} {f : α → α} {as : List α} : as.map f = as ↔ ∀ a ∈ as, f a = a := by
  have apart : as.map f = as.map id ↔ ∀ a ∈ as, f a = a := List.map_inj_left
  rwa [List.map_id] at apart

theorem isCanonical_iff {item : Spelling} : item.IsCanonical ↔ canonical item.segment = item := by
  cases item with
  | bare text filled ordinary =>
    rw [segment, IsCanonical]
    constructor
    · intro solid
      exact dif_pos (needsQuotes_eq_false_iff.2 ⟨filled, ordinary, solid⟩)
    · intro same
      unfold canonical at same
      split at same
      · rename_i bare
        exact (needsQuotes_eq_false_iff.1 bare).2.2
      · cases same
  | quoted chars =>
    have unescaped : (∀ c, .escaped c ∈ chars → c = '"' ∨ c = '\\') ↔
        (chars.map QuotedChar.char).map QuotedChar.canonical = chars := by
      rw [List.map_map, map_eq_self_iff]
      simp only [Function.comp_apply, QuotedChar.canonical_char_eq_iff]
      exact ⟨fun only c member d same => only d (same ▸ member), fun only c member => only _ member c rfl⟩
    rw [segment, IsCanonical, unescaped]
    unfold canonical
    split
    · rename_i bare
      rw [bare]
      refine iff_of_false (fun never => ?_) fun same => ?_
      · cases never.1
      · cases same
    · rename_i quoted
      rw [(Bool.not_eq_false _).mp quoted, Spelling.quoted.injEq, and_iff_right rfl]

/-- **The canonical form spells the segments of the name.** -/
theorem joined_canonical : ∀ segments : List Text, joined (segments.map canonical) = canonicalText segments
  | [] => rfl
  | [segment] => by
    rw [canonicalText, ← text_canonical]
    exact List.append_nil _
  | segment :: next :: segments => by
    have further := joined_canonical (next :: segments)
    rw [canonicalText, ← further, ← text_canonical]
    · rfl
    · exact nofun

end Spelling

namespace ServiceName

open Spelling

theorem map_segment_canonical (segments : List Text) : (segments.map Spelling.canonical).map segment = segments := by
  rw [List.map_map]
  exact List.map_id'' segment_canonical segments

/-- **The canonical form determines the name**, whatever its segments hold. -/
theorem canonical_injective {n m : ServiceName} (same : n.canonical = m.canonical) : n = m := by
  obtain ⟨s⟩ := n
  obtain ⟨t⟩ := m
  rw [canonical, canonical, ← joined_canonical, ← joined_canonical] at same
  rw [← map_segment_canonical s, joined_injective same, map_segment_canonical t]

/-- A name with a segment is read back from its canonical form. -/
theorem parse_canonical {n : ServiceName} (filled : n.segments ≠ []) : parse n.canonical = .ok n :=
  parse_eq_ok_iff.2 ⟨n.segments.map Spelling.canonical, fun none => filled (List.map_eq_nil_iff.1 none),
    joined_canonical n.segments, map_segment_canonical n.segments⟩

theorem canonical_eq_joined_iff {n : ServiceName} {items : List Spelling} (same : items.map segment = n.segments) :
    n.canonical = joined items ↔ ∀ item ∈ items, item.IsCanonical := by
  have one : joined ((items.map segment).map Spelling.canonical) = joined items ↔
      (items.map segment).map Spelling.canonical = items := ⟨fun spelled => joined_injective spelled, congrArg joined⟩
  rw [canonical, ← joined_canonical, ← same, one, List.map_map, map_eq_self_iff]
  simp only [Function.comp_apply, isCanonical_iff]

/-- **Names are read back from their canonical forms.**  Every name with at least one segment is read from its canonical
form, whatever its segments hold.  Every text that is read as a name spells its segments, of which there is one at
least, and in one way only; the canonical form of the name is read as this name again, and it is the text itself exactly
if each segment in it is spelled as in a canonical form. -/
theorem names_read_back :
    (∀ n : ServiceName, n.segments ≠ [] → parse n.canonical = .ok n) ∧
    ∀ (s : Text) (n : ServiceName), parse s = .ok n →
      n.segments ≠ [] ∧ parse n.canonical = .ok n ∧
      ∃ items, joined items = s ∧ (∀ others, joined others = s → others = items) ∧ items.map segment = n.segments ∧
        (n.canonical = s ↔ ∀ item ∈ items, item.IsCanonical) := by
  refine ⟨fun n filled => parse_canonical filled, fun s n read => ?_⟩
  obtain ⟨items, filled, rfl, same⟩ := parse_eq_ok_iff.1 read
  have nonempty : n.segments ≠ [] := fun none => filled (List.map_eq_nil_iff.1 (same.trans none))
  exact ⟨nonempty, parse_canonical nonempty, items, rfl, fun others spelled => joined_injective spelled, same,
    canonical_eq_joined_iff same⟩

/-- A segment in quotes that needs none, a bare one with a blank, and one with a backslash too many. -/
def ornate : Text := "\"a\".b c.\"\\x\\\"\"".toList

def ornateName : ServiceName := ⟨["a".toList, "b c".toList, "x\"".toList]⟩

theorem ornate_read_back : parse ornate = .ok ornateName ∧ ornateName.segments ≠ [] ∧
    parse ornateName.canonical = .ok ornateName ∧ ornateName.canonical ≠ ornate ∧
    ∃ items, joined items = ornate ∧ ¬ ∀ item ∈ items, item.IsCanonical := by
  have read : parse ornate = .ok ornateName := by rfl
  have different : ornateName.canonical ≠ ornate := by decide
  obtain ⟨filled, -, items, spelled, -, -, same⟩ := names_read_back.2 ornate ornateName read
  exact ⟨read, filled, names_read_back.1 ornateName filled, different, items, spelled,
    fun canonical => different (same.2 canonical)⟩

theorem cmp_eq_eq_iff {n m : ServiceName} : n.cmp m = .eq ↔ n = m := by
  refine ⟨fun equal => ?_, fun same => same ▸ cmp_self n⟩
  rw [cmp_eq_compare] at equal
  exact canonical_injective (Std.LawfulEqCmp.eq_of_compare equal)

end ServiceName

namespace NameSet

variable {name other : ServiceName}

theorem mem_place_iff : ∀ {names : List ServiceName}, other ∈ place name names ↔ other = name ∨ other ∈ names
  | [] => by simp [place]
  | first :: rest => by
    unfold place
    split
    · rw [List.mem_cons]
    · rename_i equal
      rw [ServiceName.cmp_eq_eq_iff.1 equal, List.mem_cons, ← or_assoc, or_self]
    · rw [List.mem_cons, mem_place_iff, List.mem_cons, or_left_comm]

theorem mem_insertAll_iff : ∀ {names : List ServiceName} {s : NameSet},
    other ∈ (s.insertAll names).toList ↔ other ∈ s.toList ∨ other ∈ names
  | [], s => by simp [insertAll]
  | name :: names, s => by
    have step : s.insertAll (name :: names) = (s.insert name).insertAll names := rfl
    rw [step, mem_insertAll_iff, insert, mem_place_iff, List.mem_cons, or_comm (a := other = name), or_assoc]

/-- **A sorted set holds every name that was put into it, and no other.** -/
theorem mem_ofList {names : List ServiceName} : other ∈ (ofList names).toList ↔ other ∈ names := by
  rw [ofList, mem_insertAll_iff, toList_empty]
  exact or_iff_right List.not_mem_nil

end NameSet
end ServiceStability
