import ServiceStability.Proofs.CanonicalForms
/-!
# Proofs.NamePrefixes — a name below another one, read off the texts

A unit is selected by segments in one place and by canonical text in another.  A dot in a canonical form need not stand
between two segments: it may stand in quotes.  But where the canonical form of a whole name stands in front of it the
quotes are closed again, so the dot does end a segment there.

- `Spelling.joined_append_dot_iff`: a dot behind some items cuts a text of items in two.
- `ServiceName.covers_iff_text`: a name covers exactly what its canonical form and a dot stand in front of.
-/
namespace ServiceStability
namespace Spelling

variable {items others : List Spelling} {rest : Text}

theorem behind_append (items others : List Spelling) : behind (items ++ others) = behind items ++ behind others :=
  List.flatMap_append

theorem joined_append (filled : items ≠ []) (others : List Spelling) :
    joined (items ++ others) = joined items ++ behind others := by
  match items with
  | [] => exact absurd rfl filled
  | item :: items => rw [List.cons_append, joined, joined, behind_append, List.append_assoc]

theorem behind_eq_dot_joined (filled : items ≠ []) : behind items = '.' :: joined items := by
  match items with
  | [] => exact absurd rfl filled
  | item :: items => exact behind_cons item items

/-- What stands behind some items begins with the items, if it begins with their text and a dot. -/
theorem exists_append_of_behind : ∀ {items others : List Spelling}, behind items ++ '.' :: rest = behind others →
    ∃ more, more ≠ [] ∧ others = items ++ more ∧ joined more = rest
  | [], [], same => nomatch same
  | [], other :: others, same => ⟨other :: others, nofun, rfl, (List.cons.inj same).2.symm⟩
  | _ :: _, [], same => nomatch same
  | item :: items, other :: others, same => by
    have ends : Ends (behind items ++ '.' :: rest) := by
      cases items <;> exact fun c first => (Option.some.inj first).symm
    rw [behind_cons, behind_cons, List.cons_append, List.append_assoc] at same
    obtain ⟨rfl, further⟩ := text_append_inj ends (ends_behind others) (List.cons.inj same).2
    obtain ⟨more, filled, rfl, is⟩ := exists_append_of_behind further
    exact ⟨more, filled, rfl, is⟩

/-- **A dot behind some items cuts a text of items in two**, and nothing else of it does. -/
theorem joined_append_dot_iff (filled : items ≠ []) : joined items ++ '.' :: rest = joined others ↔
    ∃ more, more ≠ [] ∧ others = items ++ more ∧ joined more = rest := by
  constructor
  · intro same
    have behinds : behind items ++ '.' :: rest = behind others := by
      match others with
      | [] => exact absurd same (List.append_ne_nil_of_right_ne_nil _ nofun)
      | other :: others =>
        rw [behind_eq_dot_joined filled, List.cons_append, same]
        exact (behind_cons other others).symm
    exact exists_append_of_behind behinds
  · rintro ⟨more, some, rfl, rfl⟩
    rw [joined_append filled, behind_eq_dot_joined some]

end Spelling

namespace ServiceName

open Spelling

variable {a b : ServiceName}

theorem canonical_eq_joined (n : ServiceName) : n.canonical = joined (n.segments.map Spelling.canonical) :=
  (joined_canonical n.segments).symm

/-- **A name covers another one exactly if its canonical form is that of the other, or stands in front of it with a dot
in between**: no dot inside of a segment is taken for one between segments. -/
theorem covers_iff_text (filled : a.segments ≠ []) :
    a.covers b = true ↔ b.canonical = a.canonical ∨ a.canonical ++ ['.'] <+: b.canonical := by
  have filled' : a.segments.map Spelling.canonical ≠ [] := fun none => filled (List.map_eq_nil_iff.1 none)
  rw [covers_iff]
  constructor
  · rintro ⟨more, same⟩
    by_cases none : more = []
    · rw [none, List.append_nil] at same
      left
      rw [canonical, canonical, same]
    · right
      refine ⟨joined (more.map Spelling.canonical), ?_⟩
      rw [List.append_assoc, List.singleton_append, canonical_eq_joined a, canonical_eq_joined b, ← same,
        List.map_append]
      exact (joined_append_dot_iff filled').2 ⟨_, fun empty => none (List.map_eq_nil_iff.1 empty), rfl, rfl⟩
  · rintro (same | ⟨rest, same⟩)
    · obtain rfl := canonical_injective same
      exact List.prefix_refl b.segments
    · rw [List.append_assoc, List.singleton_append, canonical_eq_joined a, canonical_eq_joined b] at same
      obtain ⟨more, -, split, -⟩ := (joined_append_dot_iff filled').1 same
      refine ⟨more.map segment, ?_⟩
      rw [← map_segment_canonical b.segments, split, List.map_append, map_segment_canonical]

/-- A dot in a quoted segment does not count as one behind it. -/
theorem covers_archive :
    (⟨["deployment".toList, "app.war".toList]⟩ : ServiceName).segments ≠ [] ∧
    (⟨["deployment".toList, "app.war".toList]⟩ : ServiceName).covers
      ⟨["deployment".toList, "app.war".toList, "x.\"".toList]⟩ = true ∧
    (⟨["deployment".toList, "app.war".toList]⟩ : ServiceName).covers
      ⟨["deployment".toList, "app.war.x".toList]⟩ = false := by
  have filled : (⟨["deployment".toList, "app.war".toList]⟩ : ServiceName).segments ≠ [] := nofun
  refine ⟨filled, (covers_iff_text filled).2 (Or.inr ?_), Bool.eq_false_iff.2 fun covers => ?_⟩
  · decide
  · rcases (covers_iff_text filled).1 covers with same | front
    · exact absurd same (by decide)
    · exact absurd front (by decide)

end ServiceName
end ServiceStability
