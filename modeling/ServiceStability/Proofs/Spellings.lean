import ServiceStability.Name.Reader
/-!
# Proofs.Spellings — the texts that are read as names

A name is spelled as items with dots between them, one for each segment.  An item is bare or stands in quotes; between
quotes any character may stand behind a backslash, and a quote or a backslash has to.  So a segment can be spelled in
many ways, but a text spells in one way at most: where an item ends is plain from what is behind it.

- `Spelling`: one segment as it is spelled; `Spelling.joined`: the text of several.
- `Spelling.joined_injective`: a text spells in one way.
- `ServiceName.parse_eq_ok_iff`: what is read is what is spelled.
-/
namespace ServiceStability

/-- **A character between quotes**, as it is or behind a backslash. -/
inductive QuotedChar where
  | plain (c : Char) (unmarked : c ≠ '"' ∧ c ≠ '\\')
  | escaped (c : Char)

def QuotedChar.char : QuotedChar → Char
  | .plain c _ => c
  | .escaped c => c

def QuotedChar.text : QuotedChar → Text
  | .plain c _ => [c]
  | .escaped c => ['\\', c]

/-- Without a character that means something outside of quotes. -/
def Ordinary (text : Text) : Prop := ∀ c ∈ text, c ≠ '.' ∧ c ≠ '"' ∧ c ≠ '\\'

theorem ordinary_cons {c : Char} {text : Text} :
    Ordinary (c :: text) ↔ (c ≠ '.' ∧ c ≠ '"' ∧ c ≠ '\\') ∧ Ordinary text := List.forall_mem_cons

/-- **One segment as it is spelled.** -/
inductive Spelling where
  | bare (text : Text) (filled : text ≠ []) (ordinary : Ordinary text)
  | quoted (chars : List QuotedChar)

namespace Spelling

def segment : Spelling → Text
  | .bare text _ _ => text
  | .quoted chars => chars.map QuotedChar.char

def text : Spelling → Text
  | .bare text _ _ => text
  | .quoted chars => '"' :: (chars.flatMap QuotedChar.text ++ ['"'])

/-- What stands behind the first item: the others, each with a dot in front. -/
def behind (items : List Spelling) : Text := items.flatMap fun item => '.' :: item.text

/-- **The text of some items**, with a dot between neighbours. -/
def joined : List Spelling → Text
  | [] => []
  | item :: items => item.text ++ behind items

variable {x y : Text} {a b : Spelling} {items others : List Spelling}

/-- What can stand behind an item: nothing, or a dot and something more. -/
def Ends (text : Text) : Prop := ∀ c ∈ text.head?, c = '.'

theorem behind_cons (item : Spelling) (items : List Spelling) :
    behind (item :: items) = '.' :: (item.text ++ behind items) := rfl

theorem ends_behind (items : List Spelling) : Ends (behind items) := by
  cases items with
  | nil => exact fun c first => nomatch first
  | cons item items => exact fun c first => (Option.some.inj first).symm

theorem append_inj_of_notMem : ∀ {a b : Text}, '.' ∉ a → '.' ∉ b → Ends x → Ends y → a ++ x = b ++ y → a = b ∧ x = y
  | [], [], _, _, _, _, same => ⟨rfl, same⟩
  | [], c :: b, _, dotless, ends, _, same => by
    have dot : c = '.' := ends c (by rw [List.nil_append] at same; rw [same]; rfl)
    exact absurd (List.mem_cons.2 (Or.inl dot.symm)) dotless
  | c :: a, [], dotless, _, _, ends, same => by
    have dot : c = '.' := ends c (by rw [List.nil_append] at same; rw [← same]; rfl)
    exact absurd (List.mem_cons.2 (Or.inl dot.symm)) dotless
  | c :: a, d :: b, dotless, dotless', ends, ends', same => by
    obtain ⟨rfl, rest⟩ := List.cons.inj same
    obtain ⟨rfl, behind⟩ := append_inj_of_notMem (fun dot => dotless (List.mem_cons_of_mem _ dot))
      (fun dot => dotless' (List.mem_cons_of_mem _ dot)) ends ends' rest
    exact ⟨rfl, behind⟩

/-- **An item in quotes ends at the first quote that is not behind a backslash of its own.** -/
theorem quoted_inj : ∀ {chars chars' : List QuotedChar},
    chars.flatMap QuotedChar.text ++ '"' :: x = chars'.flatMap QuotedChar.text ++ '"' :: y → chars = chars' ∧ x = y
  | [], [], same => ⟨rfl, (List.cons.inj same).2⟩
  | [], .plain c unmarked :: _, same => absurd (List.cons.inj same).1.symm unmarked.1
  | [], .escaped c :: _, same => absurd (List.cons.inj same).1 (by decide)
  | .plain c unmarked :: _, [], same => absurd (List.cons.inj same).1 unmarked.1
  | .escaped c :: _, [], same => absurd (List.cons.inj same).1 (by decide)
  | .plain c unmarked :: _, .escaped d :: _, same => absurd (List.cons.inj same).1 unmarked.2
  | .escaped c :: _, .plain d unmarked :: _, same => absurd (List.cons.inj same).1.symm unmarked.2
  | .plain c unmarked :: chars, .plain d unmarked' :: chars', same => by
    obtain ⟨rfl, rest⟩ := List.cons.inj same
    obtain ⟨rfl, behind⟩ := quoted_inj rest
    exact ⟨rfl, behind⟩
  | .escaped c :: chars, .escaped d :: chars', same => by
    obtain ⟨rfl, rest⟩ := List.cons.inj (List.cons.inj same).2
    obtain ⟨rfl, behind⟩ := quoted_inj rest
    exact ⟨rfl, behind⟩

theorem text_ne_nil (item : Spelling) : item.text ≠ [] := by
  cases item with
  | bare text filled ordinary => exact filled
  | quoted chars => exact nofun

/-- **Where an item ends is plain from what is behind it.** -/
theorem text_append_inj (ends : Ends x) (ends' : Ends y) (same : a.text ++ x = b.text ++ y) : a = b ∧ x = y := by
  -- A bare item does not begin with a quote.
  have apart : ∀ {text : Text} {chars : List QuotedChar} {x y : Text}, text ≠ [] →
      Ordinary text → text ++ x ≠ (quoted chars).text ++ y := by
    intro text chars x y filled ordinary same
    match text with
    | [] => exact filled rfl
    | c :: text => exact (ordinary_cons.1 ordinary).1.2.1 (List.cons.inj same).1
  match a, b with
  | .bare text filled ordinary, .bare text' filled' ordinary' =>
    obtain ⟨rfl, further⟩ := append_inj_of_notMem (fun dot => (ordinary _ dot).1 rfl)
      (fun dot => (ordinary' _ dot).1 rfl) ends ends' same
    exact ⟨rfl, further⟩
  | .bare text filled ordinary, .quoted chars => exact absurd same (apart filled ordinary)
  | .quoted chars, .bare text filled ordinary => exact absurd same.symm (apart filled ordinary)
  | .quoted chars, .quoted chars' =>
    simp only [text, List.cons_append, List.append_assoc, List.cons.injEq, List.nil_append, true_and] at same
    obtain ⟨rfl, further⟩ := quoted_inj same
    exact ⟨rfl, further⟩

theorem behind_inj : ∀ {items others : List Spelling}, behind items = behind others → items = others
  | [], [], _ => rfl
  | [], _ :: _, same => nomatch same
  | _ :: _, [], same => nomatch same
  | a :: items, b :: others, same => by
    rw [behind_cons, behind_cons] at same
    obtain ⟨rfl, further⟩ := text_append_inj (ends_behind items) (ends_behind others) (List.cons.inj same).2
    rw [behind_inj further]

/-- **A text spells in one way.** -/
theorem joined_injective (same : joined items = joined others) : items = others := by
  match items, others with
  | [], [] => rfl
  | [], b :: others => exact absurd (List.append_eq_nil_iff.1 same.symm).1 (text_ne_nil b)
  | a :: items, [] => exact absurd (List.append_eq_nil_iff.1 same).1 (text_ne_nil a)
  | a :: items, b :: others =>
    obtain ⟨rfl, further⟩ := text_append_inj (ends_behind items) (ends_behind others) same
    rw [behind_inj further]

end Spelling

namespace ServiceName

open Spelling

variable {text rest : Text} {chars : List QuotedChar} {place : Place} {r : Remainder}

/-- Characters that mean nothing outside of quotes are read as they are. -/
theorem readFrom_bare_append (ordinary : Ordinary text) (rest : Text) :
    readFrom .bare (text ++ rest) = (readFrom .bare rest).map fun r => (text ++ r.1, r.2) := by
  induction text with
  | nil =>
    rw [List.nil_append]
    cases readFrom .bare rest <;> rfl
  | cons c text ih =>
    obtain ⟨⟨dot, quote, slash⟩, ordinary⟩ := ordinary_cons.1 ordinary
    have further := ih ordinary
    rw [List.cons_append, readFrom, if_neg dot, if_neg (not_or.2 ⟨quote, slash⟩), further]
    cases readFrom .bare rest <;> rfl

/-- Between quotes everything is read up to the closing quote. -/
theorem readFrom_quoted_append (chars : List QuotedChar) (rest : Text) :
    readFrom .quoted (chars.flatMap QuotedChar.text ++ '"' :: rest) =
      (readFrom .closed rest).map fun r => (chars.map QuotedChar.char ++ r.1, r.2) := by
  induction chars with
  | nil =>
    rw [List.flatMap_nil, List.nil_append, readFrom, if_neg (by decide), if_pos rfl]
    cases readFrom .closed rest <;> rfl
  | cons c chars ih =>
    rw [List.flatMap_cons, List.append_assoc]
    cases c with
    | plain c unmarked =>
      rw [QuotedChar.text, List.cons_append, List.nil_append, readFrom, if_neg unmarked.2, if_neg unmarked.1, ih]
      cases readFrom .closed rest <;> rfl
    | escaped c =>
      rw [QuotedChar.text, List.cons_append, List.cons_append, List.nil_append, readFrom, if_pos rfl, readFrom, ih]
      cases readFrom .closed rest <;> rfl

/-- Where an item can end it makes no difference whether the item is bare. -/
theorem readFrom_bare_of_ends (ends : Ends rest) : readFrom .bare rest = readFrom .closed rest := by
  match rest with
  | [] => rfl
  | c :: rest =>
    obtain rfl : c = '.' := ends c rfl
    rw [readFrom, if_pos rfl, readFrom, if_pos rfl]

/-- **An item is read to its end**, and then what is behind it. -/
theorem readFrom_item (item : Spelling) (ends : Ends rest) : readFrom .segmentStart (item.text ++ rest) =
    (readFrom .closed rest).map fun r => (item.segment ++ r.1, r.2) := by
  match item with
  | .bare [] filled _ => exact absurd rfl filled
  | .bare (c :: text) _ ordinary =>
    obtain ⟨⟨dot, quote, slash⟩, ordinary⟩ := ordinary_cons.1 ordinary
    have further := readFrom_bare_append ordinary rest
    rw [Spelling.text, List.cons_append, readFrom, if_neg quote, if_neg dot, if_neg slash, further,
      readFrom_bare_of_ends ends]
    cases readFrom .closed rest <;> rfl
  | .quoted chars =>
    rw [Spelling.text, List.cons_append, List.append_assoc, List.cons_append, List.nil_append, readFrom, if_pos rfl,
      readFrom_quoted_append]
    rfl

theorem readFrom_behind : ∀ items : List Spelling, readFrom .closed (behind items) = .ok ([], items.map segment)
  | [] => rfl
  | item :: items => by
    rw [behind_cons, readFrom, if_pos rfl, readFrom_item item (ends_behind items), readFrom_behind items]
    simp [Except.map, Remainder.next]

/-- **What a place of the reader is in front of**: the rest of an item and all items after it, and what it reads
there. -/
inductive Reads : Place → Text → Remainder → Prop where
  | segmentStart (item : Spelling) (items : List Spelling) :
      Reads .segmentStart (item.text ++ behind items) (item.segment, items.map segment)
  | bare (text : Text) (ordinary : Ordinary text) (items : List Spelling) :
      Reads .bare (text ++ behind items) (text, items.map segment)
  | quoted (chars : List QuotedChar) (items : List Spelling) :
      Reads .quoted (chars.flatMap QuotedChar.text ++ '"' :: behind items)
        (chars.map QuotedChar.char, items.map segment)
  | escaped (c : Char) (chars : List QuotedChar) (items : List Spelling) :
      Reads .escaped (c :: (chars.flatMap QuotedChar.text ++ '"' :: behind items))
        (c :: chars.map QuotedChar.char, items.map segment)
  | closed (items : List Spelling) : Reads .closed (behind items) ([], items.map segment)

theorem exists_ok_of_map {change : Remainder → Remainder} {read : Except Fault Remainder}
    (done : read.map change = .ok r) : ∃ r', read = .ok r' ∧ change r' = r := by
  cases read with
  | error fault => cases done
  | ok r' => exact ⟨r', rfl, Except.ok.inj done⟩

/-- **Whatever is read was spelled.** -/
theorem reads_of_readFrom {s : Text} (done : readFrom place s = .ok r) : Reads place s r := by
  fun_induction readFrom place s generalizing r with
  | case1 | case3 | case4 | case8 | case10 | case14 | case18 => cases done
  | case2 rest ih =>
    cases ih done with
    | quoted chars items =>
      have item := Reads.segmentStart (.quoted chars) items
      rwa [Spelling.text, List.cons_append, List.append_assoc, List.singleton_append] at item
  | case5 c rest quote dot slash ih =>
    obtain ⟨_, further, rfl⟩ := exists_ok_of_map done
    cases ih further with
    | bare text ordinary items =>
      exact .segmentStart (.bare (c :: text) nofun (ordinary_cons.2 ⟨⟨dot, quote, slash⟩, ordinary⟩)) items
  | case6 =>
    cases done
    exact .bare [] nofun []
  | case7 rest ih =>
    obtain ⟨_, further, rfl⟩ := exists_ok_of_map done
    cases ih further with
    | segmentStart item items => exact .bare [] nofun (item :: items)
  | case9 c rest dot unmarked ih =>
    obtain ⟨_, further, rfl⟩ := exists_ok_of_map done
    cases ih further with
    | bare text ordinary items => exact .bare (c :: text) (ordinary_cons.2 ⟨⟨dot, not_or.1 unmarked⟩, ordinary⟩) items
  | case11 rest ih =>
    cases ih done with
    | escaped c chars items => exact .quoted (.escaped c :: chars) items
  | case12 rest other ih =>
    cases ih done with
    | closed items => exact .quoted [] items
  | case13 c rest slash quote ih =>
    obtain ⟨_, further, rfl⟩ := exists_ok_of_map done
    cases ih further with
    | quoted chars items => exact .quoted (.plain c ⟨quote, slash⟩ :: chars) items
  | case15 c rest ih =>
    obtain ⟨_, further, rfl⟩ := exists_ok_of_map done
    cases ih further with
    | quoted chars items => exact .escaped c chars items
  | case16 =>
    cases done
    exact .closed []
  | case17 rest ih =>
    obtain ⟨_, further, rfl⟩ := exists_ok_of_map done
    cases ih further with
    | segmentStart item items => exact .closed (item :: items)

/-- **A text is read as a name exactly if it spells the segments of the name**, of which there is at least one. -/
theorem parse_eq_ok_iff {s : Text} {n : ServiceName} :
    parse s = .ok n ↔ ∃ items, items ≠ [] ∧ joined items = s ∧ items.map segment = n.segments := by
  constructor
  · intro read
    rw [parse] at read
    split at read
    · cases read
    · split at read
      · rename_i first rest further
        cases reads_of_readFrom further with
        | segmentStart item items =>
          cases read
          exact ⟨item :: items, nofun, rfl, rfl⟩
      · cases read
  · rintro ⟨items, filled, rfl, same⟩
    match items with
    | [] => exact absurd rfl filled
    | item :: items =>
      have filled : joined (item :: items) ≠ [] := fun none => text_ne_nil item (List.append_eq_nil_iff.1 none).1
      rw [parse, if_neg filled, joined, readFrom_item item (ends_behind items), readFrom_behind items]
      obtain ⟨segments⟩ := n
      simp only at same
      simp [Except.map, ← same]

end ServiceName
end ServiceStability
