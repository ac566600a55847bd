import Mathlib.Data.List.Basic
import ServiceStability.Units.Naming
import ServiceStability.Proofs.FirstFaults
import ServiceStability.Proofs.NamePrefixes
/-!
# Proofs.UnitNames — the unit in a name, read off the texts

The unit of a service is cut out of a canonical form: a namespace and a dot go from its front, a dot and a suffix from
its end.  In front the quotes of the namespace are closed again, so the dot ends a segment there.  At the end a dot in
quotes might be taken for one between segments.  But whoever reads the suffix from between quotes has all quotes the
wrong way round: what stood in quotes is bare now, so that it comes upon a quote or a backslash that it may not meet, or
the last quote is never closed.

- `ServiceName.readFrom_quoted_joined`: from between quotes no text of items is read to its end.
- `Spelling.append_dot_joined_iff`: a dot in front of some items cuts a text of items in two.
- `UnitName.parse_eq_named_iff`: what is taken for a unit, as texts.
- `UnitName.units_between_segments`: what is taken for a unit, as segments.
-/
namespace ServiceStability
namespace ServiceName

open Spelling

variable {text rest : Text} {place : Place}

/-- **Reading on from a place comes to a fault.** -/
def Fails (place : Place) (rest : Text) : Prop := ∃ fault, readFrom place rest = .error fault

theorem fails_of_map {change : Remainder → Remainder} {further : Place} {more : Text}
    (read : readFrom place rest = (readFrom further more).map change) (fails : Fails further more) :
    Fails place rest := by
  obtain ⟨fault, failed⟩ := fails
  exact ⟨fault, read.trans (map_eq_error_iff.2 failed)⟩

theorem fails_quoted_append (ordinary : Ordinary text) (fails : Fails .quoted rest) : Fails .quoted (text ++ rest) := by
  induction text with
  | nil => exact fails
  | cons c text ih =>
    obtain ⟨⟨-, quote, slash⟩, ordinary⟩ := ordinary_cons.1 ordinary
    have read : readFrom .quoted (c :: (text ++ rest)) = (readFrom .quoted (text ++ rest)).map (·.push c) := by
      rw [readFrom, if_neg slash, if_neg quote]
    exact fails_of_map read (ih ordinary)

/-- **What stood in quotes is read as bare**, and the quote that closed them opens new ones or is out of place. -/
theorem fails_inside_out (fails : Fails .quoted rest) : ∀ chars : List QuotedChar,
    Fails .segmentStart (chars.flatMap QuotedChar.text ++ '"' :: rest) ∧
      Fails .bare (chars.flatMap QuotedChar.text ++ '"' :: rest)
  | [] => by
    obtain ⟨fault, failed⟩ := fails
    refine ⟨⟨fault, ?_⟩, .invalidSegment, ?_⟩
    · rw [List.flatMap_nil, List.nil_append, readFrom, if_pos rfl, failed]
    · rw [List.flatMap_nil, List.nil_append, readFrom, if_neg (by decide), if_pos (Or.inl rfl)]
  | .escaped c :: chars => by
    refine ⟨⟨.invalidSegment, ?_⟩, .invalidSegment, ?_⟩
    · rw [List.flatMap_cons, QuotedChar.text, List.cons_append, List.cons_append, readFrom, if_neg (by decide),
        if_neg (by decide), if_pos rfl]
    · rw [List.flatMap_cons, QuotedChar.text, List.cons_append, List.cons_append, readFrom, if_neg (by decide),
        if_pos (Or.inr rfl)]
  | .plain c ⟨quote, slash⟩ :: chars => by
    obtain ⟨start, bare⟩ := fails_inside_out fails chars
    rw [List.flatMap_cons, QuotedChar.text, List.append_assoc, List.singleton_append]
    generalize chars.flatMap QuotedChar.text ++ '"' :: rest = more at start bare
    by_cases dot : c = '.'
    · have refused : readFrom .segmentStart (c :: more) = .error .emptySegment := by
        rw [readFrom, if_neg quote, if_pos dot]
      have read : readFrom .bare (c :: more) = (readFrom .segmentStart more).map (·.next) := by
        rw [readFrom, if_pos dot]
      exact ⟨⟨_, refused⟩, fails_of_map read start⟩
    · have begun : readFrom .segmentStart (c :: more) = (readFrom .bare more).map (·.push c) := by
        rw [readFrom, if_neg quote, if_neg dot, if_neg slash]
      have read : readFrom .bare (c :: more) = (readFrom .bare more).map (·.push c) := by
        rw [readFrom, if_neg dot, if_neg (not_or.2 ⟨quote, slash⟩)]
      exact ⟨fails_of_map begun bare, fails_of_map read bare⟩

/-- An item does not close the quotes that it is read between, or closes them in the wrong place. -/
theorem fails_quoted_item (item : Spelling) (fails : Fails .quoted rest) : Fails .quoted (item.text ++ rest) := by
  cases item with
  | bare text _ ordinary => exact fails_quoted_append ordinary fails
  | quoted chars =>
    have opened : readFrom .quoted ((quoted chars).text ++ rest) =
        readFrom .closed (chars.flatMap QuotedChar.text ++ '"' :: rest) := by
      rw [Spelling.text, List.cons_append, List.append_assoc, List.singleton_append, readFrom, if_neg (by decide),
        if_pos rfl]
    cases chars with
    | nil => exact ⟨.invalidSegment, opened⟩
    | cons first chars =>
      cases first with
      | escaped c => exact ⟨.invalidSegment, opened⟩
      | plain c unmarked =>
        rw [List.flatMap_cons, QuotedChar.text, List.append_assoc, List.singleton_append, readFrom] at opened
        by_cases dot : c = '.'
        · rw [if_pos dot] at opened
          exact fails_of_map opened (fails_inside_out fails chars).1
        · rw [if_neg dot] at opened
          exact ⟨.invalidSegment, opened⟩

theorem fails_quoted_behind : ∀ items : List Spelling, Fails .quoted (behind items)
  | [] => ⟨.unterminatedQuote, rfl⟩
  | item :: items => by
    have read : readFrom .quoted (behind (item :: items)) =
        (readFrom .quoted (item.text ++ behind items)).map (·.push '.') := by
      rw [behind_cons, readFrom, if_neg (by decide), if_neg (by decide)]
    exact fails_of_map read (fails_quoted_item item (fails_quoted_behind items))

/-- **From between quotes no text of items is read to its end.** -/
theorem readFrom_quoted_joined : ∀ items : List Spelling, Fails .quoted (joined items)
  | [] => ⟨.unterminatedQuote, rfl⟩
  | item :: items => fails_quoted_item item (fails_quoted_behind items)

end ServiceName

namespace Spelling

open ServiceName

variable {items others : List Spelling} {front rest : Text} {chars : List QuotedChar}

/-- A text of items does not go on from between quotes and end as a text of items. -/
theorem joined_ne_of_quoted : joined items ≠ chars.flatMap QuotedChar.text ++ '"' :: behind others := by
  intro same
  obtain ⟨fault, failed⟩ := readFrom_quoted_joined items
  rw [same, readFrom_quoted_append, readFrom_behind] at failed
  cases failed

/-- A dot between quotes is no part of an escape that goes on behind it. -/
theorem exists_chars_behind_dot : ∀ {chars : List QuotedChar} {front rest : Text},
    chars.flatMap QuotedChar.text ++ ['"'] = front ++ '.' :: rest →
      ∃ more : List QuotedChar, rest = more.flatMap QuotedChar.text ++ ['"']
  | [], [], _, same => absurd (List.cons.inj same).1 (by decide)
  | [], _ :: front, _, same => absurd (List.cons.inj same).2.symm (List.append_ne_nil_of_right_ne_nil front nofun)
  | .plain c _ :: chars, [], _, same => ⟨chars, (List.cons.inj same).2.symm⟩
  | .plain c _ :: _, _ :: _, _, same => exists_chars_behind_dot (List.cons.inj same).2
  | .escaped c :: _, [], _, same => absurd (List.cons.inj same).1 (by decide)
  | .escaped c :: chars, [_], _, same => ⟨chars, (List.cons.inj (List.cons.inj same).2).2.symm⟩
  | .escaped c :: _, _ :: _ :: _, _, same => exists_chars_behind_dot (List.cons.inj (List.cons.inj same).2).2

/-- No dot inside of an item is in front of a text of items that ends with what is behind the item. -/
theorem joined_ne_of_dot_inside {item : Spelling} (inside : item.text = front ++ '.' :: rest) :
    joined items ≠ rest ++ behind others := by
  match item with
  | .bare text _ ordinary =>
    have split : text = front ++ '.' :: rest := inside
    have member : '.' ∈ text := split ▸ List.mem_append_right front (List.mem_cons_self ..)
    exact absurd rfl (ordinary '.' member).1
  | .quoted chars =>
    match front with
    | [] => exact absurd (List.cons.inj inside).1 (by decide)
    | _ :: front =>
      obtain ⟨more, rfl⟩ := exists_chars_behind_dot (List.cons.inj inside).2
      rw [List.append_assoc, List.singleton_append]
      exact joined_ne_of_quoted

theorem exists_append_of_joined (filled : items ≠ []) : ∀ {others : List Spelling} {front : Text},
    front ++ '.' :: joined items = joined others →
      ∃ more, more ≠ [] ∧ others = more ++ items ∧ joined more = front
  | [], front, same => absurd same (List.append_ne_nil_of_right_ne_nil front nofun)
  | item :: others, front, same => by
    -- The dot is inside of the first item or right behind it, or else it is further behind.
    rcases List.append_eq_append_iff.1 same with ⟨rest, inside, further⟩ | ⟨rest, rfl, further⟩
    · match rest with
      | [] =>
        rw [List.nil_append, ← behind_eq_dot_joined filled] at further
        obtain rfl := behind_inj further
        exact ⟨[item], nofun, rfl, inside.trans (List.append_nil front) ▸ List.append_nil _⟩
      | c :: rest =>
        obtain ⟨rfl, rest_is⟩ := List.cons.inj further
        exact absurd rest_is (joined_ne_of_dot_inside inside)
    · match others with
      | [] => exact absurd further.symm (List.append_ne_nil_of_right_ne_nil rest nofun)
      | other :: others =>
        match rest with
        | [] =>
          rw [List.nil_append, ← behind_eq_dot_joined filled] at further
          rw [behind_inj further]
          exact ⟨[item], nofun, rfl, rfl⟩
        | c :: rest =>
          obtain ⟨rfl, rest_is⟩ := List.cons.inj further
          have shorter : rest ++ '.' :: joined items = joined (other :: others) := rest_is.symm
          obtain ⟨more, some, split, rfl⟩ := exists_append_of_joined filled shorter
          refine ⟨item :: more, nofun, congrArg (item :: ·) split, ?_⟩
          rw [joined, behind_eq_dot_joined some]

/-- **A dot in front of some items cuts a text of items in two**, and nothing else of it does. -/
theorem append_dot_joined_iff (filled : items ≠ []) : front ++ '.' :: joined items = joined others ↔
    ∃ more, more ≠ [] ∧ others = more ++ items ∧ joined more = front := by
  constructor
  · exact exists_append_of_joined filled
  · rintro ⟨more, some, rfl, rfl⟩
    rw [joined_append some, behind_eq_dot_joined filled]

theorem canonical_injective : Function.Injective canonical := fun s t same => by
  rw [← segment_canonical s, same, segment_canonical]

end Spelling

namespace ServiceName

open Spelling

theorem canonical_ne_nil {n : ServiceName} (filled : n.segments ≠ []) : n.canonical ≠ [] := by
  intro none
  have read := parse_canonical filled
  rw [none] at read
  cases read

/-- **What stands between two names in a canonical form** is the canonical form of the segments in between. -/
theorem canonical_eq_between_iff {front back n : ServiceName} (filled : front.segments ≠ [])
    (filled' : back.segments ≠ []) {unit : Text} :
    n.canonical = front.canonical ++ '.' :: (unit ++ '.' :: back.canonical) ↔
      ∃ middle : ServiceName, middle.segments ≠ [] ∧
        n.segments = front.segments ++ middle.segments ++ back.segments ∧ unit = middle.canonical := by
  have some : front.segments.map Spelling.canonical ≠ [] := fun none => filled (List.map_eq_nil_iff.1 none)
  have some' : back.segments.map Spelling.canonical ≠ [] := fun none => filled' (List.map_eq_nil_iff.1 none)
  rw [canonical_eq_joined n, canonical_eq_joined front, canonical_eq_joined back, eq_comm, joined_append_dot_iff some]
  constructor
  · rintro ⟨_, -, split, further⟩
    obtain ⟨mid, filled_mid, rfl, rfl⟩ := (append_dot_joined_iff some').1 further.symm
    obtain ⟨_, _, parts, is_front, rest⟩ := List.map_eq_append_iff.1 split
    obtain ⟨middle, _, rfl, rfl, is_back⟩ := List.map_eq_append_iff.1 rest
    have same_front := List.map_injective_iff.2 Spelling.canonical_injective is_front
    have same_back := List.map_injective_iff.2 Spelling.canonical_injective is_back
    subst same_front same_back
    refine ⟨⟨middle⟩, fun none => filled_mid (List.map_eq_nil_iff.2 none), ?_, (canonical_eq_joined ⟨middle⟩).symm⟩
    rw [parts, List.append_assoc]
  · rintro ⟨middle, filled_mid, parts, rfl⟩
    have some_mid : middle.segments.map Spelling.canonical ≠ [] := fun none => filled_mid (List.map_eq_nil_iff.1 none)
    refine ⟨(middle.segments ++ back.segments).map Spelling.canonical, ?_, ?_, ?_⟩
    · exact fun none => filled_mid (List.append_eq_nil_iff.1 (List.map_eq_nil_iff.1 none)).1
    · rw [parts, List.append_assoc, List.map_append]
    · rw [List.map_append, canonical_eq_joined middle]
      exact ((append_dot_joined_iff some').2 ⟨_, some_mid, rfl, rfl⟩).symm

end ServiceName

namespace UnitName

variable {canonical namespaceText suffix unit : Text}

theorem between?_eq_some_iff : between? canonical namespaceText suffix = some unit ↔
    canonical = namespaceText ++ '.' :: (unit ++ '.' :: suffix) := by
  simp only [between?, bind, Option.bind_eq_some_iff, List.isPrefixOf?_eq_some_iff_append_eq,
    List.isSuffixOf?_eq_some_iff_append_eq]
  constructor
  · rintro ⟨_, rfl, _, rfl, _, rfl, rfl⟩
    simp
  · rintro rfl
    exact ⟨_, rfl, _, rfl, unit ++ ['.'], by simp, rfl⟩

/-- **What is taken for a unit**: what stands between the namespace with its dot and the dot with the suffix, if that is
something. -/
theorem parse_eq_named_iff : parse canonical namespaceText suffix = .named unit ↔
    unit ≠ [] ∧ canonical = namespaceText ++ '.' :: (unit ++ '.' :: suffix) := by
  rw [← between?_eq_some_iff, parse]
  cases between? canonical namespaceText suffix with
  | none => simp
  | some other =>
    by_cases none : other = []
    · simp +contextual [none, eq_comm]
    · simp only [if_neg none, named.injEq, Option.some.injEq]
      exact ⟨fun same => ⟨same ▸ none, same⟩, And.right⟩

theorem parse_eq_unparseable_iff : parse canonical namespaceText suffix = .unparseable canonical ↔
    ∀ unit, parse canonical namespaceText suffix ≠ .named unit := by
  rw [parse]
  split
  · simp
  · split <;> simp

/-- **The unit in a canonical form is what stands between the segments of the namespace and those of the suffix.**

- If a namespace and a suffix are canonical forms of names with a segment each, a unit is read from the canonical form
  of a name exactly if the name has those of the namespace first, those of the suffix last, and some in between, and the
  unit is the canonical form of these.  Otherwise the canonical form is kept as it is.
- Whatever texts the namespace and the suffix are, the service that a unit is read from counts as one that installs it,
  and its name is the namespace, a dot, the unit, a dot and the suffix, where the unit is not empty. -/
theorem units_between_segments :
    (∀ front back n : ServiceName, front.segments ≠ [] → back.segments ≠ [] →
      (∀ unit, parse n.canonical front.canonical back.canonical = .named unit ↔
        ∃ middle : ServiceName, middle.segments ≠ [] ∧
          n.segments = front.segments ++ middle.segments ++ back.segments ∧ unit = middle.canonical) ∧
      ((¬ ∃ middle : ServiceName, middle.segments ≠ [] ∧
          n.segments = front.segments ++ middle.segments ++ back.segments) →
        parse n.canonical front.canonical back.canonical = .unparseable n.canonical)) ∧
    ∀ (naming : UnitNaming) (canonical unit : Text), naming.dependentUnit canonical = .named unit →
      naming.isInstallService canonical = true ∧ unit ≠ [] ∧
        canonical = naming.namespaceText ++ ['.'] ++ unit ++ ['.'] ++ naming.installSuffix := by
  constructor
  · intro front back n filled filled'
    have named (unit : Text) : parse n.canonical front.canonical back.canonical = .named unit ↔
        ∃ middle : ServiceName, middle.segments ≠ [] ∧
          n.segments = front.segments ++ middle.segments ++ back.segments ∧ unit = middle.canonical := by
      rw [parse_eq_named_iff, ServiceName.canonical_eq_between_iff filled filled', and_iff_right_iff_imp]
      rintro ⟨middle, filled_mid, -, rfl⟩
      exact ServiceName.canonical_ne_nil filled_mid
    refine ⟨named, fun apart => parse_eq_unparseable_iff.2 fun unit taken => apart ?_⟩
    obtain ⟨middle, filled_mid, parts, -⟩ := (named unit).1 taken
    exact ⟨middle, filled_mid, parts⟩
  · intro naming canonical unit taken
    obtain ⟨filled, rfl⟩ := parse_eq_named_iff.1 taken
    refine ⟨UnitNaming.isInstallService_iff.2 ⟨List.prefix_append .., ?_⟩, filled, by simp⟩
    exact ⟨naming.namespaceText ++ '.' :: (unit ++ ['.']), by simp⟩

def subunits : ServiceName := ⟨["ns".toList]⟩

/-- A suffix of one segment, with a dot in quotes. -/
def warSuffix : ServiceName := ⟨["b.war".toList]⟩

theorem unit_beside_quoted_dots :
    subunits.segments ≠ [] ∧ warSuffix.segments ≠ [] ∧
    parse (ServiceName.canonical ⟨["ns".toList, "u.v".toList, "b.war".toList]⟩) subunits.canonical
      warSuffix.canonical = .named "\"u.v\"".toList ∧
    (∃ n : ServiceName, n.segments = ["ns".toList, "u.b.war".toList] ∧
      (¬ ∃ middle : ServiceName, middle.segments ≠ [] ∧
        n.segments = subunits.segments ++ middle.segments ++ warSuffix.segments) ∧
      parse n.canonical subunits.canonical warSuffix.canonical = .unparseable n.canonical) ∧
    UnitNaming.dependentUnit ⟨"ns".toList, "GO".toList, []⟩ "ns..\".GO".toList = .named ".\"".toList ∧
    UnitNaming.isInstallService ⟨"ns".toList, "GO".toList, []⟩ "ns..\".GO".toList = true := by
  obtain ⟨segmentwise, textual⟩ := units_between_segments
  have filled : subunits.segments ≠ [] := nofun
  have filled' : warSuffix.segments ≠ [] := nofun
  have apart : ¬ ∃ middle : ServiceName, middle.segments ≠ [] ∧
      ["ns".toList, "u.b.war".toList] = subunits.segments ++ middle.segments ++ warSuffix.segments := by
    rintro ⟨middle, filled_mid, parts⟩
    have count := congrArg List.length parts
    have some := List.length_pos_iff.2 filled_mid
    simp only [List.length_append, subunits, warSuffix, List.length_cons, List.length_nil] at count
    omega
  have taken : UnitNaming.dependentUnit ⟨"ns".toList, "GO".toList, []⟩ "ns..\".GO".toList = .named ".\"".toList := by
    decide
  refine ⟨filled, filled', ((segmentwise _ _ _ filled filled').1 _).2 ⟨⟨["u.v".toList]⟩, nofun, rfl, by decide⟩,
    ⟨⟨["ns".toList, "u.b.war".toList]⟩, rfl, apart, (segmentwise _ _ _ filled filled').2 apart⟩, taken,
    (textual _ _ _ taken).1⟩

end UnitName
end ServiceStability
