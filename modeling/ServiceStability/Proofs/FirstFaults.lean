import ServiceStability.Proofs.Spellings
/-!
# Proofs.FirstFaults — what is wrong with a text that is no name

Items with a dot behind them are done with, as many as there are in front.  What is left begins where a segment has to
begin, and there everything is decided.  Either it is one item, and the text is a name; or there is nothing, a quote
that opens and is never closed, a mark in a segment without quotes, or something stuck to a closing quote.

- `Spelling.LongestFront`: the items that are done with, and what is left.
- `Spelling.Ends`, `Spelling.Unclosed`, `Spelling.Strays`, `Spelling.Clings`: the four things that can be wrong there.
- `ServiceName.readFrom_eq_error_iff`: the reader tells them apart.
-/
namespace ServiceStability
namespace Spelling

open ServiceName (Fault)

variable {items others : List Spelling} {s rest more : Text}

/-- Some items, each with a dot behind it. -/
def dotted (items : List Spelling) : Text := items.flatMap fun item => item.text ++ ['.']

theorem dotted_cons_append (item : Spelling) (items : List Spelling) (rest : Text) :
    dotted (item :: items) ++ rest = item.text ++ '.' :: (dotted items ++ rest) := by
  simp [dotted]

/-- **The longest sequence of items with a dot behind each that stands in front of a text**, and what it leaves. -/
structure LongestFront (items : List Spelling) (rest s : Text) : Prop where
  split : s = dotted items ++ rest
  longest : ∀ others more, s = dotted others ++ more → others.length ≤ items.length

/-- No item with a dot behind it stands in front. -/
def Stuck (rest : Text) : Prop := ∀ (item : Spelling) (more : Text), rest ≠ item.text ++ '.' :: more

theorem ends_nil : Ends [] := fun c first => by cases first

theorem ends_dot (more : Text) : Ends ('.' :: more) := fun _ first => (Option.some.inj first).symm

theorem append_of_stuck (stuck : Stuck rest) (same : dotted items ++ rest = dotted others ++ more) :
    others <+: items := by
  induction others generalizing items with
  | nil => exact List.nil_prefix
  | cons other others ih =>
    rw [dotted_cons_append] at same
    cases items with
    | nil => exact absurd same (stuck other _)
    | cons item items =>
      rw [dotted_cons_append] at same
      obtain ⟨rfl, further⟩ := text_append_inj (ends_dot _) (ends_dot _) same
      exact List.cons_prefix_cons.2 ⟨rfl, ih (List.cons.inj further).2⟩

theorem longestFront_iff : LongestFront items rest s ↔ s = dotted items ++ rest ∧ Stuck rest := by
  constructor
  · rintro ⟨split, longest⟩
    refine ⟨split, fun item more same => ?_⟩
    have longer : s = dotted (items ++ [item]) ++ more := by
      rw [split, same]
      simp [dotted]
    have bound := longest _ _ longer
    rw [List.length_append, List.length_singleton] at bound
    omega
  · rintro ⟨rfl, stuck⟩
    exact ⟨rfl, fun others more same => (append_of_stuck stuck same).length_le⟩

theorem LongestFront.unique (front : LongestFront items rest s) (front' : LongestFront others more s) :
    others = items ∧ more = rest := by
  obtain ⟨split, stuck⟩ := longestFront_iff.1 front
  obtain ⟨split', -⟩ := longestFront_iff.1 front'
  have start := append_of_stuck stuck (split.symm.trans split')
  obtain rfl : others = items := start.eq_of_length_le (front'.longest items rest split)
  exact ⟨rfl, List.append_cancel_left (split'.symm.trans split)⟩

theorem exists_longestFront (s : Text) : ∃ items rest, LongestFront items rest s := by
  by_cases starts : ∃ (item : Spelling) (more : Text), s = item.text ++ '.' :: more
  · obtain ⟨item, more, same⟩ := starts
    have shorter : more.length < s.length := by
      rw [same, List.length_append, List.length_cons]
      omega
    obtain ⟨items, rest, front⟩ := exists_longestFront more
    obtain ⟨split, stuck⟩ := longestFront_iff.1 front
    refine ⟨item :: items, rest, longestFront_iff.2 ⟨?_, stuck⟩⟩
    rw [same, dotted_cons_append, ← split]
  · exact ⟨[], s, longestFront_iff.2 ⟨rfl, fun item more same => starts ⟨item, more, same⟩⟩⟩
termination_by s.length

/-- No quote ends what stands between quotes: each one, if any, is behind a backslash of its own. -/
def NeverClosed (body : Text) : Prop :=
  ∀ (chars : List QuotedChar) (more : Text), body ≠ chars.flatMap QuotedChar.text ++ '"' :: more

/-- **A segment opens with a quote that is never closed.** -/
def Unclosed (rest : Text) : Prop := ∃ body, rest = '"' :: body ∧ NeverClosed body

/-- **A segment without quotes meets a quote or a backslash.** -/
def Strays (rest : Text) : Prop := rest.head? ≠ some '"' ∧
  ∃ text c more, rest = text ++ c :: more ∧ Ordinary text ∧ (c = '"' ∨ c = '\\')

/-- **Behind a closing quote stands neither a dot nor the end.** -/
def Clings (rest : Text) : Prop := ∃ chars more, rest = (quoted chars).text ++ more ∧ ¬ Ends more

/-- **What a fault looks like** where a segment has to begin. -/
def Shows (rest : Text) : Fault → Prop
  | .emptySegment => Ends rest
  | .unterminatedQuote => Unclosed rest
  | .invalidSegment => Strays rest ∨ Clings rest

theorem exists_ordinary_front : ∀ s : Text,
    ∃ text more, s = text ++ more ∧ Ordinary text ∧ ∀ c ∈ more.head?, c = '.' ∨ c = '"' ∨ c = '\\'
  | [] => ⟨[], [], rfl, nofun, nofun⟩
  | c :: s => by
    by_cases marked : c = '.' ∨ c = '"' ∨ c = '\\'
    · exact ⟨[], c :: s, rfl, nofun, fun d first => Option.some.inj first ▸ marked⟩
    · obtain ⟨text, more, rfl, ordinary, stops⟩ := exists_ordinary_front s
      simp only [not_or] at marked
      exact ⟨c :: text, more, rfl, ordinary_cons.2 ⟨marked, ordinary⟩, stops⟩

/-- Where a segment has to begin there is a fault, or an item that can end where it does. -/
theorem shows_or_item (rest : Text) :
    (∃ fault, Shows rest fault) ∨ ∃ item more, rest = text item ++ more ∧ Ends more := by
  by_cases opens : rest.head? = some '"'
  · obtain ⟨body, rfl⟩ := List.head?_eq_some_iff.1 opens
    by_cases closed : ∃ (chars : List QuotedChar) (more : Text), body = chars.flatMap QuotedChar.text ++ '"' :: more
    · obtain ⟨chars, more, same⟩ := closed
      have item : '"' :: body = (quoted chars).text ++ more := by
        rw [same, text, List.cons_append, List.append_assoc, List.singleton_append]
      by_cases ends : Ends more
      · exact Or.inr ⟨.quoted chars, more, item, ends⟩
      · exact Or.inl ⟨.invalidSegment, Or.inr ⟨chars, more, item, ends⟩⟩
    · exact Or.inl ⟨.unterminatedQuote, body, rfl, fun chars more same => closed ⟨chars, more, same⟩⟩
  · obtain ⟨front, more, rfl, ordinary, stops⟩ := exists_ordinary_front rest
    cases more with
    | nil =>
      by_cases none : front = []
      · subst none
        exact Or.inl ⟨.emptySegment, ends_nil⟩
      · exact Or.inr ⟨.bare front none ordinary, [], rfl, ends_nil⟩
    | cons c more =>
      rcases stops c rfl with rfl | mark
      · by_cases none : front = []
        · subst none
          exact Or.inl ⟨.emptySegment, ends_dot more⟩
        · exact Or.inr ⟨.bare front none ordinary, '.' :: more, rfl, ends_dot more⟩
      · exact Or.inl ⟨.invalidSegment, Or.inl ⟨opens, front, c, more, rfl, ordinary, mark⟩⟩

end Spelling

namespace ServiceName

open Spelling

variable {s rest : Text} {fault : Fault}

theorem map_eq_error_iff {change : Remainder → Remainder} {read : Except Fault Remainder} :
    read.map change = .error fault ↔ read = .error fault := by
  cases read <;> simp [Except.map]

/-- A quote that nothing closes is noticed at the end, be it behind a backslash or not. -/
theorem readFrom_unclosed : ∀ {body : Text}, NeverClosed body → readFrom .quoted body = .error .unterminatedQuote
  | [], _ => rfl
  | c :: body, never => by
    rw [readFrom]
    by_cases slash : c = '\\'
    · rw [if_pos slash]
      cases body with
      | nil => rfl
      | cons d body =>
        have later : NeverClosed body := fun chars more same =>
          never (.escaped d :: chars) more (by rw [slash, same]; rfl)
        rw [readFrom, readFrom_unclosed later]
        rfl
    · rw [if_neg slash]
      by_cases quote : c = '"'
      · exact absurd (by rw [quote]; rfl) (never [] body)
      · have later : NeverClosed body := fun chars more same =>
          never (.plain c ⟨quote, slash⟩ :: chars) more (by rw [same]; rfl)
        rw [if_neg quote, readFrom_unclosed later]
        rfl

theorem readFrom_of_strays (strays : Strays rest) : readFrom .segmentStart rest = .error .invalidSegment := by
  obtain ⟨bare, front, c, more, rfl, ordinary, mark⟩ := strays
  have undotted : c ≠ '.' := by rcases mark with rfl | rfl <;> decide
  match front with
  | [] =>
    have quote : c ≠ '"' := fun is => bare (congrArg some is)
    rw [List.nil_append, readFrom, if_neg quote, if_neg undotted, if_pos (mark.resolve_left quote)]
  | d :: front =>
    obtain ⟨⟨dot, quote, slash⟩, ordinary⟩ := ordinary_cons.1 ordinary
    have stopped : readFrom .bare (c :: more) = .error .invalidSegment := by
      rw [readFrom, if_neg undotted, if_pos mark]
    rw [List.cons_append, readFrom, if_neg quote, if_neg dot, if_neg slash, readFrom_bare_append ordinary, stopped]
    rfl

theorem readFrom_of_clings (clings : Clings rest) : readFrom .segmentStart rest = .error .invalidSegment := by
  obtain ⟨chars, more, rfl, stuck⟩ := clings
  have stopped : readFrom .closed more = .error .invalidSegment := by
    match more with
    | [] => exact absurd ends_nil stuck
    | c :: more =>
      have undotted : c ≠ '.' := fun is => stuck (is ▸ ends_dot more)
      rw [readFrom, if_neg undotted]
  rw [Spelling.text, List.cons_append, List.append_assoc, List.singleton_append, readFrom, if_pos rfl,
    readFrom_quoted_append, stopped]
  rfl

/-- **The reader reports what is wrong.** -/
theorem readFrom_of_shows (shown : Shows rest fault) : readFrom .segmentStart rest = .error fault := by
  match fault with
  | .emptySegment =>
    match rest with
    | [] => rfl
    | c :: rest =>
      obtain rfl : c = '.' := shown c rfl
      rw [readFrom, if_neg (by decide), if_pos rfl]
  | .unterminatedQuote =>
    obtain ⟨body, rfl, never⟩ := shown
    rw [readFrom, if_pos rfl, readFrom_unclosed never]
  | .invalidSegment => exact shown.elim readFrom_of_strays readFrom_of_clings

/-- **The reader tells the faults apart** where no item with a dot behind it stands in front. -/
theorem readFrom_eq_error_iff (stuck : Stuck rest) : readFrom .segmentStart rest = .error fault ↔ Shows rest fault := by
  refine ⟨fun failed => ?_, readFrom_of_shows⟩
  rcases shows_or_item rest with ⟨other, shown⟩ | ⟨item, more, rfl, ends⟩
  · obtain rfl : other = fault := Except.error.inj ((readFrom_of_shows shown).symm.trans failed)
    exact shown
  · match more with
    | c :: more =>
      obtain rfl : c = '.' := ends c rfl
      exact absurd rfl (stuck item more)
    | [] =>
      rw [readFrom_item item ends] at failed
      cases failed

/-- What is done with does not change what is wrong behind it. -/
theorem readFrom_dotted (items : List Spelling) :
    readFrom .segmentStart (dotted items ++ rest) = .error fault ↔ readFrom .segmentStart rest = .error fault := by
  induction items with
  | nil => rfl
  | cons item items ih =>
    rw [dotted_cons_append, readFrom_item item (ends_dot _), map_eq_error_iff, readFrom, if_pos rfl, map_eq_error_iff,
      ih]

theorem parse_eq_empty_iff : parse s = .error .empty ↔ s = [] := by
  refine ⟨fun refused => ?_, fun none => none ▸ rfl⟩
  by_cases none : s = []
  · exact none
  · rw [parse, if_neg none] at refused
    split at refused
    · cases refused
    · rename_i fault _
      cases fault <;> cases refused

/-- A fault is reported with the text that it is in. -/
theorem parse_eq_inText_iff (filled : s ≠ []) (fault : Fault) (input : Text) : parse s = .error (fault.inText input) ↔
    readFrom .segmentStart s = .error fault ∧ fault.inText s = fault.inText input := by
  rw [parse, if_neg filled]
  cases readFrom .segmentStart s with
  | ok r => simp
  | error other => cases other <;> cases fault <;> simp [Fault.inText]

/-- **A text is a name exactly if it spells one, and otherwise the first fault decides.**

- It is read as a name exactly if it is some items with a dot between neighbours, at least one, and the name has the
  segments that they spell.  It is so in one way at most.
- It is refused as empty exactly if it is.
- There is one longest sequence of items with a dot behind each in front of it.  Where this leaves off, the text is
  refused for an empty segment exactly if nothing or a dot follows, for a quote without an end exactly if the segment
  opens with a quote that is never closed, and for an invalid segment exactly if it does not open with a quote and meets
  a quote or a backslash, or does and something other than a dot stands behind the closing one. -/
theorem parse_reports_first_fault (s : Text) :
    (∀ n, parse s = .ok n ↔ ∃ items, items ≠ [] ∧ joined items = s ∧ items.map segment = n.segments) ∧
    (∀ items others, joined items = s → joined others = s → items = others) ∧
    (parse s = .error .empty ↔ s = []) ∧
    ∃ items rest, LongestFront items rest s ∧
      (∀ others more, LongestFront others more s → others = items ∧ more = rest) ∧
      (parse s = .error .emptySegment ↔ s ≠ [] ∧ Ends rest) ∧
      (∀ input, parse s = .error (.unterminatedQuote input) ↔ input = s ∧ Unclosed rest) ∧
      ∀ input, parse s = .error (.invalidSegment input) ↔ input = s ∧ (Strays rest ∨ Clings rest) := by
  have once : ∀ items others, joined items = s → joined others = s → items = others := fun _ _ is is' =>
    joined_injective (is.trans is'.symm)
  obtain ⟨items, rest, front⟩ := exists_longestFront s
  obtain ⟨split, stuck⟩ := longestFront_iff.1 front
  refine ⟨fun n => parse_eq_ok_iff, once, parse_eq_empty_iff, items, rest, front, fun _ _ => front.unique, ?_⟩
  by_cases none : s = []
  · -- The empty text has its own error, and nothing is left of it that a quote or a mark could be in.
    have left : rest = [] := (List.append_eq_nil_iff.1 (split.symm.trans none)).2
    subst none left
    refine ⟨⟨nofun, fun ⟨filled, _⟩ => absurd rfl filled⟩, fun input => ⟨nofun, ?_⟩, fun input => ⟨nofun, ?_⟩⟩
    · rintro ⟨-, body, same, -⟩
      cases same
    · rintro ⟨-, ⟨-, front, c, more, same, -⟩ | ⟨chars, more, same, -⟩⟩
      · exact absurd same.symm (List.append_ne_nil_of_right_ne_nil _ nofun)
      · cases same
  · have refused (fault : Fault) (input : Text) :
        parse s = .error (fault.inText input) ↔ Shows rest fault ∧ fault.inText s = fault.inText input := by
      rw [parse_eq_inText_iff none, split, readFrom_dotted, readFrom_eq_error_iff stuck]
    refine ⟨(refused .emptySegment s).trans ?_, fun input => (refused .unterminatedQuote input).trans ?_,
      fun input => (refused .invalidSegment input).trans ?_⟩
    · rw [and_iff_left rfl, and_iff_right none, Shows]
    · rw [and_comm, Shows, Fault.inText, Fault.inText, NameError.unterminatedQuote.injEq, eq_comm]
    · rw [and_comm, Shows, Fault.inText, Fault.inText, NameError.invalidSegment.injEq, eq_comm]

/-- A segment that goes on behind its closing quote, with a quote without an end further on. -/
def twiceFaulty : Text := "a.\"b\"c.\"d".toList

theorem first_of_two_faults : parse twiceFaulty = .error (.invalidSegment twiceFaulty) ∧
    ∃ items rest, LongestFront items rest twiceFaulty ∧ (Strays rest ∨ Clings rest) ∧ ¬ Unclosed rest ∧
      ∀ others more, LongestFront others more twiceFaulty → more = rest := by
  have refused : parse twiceFaulty = .error (.invalidSegment twiceFaulty) := by rfl
  obtain ⟨-, -, -, items, rest, front, once, -, unterminated, invalid⟩ := parse_reports_first_fault twiceFaulty
  refine ⟨refused, items, rest, front, ((invalid twiceFaulty).1 refused).2, fun unclosed => ?_,
    fun others more front' => (once others more front').2⟩
  have other := (unterminated twiceFaulty).2 ⟨rfl, unclosed⟩
  rw [refused] at other
  cases other

end ServiceName
end ServiceStability
