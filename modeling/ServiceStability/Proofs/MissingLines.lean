import ServiceStability.Proofs.Verdict
/-!
# Proofs.MissingLines — a line tells what is missing, whatever the names hold

The line of a blocked service is free text: names, with blanks, commas and brackets around them.  All of these may
stand in a segment as well, a comma or a bracket even in a bare one.  But a blank stands in a canonical form only
between quotes, and where a canonical form ends its quotes are closed.  So the first blank that is not between quotes
ends a name, or a name and one mark behind it, and the mark tells whether another name follows.

- `Text.word`: the text up to that blank; `Text.Passes`: what it goes through.
- `ServiceName.listText_inj`: a list of names in brackets is told by its text.
- `Diagnosis.missing_lines_unambiguous`: so are the lines of a report.
-/
namespace ServiceStability
namespace Text

/-- **Where a character stands**: between quotes or not, and there behind a backslash or not. -/
inductive Quoting where
  | outside
  | inside
  | escaped
deriving DecidableEq

def Quoting.next : Quoting → Char → Quoting
  | .outside, c => if c = '"' then .inside else .outside
  | .inside, c => if c = '"' then .outside else if c = '\\' then .escaped else .inside
  | .escaped, _ => .inside

/-- **The text up to the first blank that is not between quotes.** -/
def word : Quoting → Text → Text
  | _, [] => []
  | quoting, c :: rest => if quoting = .outside ∧ isBlank c = true then [] else c :: word (quoting.next c) rest

/-- **A part without such a blank**, and where it leads to. -/
def Passes (part : Text) (before after : Quoting) : Prop :=
  ∀ rest, word before (part ++ rest) = part ++ word after rest

variable {part more : Text} {c : Char} {before between after : Quoting}

theorem passes_nil (quoting : Quoting) : Passes [] quoting quoting := fun _ => rfl

theorem Passes.append (first : Passes part before between) (second : Passes more between after) :
    Passes (part ++ more) before after := fun rest => by
  rw [List.append_assoc, first, second, List.append_assoc]

theorem passes_char (shown : before ≠ .outside ∨ isBlank c = false) : Passes [c] before (before.next c) :=
  fun rest => by
    have here : ¬ (before = .outside ∧ isBlank c = true) := fun ⟨out, blank⟩ => by
      rcases shown with apart | solid
      · exact apart out
      · rw [solid] at blank
        cases blank
    rw [List.singleton_append, word, if_neg here, List.singleton_append]

theorem passes_of_solid : ∀ {part : Text}, (∀ c ∈ part, c ≠ '"' ∧ isBlank c = false) →
    Passes part .outside .outside
  | [], _ => passes_nil _
  | c :: part, solid => by
    obtain ⟨unquoted, visible⟩ := solid c (List.mem_cons_self ..)
    have first : Passes [c] .outside (Quoting.next .outside c) := passes_char (Or.inr visible)
    rw [Quoting.next, if_neg unquoted] at first
    exact first.append (passes_of_solid fun d member => solid d (List.mem_cons_of_mem _ member))

theorem commaJoined_cons_cons (text next : Text) (texts : List Text) :
    commaJoined (text :: next :: texts) = text ++ ',' :: ' ' :: commaJoined (next :: texts) := by
  simp [commaJoined, List.intercalate]

end Text

namespace ServiceName

open Text

theorem passes_escapeChar (c : Char) : Passes (escapeChar c) .inside .inside := by
  unfold escapeChar
  split
  · have slash : Passes ['\\'] .inside .escaped := passes_char (Or.inl (by decide))
    have behind : Passes [c] .escaped .inside := passes_char (Or.inl (by decide))
    exact slash.append behind
  · rename_i unmarked
    obtain ⟨unquoted, unslashed⟩ := not_or.1 unmarked
    have passes : Passes [c] .inside (Quoting.next .inside c) := passes_char (Or.inl (by decide))
    rwa [Quoting.next, if_neg unquoted, if_neg unslashed] at passes

theorem passes_escaped : ∀ segment : Text, Passes (segment.flatMap escapeChar) .inside .inside
  | [] => passes_nil _
  | c :: segment => by
    rw [List.flatMap_cons]
    exact (passes_escapeChar c).append (passes_escaped segment)

/-- **The quotes around a segment are closed behind it**, and every blank in it is between them. -/
theorem passes_quote (segment : Text) : Passes (quote segment) .outside .outside := by
  have opened : Passes ['"'] .outside .inside := passes_char (Or.inr (by decide))
  have closed : Passes ['"'] .inside .outside := passes_char (Or.inl (by decide))
  exact opened.append ((passes_escaped segment).append closed)

theorem passes_segmentText (segment : Text) : Passes (segmentText segment) .outside .outside := by
  unfold segmentText
  split
  · exact passes_quote segment
  · rename_i bare
    obtain ⟨-, ordinary, solid⟩ := needsQuotes_eq_false_iff.1 (Bool.eq_false_iff.2 bare)
    exact passes_of_solid fun c member => ⟨(ordinary c member).2.1, solid c member⟩

theorem passes_canonicalText : ∀ segments : List Text, Passes (canonicalText segments) .outside .outside
  | [] => passes_nil _
  | [segment] => passes_segmentText segment
  | segment :: next :: segments => by
    have dot : Passes ['.'] .outside .outside := passes_char (Or.inr (by decide))
    rw [canonicalText]
    · exact (passes_segmentText segment).append (dot.append (passes_canonicalText (next :: segments)))
    · exact List.cons_ne_nil next segments

/-- **A canonical form holds a blank only between quotes.** -/
theorem word_canonical_append (name : ServiceName) (rest : Text) :
    word .outside (name.canonical ++ rest) = name.canonical ++ word .outside rest :=
  passes_canonicalText name.segments rest

variable {name : ServiceName} {names others : List ServiceName}

theorem listText_cons_cons (name next : ServiceName) (names : List ServiceName) :
    listText (name :: next :: names) = name.canonical ++ ',' :: ' ' :: listText (next :: names) :=
  commaJoined_cons_cons ..

/-- What stands right behind a name in a list in brackets, given the names that follow. -/
def markBefore : List ServiceName → Char
  | [] => ']'
  | _ :: _ => ','

/-- **The first word of a list in brackets** is its first name, with the mark behind it. -/
theorem word_listText (name : ServiceName) (names : List ServiceName) :
    word .outside (listText (name :: names) ++ [']']) = name.canonical ++ [markBefore names] := by
  match names with
  | [] =>
    rw [listText, List.map_singleton, commaJoined_singleton, word_canonical_append]
    rfl
  | next :: names =>
    rw [listText_cons_cons, List.append_assoc, word_canonical_append]
    rfl

/-- **A list of names in brackets is told by its text**, unless it is empty. -/
theorem listText_inj : ∀ {names others : List ServiceName}, names ≠ [] → others ≠ [] →
    listText names ++ [']'] = listText others ++ [']'] → names = others
  | [], _, filled, _, _ => absurd rfl filled
  | _, [], _, filled, _ => absurd rfl filled
  | name :: names, other :: others, _, _, same => by
    have words := congrArg (word .outside) same
    rw [word_listText, word_listText] at words
    obtain ⟨texts, marks⟩ := List.append_inj' words rfl
    have mark : markBefore names = markBefore others := (List.cons.inj marks).1
    obtain rfl := canonical_injective texts
    match names, others, mark with
    | [], [], _ => rfl
    | next :: names, next' :: others, _ =>
      rw [listText_cons_cons, listText_cons_cons, List.append_assoc, List.append_assoc] at same
      have further := (List.cons.inj (List.cons.inj (List.append_cancel_left same)).2).2
      exact congrArg (name :: ·) (listText_inj nofun nofun further)

end ServiceName

namespace Diagnosis

open Text ServiceName

variable {s t : ServiceSnapshot}

theorem missingLine_eq (s : ServiceSnapshot) :
    missingLine s = s.name.canonical ++ (" is missing [".toList ++ (listText s.unavailable.toList ++ [']'])) := by
  rw [missingLine, List.append_assoc, List.append_assoc]
  rfl

/-- **A line is told by its first word and the list behind it.** -/
theorem missingLine_inj (lacks : s.unavailable.toList ≠ []) (lacks' : t.unavailable.toList ≠ [])
    (same : missingLine s = missingLine t) : s.name = t.name ∧ s.unavailable = t.unavailable := by
  rw [missingLine_eq, missingLine_eq] at same
  have words := congrArg (word .outside) same
  rw [word_canonical_append, word_canonical_append] at words
  have names := canonical_injective (List.append_cancel_right words)
  rw [names] at same
  have lists := List.append_cancel_left (List.append_cancel_left same)
  exact ⟨names, OrderedSet.ext (listText_inj lacks lacks' lists)⟩

/-- What the blocked services of a result cannot reach themselves, with their names. -/
def lacking (result : QuiescenceResult) : List (ServiceName × OrderedSet ServiceName) :=
  (result.problemServices.filter isDirect).map fun s => (s.name, s.unavailable)

theorem missingLine_eq_iff (lacks : s.unavailable.toList ≠ []) (lacks' : t.unavailable.toList ≠ []) :
    missingLine s = missingLine t ↔ s.name = t.name ∧ s.unavailable = t.unavailable := by
  refine ⟨missingLine_inj lacks lacks', ?_⟩
  rintro ⟨name, unavailable⟩
  rw [missingLine, missingLine, name, unavailable]

/-- Two readings of the members that tell the same ones apart tell the same lists apart. -/
theorem map_eq_map_iff {α β γ : Type} {f : α → β} {g : α → γ} : ∀ {as bs : List α},
    (∀ a ∈ as, ∀ b ∈ bs, f a = f b ↔ g a = g b) → (as.map f = bs.map f ↔ as.map g = bs.map g)
  | [], [], _ => iff_of_true rfl rfl
  | [], _ :: _, _ | _ :: _, [], _ => iff_of_false nofun nofun
  | a :: as, b :: bs, alike => by
    have rest : as.map f = bs.map f ↔ as.map g = bs.map g := map_eq_map_iff fun x member y member' =>
      alike x (List.mem_cons_of_mem _ member) y (List.mem_cons_of_mem _ member')
    rw [List.map_cons, List.map_cons, List.map_cons, List.map_cons, List.cons.injEq, List.cons.injEq, rest,
      alike a (List.mem_cons_self ..) b (List.mem_cons_self ..)]

/-- **The line of a service tells its name and what it lacks.**  Two services that lack something have one line only if
they have one name and lack the same in the same order, whatever characters the segments hold.  So the lines of two
results are the same exactly if services of the same names lack the same. -/
theorem missing_lines_unambiguous :
    (∀ s t : ServiceSnapshot, s.unavailable.toList ≠ [] → t.unavailable.toList ≠ [] →
      (missingLine s = missingLine t ↔ s.name = t.name ∧ s.unavailable = t.unavailable)) ∧
    ∀ result other : QuiescenceResult,
      missingLines result = missingLines other ↔ lacking result = lacking other := by
  refine ⟨fun s t lacks lacks' => missingLine_eq_iff lacks lacks', fun result other => ?_⟩
  have direct : ∀ {result : QuiescenceResult}, ∀ s ∈ result.problemServices.filter isDirect,
      s.unavailable.toList ≠ [] := fun s member empty => by
    have lacks := (List.mem_filter.1 member).2
    rw [isDirect_eq_false_iff.2 empty] at lacks
    cases lacks
  refine map_eq_map_iff fun s member t member' => ?_
  rw [missingLine_eq_iff (direct s member) (direct t member'), Prod.mk.injEq]

/-- A service whose name has the wording of a line in it, and which lacks the given names. -/
def wordy (names : List ServiceName) : ServiceSnapshot :=
  { ServiceSnapshot.fresh ⟨["a is missing [b]".toList]⟩ ⟨0⟩ with
    substate := .problem, dependencies := .ofList names, unavailable := .ofList names }

/-- One name with a comma and a blank in it is told from two names, and so is a bare one that ends in a comma. -/
theorem wordy_lines_differ :
    let one := wordy [⟨["x, y]".toList]⟩]
    let two := wordy [⟨["x".toList]⟩, ⟨["y]".toList]⟩]
    let comma := wordy [⟨["x,".toList]⟩, ⟨["y]".toList]⟩]
    one.unavailable.toList ≠ [] ∧ two.unavailable.toList ≠ [] ∧ comma.unavailable.toList ≠ [] ∧
      missingLine one ≠ missingLine two ∧ missingLine two ≠ missingLine comma := by
  intro one two comma
  have tells := missing_lines_unambiguous.1
  have lacks : one.unavailable.toList ≠ [] := by decide
  have lacks' : two.unavailable.toList ≠ [] := by decide
  have lacks'' : comma.unavailable.toList ≠ [] := by decide
  refine ⟨lacks, lacks', lacks'', fun same => ?_, fun same => ?_⟩
  · exact absurd ((tells one two lacks lacks').1 same).2 (by decide)
  · exact absurd ((tells two comma lacks' lacks'').1 same).2 (by decide)

end Diagnosis
end ServiceStability
