import ServiceStability.Codec.Reports
/-!
# Proofs.Sections — a section is in every form of a report or in none

A report is written as a document, whose keys are the titles of its sections, and as a text, where each title is a
heading.  Whether a section has something to say is tested for each of the two apart, and once more where the report as
a whole is asked whether it is empty.

What stands in a section of the text is indented, so a line that is written begins with a heading only where a section
does.  A name or a failure may hold a new line, and then the text has lines that were not written as such.

- `ReportSection.isIn`: a report has the section.
- `ReportSection.Shown`: the text of the report has it.
- `ReportSection.keys_members`, `ReportSection.shown_iff`: the document and the text have what the report has.
- `ReportSection.startsLine_text_iff`: where else a heading begins a line.
-/
namespace ServiceStability

namespace Text

variable {heading entry rest : Text}

/-- **One of the lines of a text begins so.** -/
def StartsLine (heading text : Text) : Prop := heading <+: text ∨ '\n' :: heading <:+: text

theorem prefix_append_newline_iff (plain : '\n' ∉ heading) :
    heading <+: entry ++ '\n' :: rest ↔ heading <+: entry := by
  refine ⟨fun begins => ?_, fun begins => begins.trans (List.prefix_append ..)⟩
  rcases List.prefix_or_prefix_of_prefix begins (List.prefix_append entry _) with within | ⟨more, same⟩
  · exact within
  · match more with
    | [] =>
      rw [List.append_nil] at same
      exact same ▸ List.prefix_refl _
    | c :: more =>
      rw [← same, List.prefix_append_right_inj, List.cons_prefix_cons] at begins
      exact absurd (same ▸ begins.1 ▸ List.mem_append_right _ (List.mem_cons_self ..)) plain

theorem infix_append_newline_iff (plain : '\n' ∉ heading) : ∀ {entry : Text},
    '\n' :: heading <:+: entry ++ '\n' :: rest ↔ '\n' :: heading <:+: entry ∨ StartsLine heading rest
  | [] => by
    have nothing : ¬ '\n' :: heading <:+: [] := fun inside => by cases List.infix_nil.1 inside
    rw [List.nil_append, List.infix_cons_iff, List.cons_prefix_cons, and_iff_right rfl, or_iff_right nothing,
      StartsLine]
  | c :: entry => by
    rw [List.cons_append, List.infix_cons_iff, List.infix_cons_iff, List.cons_prefix_cons, List.cons_prefix_cons,
      prefix_append_newline_iff plain, infix_append_newline_iff plain, or_assoc]

/-- A line in front of a text adds the lines that it holds. -/
theorem startsLine_line_append (plain : '\n' ∉ heading) :
    StartsLine heading (line entry ++ rest) ↔ StartsLine heading entry ∨ StartsLine heading rest := by
  rw [line, List.append_assoc, List.singleton_append, StartsLine, prefix_append_newline_iff plain,
    infix_append_newline_iff plain, ← or_assoc]
  rfl

theorem startsLine_flatMap_line (plain : '\n' ∉ heading) (filled : heading ≠ []) : ∀ {entries : List Text},
    StartsLine heading (entries.flatMap line) ↔ ∃ entry ∈ entries, StartsLine heading entry
  | [] => by
    refine iff_of_false ?_ nofun
    rintro (begins | inside)
    · exact filled (List.prefix_nil.1 begins)
    · cases List.infix_nil.1 inside
  | entry :: entries => by
    rw [List.flatMap_cons, startsLine_line_append plain, startsLine_flatMap_line plain filled]
    simp only [List.mem_cons, exists_eq_or_imp]

end Text

/-- **The sections of a report**, in the order in which they are written. -/
inductive ReportSection where
  | failed
  | required
  | lines
  | transitive
deriving DecidableEq

namespace ReportSection

open DiagnosticReport

def all : List ReportSection := [.failed, .required, .lines, .transitive]

theorem mem_all (s : ReportSection) : s ∈ all := by cases s <;> decide

/-- The title of a section, which is its key in a document. -/
def title : ReportSection → Text
  | .failed => failedTitle
  | .required => requiredTitle
  | .lines => linesTitle
  | .transitive => transitiveTitle

/-- What a section begins with in a text. -/
def heading (s : ReportSection) : Text := s.title ++ [':']

/-- **Whether a report has a section**: it is not empty, and of the transitive one that it is there at all. -/
def isIn (r : DiagnosticReport) : ReportSection → Bool
  | .failed => !r.failed.isEmpty
  | .required => !r.required.isEmpty
  | .lines => !r.lines.isEmpty
  | .transitive => r.transitive.isSome

/-- The lines that a section is written as. -/
def written (r : DiagnosticReport) : ReportSection → List Text
  | .failed => r.failedSection
  | .required => r.requiredSection
  | .lines => r.linesSection
  | .transitive => r.transitiveSection

/-- **A section of a text**: one of the lines that the report is written as begins with the heading. -/
def Shown (s : ReportSection) (r : DiagnosticReport) : Prop := ∃ entry ∈ r.sections, s.heading <+: entry

variable {r : DiagnosticReport} {s t : ReportSection} {entry : Text}

theorem isEmpty_iff_forall : r.isEmpty = true ↔ ∀ s : ReportSection, s.isIn r = false := by
  have each : (∀ s : ReportSection, s.isIn r = false) ↔
      isIn r .failed = false ∧ isIn r .required = false ∧ isIn r .lines = false ∧ isIn r .transitive = false :=
    ⟨fun none => ⟨none _, none _, none _, none _⟩, fun ⟨a, b, c, d⟩ s => by cases s <;> assumption⟩
  rw [each]
  simp [DiagnosticReport.isEmpty, isIn, and_assoc]

theorem exists_isIn (filled : r.isEmpty = false) : ∃ s : ReportSection, s.isIn r = true := by
  refine Classical.byContradiction fun none => ?_
  rw [isEmpty_iff_forall.2 fun s => Bool.eq_false_iff.2 fun present => none ⟨s, present⟩] at filled
  cases filled

theorem sections_eq (r : DiagnosticReport) : r.sections = all.flatMap (written r) := by
  simp [sections, all, written]

/-- **The keys of a report** are the titles of the sections that it has, in order. -/
theorem keys_members (r : DiagnosticReport) : r.members.map Prod.fst = (all.filter fun s => s.isIn r).map title := by
  have member : ∀ (absent : Bool) (key : Text) (value : Json),
      (Json.memberUnless absent key value).map Prod.fst = if !absent then [key] else [] := fun absent _ _ => by
    cases absent <;> rfl
  have last : (transitiveMembers r.transitive).map Prod.fst =
      if r.transitive.isSome then [transitiveTitle] else [] := by
    cases r.transitive <;> rfl
  rw [DiagnosticReport.members, List.map_append, List.map_append, List.map_append, member, member, member, last]
  simp only [all, List.filter_cons, List.filter_nil, isIn]
  split <;> split <;> split <;> split <;> rfl

theorem title_mem_keys_iff : s.title ∈ r.members.map Prod.fst ↔ s.isIn r = true := by
  have distinct : Function.Injective title := fun a b same => by
    cases a <;> cases b <;> first | rfl | exact absurd same (by decide)
  rw [keys_members, List.mem_map]
  constructor
  · rintro ⟨t, member, same⟩
    exact distinct same ▸ (List.mem_filter.1 member).2
  · exact fun present => ⟨s, List.mem_filter.2 ⟨mem_all s, present⟩, rfl⟩

theorem members_eq_nil_iff : r.members = [] ↔ r.isEmpty = true := by
  rw [isEmpty_iff_forall, ← List.map_eq_nil_iff (f := Prod.fst), keys_members, List.map_eq_nil_iff,
    List.filter_eq_nil_iff]
  simp only [Bool.not_eq_true]
  exact ⟨fun none s => none s (mem_all s), fun none s _ => none s⟩

theorem toJson_eq_iff : r.toJson = .object [] ↔ r.isEmpty = true := by
  rw [DiagnosticReport.toJson, Json.object.injEq, members_eq_nil_iff]

/-- **What a section is written as**: nothing, or the heading with more behind it and then what is indented. -/
theorem written_cases (r : DiagnosticReport) (s : ReportSection) :
    s.isIn r = false ∧ s.written r = [] ∨ s.isIn r = true ∧
      ∃ (more : Text) (texts : List Text), s.written r = (s.heading ++ more) :: texts.map indented := by
  have blocked : ∀ (s : ReportSection) (entries : List Text), ∃ (more : Text) (texts : List Text),
      block s.title entries = (s.heading ++ more) :: texts.map indented := fun s entries =>
    ⟨[], entries, by rw [List.append_nil]; rfl⟩
  cases s with
  | failed =>
    by_cases absent : r.failed.isEmpty = true
    · exact Or.inl ⟨by rw [isIn, absent]; rfl, if_pos absent⟩
    · rw [written, failedSection, if_neg absent, isIn, Bool.eq_false_iff.2 absent]
      exact Or.inr ⟨rfl, blocked .failed _⟩
  | required =>
    by_cases absent : r.required.isEmpty = true
    · exact Or.inl ⟨by rw [isIn, absent]; rfl, if_pos absent⟩
    · rw [written, requiredSection, if_neg absent, isIn, Bool.eq_false_iff.2 absent]
      exact Or.inr ⟨rfl, " [".toList ++ ServiceName.listText r.required.toList ++ "]".toList, [], by
        simp [titledNames, heading, title]⟩
  | lines =>
    by_cases absent : r.lines.isEmpty = true
    · exact Or.inl ⟨by rw [isIn, absent]; rfl, if_pos absent⟩
    · rw [written, linesSection, if_neg absent, isIn, Bool.eq_false_iff.2 absent]
      exact Or.inr ⟨rfl, blocked .lines _⟩
  | transitive =>
    rw [written, transitiveSection, isIn]
    cases r.transitive with
    | none => exact Or.inl ⟨rfl, rfl⟩
    | some problem => exact Or.inr ⟨rfl, blocked .transitive _⟩

theorem heading_inj (begins : s.heading <+: entry) (begins' : t.heading <+: entry) : s = t := by
  rcases List.prefix_or_prefix_of_prefix begins begins' with shorter | shorter <;>
    cases s <;> cases t <;> first | rfl | exact absurd shorter (by decide)

theorem not_heading_prefix_indented (s : ReportSection) (text : Text) : ¬ s.heading <+: indented text := by
  intro begins
  cases s <;> cases (List.cons_prefix_cons.1 begins).1

/-- **The text has the sections of the report, and no other.** -/
theorem shown_iff : s.Shown r ↔ s.isIn r = true := by
  simp only [Shown, sections_eq, List.mem_flatMap]
  constructor
  · rintro ⟨entry, ⟨t, -, member⟩, begins⟩
    rcases written_cases r t with ⟨-, nothing⟩ | ⟨present, more, texts, is⟩
    · rw [nothing] at member
      cases member
    · rw [is] at member
      rcases List.mem_cons.1 member with rfl | inside
      · exact heading_inj begins (List.prefix_append ..) ▸ present
      · obtain ⟨text, -, rfl⟩ := List.mem_map.1 inside
        exact absurd begins (not_heading_prefix_indented s text)
  · intro present
    rcases written_cases r s with ⟨absent, -⟩ | ⟨-, more, texts, is⟩
    · rw [absent] at present
      cases present
    · exact ⟨_, ⟨s, mem_all s, is ▸ List.mem_cons_self ..⟩, List.prefix_append ..⟩

theorem sections_eq_nil_iff : r.sections = [] ↔ r.isEmpty = true := by
  rw [sections_eq, List.flatMap_eq_nil_iff, isEmpty_iff_forall]
  refine ⟨fun nothing s => ?_, fun none s _ => ?_⟩
  · rcases written_cases r s with ⟨absent, -⟩ | ⟨-, more, texts, is⟩
    · exact absent
    · rw [nothing s (mem_all s)] at is
      cases is
  · rcases written_cases r s with ⟨-, nothing⟩ | ⟨present, -⟩
    · exact nothing
    · rw [none s] at present
      cases present

theorem text_eq_nil_iff : r.text = [] ↔ r.isEmpty = true := by
  rw [DiagnosticReport.text, List.flatMap_eq_nil_iff, ← sections_eq_nil_iff, List.eq_nil_iff_forall_not_mem]
  have filled : ∀ entry, Text.line entry ≠ [] := fun entry => List.append_ne_nil_of_right_ne_nil entry nofun
  exact forall₂_congr fun entry _ => iff_of_false (filled entry) id

/-- **A text begins with a heading**, unless the report is empty. -/
theorem exists_heading_prefix_text (filled : r.isEmpty = false) : ∃ s : ReportSection, s.heading <+: r.text := by
  have first : ∀ sections : List ReportSection, sections.flatMap (written r) = [] ∨
      ∃ s : ReportSection, ∃ more rest, sections.flatMap (written r) = (s.heading ++ more) :: rest := by
    intro sections
    induction sections with
    | nil => exact Or.inl rfl
    | cons s sections ih =>
      rw [List.flatMap_cons]
      rcases written_cases r s with ⟨-, nothing⟩ | ⟨-, more, texts, is⟩
      · rw [nothing, List.nil_append]
        exact ih
      · rw [is]
        exact Or.inr ⟨s, more, _, rfl⟩
  rcases first all with none | ⟨s, more, rest, is⟩
  · rw [← sections_eq, sections_eq_nil_iff, filled] at none
    cases none
  · refine ⟨s, more ++ '\n' :: rest.flatMap Text.line, ?_⟩
    rw [DiagnosticReport.text, sections_eq, is, List.flatMap_cons, Text.line, List.append_assoc, List.append_assoc,
      List.singleton_append]

/-- **Where a heading begins a line of the text**: where the section is, and inside of what is shown there if it has
such a line of its own. -/
theorem startsLine_text_iff : Text.StartsLine s.heading r.text ↔
    s.isIn r = true ∨ ∃ entry ∈ r.sections, '\n' :: s.heading <:+: entry := by
  have plain : '\n' ∉ s.heading := by cases s <;> decide
  have filled : s.heading ≠ [] := List.append_ne_nil_of_right_ne_nil _ nofun
  rw [DiagnosticReport.text, Text.startsLine_flatMap_line plain filled, ← shown_iff, Shown]
  simp only [Text.StartsLine, and_or_left, exists_or]

end ReportSection
end ServiceStability
