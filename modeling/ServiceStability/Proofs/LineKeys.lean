import ServiceStability.Yaml.Writer
/-!
# Proofs.LineKeys — the keys of a mapping begin its lines

In block notation a document says where its parts are by the column in which they begin.  The keys of the outermost
mapping stand in the first column, and everything else is behind a key, indented, or behind a dash or a mark.  So the
lines that begin with a letter are those of the outermost keys, whatever the texts in the document hold: one that has
line breaks of its own is quoted or stands in a block that is indented.

- `Yaml.lineKeys`: the keys at the beginnings of lines; `Yaml.Passes`: a part of a text that has none.
- `Yaml.passes_scalarLine`, `Yaml.passes_memberValue`: strings and values have none, however they are written.
- `Yaml.lineKeys_write`: what is left are the keys of the document.
-/
namespace ServiceStability
namespace Yaml

/-- **The keys that begin the lines of a text**: of each line that begins with a letter, what stands in front of a
colon.  `fresh` tells whether a line is about to begin. -/
def lineKeys (fresh : Bool) : Text → List Text
  | [] => []
  | c :: rest =>
    if fresh && c.isAlpha then (c :: rest).takeWhile (· != ':') :: lineKeys (isBreak c) rest
    else lineKeys (isBreak c) rest

/-- **A part of a text in which no line begins with a letter**, and whether a line is about to begin behind it. -/
def Passes (part : Text) (before after : Bool) : Prop := ∀ rest, lineKeys before (part ++ rest) = lineKeys after rest

variable {part more text key : Text} {c : Char} {before between after : Bool} {columns : Nat}

theorem passes_nil (fresh : Bool) : Passes [] fresh fresh := fun _ => rfl

theorem Passes.append (first : Passes part before between) (second : Passes more between after) :
    Passes (part ++ more) before after := fun rest => by
  rw [List.append_assoc, first, second]

theorem passes_char (quiet : before = false ∨ c.isAlpha = false) : Passes [c] before (isBreak c) := fun rest => by
  have silent : (before && c.isAlpha) = false := by
    rcases quiet with off | mark
    · rw [off, Bool.false_and]
    · rw [mark, Bool.and_false]
  rw [List.singleton_append, lineKeys, silent, if_neg Bool.false_ne_true]

theorem Passes.cons (quiet : before = false ∨ c.isAlpha = false) (behind : Passes part (isBreak c) after) :
    Passes (c :: part) before after := (passes_char quiet).append behind

/-- Inside of a line nothing begins. -/
theorem passes_of_oneLine : ∀ {part : Text}, isMultiline part = false → Passes part false false
  | [], _ => passes_nil _
  | c :: part, oneLine => by
    obtain ⟨first, others⟩ := Bool.or_eq_false_iff.1 oneLine
    exact .cons (Or.inl rfl) (first ▸ passes_of_oneLine others)

theorem passes_line (oneLine : isMultiline part = false) : Passes (Text.line part) false true :=
  (passes_of_oneLine oneLine).append (passes_char (Or.inl rfl))

/-! ## Indentation -/

theorem passes_indent (deep : 0 < columns) (before : Bool) : Passes (indent columns) before false := by
  obtain ⟨columns, rfl⟩ := Nat.exists_eq_succ_of_ne_zero (Nat.pos_iff_ne_zero.1 deep)
  exact .cons (Or.inr (by decide)) (passes_of_oneLine (by simp [isMultiline, isBreak]))

/-- Whatever the indentation is, a mark behind it is passed over. -/
theorem Passes.indented (columns : Nat) (passes : ∀ before, Passes part before after) (before : Bool) :
    Passes (indent columns ++ part) before after := by
  cases columns with
  | zero => exact passes before
  | succ columns => exact (passes_indent columns.succ_pos before).append (passes false)

theorem isAlpha_eq_false_of_isBreak (broken : isBreak c = true) : c.isAlpha = false := by
  simp only [isBreak, Bool.or_eq_true, beq_iff_eq] at broken
  rcases broken with (((rfl | rfl) | rfl) | rfl) | rfl <;> decide

/-- **The lines of a block pass**: they are indented. -/
theorem passes_indentLines (deep : 0 < columns) {char : Char → Text}
    (oneLine : ∀ c, isBreak c = false → isMultiline (char c) = false) : ∀ (text : Text) (fresh : Bool),
    Passes (indentLines columns char fresh text) fresh ((text.getLast?.map isBreak).getD fresh)
  | [], fresh => passes_nil fresh
  | c :: rest, fresh => by
    have last : (((c :: rest).getLast?).map isBreak).getD fresh = (rest.getLast?.map isBreak).getD (isBreak c) := by
      rw [List.getLast?_cons]
      cases rest.getLast? <;> rfl
    rw [last, indentLines]
    cases broken : isBreak c with
    | true =>
      have behind := passes_indentLines deep oneLine rest true
      exact .cons (Or.inr (isAlpha_eq_false_of_isBreak broken)) (broken.symm ▸ behind)
    | false =>
      have opened : Passes (if fresh then indent columns else []) fresh false := by
        cases fresh with
        | false => exact passes_nil false
        | true => exact passes_indent deep true
      exact (opened.append (passes_of_oneLine (oneLine c broken))).append (passes_indentLines deep oneLine rest false)

/-! ## Strings -/

theorem isBreak_digit (n : Nat) : ∀ c ∈ Nat.toDigits 16 n, isBreak c.toUpper = false := by
  have digit : ∀ k < 16, isBreak k.digitChar.toUpper = false := by decide
  induction n using Nat.strongRecOn with
  | ind n ih =>
    rcases Nat.lt_or_ge n 16 with small | large
    · rw [Nat.toDigits_of_lt_base small]
      exact List.forall_mem_singleton.2 (digit n small)
    · rw [Nat.toDigits_of_base_le (by decide) large]
      refine List.forall_mem_append.2 ⟨ih (n / 16) (by omega), ?_⟩
      exact List.forall_mem_singleton.2 (digit (n % 16) (Nat.mod_lt n (by decide)))

@[simp] theorem isMultiline_cons (c : Char) (text : Text) :
    isMultiline (c :: text) = (isBreak c || isMultiline text) := rfl

@[simp] theorem isMultiline_append (text more : Text) :
    isMultiline (text ++ more) = (isMultiline text || isMultiline more) := List.any_append

theorem isMultiline_upperHex (places n : Nat) : isMultiline (upperHex places n) = false := by
  have digits : isMultiline ((Nat.toDigits 16 n).map Char.toUpper) = false := by
    simpa [isMultiline] using isBreak_digit n
  rw [upperHex, isMultiline_append, digits]
  simp [isMultiline, isBreak]

theorem isMultiline_escaped (c : Char) : isMultiline (escaped c) = false := by
  have letters : ∀ entry ∈ letterEscapes, isBreak entry.2 = false := by decide
  have number : ∀ (mark : Char) (places : Nat), isBreak mark = false →
      isMultiline ('\\' :: mark :: upperHex places c.toNat) = false := fun mark places plain => by
    rw [isMultiline_cons, isMultiline_cons, plain, isMultiline_upperHex]
    rfl
  unfold escaped
  split
  · rename_i letter found
    obtain ⟨before, after, is, -⟩ := List.lookup_eq_some_iff.1 found
    rw [isMultiline_cons, isMultiline_cons, letters (c, letter) (is ▸ List.mem_append_right _ List.mem_cons_self)]
    rfl
  · split
    · exact number 'x' 2 rfl
    · split
      · exact number 'u' 4 rfl
      · exact number 'U' 8 rfl

theorem isMultiline_flatMap {char : Char → Text} (oneLine : ∀ c, isMultiline (char c) = false) (text : Text) :
    isMultiline (text.flatMap char) = false := by
  induction text with
  | nil => rfl
  | cons c text ih => rw [List.flatMap_cons, isMultiline_append, oneLine, ih, Bool.or_false]

theorem isMultiline_doubleChar (c : Char) : isMultiline (doubleChar c) = false := by
  unfold doubleChar
  split
  · exact isMultiline_escaped c
  · rename_i shown
    simp only [Bool.or_eq_true, not_or, Bool.not_eq_true] at shown
    rw [isMultiline_cons, shown.1.1.2]
    rfl

theorem isMultiline_singleChar (c : Char) (unbroken : isBreak c = false) : isMultiline (singleChar c) = false := by
  unfold singleChar
  split
  · rfl
  · rw [isMultiline_cons, unbroken]
    rfl

theorem isMultiline_chomping (text : Text) : isMultiline (chomping text) = false := by
  unfold chomping
  split
  · rfl
  · split
    · rfl
    · split
      · rfl
      · split <;> rfl

theorem isMultiline_literalHeader (text : Text) : isMultiline (literalHeader text) = false := by
  unfold literalHeader
  split <;> rw [isMultiline_cons, isMultiline_append, isMultiline_chomping] <;> rfl

theorem isMultiline_of_plain (plain : styleOf text = .plain) : isMultiline text = false := by
  unfold styleOf at plain
  split at plain
  · split at plain <;> cases plain
  · split at plain
    · rename_i allowed
      simp only [plainAllowed, Bool.and_eq_true, Bool.not_eq_true'] at allowed
      exact allowed.2.1.1.1.2
    · split at plain <;> cases plain

theorem contains_of_literal (literal : styleOf text = .literal) : text.contains '\n' = true := by
  unfold styleOf at literal
  split at literal
  · assumption
  · split at literal
    · cases literal
    · split at literal <;> cases literal

/-- **A string that is no literal block** is written on lines of its own, and ends the last of them. -/
theorem exists_body (deep : 0 < columns) (quoted : styleOf text ≠ .literal) :
    ∃ body, scalarLine columns text = body ++ ['\n'] ∧ Passes body false false := by
  unfold scalarLine
  cases style : styleOf text with
  | literal => exact absurd style quoted
  | plain => exact ⟨text, rfl, passes_of_oneLine (isMultiline_of_plain style)⟩
  | single =>
    refine ⟨'\'' :: (indentLines columns singleChar false text
      ++ ((if text.getLast?.any isBreak then indent columns else []) ++ ['\''])), by simp, ?_⟩
    have lines := passes_indentLines deep isMultiline_singleChar text false
    have closing : Passes (if text.getLast?.any isBreak then indent columns else [])
        ((text.getLast?.map isBreak).getD false) false := by
      cases text.getLast? with
      | none => exact passes_nil false
      | some c =>
        cases broken : isBreak c with
        | false => simpa [broken] using passes_nil false
        | true => simpa [broken] using passes_indent deep true
    exact .cons (Or.inl rfl) (lines.append (closing.append (passes_char (Or.inl rfl))))
  | double =>
    refine ⟨'"' :: (text.flatMap doubleChar ++ ['"']), by simp, ?_⟩
    have shown : Passes (text.flatMap doubleChar) false false :=
      passes_of_oneLine (isMultiline_flatMap isMultiline_doubleChar text)
    exact .cons (Or.inl rfl) (shown.append (passes_char (Or.inl rfl)))

/-- **A string begins no line with a letter**, however it is written, and ends its last line. -/
theorem passes_scalarLine (deep : 0 < columns) (text : Text) : Passes (scalarLine columns text) false true := by
  by_cases literal : styleOf text = .literal
  · have oneLine : ∀ c, isBreak c = false → isMultiline [c] = false := fun c unbroken => by
      rw [isMultiline_cons, unbroken]
      rfl
    have lines := passes_indentLines deep oneLine text true
    obtain ⟨last, ends⟩ : ∃ last, text.getLast? = some last := by
      cases is : text.getLast? with
      | some last => exact ⟨last, rfl⟩
      | none =>
        have filled := contains_of_literal literal
        rw [List.getLast?_eq_none_iff.1 is] at filled
        cases filled
    have finished : Passes (finishLine text) (isBreak last) true := by
      rw [finishLine, ends]
      have newLine : Passes ['\n'] false true := passes_char (Or.inl rfl)
      cases broken : isBreak last with
      | true => simpa [broken] using passes_nil true
      | false => simpa [broken] using newLine
    rw [ends] at lines
    rw [scalarLine, literal]
    exact (passes_of_oneLine (isMultiline_literalHeader text)).append
      (.cons (Or.inl rfl) (lines.append finished))
  · obtain ⟨body, is, passes⟩ := exists_body deep literal
    rw [is]
    exact passes.append (passes_char (Or.inl rfl))

/-! ## Values -/

theorem passes_colon (before : Bool) : Passes [':'] before false := passes_char (Or.inr (by decide))

theorem styleOf_ne_literal_of_isSimpleKey (simple : isSimpleKey key = true) : styleOf key ≠ .literal := by
  intro literal
  have newLine : isBreak '\n' = true := rfl
  have broken : isMultiline key = true :=
    List.any_eq_true.2 ⟨'\n', List.contains_iff_mem.1 (contains_of_literal literal), newLine⟩
  rw [isSimpleKey, broken] at simple
  cases simple

theorem passes_keyText (deep : 0 < columns) (key : Text) : Passes (keyText columns key) false false := by
  rw [keyText]
  split
  · rename_i simple
    obtain ⟨body, is, passes⟩ :=
      exists_body (Nat.add_pos_left deep 2) (styleOf_ne_literal_of_isSimpleKey simple)
    rw [is, List.dropLast_concat]
    exact passes.append (passes_colon false)
  · have mark : Passes "? ".toList false false := passes_of_oneLine rfl
    have said := passes_scalarLine (Nat.add_pos_left deep 2) key
    exact ((mark.append said).append (passes_indent deep true)).append (passes_colon false)

mutual

/-- **The value of a member begins no line with a letter**, and ends its last line. -/
theorem passes_memberValue (columns : Nat) : ∀ value : Json, Passes (memberValue columns value) false true
  | .null => (passes_line rfl : Passes (Text.line " null".toList) false true)
  | .bool value => .cons (Or.inl rfl) (passes_line (by cases value <;> rfl))
  | .text value => .cons (Or.inl rfl) (passes_scalarLine (Nat.succ_pos _) value)
  | .array [] => (passes_line rfl : Passes (Text.line " []".toList) false true)
  | .array (item :: rest) => .cons (Or.inl rfl) (.indented columns (passes_sequence columns item rest) true)
  | .object [] => (passes_line rfl : Passes (Text.line [' ', '\x7b', '\x7d']) false true)
  | .object ((key, value) :: rest) =>
    .cons (Or.inl rfl) ((passes_indent (Nat.succ_pos _) true).append (passes_mapping (columns + 1) key value rest))
termination_by value => sizeOf value

theorem passes_itemValue (columns : Nat) : ∀ value : Json, Passes (itemValue columns value) false true
  | .null => (passes_line rfl : Passes (Text.line " null".toList) false true)
  | .bool value => .cons (Or.inl rfl) (passes_line (by cases value <;> rfl))
  | .text value => .cons (Or.inl rfl) (passes_scalarLine (Nat.succ_pos _) value)
  | .array [] => (passes_line rfl : Passes (Text.line " []".toList) false true)
  | .array (item :: rest) => .cons (Or.inl rfl) (passes_sequence (columns + 2) item rest false)
  | .object [] => (passes_line rfl : Passes (Text.line [' ', '\x7b', '\x7d']) false true)
  | .object ((key, value) :: rest) => .cons (Or.inl rfl) (passes_mapping (columns + 1) key value rest)
termination_by value => sizeOf value

theorem passes_mapping (columns : Nat) : ∀ (key : Text) (value : Json) (rest : List (Text × Json)),
    Passes (mapping (columns + 1) ((key, value) :: rest)) false true
  | key, value, [] => (passes_keyText columns.succ_pos key).append (passes_memberValue (columns + 1) value)
  | key, value, (next, value') :: rest =>
    (((passes_keyText columns.succ_pos key).append (passes_memberValue (columns + 1) value)).append
      (passes_indent columns.succ_pos true)).append (passes_mapping columns next value' rest)
termination_by _ value rest => sizeOf value + sizeOf rest + 1

theorem passes_sequence (columns : Nat) : ∀ (item : Json) (rest : List Json) (before : Bool),
    Passes (sequence columns (item :: rest)) before true
  | item, [], before => .cons (Or.inr (by decide)) (passes_itemValue columns item)
  | item, next :: rest, before => by
    have others := Passes.indented columns (passes_sequence columns next rest) true
    have whole := (passes_itemValue columns item).append others
    rw [← List.append_assoc] at whole
    exact .cons (Or.inr (by decide)) whole
termination_by item rest => sizeOf item + sizeOf rest + 1

end

/-! ## Documents -/

/-- **A key that is written as it is**, without quotes, and that begins with a letter and has no colon of its own. -/
structure IsBare (key : Text) : Prop where
  simple : isSimpleKey key = true
  plain : styleOf key = .plain
  letter : key.head?.any Char.isAlpha = true
  whole : ':' ∉ key

/-- **A line that begins with a key** tells that key. -/
theorem IsBare.lineKeys_keyText (bare : IsBare key) (column : Nat) (rest : Text) :
    lineKeys true (keyText column key ++ rest) = key :: lineKeys false rest := by
  have unbroken : isMultiline key = false := isMultiline_of_plain bare.plain
  have written : keyText column key = key ++ [':'] := by
    rw [keyText, bare.simple, if_pos rfl, scalarLine, bare.plain, List.dropLast_concat]
  have told : (key ++ ':' :: rest).takeWhile (· != ':') = key := by
    have whole : ∀ c ∈ key, (c != ':') = true := fun c member =>
      bne_iff_ne.2 fun same => bare.whole (same ▸ member)
    simp [List.takeWhile_append_of_pos whole]
  rw [written, List.append_assoc, List.singleton_append]
  cases key with
  | nil => cases bare.letter
  | cons c key =>
    have letter : c.isAlpha = true := bare.letter
    obtain ⟨first, others⟩ := Bool.or_eq_false_iff.1 unbroken
    rw [List.cons_append] at told ⊢
    rw [lineKeys, letter, Bool.true_and, if_pos rfl, told, first, passes_of_oneLine others]
    exact congrArg _ (passes_colon false rest)

theorem lineKeys_mapping : ∀ (key : Text) (value : Json) (rest : List (Text × Json)),
    (∀ member ∈ (key, value) :: rest, IsBare member.1) →
      lineKeys true (mapping 0 ((key, value) :: rest)) = key :: rest.map Prod.fst
  | key, value, [], bare => by
    have told := passes_memberValue 0 value []
    rw [List.append_nil] at told
    rw [mapping, IsBare.lineKeys_keyText (bare _ List.mem_cons_self), told]
    rfl
  | key, value, (next, value') :: rest, bare => by
    obtain ⟨first, others⟩ := List.forall_mem_cons.1 bare
    have told := lineKeys_mapping next value' rest others
    rw [mapping, List.append_assoc, List.append_assoc, first.lineKeys_keyText, passes_memberValue 0 value,
      List.map_cons, ← told]
    · rfl
    · exact List.cons_ne_nil _ _

/-- **The keys that begin the lines of a document are those of its outermost mapping**, in order. -/
theorem lineKeys_write {members : List (Text × Json)} (bare : ∀ member ∈ members, IsBare member.1) :
    lineKeys true (write (.object members)) = members.map Prod.fst := by
  match members with
  | [] => rfl
  | (key, value) :: rest => exact lineKeys_mapping key value rest bare

/-- A line in the middle of a value is indented, so it does not pass for a key. -/
example : lineKeys true (write (.object [("a".toList, .text "x\nb: y".toList), ("c".toList, .null)])) =
    ["a".toList, "c".toList] := by decide +kernel

end Yaml
end ServiceStability
