import Mathlib.Data.List.DropRight
import ServiceStability.Json.Decode
/-!
# Proofs.WrittenForms — a document is read as it was written

A written form of a document has its parts in order and any blanks between them.  Both forms that this library writes
are of that kind, and the reader finds the document again in every text of that kind.

- `Json.Written`: the written forms of a document.
- `Json.written_compact`, `Json.written_pretty`: the two forms.
- `Json.read_append_of_written`: what is read is what was written.
-/
namespace ServiceStability
namespace Json

/-- What the reader passes over between the parts of a document. -/
def Spaces (text : Text) : Prop := ∀ c ∈ text, isSpace c = true

mutual

/-- **A text is a written form of a document.** -/
inductive Written : Json → Text → Prop
  | null : Written .null "null".toList
  | bool (value : Bool) : Written (.bool value) (boolText value)
  | text (value : Text) : Written (.text value) (stringText value)
  | noItems {blanks : Text} (spaces : Spaces blanks) : Written (.array []) ('[' :: (blanks ++ [']']))
  | items {item : Json} {rest : List Json} {t : Text} (items : WrittenItems item rest t) :
    Written (.array (item :: rest)) ('[' :: t)
  | noMembers {blanks : Text} (spaces : Spaces blanks) : Written (.object []) ('\x7b' :: (blanks ++ ['\x7d']))
  | members {key : Text} {value : Json} {rest : List (Text × Json)} {t : Text}
      (members : WrittenMembers key value rest t) : Written (.object ((key, value) :: rest)) ('\x7b' :: t)

/-- The same for an item and those behind it, up to the closing bracket. -/
inductive WrittenItems : Json → List Json → Text → Prop
  | last {item : Json} {before t after : Text} (spaces : Spaces before) (written : Written item t)
      (spaces' : Spaces after) : WrittenItems item [] (before ++ (t ++ (after ++ [']'])))
  | more {item next : Json} {rest : List Json} {before t u : Text} (spaces : Spaces before) (written : Written item t)
      (items : WrittenItems next rest u) : WrittenItems item (next :: rest) (before ++ (t ++ ',' :: u))

/-- The same for a member and those behind it. -/
inductive WrittenMembers : Text → Json → List (Text × Json) → Text → Prop
  | last {key : Text} {value : Json} {before gap t after : Text} (spaces : Spaces before) (gaps : Spaces gap)
      (written : Written value t) (spaces' : Spaces after) :
    WrittenMembers key value [] (before ++ (stringText key ++ ':' :: (gap ++ (t ++ (after ++ ['\x7d'])))))
  | more {key next : Text} {value value' : Json} {rest : List (Text × Json)} {before gap t u : Text}
      (spaces : Spaces before) (gaps : Spaces gap) (written : Written value t)
      (members : WrittenMembers next value' rest u) :
    WrittenMembers key value ((next, value') :: rest) (before ++ (stringText key ++ ':' :: (gap ++ (t ++ ',' :: u))))

end

section Forms

theorem spaces_nil : Spaces [] := nofun

theorem spaces_newLine (level : Nat) : Spaces (newLine level) := by
  intro c member
  rcases List.mem_cons.1 member with rfl | member
  · rfl
  · obtain rfl := List.eq_of_mem_replicate member
    rfl

theorem spaces_blank : Spaces [' '] := by simp [Spaces, isSpace]

mutual

/-- **The form without blanks is a written form.** -/
theorem written_compact : ∀ document : Json, Written document document.compact
  | .null => .null
  | .bool value => .bool value
  | .text value => .text value
  | .array [] => .noItems spaces_nil
  | .array (item :: rest) => Written.items (written_compactItems item rest)
  | .object [] => .noMembers spaces_nil
  | .object ((key, value) :: rest) => Written.members (written_compactMembers key value rest)
termination_by document => sizeOf document

theorem written_compactItems : ∀ (item : Json) (rest : List Json),
    WrittenItems item rest (compactItems (item :: rest) ++ [']'])
  | item, [] => .last spaces_nil (written_compact item) spaces_nil
  | item, next :: rest => by
    simpa [compactItems] using WrittenItems.more spaces_nil (written_compact item) (written_compactItems next rest)
termination_by item rest => sizeOf item + sizeOf rest + 1

theorem written_compactMembers : ∀ (key : Text) (value : Json) (rest : List (Text × Json)),
    WrittenMembers key value rest (compactMembers ((key, value) :: rest) ++ ['\x7d'])
  | key, value, [] => by
    simpa [compactMembers] using WrittenMembers.last spaces_nil spaces_nil (written_compact value) spaces_nil
  | key, value, (next, value') :: rest => by
    simpa [compactMembers] using
      WrittenMembers.more spaces_nil spaces_nil (written_compact value) (written_compactMembers next value' rest)
termination_by _ value rest => sizeOf value + sizeOf rest + 1

end

mutual

/-- **The form on lines is a written form.** -/
theorem written_prettyAt (level : Nat) : ∀ document : Json, Written document (document.prettyAt level)
  | .null => .null
  | .bool value => .bool value
  | .text value => .text value
  | .array [] => .noItems spaces_nil
  | .array (item :: rest) => Written.items (written_prettyItems level item rest)
  | .object [] => .noMembers spaces_nil
  | .object ((key, value) :: rest) => Written.members (written_prettyMembers level key value rest)
termination_by document => sizeOf document

theorem written_prettyItems (level : Nat) : ∀ (item : Json) (rest : List Json),
    WrittenItems item rest (prettyItems (level + 1) (item :: rest) ++ newLine level ++ [']'])
  | item, [] => by
    simpa [prettyItems] using
      WrittenItems.last (spaces_newLine (level + 1)) (written_prettyAt (level + 1) item) (spaces_newLine level)
  | item, next :: rest => by
    simpa [prettyItems] using
      WrittenItems.more (spaces_newLine (level + 1)) (written_prettyAt (level + 1) item)
        (written_prettyItems level next rest)
termination_by item rest => sizeOf item + sizeOf rest + 1

theorem written_prettyMembers (level : Nat) : ∀ (key : Text) (value : Json) (rest : List (Text × Json)),
    WrittenMembers key value rest (prettyMembers (level + 1) ((key, value) :: rest) ++ newLine level ++ ['\x7d'])
  | key, value, [] => by
    simpa [prettyMembers] using
      WrittenMembers.last (spaces_newLine (level + 1)) spaces_blank (written_prettyAt (level + 1) value)
        (spaces_newLine level)
  | key, value, (next, value') :: rest => by
    simpa [prettyMembers] using
      WrittenMembers.more (spaces_newLine (level + 1)) spaces_blank (written_prettyAt (level + 1) value)
        (written_prettyMembers level next value' rest)
termination_by _ value rest => sizeOf value + sizeOf rest + 1

end

theorem written_pretty (document : Json) : Written document document.pretty := written_prettyAt 0 document

end Forms

section Strings

variable {c : Char} {value behind : Text} {fuel : Nat}

/-- A control character is read back from its four digits. -/
theorem readFourHex_fourHex {n : Nat} (control : n < 0x20) (behind : Text) :
    readFourHex (fourHex n ++ behind) = .ok (n, behind) := by
  have digits : ∀ n < 0x20, (fourHex n).length = 4 ∧ hexNumber (fourHex n) = some n := by decide
  obtain ⟨four, number⟩ := digits n control
  rw [readFourHex, List.take_left' four, List.drop_left' four, number]
  simp [four]

theorem readUnit_fourHex (control : c.toNat < 0x20) : readUnit (fourHex c.toNat ++ behind) = .ok (c, behind) := by
  have low : isLowSurrogate c.toNat = false := by simp [isLowSurrogate]; omega
  have high : isHighSurrogate c.toNat = false := by simp [isHighSurrogate]; omega
  simp [readUnit, readFourHex_fourHex control, bind, Except.bind, low, high]

/-- **How a character stands in a string**: behind a backslash as a letter, as its four digits, or as it is. -/
theorem stringChar_cases (c : Char) :
    (∃ letter, letter ≠ 'u' ∧ simpleEscape letter = some c ∧ stringChar c = ['\\', letter]) ∨
    (c.toNat < 0x20 ∧ stringChar c = '\\' :: 'u' :: fourHex c.toNat) ∨
    (c ≠ '"' ∧ c ≠ '\\' ∧ ¬ c.toNat < 0x20 ∧ stringChar c = [c]) := by
  unfold stringChar
  split
  · next same => exact Or.inl ⟨'"', by decide, by rw [same]; rfl, rfl⟩
  split
  · next same => exact Or.inl ⟨'\\', by decide, by rw [same]; rfl, rfl⟩
  split
  · next same => exact Or.inl ⟨'n', by decide, by rw [same]; rfl, rfl⟩
  split
  · next same => exact Or.inl ⟨'r', by decide, by rw [same]; rfl, rfl⟩
  split
  · next same => exact Or.inl ⟨'t', by decide, by rw [same]; rfl, rfl⟩
  split
  · next same => exact Or.inl ⟨'b', by decide, by rw [same]; rfl, rfl⟩
  split
  · next same => exact Or.inl ⟨'f', by decide, by rw [same]; rfl, rfl⟩
  split
  · next control => exact Or.inr (Or.inl ⟨control, rfl⟩)
  · next quote slash _ _ _ _ _ control => exact Or.inr (Or.inr ⟨quote, slash, control, rfl⟩)

theorem readString_stringChar : readString (fuel + 1) (stringChar c ++ behind) =
    (readString fuel behind).map fun read => (c :: read.1, read.2) := by
  rcases stringChar_cases c with ⟨letter, marked, escape, form⟩ | ⟨control, form⟩ | ⟨quote, slash, control, form⟩
  · simp [form, readString, escape]
    rfl
  · simp [form, readString, readUnit_fourHex control]
    rfl
  · simp [form, readString, quote, slash, control]
    rfl

theorem passString_stringChar : passString (fuel + 1) (stringChar c ++ behind) = passString fuel behind := by
  rcases stringChar_cases c with ⟨letter, marked, escape, form⟩ | ⟨control, form⟩ | ⟨quote, slash, control, form⟩
  · simp [form, passString, escape]
  · simp [form, passString, readFourHex_fourHex control]
  · simp [form, passString, quote, slash, control]

theorem readString_value : ∀ (value : Text) {fuel : Nat}, value.length < fuel →
    readString fuel (value.flatMap stringChar ++ '"' :: behind) = .ok (value, behind)
  | [], fuel + 1, _ => by simp [readString]
  | c :: value, fuel + 1, enough => by
    rw [List.flatMap_cons, List.append_assoc, readString_stringChar,
      readString_value value (Nat.lt_of_succ_lt_succ enough)]
    rfl

theorem passString_value : ∀ (value : Text) {fuel : Nat}, value.length < fuel →
    passString fuel (value.flatMap stringChar ++ '"' :: behind) = .ok behind
  | [], fuel + 1, _ => by simp [passString]
  | c :: value, fuel + 1, enough => by
    rw [List.flatMap_cons, List.append_assoc, passString_stringChar,
      passString_value value (Nat.lt_of_succ_lt_succ enough)]

theorem length_le_flatMap_stringChar (value : Text) : value.length ≤ (value.flatMap stringChar).length := by
  induction value with
  | nil => exact Nat.le_refl _
  | cons c value ih =>
    have one : 1 ≤ (stringChar c).length := by
      rcases stringChar_cases c with ⟨_, _, _, form⟩ | ⟨_, form⟩ | ⟨_, _, _, form⟩ <;> simp [form]
    rw [List.flatMap_cons, List.length_append, List.length_cons]
    omega

/-- **A string is read as it was written**, by a reader who takes it and by one who passes over it. -/
theorem outlineString_value :
    outlineString (value.flatMap stringChar ++ '"' :: behind) = ⟨.ok value, none, behind⟩ := by
  have enough : value.length < (value.flatMap stringChar ++ '"' :: behind).length + 1 := by
    have := length_le_flatMap_stringChar value
    rw [List.length_append]
    omega
  simp only [outlineString, readString_value value enough, passString_value value enough]
  rfl

end Strings

section Reading

variable {document value item : Json} {key t u before behind : Text} {rest : List Json} {others : List (Text × Json)}
  {c : Char} {fuel : Nat}

theorem skipSpace_append (spaces : Spaces before) : skipSpace (before ++ behind) = skipSpace behind :=
  List.dropWhile_append_of_pos spaces

theorem skipSpace_cons (visible : isSpace c = false) : skipSpace (c :: behind) = c :: behind := by
  simp [skipSpace, visible]

theorem skipSpace_idem (source : Text) : skipSpace (skipSpace source) = skipSpace source := List.dropWhile_idempotent ..

/-- A written document begins with a character that is neither a blank nor a closing bracket. -/
theorem Written.head (written : Written document t) : ∃ c u, t = c :: u ∧ isSpace c = false ∧ c ≠ ']' := by
  cases written with
  | null => exact ⟨_, _, rfl, rfl, by decide⟩
  | bool value => cases value <;> exact ⟨_, _, rfl, rfl, by decide⟩
  | text value => exact ⟨_, _, rfl, rfl, by decide⟩
  | noItems | items | noMembers | members => exact ⟨_, _, rfl, rfl, by decide⟩

theorem WrittenItems.head (written : WrittenItems item rest t) (behind : Text) :
    ∃ c u, skipSpace (t ++ behind) = c :: u ∧ c ≠ ']' := by
  cases written with
  | last spaces written | more spaces written =>
    obtain ⟨c, u, rfl, visible, filled⟩ := written.head
    simp only [List.append_assoc, List.cons_append, skipSpace_append spaces]
    exact ⟨c, _, skipSpace_cons visible, filled⟩

theorem outlineValue_skipSpace (source : Text) : outlineValue fuel (skipSpace source) = outlineValue fuel source := by
  cases fuel with
  | zero => rfl
  | succ fuel => rw [outlineValue, outlineValue, skipSpace_idem]

theorem outlineValue_append (spaces : Spaces before) :
    outlineValue fuel (before ++ behind) = outlineValue fuel behind := by
  rw [← outlineValue_skipSpace, skipSpace_append spaces, outlineValue_skipSpace]

theorem outlineItems_skipSpace (source : Text) : outlineItems fuel (skipSpace source) = outlineItems fuel source := by
  cases fuel with
  | zero => rfl
  | succ fuel => rw [outlineItems, outlineItems, outlineValue_skipSpace]

theorem readWord_append (word : Text) (o : Outline) : readWord word o (word ++ behind) = (o, behind) := by
  have : word.isPrefixOf? (word ++ behind) = some behind := List.isPrefixOf?_eq_some_iff_append_eq.2 rfl
  rw [readWord, this]

theorem outlineValue_null : outlineValue (fuel + 1) ("null".toList ++ behind) = (.null, behind) :=
  readWord_append "null".toList .null

theorem outlineValue_bool (value : Bool) :
    outlineValue (fuel + 1) (boolText value ++ behind) = (.bool value, behind) := by
  cases value with
  | false => exact readWord_append "false".toList (.bool false)
  | true => exact readWord_append "true".toList (.bool true)

theorem outlineValue_text (value : Text) :
    outlineValue (fuel + 1) (stringText value ++ behind) = (.text (.ok value) none, behind) := by
  simp [outlineValue, stringText, skipSpace_cons, isSpace, outlineString_value]

/-- An array whose items are read, from behind its bracket. -/
theorem outlineValue_items {items : List Outline} {ending : Option Break} (head : skipSpace t = c :: u)
    (filled : c ≠ ']') (read : outlineItems fuel t = (items, ending, behind)) :
    outlineValue (fuel + 1) ('[' :: t) = (.array items ending, behind) := by
  rw [← outlineItems_skipSpace, head] at read
  simp [outlineValue, skipSpace_cons, isSpace, head, filled, read]

theorem outlineValue_members {members : List (Except Break Text × Outline)} {ending : Option Break}
    (quote : skipSpace t = '"' :: u) (read : outlineMembers fuel u = (members, ending, behind)) :
    outlineValue (fuel + 1) ('\x7b' :: t) = (.object members ending, behind) := by
  simp [outlineValue, skipSpace_cons, isSpace, quote, read]

section Steps

variable {s v : Text}

theorem outlineItems_last (read : outlineValue fuel s = (.ofJson item, t)) (close : skipSpace t = ']' :: behind) :
    outlineItems (fuel + 1) s = (Outline.ofItems [item], none, behind) := by
  simp [outlineItems, read, close]

theorem outlineItems_more (read : outlineValue fuel s = (.ofJson item, t)) (comma : skipSpace t = ',' :: u)
    (others : outlineItems fuel u = (Outline.ofItems rest, none, behind)) :
    outlineItems (fuel + 1) s = (Outline.ofItems (item :: rest), none, behind) := by
  simp [outlineItems, read, comma, others]

theorem outlineMembers_last (read : outlineValue fuel s = (.ofJson value, t)) (close : skipSpace t = '\x7d' :: behind) :
    outlineMembers (fuel + 1) (key.flatMap stringChar ++ '"' :: ':' :: s) =
      (Outline.ofMembers [(key, value)], none, behind) := by
  simp [outlineMembers, outlineString_value, skipSpace_cons, isSpace, read, close]

theorem outlineMembers_more (read : outlineValue fuel s = (.ofJson value, t)) (comma : skipSpace t = ',' :: u)
    (quote : skipSpace u = '"' :: v) (rest : outlineMembers fuel v = (Outline.ofMembers others, none, behind)) :
    outlineMembers (fuel + 1) (key.flatMap stringChar ++ '"' :: ':' :: s) =
      (Outline.ofMembers ((key, value) :: others), none, behind) := by
  simp [outlineMembers, outlineString_value, skipSpace_cons, isSpace, read, comma, quote, rest]

end Steps

-- A value and the list around it take a step each, and no value is without a character.  So twice the length of the
-- text is as many steps as a value can need, and a list of items needs one more.
mutual

/-- **A written document is read back**, and what stands behind it is left. -/
theorem outlineValue_of_written {document : Json} {t : Text} : Written document t → ∀ (fuel : Nat) (behind : Text),
    2 * t.length ≤ fuel + 1 → outlineValue (fuel + 1) (t ++ behind) = (.ofJson document, behind)
  | .null, _, _, _ => outlineValue_null
  | .bool value, _, _, _ => outlineValue_bool value
  | .text value, _, _, _ => outlineValue_text value
  | .noItems spaces, _, _, _ => by
    simp [outlineValue, skipSpace_cons, skipSpace_append spaces, isSpace, Outline.ofJson, Outline.ofItems]
  | .items items, fuel, behind, enough => by
    rw [List.length_cons] at enough
    obtain ⟨fuel, rfl⟩ : ∃ less, fuel = less + 1 := ⟨fuel - 1, by omega⟩
    obtain ⟨c, u, head, filled⟩ := items.head behind
    exact outlineValue_items head filled (outlineItems_of_written items fuel behind (by omega))
  | .noMembers spaces, _, _, _ => by
    simp [outlineValue, skipSpace_cons, skipSpace_append spaces, isSpace, Outline.ofJson, Outline.ofMembers]
  | .members members, fuel, behind, enough => by
    rw [List.length_cons] at enough
    obtain ⟨fuel, rfl⟩ : ∃ less, fuel = less + 1 := ⟨fuel - 1, by omega⟩
    obtain ⟨source, quote, read⟩ := outlineMembers_of_written members fuel behind (by omega)
    exact outlineValue_members quote read

theorem outlineItems_of_written {item : Json} {rest : List Json} {t : Text} : WrittenItems item rest t →
    ∀ (fuel : Nat) (behind : Text), 2 * t.length ≤ fuel →
      outlineItems (fuel + 1) (t ++ behind) = (Outline.ofItems (item :: rest), none, behind)
  | .last spaces written spaces', fuel, behind, enough => by
    simp only [List.length_append, List.length_cons] at enough
    obtain ⟨fuel, rfl⟩ : ∃ less, fuel = less + 1 := ⟨fuel - 1, by omega⟩
    simp only [List.append_assoc, List.cons_append, List.nil_append]
    refine outlineItems_last ((outlineValue_append spaces).trans (outlineValue_of_written written fuel _ (by omega))) ?_
    rw [skipSpace_append spaces', skipSpace_cons rfl]
  | .more spaces written items, fuel, behind, enough => by
    simp only [List.length_append, List.length_cons] at enough
    obtain ⟨fuel, rfl⟩ : ∃ less, fuel = less + 1 := ⟨fuel - 1, by omega⟩
    simp only [List.append_assoc, List.cons_append]
    exact outlineItems_more ((outlineValue_append spaces).trans (outlineValue_of_written written fuel _ (by omega)))
      (skipSpace_cons rfl) (outlineItems_of_written items fuel behind (by omega))

theorem outlineMembers_of_written {key : Text} {value : Json} {rest : List (Text × Json)} {t : Text} :
    WrittenMembers key value rest t → ∀ (fuel : Nat) (behind : Text), 2 * t.length ≤ fuel →
      ∃ source, skipSpace (t ++ behind) = '"' :: source ∧
        outlineMembers (fuel + 1) source = (Outline.ofMembers ((key, value) :: rest), none, behind)
  | .last spaces gaps written spaces', fuel, behind, enough => by
    simp only [List.length_append, List.length_cons] at enough
    obtain ⟨fuel, rfl⟩ : ∃ less, fuel = less + 1 := ⟨fuel - 1, by omega⟩
    simp only [List.append_assoc, List.cons_append, List.nil_append, skipSpace_append spaces, stringText]
    refine ⟨_, skipSpace_cons rfl, outlineMembers_last
      ((outlineValue_append gaps).trans (outlineValue_of_written written fuel _ (by omega))) ?_⟩
    rw [skipSpace_append spaces', skipSpace_cons rfl]
  | .more spaces gaps written members, fuel, behind, enough => by
    simp only [List.length_append, List.length_cons] at enough
    obtain ⟨fuel, rfl⟩ : ∃ less, fuel = less + 1 := ⟨fuel - 1, by omega⟩
    obtain ⟨source, quote, read⟩ := outlineMembers_of_written members fuel behind (by omega)
    simp only [List.append_assoc, List.cons_append, List.nil_append, skipSpace_append spaces, stringText]
    exact ⟨_, skipSpace_cons rfl, outlineMembers_more
      ((outlineValue_append gaps).trans (outlineValue_of_written written fuel _ (by omega))) (skipSpace_cons rfl)
      quote read⟩

end

/-- **What is read is what was written**, and nothing but blanks is left. -/
theorem read_append_of_written (written : Written document t) (spaces : Spaces behind) :
    read (t ++ behind) = (.ofJson document, false) := by
  have value := outlineValue_of_written written (2 * (t ++ behind).length + 1) behind (by simp; omega)
  have left : skipSpace behind = [] := List.dropWhile_eq_nil_iff.2 spaces
  simp only [read, value, left]
  rfl

theorem read_of_written (written : Written document t) : read t = (.ofJson document, false) := by
  have value := read_append_of_written written spaces_nil
  rwa [List.append_nil] at value

end Reading

end Json
end ServiceStability
