import ServiceStability.Codec.Names
import ServiceStability.Proofs.WrittenForms
/-!
# Proofs.Records — values are taken out of what they were written as

What each kind of decoder makes of a document that is all there: a list or a map from its entries, a word from its
table, and a record from an object that names its fields in order and leaves out some that stand for their defaults.

- `Decode.Fields.Holds`: an object holds the values of some fields.
- `Decode.record_of_holds`: these are the values that the record has.
- `Decode.ofText_of_written`: a text is decoded as the document it is a written form of.
-/
namespace ServiceStability
namespace Decode

open Json (Break Outline)

variable {α β κ ν : Type} {decode : Decoder α} {document : Json} {value : α}

/-- **A text is decoded as what it was written from.** -/
theorem ofText_of_written {source : Text} (decoded : decode (.ofJson document) = .ok value)
    (written : Json.Written document source) : ofText decode source = .ok value := by
  simp only [ofText, Json.read_of_written written, decoded]
  rfl

theorem text_ofJson (t : Text) : text (.ofJson (.text t)) = .ok t := rfl

theorem bool_ofJson (b : Bool) : bool (.ofJson (.bool b)) = .ok b := rfl

theorem items_map {toJson : α → Json} {values : List α}
    (each : ∀ value ∈ values, decode (.ofJson (toJson value)) = .ok value) :
    items decode (Outline.ofItems (values.map toJson)) = .ok values := by
  induction values with
  | nil => rfl
  | cons value values ih =>
    rw [List.forall_mem_cons] at each
    simp only [List.map_cons, Outline.ofItems, items, each.1, ih each.2]
    rfl

/-- **An array is read item by item.** -/
theorem listAs_map {toJson : α → Json} {values : List α} (expected : Text)
    (each : ∀ value ∈ values, decode (.ofJson (toJson value)) = .ok value) :
    listAs expected decode (.ofJson (.array (values.map toJson))) = .ok values := by
  simp only [Outline.ofJson, listAs, items_map each]
  rfl

theorem members_map {key : Text → Except DecodeError κ} {decode : Decoder ν} {toText : κ → Text} {toJson : ν → Json}
    {entries : List (κ × ν)}
    (each : ∀ entry ∈ entries, key (toText entry.1) = .ok entry.1 ∧ decode (.ofJson (toJson entry.2)) = .ok entry.2) :
    members key decode (Outline.ofMembers (entries.map fun entry => (toText entry.1, toJson entry.2))) =
      .ok entries := by
  induction entries with
  | nil => rfl
  | cons entry entries ih =>
    rw [List.forall_mem_cons] at each
    obtain ⟨⟨read, decoded⟩, others⟩ := each
    simp only [List.map_cons, Outline.ofMembers, members, unbroken]
    simp only [bind, Except.bind, read, decoded, ih others]

/-- **An object is read as a map member by member.** -/
theorem map_map {key : Text → Except DecodeError κ} {decode : Decoder ν} {entries : List (κ × ν)} (toText : κ → Text)
    (toJson : ν → Json)
    (each : ∀ entry ∈ entries, key (toText entry.1) = .ok entry.1 ∧ decode (.ofJson (toJson entry.2)) = .ok entry.2) :
    map key decode (.ofJson (.object (entries.map fun entry => (toText entry.1, toJson entry.2)))) = .ok entries := by
  simp only [Outline.ofJson, map, members_map each]
  rfl

theorem list_texts (texts : List Text) : list text (.ofJson (Json.texts texts)) = .ok texts :=
  listAs_map _ fun t _ => text_ofJson t

/-- What is written as an object is never taken for an absent value. -/
theorem option_object {members : List (Text × Json)} (decoded : decode (.ofJson (.object members)) = .ok value) :
    option decode (.ofJson (.object members)) = .ok (some value) := by
  simp only [Outline.ofJson] at decoded ⊢
  rw [option, decoded]
  · rfl
  · nofun

/-- **A word is found in its table**, if no other value has the same name. -/
theorem enumeration_nameTable {name : α → Text} {all : List α} (listed : value ∈ all)
    (distinct : ∀ other ∈ all, name other = name value → other = value) :
    enumeration (nameTable name all) (.ofJson (.text (name value))) = .ok value := by
  have found : (nameTable name all).lookup (name value) = some value := by
    induction all with
    | nil => cases listed
    | cons other all ih =>
      rw [List.forall_mem_cons] at distinct
      rw [nameTable, List.map_cons, List.lookup_cons]
      split
      · next same => rw [distinct.1 (beq_iff_eq.1 same).symm]
      · next different =>
        refine ih ((List.mem_cons.1 listed).resolve_left ?_) distinct.2
        rintro rfl
        simp at different
  simp [Outline.ofJson, enumeration, unbroken, variant, found, bind, Except.bind]

/-- **A value is found under the name of its variant.** -/
theorem tagged_of_lookup {table : List (Text × Decoder α)} {key : Text} (found : table.lookup key = some decode)
    (decoded : decode (.ofJson document) = .ok value) :
    tagged table (.ofJson (.object [(key, document)])) = .ok value := by
  simp only [Outline.ofJson, Outline.ofMembers, tagged, unbroken, variant, bind, Except.bind, found, decoded,
    onlyMember, noBreak]

/-- What stands for a field that is left out of an object. -/
def Absence.value? : Absence α → Option α
  | .refused => none
  | .optional value => some value
  | .default value => some value

namespace Fields

def keys {α : Type} : Fields α → List Text
  | .done => []
  | .field key _ _ _ rest => key :: rest.keys

/-- **An object holds the values of some fields**: its members are fields in their order, and a field that has no member
may be left out. -/
inductive Holds : {α : Type} → Fields α → List (Text × Json) → α → Prop
  | done : Holds .done [] ()
  | member {α β : Type} {key : Text} {absence : Absence α} {decode : Decoder α} {rest : Fields β} {document : Json}
      {members : List (Text × Json)} {value : α} {values : β} (decoded : decode (.ofJson document) = .ok value)
      (others : Holds rest members values) :
    Holds (.field key absence decode none rest) ((key, document) :: members) (value, values)
  | absent {α β : Type} {key : Text} {absence : Absence α} {decode : Decoder α} {rest : Fields β}
      {members : List (Text × Json)} {value : α} {values : β} (stands : absence.value? = some value)
      (others : Holds rest members values) : Holds (.field key absence decode none rest) members (value, values)

variable {fields : Fields α} {rest : Fields β} {members : List (Text × Json)} {values : β} {key : Text}
  {absence : Absence α}

/-- A member that may be left out because of what it holds. -/
theorem Holds.unless {left : Bool} {fallback : α} (default : left = true → value = fallback)
    (decoded : decode (.ofJson document) = .ok value) (others : Holds rest members values) :
    Holds (.field key (.default fallback) decode none rest) (Json.memberUnless left key document ++ members)
      (value, values) := by
  cases left with
  | false => exact .member decoded others
  | true => exact .absent (congrArg some (default rfl).symm) others

theorem Holds.mem_keys {member : Text × Json} (holds : Holds fields members value) (listed : member ∈ members) :
    member.1 ∈ fields.keys := by
  induction holds with
  | done => cases listed
  | member _ _ ih =>
    rcases List.mem_cons.1 listed with rfl | listed
    · exact List.mem_cons_self ..
    · exact List.mem_cons_of_mem _ (ih listed)
  | absent _ _ ih => exact List.mem_cons_of_mem _ (ih listed)

theorem Holds.other_keys (holds : Holds fields members value) (own : key ∉ fields.keys) :
    ∀ entry ∈ Outline.ofMembers members, entry.1 ≠ .ok key := by
  rw [Outline.ofMembers_eq_map, List.forall_mem_map]
  intro member listed same
  cases same
  exact own (holds.mem_keys listed)

/-- Members with other keys pass a field by. -/
theorem takeMembers_field {found : Option α} {entries : List (Except Break Text × Outline)}
    (others : ∀ entry ∈ entries, entry.1 ≠ .ok key) :
    takeMembers entries (.field key absence decode found rest) =
      (takeMembers entries rest).map (.field key absence decode found ·) := by
  induction entries generalizing rest with
  | nil => rfl
  | cons entry entries ih =>
    rw [List.forall_mem_cons] at others
    obtain ⟨other, others⟩ := others
    obtain ⟨own | own, outline⟩ := entry
    · rfl
    · have different : own ≠ key := fun same => other (congrArg Except.ok same)
      rw [takeMembers, takeMembers, accept, if_neg different]
      cases rest.accept own outline with
      | error problem => rfl
      | ok taken =>
        cases taken with
        | some taken => exact ih others
        | none =>
          simp only [Except.map, Option.map]
          cases outline.skipped with
          | some cause => rfl
          | none => exact ih others

/-- **What an object holds ends up in the fields.** -/
theorem Holds.taken (holds : Holds fields members value) (distinct : fields.keys.Nodup) :
    ∃ filled, takeMembers (Outline.ofMembers members) fields = .ok filled ∧ filled.finish = .ok value := by
  induction holds with
  | done => exact ⟨.done, rfl, rfl⟩
  | @member _ _ key absence decode rest document members value values decoded others ih =>
    obtain ⟨own, distinct⟩ := List.nodup_cons.1 distinct
    obtain ⟨filled, taken, finished⟩ := ih distinct
    refine ⟨.field key absence decode (some value) filled, ?_, by rw [finish, finished]; rfl⟩
    -- the first member is taken here; the others have keys of other fields and go on to those
    have accepted : (Fields.field key absence decode none rest).accept key (.ofJson document) =
        .ok (some (.field key absence decode (some value) rest)) := by
      simp [accept, decoded, Except.map]
    rw [Outline.ofMembers, takeMembers, accepted]
    exact (takeMembers_field (others.other_keys own)).trans (congrArg _ taken)
  | @absent _ _ key absence decode rest members value values stands others ih =>
    obtain ⟨own, distinct⟩ := List.nodup_cons.1 distinct
    obtain ⟨filled, taken, finished⟩ := ih distinct
    refine ⟨.field key absence decode none filled, ?_, ?_⟩
    · exact (takeMembers_field (others.other_keys own)).trans (congrArg _ taken)
    cases absence with
    | refused => cases stands
    | optional value | default value =>
      cases stands
      rw [finish, finished]
      rfl

end Fields

/-- **The values that an object holds are those of the record.** -/
theorem record_of_holds {fields : Fields α} {members : List (Text × Json)} (name : String)
    (distinct : fields.keys.Nodup) (holds : fields.Holds members value) :
    record name fields (.ofJson (.object members)) = .ok value := by
  obtain ⟨filled, taken, finished⟩ := holds.taken distinct
  simp only [Outline.ofJson, record, taken, finished]
  rfl

/-- What is made of the values of a record. -/
theorem record_bind_of_holds {fields : Fields α} {members : List (Text × Json)} {name : String}
    {made : α → Except DecodeError β} (distinct : fields.keys.Nodup) (holds : fields.Holds members value) :
    (record name fields (.ofJson (.object members)) >>= made) = made value := by
  rw [record_of_holds name distinct holds]
  rfl

end Decode
end ServiceStability
