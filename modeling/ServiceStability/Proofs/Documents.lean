import ServiceStability.Codec.Reports
import ServiceStability.Codec.Services
import ServiceStability.Proofs.CanonicalForms
import ServiceStability.Proofs.Identities
import ServiceStability.Proofs.Records
/-!
# Proofs.Documents — what is written is read back

Every type that is written as a document is read back from it, in both written forms: equal values, with every list, set
and map in the same order.  Names are written as their canonical forms, so they have to have a segment; the text of a
name without one is no name.

- `ServiceSnapshot.mentioned` and the like: the names that a value mentions.
- `Decode.ReadsBack`: a value is read back from both forms that it is written in.
- `Decode.documents_read_back`: all types together.
-/
namespace ServiceStability

open Decode (Fields record_bind_of_holds)
open Json (Outline)

namespace Decode

variable {α : Type} {toJson : α → Json} {decode : Decoder α} {value : α}

/-- **A value is read back from both forms that it is written in.** -/
def ReadsBack (toJson : α → Json) (decode : Decoder α) (value : α) : Prop :=
  ofText decode (toJson value).compact = .ok value ∧ ofText decode (toJson value).pretty = .ok value

theorem readsBack_of_decode (decoded : decode (.ofJson (toJson value)) = .ok value) : ReadsBack toJson decode value :=
  ⟨ofText_of_written decoded (Json.written_compact _), ofText_of_written decoded (Json.written_pretty _)⟩

end Decode

namespace ServiceName

/-- Each of some names has a segment. -/
def Filled (names : List ServiceName) : Prop := ∀ name ∈ names, name.segments ≠ []

instance (names : List ServiceName) : Decidable (Filled names) :=
  inferInstanceAs (Decidable (∀ name ∈ names, name.segments ≠ []))

variable {name : ServiceName} {names others : List ServiceName}

theorem filled_append : Filled (names ++ others) ↔ Filled names ∧ Filled others := List.forall_mem_append

theorem filled_cons : Filled (name :: names) ↔ name.segments ≠ [] ∧ Filled names := List.forall_mem_cons

theorem ofText_canonical (filled : name.segments ≠ []) : ofText name.canonical = .ok name := by
  rw [ofText, parse_canonical filled]

theorem decode_toJson (filled : name.segments ≠ []) : decode (.ofJson name.toJson) = .ok name := ofText_canonical filled

theorem decode_listToJson (filled : Filled names) (expected : Text) :
    Decode.listAs expected decode (.ofJson (listToJson names)) = .ok names :=
  Decode.listAs_map expected fun name listed => decode_toJson (filled name listed)

theorem decodeSet_listToJson {names : OrderedSet ServiceName} (filled : Filled names.toList) :
    decodeSet (.ofJson (listToJson names.toList)) = .ok names := by
  rw [decodeSet, Decode.orderedSet, decode_listToJson filled, Except.map, OrderedSet.ofList_toList]

end ServiceName

open ServiceName (Filled)

theorem NameSet.decode_listToJson {names : NameSet} (filled : Filled names.toList) :
    NameSet.decode (.ofJson (ServiceName.listToJson names.toList)) = .ok names := by
  rw [NameSet.decode, Decode.list, ServiceName.decode_listToJson filled, Except.map, NameSet.ofList_toList]

theorem Substate.decode_toJson (s : Substate) : Substate.decode (.ofJson s.toJson) = .ok s :=
  Decode.enumeration_nameTable (by cases s <;> decide) (by cases s <;> decide)

theorem Mode.decode_toJson (m : Mode) : Mode.decode (.ofJson m.toJson) = .ok m :=
  Decode.enumeration_nameTable (by cases m <;> decide) (by cases m <;> decide)

theorem RestState.decode_toJson (s : RestState) : RestState.decode (.ofJson s.toJson) = .ok s :=
  Decode.enumeration_nameTable (by cases s <;> decide) (by cases s <;> decide)

theorem RuntimeId.decode_toJson (id : RuntimeId) : RuntimeId.decode (.ofJson id.toJson) = .ok id := by
  simp only [decode, toJson, Outline.ofJson, Decode.textAs, Decode.unbroken, bind, Except.bind, parse_text]

namespace StartFailure

theorem decode_toJson (f : StartFailure) : decode (.ofJson f.toJson) = .ok f := by
  rw [decode, toJson, ← List.append_nil (Json.memberUnless ..)]
  exact record_bind_of_holds (by decide)
    (.member (Decode.text_ofJson f.message) (.unless List.isEmpty_iff.1 (Decode.list_texts f.causes) .done))

theorem decode_optionToJson (f : Option StartFailure) :
    Decode.option decode (.ofJson (optionToJson f)) = .ok f := by
  cases f with
  | none => rfl
  | some f => exact Decode.option_object (decode_toJson f)

end StartFailure

namespace ServiceSnapshot

/-- The names that a snapshot mentions. -/
def mentioned (s : ServiceSnapshot) : List ServiceName := s.name :: (s.dependencies.toList ++ s.unavailable.toList)

theorem decode_toJson {s : ServiceSnapshot} (filled : Filled s.mentioned) : decode (.ofJson s.toJson) = .ok s := by
  obtain ⟨own, rest⟩ := ServiceName.filled_cons.1 filled
  obtain ⟨dependencies, unavailable⟩ := ServiceName.filled_append.1 rest
  rw [decode, toJson]
  exact record_bind_of_holds (by decide)
    (.member (ServiceName.decode_toJson own) <| .member (RuntimeId.decode_toJson s.runtime) <|
      .member (Substate.decode_toJson s.substate) <| .member (Mode.decode_toJson s.mode) <|
      .member (StartFailure.decode_optionToJson s.startFailure) <|
      .member (ServiceName.decodeSet_listToJson dependencies) <|
      .member (ServiceName.decodeSet_listToJson unavailable) .done)

end ServiceSnapshot

namespace ServiceStatus

theorem decode_toJson (s : ServiceStatus) : decode (.ofJson s.toJson) = .ok s := by
  rw [decode, toJson]
  exact record_bind_of_holds (by decide)
    (.member (Decode.text_ofJson s.name) <| .member (Decode.text_ofJson s.state) <|
      .member (Decode.list_texts s.dependencies) .done)

end ServiceStatus

namespace ServiceEntry

variable {β : Type} {rest : Fields β} {members : List (Text × Json)} {values : β}

/-- The names that an entry mentions. -/
def mentioned (e : ServiceEntry) : List ServiceName := e.name :: e.dependencies

theorem holds_failureMembers (failure : Option StartFailure) (others : rest.Holds members values) :
    (Decode.defaulted "failure" none (Decode.option StartFailure.decode) rest).Holds
      (failureMembers failure ++ members) (failure, values) := by
  cases failure with
  | none => exact .absent rfl others
  | some f => exact .member (Decode.option_object (StartFailure.decode_toJson f)) others

theorem decode_toJson {e : ServiceEntry} (filled : Filled e.mentioned) : decode (.ofJson e.toJson) = .ok e := by
  obtain ⟨own, dependencies⟩ := ServiceName.filled_cons.1 filled
  rw [decode, toJson, ← List.append_nil (Json.memberUnless ..), List.append_assoc]
  exact record_bind_of_holds (by decide)
    (.member (ServiceName.decode_toJson own) <| .member (Mode.decode_toJson e.mode) <|
      .member (RestState.decode_toJson e.state) <| holds_failureMembers e.failure <|
      .unless List.isEmpty_iff.1 (ServiceName.decode_listToJson dependencies _) .done)

end ServiceEntry

namespace RuntimeSnapshot

def mentioned (s : RuntimeSnapshot) : List ServiceName := s.services.flatMap ServiceEntry.mentioned

theorem decode_toJson {s : RuntimeSnapshot} (filled : Filled s.mentioned) : decode (.ofJson s.toJson) = .ok s := by
  rw [decode, toJson]
  refine record_bind_of_holds (by decide) (.member (Decode.listAs_map _ fun e listed => ?_) .done)
  exact ServiceEntry.decode_toJson fun name member => filled name (List.mem_flatMap_of_mem listed member)

end RuntimeSnapshot

theorem VerifyConfig.decode_toJson (c : VerifyConfig) : decode (.ofJson c.toJson) = .ok c := by
  rw [decode, toJson]
  exact record_bind_of_holds (by decide) (.member (Decode.bool_ofJson c.rollbackOnRuntimeFailure) .done)

theorem UnitNaming.decode_toJson (n : UnitNaming) : decode (.ofJson n.toJson) = .ok n := by
  rw [decode, toJson]
  exact record_bind_of_holds (by decide)
    (.member (Decode.text_ofJson n.namespaceText) <| .member (Decode.text_ofJson n.installSuffix) <|
      .member (Decode.text_ofJson n.completionSuffix) .done)

namespace TransitiveProblem

def mentioned (p : TransitiveProblem) : List ServiceName := p.dependents.toList ++ p.dependencies.toList

theorem decode_toJson {p : TransitiveProblem} (filled : Filled p.mentioned) : decode (.ofJson p.toJson) = .ok p := by
  obtain ⟨dependents, dependencies⟩ := ServiceName.filled_append.1 filled
  rw [decode, toJson]
  exact record_bind_of_holds (by decide)
    (.member (NameSet.decode_listToJson dependents) <| .member (NameSet.decode_listToJson dependencies) .done)

end TransitiveProblem

namespace DiagnosticReport

variable {β : Type} {rest : Fields β} {members : List (Text × Json)} {values : β}

def mentioned (r : DiagnosticReport) : List ServiceName :=
  r.failed.keys ++ r.required.toList ++ r.transitive.toList.flatMap TransitiveProblem.mentioned

/-- Different names have different canonical forms, so a map is read back with all of its entries. -/
theorem decodeFailed_failedToJson {failed : OrderedMap ServiceName Text} (filled : Filled failed.keys) :
    decodeFailed (.ofJson (failedToJson failed)) = .ok failed := by
  have read : Decode.map ServiceName.ofText Decode.text (.ofJson (failedToJson failed)) = .ok failed.toList :=
    Decode.map_map ServiceName.canonical .text fun entry listed =>
      ⟨ServiceName.ofText_canonical (filled _ (List.mem_map_of_mem listed)), Decode.text_ofJson _⟩
  rw [decodeFailed, read, Except.map, OrderedMap.ofList_toList]

theorem holds_transitiveMembers {transitive : Option TransitiveProblem}
    (filled : Filled (transitive.toList.flatMap TransitiveProblem.mentioned)) (others : rest.Holds members values) :
    (Fields.field transitiveTitle (.default none) (Decode.option TransitiveProblem.decode) none rest).Holds
      (transitiveMembers transitive ++ members) (transitive, values) := by
  cases transitive with
  | none => exact .absent rfl others
  | some p =>
    rw [Option.toList_some, List.flatMap_singleton] at filled
    exact .member (Decode.option_object (TransitiveProblem.decode_toJson filled)) others

theorem decode_toJson {r : DiagnosticReport} (filled : Filled r.mentioned) : decode (.ofJson r.toJson) = .ok r := by
  obtain ⟨named, transitive⟩ := ServiceName.filled_append.1 filled
  obtain ⟨failed, required⟩ := ServiceName.filled_append.1 named
  rw [decode, toJson, DiagnosticReport.members, ← List.append_nil (transitiveMembers _)]
  simp only [List.append_assoc]
  exact record_bind_of_holds (by decide)
    (.unless (fun empty => OrderedMap.ext (List.isEmpty_iff.1 empty)) (decodeFailed_failedToJson failed) <|
      .unless (fun empty => OrderedSet.ext (OrderedSet.isEmpty_iff.1 empty))
        (ServiceName.decodeSet_listToJson required) <|
      .unless List.isEmpty_iff.1 (Decode.list_texts r.lines) <| holds_transitiveMembers transitive .done)

end DiagnosticReport

namespace FailureDescription

def mentioned : FailureDescription → List ServiceName
  | .cancelled _ => []
  | .report r => r.mentioned

theorem decode_toJson {d : FailureDescription} (filled : Filled d.mentioned) : decode (.ofJson d.toJson) = .ok d := by
  cases d with
  | cancelled text => exact Decode.tagged_of_lookup rfl (by rw [Decode.text_ofJson, Except.map])
  | report r => exact Decode.tagged_of_lookup rfl (by rw [DiagnosticReport.decode_toJson filled, Except.map])

end FailureDescription

namespace Decode

/-- **Reading undoes writing**, for every type that is written as a document and every value of it whose names have a
segment each.  Equal values have equal lists, so nothing changes its place in a list, a set or a map. -/
theorem documents_read_back :
    (∀ name : ServiceName, name.segments ≠ [] → ReadsBack ServiceName.toJson ServiceName.decode name) ∧
    (∀ f : StartFailure, ReadsBack StartFailure.toJson StartFailure.decode f) ∧
    (∀ s : ServiceSnapshot, Filled s.mentioned → ReadsBack ServiceSnapshot.toJson ServiceSnapshot.decode s) ∧
    (∀ s : ServiceStatus, ReadsBack ServiceStatus.toJson ServiceStatus.decode s) ∧
    (∀ e : ServiceEntry, Filled e.mentioned → ReadsBack ServiceEntry.toJson ServiceEntry.decode e) ∧
    (∀ s : RuntimeSnapshot, Filled s.mentioned → ReadsBack RuntimeSnapshot.toJson RuntimeSnapshot.decode s) ∧
    (∀ c : VerifyConfig, ReadsBack VerifyConfig.toJson VerifyConfig.decode c) ∧
    (∀ n : UnitNaming, ReadsBack UnitNaming.toJson UnitNaming.decode n) ∧
    (∀ d : FailureDescription, Filled d.mentioned → ReadsBack FailureDescription.toJson FailureDescription.decode d) ∧
    (∀ p : TransitiveProblem, Filled p.mentioned → ReadsBack TransitiveProblem.toJson TransitiveProblem.decode p) ∧
    ∀ r : DiagnosticReport, Filled r.mentioned → ReadsBack DiagnosticReport.toJson DiagnosticReport.decode r :=
  ⟨fun _ filled => readsBack_of_decode (ServiceName.decode_toJson filled),
    fun f => readsBack_of_decode (StartFailure.decode_toJson f),
    fun _ filled => readsBack_of_decode (ServiceSnapshot.decode_toJson filled),
    fun s => readsBack_of_decode (ServiceStatus.decode_toJson s),
    fun _ filled => readsBack_of_decode (ServiceEntry.decode_toJson filled),
    fun _ filled => readsBack_of_decode (RuntimeSnapshot.decode_toJson filled),
    fun c => readsBack_of_decode (VerifyConfig.decode_toJson c),
    fun n => readsBack_of_decode (UnitNaming.decode_toJson n),
    fun _ filled => readsBack_of_decode (FailureDescription.decode_toJson filled),
    fun _ filled => readsBack_of_decode (TransitiveProblem.decode_toJson filled),
    fun _ filled => readsBack_of_decode (DiagnosticReport.decode_toJson filled)⟩

/-- Two names that differ only in where a segment ends. -/
def dotted : ServiceName := ⟨["db.main".toList]⟩

def segmented : ServiceName := ⟨["db".toList, "main".toList]⟩

def dependentProblem : TransitiveProblem := ⟨.ofList [segmented], .ofList [dotted, segmented]⟩

/-- A report with all of its sections but the lines. -/
def troubled : DiagnosticReport :=
  ⟨.ofList [(segmented, "port\nin use".toList), (dotted, [])], .ofList [dotted, segmented], [],
    some dependentProblem⟩

/-- A snapshot of one of them, which depends on the other. -/
def halted : ServiceSnapshot :=
  ⟨dotted, ⟨0xab⟩, .startFailed, .onDemand, some ⟨"io".toList, []⟩, .ofList [segmented], .empty⟩

/-- What `halted` is put down as. -/
def haltedEntry : ServiceEntry := .ofSnapshot halted

theorem troubled_read_back :
    dotted.segments ≠ [] ∧ Filled halted.mentioned ∧ Filled haltedEntry.mentioned ∧
    Filled (RuntimeSnapshot.mentioned ⟨[haltedEntry]⟩) ∧ Filled (FailureDescription.mentioned (.report troubled)) ∧
    Filled dependentProblem.mentioned ∧ Filled troubled.mentioned ∧
    ReadsBack ServiceName.toJson ServiceName.decode dotted ∧
    ReadsBack ServiceSnapshot.toJson ServiceSnapshot.decode halted ∧
    ReadsBack ServiceEntry.toJson ServiceEntry.decode haltedEntry ∧
    ReadsBack RuntimeSnapshot.toJson RuntimeSnapshot.decode ⟨[haltedEntry]⟩ ∧
    ReadsBack FailureDescription.toJson FailureDescription.decode (.report troubled) ∧
    ReadsBack TransitiveProblem.toJson TransitiveProblem.decode dependentProblem ∧
    ReadsBack DiagnosticReport.toJson DiagnosticReport.decode troubled := by
  obtain ⟨names, -, snapshots, -, entries, runtimes, -, -, descriptions, problems, reports⟩ := documents_read_back
  have name : dotted.segments ≠ [] := by decide
  have snapshot : Filled halted.mentioned := by decide
  have entry : Filled haltedEntry.mentioned := by decide
  have runtime : Filled (RuntimeSnapshot.mentioned ⟨[haltedEntry]⟩) := by decide
  have description : Filled (FailureDescription.mentioned (.report troubled)) := by decide
  have problem : Filled dependentProblem.mentioned := by decide
  have report : Filled troubled.mentioned := by decide
  exact ⟨name, snapshot, entry, runtime, description, problem, report, names _ name, snapshots _ snapshot,
    entries _ entry, runtimes _ runtime, descriptions _ description, problems _ problem, reports _ report⟩

end Decode
end ServiceStability
