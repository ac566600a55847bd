import ServiceStability.Units.Diagnosis
import ServiceStability.Proofs.CanonicalForms
import ServiceStability.Proofs.Verdict
/-!
# Proofs.UnitDiagnosis — what a unit waits for, said of the services

The diagnosis of a unit joins two listings of one graph by canonical texts: the failed and blocked services of the unit,
and the status rows.  Every row stands under the canonical form of an installed name, and no two names have one form, so
looking up a text is looking up a service.  What is left is a selection of the edges of the graph.

- `Graph.edges`: the edges, by installation and then by dependency.
- `Graph.StuckOn`: an edge that keeps a unit waiting.
- `Graph.WellNamed.row?_statuses`: the join of the two listings.
- `Graph.unit_diagnosis_exact`: the answer is the selection.
-/
namespace ServiceStability

theorem flatMap_filter {α β : Type} (keep : α → Bool) (f : α → List β) (l : List α) :
    (l.filter keep).flatMap f = l.flatMap fun a => if keep a then f a else [] := by
  induction l with
  | nil => rfl
  | cons a l ih => cases kept : keep a <;> simp [kept, ih]

namespace Graph

variable {g : Graph} {runtime : RuntimeId} {naming : UnitNaming} {unit name dependency : ServiceName}
  {r : ServiceRecord}

/-- **The edges of a graph**, each from a service to a name it depends on: in order of installation, and for one service
in order of its dependencies. -/
def edges (g : Graph) : List (ServiceName × ServiceName) :=
  g.toList.flatMap fun entry => entry.2.dependencies.toList.map (entry.1, ·)

theorem mem_edges_iff : (name, dependency) ∈ g.edges ↔ ∃ r, g.get? name = some r ∧ dependency ∈ r.dependencies := by
  simp only [edges, List.mem_flatMap, List.mem_map, Prod.mk.injEq, OrderedMap.get?_eq_some_iff]
  constructor
  · rintro ⟨⟨_, r⟩, entry, _, edge, rfl, rfl⟩
    exact ⟨r, entry, edge⟩
  · rintro ⟨r, entry, edge⟩
    exact ⟨(name, r), entry, dependency, edge, rfl, rfl⟩

theorem nodup_edges (g : Graph) : g.edges.Nodup := by
  refine List.nodup_flatMap.2 ⟨fun entry _ => ?_, ?_⟩
  · exact entry.2.dependencies.nodup.map fun _ _ same => (Prod.mk.inj same).2
  · refine (List.pairwise_map.1 g.keys_nodup).imp fun {a b} different => ?_
    intro edge left right
    obtain ⟨_, -, rfl⟩ := List.mem_map.1 left
    obtain ⟨_, -, same⟩ := List.mem_map.1 right
    exact different (Prod.mk.inj same).1.symm

/-- **The name of the state of a service**, as a diagnosis shows it; one that is not installed is missing. -/
def stateText (g : Graph) (name : ServiceName) : Text :=
  match g.substate? name with
  | none => Units.missingState
  | some substate => substate.state.name

theorem stateText_eq_up_iff : g.stateText name = State.up.name ↔ g.substate? name = some .up := by
  unfold stateText
  cases g.substate? name with
  | none => decide
  | some substate => rw [State.name_eq_up_iff, Substate.state_eq_up_iff, Option.some_inj]

/-- **A service of a unit is stuck on another name**: it has failed or is blocked, it is an install service, and it
depends on a completion marker that is not up. -/
structure StuckOn (g : Graph) (naming : UnitNaming) (unit name dependency : ServiceName) : Prop where
  below : unit.segments <+: name.segments
  broken : g.substate? name = some .startFailed ∨ g.substate? name = some .problem
  inNamespace : naming.namespaceText <+: name.canonical
  installs : naming.installSuffix <:+ name.canonical
  edge : ∃ r, g.get? name = some r ∧ dependency ∈ r.dependencies
  marker : naming.completionSuffix <:+ dependency.canonical
  incomplete : g.substate? dependency ≠ some .up

/-- What the operator is told about an edge. -/
def waitOn (g : Graph) (naming : UnitNaming) (edge : ServiceName × ServiceName) : InterUnitDependency where
  dependent := naming.dependentUnit edge.1.canonical
  dependentState := g.stateText edge.1
  dependency := naming.dependencyUnit edge.2.canonical
  dependencyState := g.stateText edge.2

theorem mem_statuses_iff {row : ServiceStatus} :
    row ∈ g.statuses runtime ↔ ∃ name r, g.get? name = some r ∧ (r.snapshot runtime).status = row := by
  simp only [statuses, List.mem_map, mem_snapshots_iff]
  constructor
  · rintro ⟨_, ⟨name, r, found, rfl⟩, same⟩
    exact ⟨name, r, found, same⟩
  · rintro ⟨name, r, found, same⟩
    exact ⟨_, ⟨name, r, found, rfl⟩, same⟩

theorem WellNamed.name_status (named : g.WellNamed) (found : g.get? name = some r) :
    (r.snapshot runtime).status.name = name.canonical := congrArg ServiceName.canonical (named name r found).1

/-- **The row under the canonical form of a name** is that of the service, if one is installed under the name. -/
theorem WellNamed.row?_statuses (named : g.WellNamed) (name : ServiceName) :
    Units.row? (g.statuses runtime) name.canonical = (g.snapshot? runtime name).map (·.status) := by
  cases is : Units.row? (g.statuses runtime) name.canonical with
  | none =>
    cases found : g.get? name with
    | none =>
      rw [snapshot?, found]
      rfl
    | some r =>
      have listed : (r.snapshot runtime).status ∈ g.statuses runtime := mem_statuses_iff.2 ⟨name, r, found, rfl⟩
      exact absurd (named.name_status found) (Units.row?_eq_none_iff.1 is _ listed)
  | some row =>
    obtain ⟨listed, same⟩ := Units.mem_of_row? is
    obtain ⟨other, r, found, rfl⟩ := mem_statuses_iff.1 listed
    have itself : other = name := ServiceName.canonical_injective ((named.name_status found).symm.trans same)
    rw [snapshot?, ← itself, found]
    rfl

theorem WellNamed.stateOf_statuses (named : g.WellNamed) (name : ServiceName) :
    Units.stateOf (g.statuses runtime) name.canonical = g.stateText name := by
  rw [Units.stateOf, named.row?_statuses, stateText, substate?, snapshot?]
  cases g.get? name <;> rfl

theorem WellNamed.dependenciesOf_statuses (named : g.WellNamed) (found : g.get? name = some r) :
    Units.dependenciesOf (g.statuses runtime) (r.snapshot runtime) =
      r.dependencies.toList.map ServiceName.canonical := by
  have own : (r.snapshot runtime).name = name := (named name r found).1
  rw [Units.dependenciesOf, own, named.row?_statuses, snapshot?, found]
  rfl

/-- Whether an edge leads from an install service to a completion marker that is not up. -/
def isWait (g : Graph) (naming : UnitNaming) (edge : ServiceName × ServiceName) : Bool :=
  naming.isInstallService edge.1.canonical && naming.isIncompleteMarker edge.2.canonical (g.stateText edge.2)

/-- Whether a service of a unit has failed or is blocked. -/
def isBrokenIn (g : Graph) (unit name : ServiceName) : Bool :=
  unit.covers name && (g.substate? name).any Substate.isBroken

theorem isBrokenIn_iff : g.isBrokenIn unit name = true ↔ unit.segments <+: name.segments ∧
    (g.substate? name = some .startFailed ∨ g.substate? name = some .problem) := by
  rw [isBrokenIn, Bool.and_eq_true, ServiceName.covers_iff]
  cases g.substate? name with
  | none => simp
  | some substate => simp [Substate.isBroken_iff]

theorem stuckOn_iff : g.StuckOn naming unit name dependency ↔
    (name, dependency) ∈ g.edges ∧ g.isBrokenIn unit name = true ∧ g.isWait naming (name, dependency) = true := by
  rw [isWait, Bool.and_eq_true, isBrokenIn_iff, UnitNaming.isInstallService_iff, UnitNaming.isIncompleteMarker_iff,
    ne_eq, stateText_eq_up_iff, mem_edges_iff]
  constructor
  · intro stuck
    exact ⟨stuck.edge, ⟨stuck.below, stuck.broken⟩, ⟨stuck.inNamespace, stuck.installs⟩, stuck.marker,
      stuck.incomplete⟩
  · rintro ⟨edge, ⟨below, broken⟩, ⟨inNamespace, installs⟩, marker, incomplete⟩
    exact ⟨below, broken, inNamespace, installs, edge, marker, incomplete⟩

/-- **What a service waits for** is told by its edges. -/
theorem WellNamed.waitsOf_statuses (named : g.WellNamed) (found : g.get? name = some r) :
    Units.waitsOf naming (g.statuses runtime) (r.snapshot runtime) =
      ((r.dependencies.toList.map (name, ·)).filter (g.isWait naming)).map (g.waitOn naming) := by
  have own : (r.snapshot runtime).name = name := (named name r found).1
  have state : (r.snapshot runtime).state.name = g.stateText name := by
    rw [stateText, substate?, found]
    rfl
  rw [Units.waitsOf, own, named.dependenciesOf_statuses found, state, List.filter_map, List.filter_map, List.map_map,
    List.map_map]
  cases installs : naming.isInstallService name.canonical with
  | false => simp [Function.comp_def, isWait, installs]
  | true => simp [Function.comp_def, isWait, installs, waitOn, named.stateOf_statuses]

/-- **The failed and blocked services of a unit** are those of its installed names. -/
theorem WellNamed.problems_snapshots (named : g.WellNamed) :
    ((ofUnit unit (g.snapshots runtime)).filter fun s => s.substate.isBroken) =
      (g.toList.filter fun entry => g.isBrokenIn unit entry.1).map fun entry => entry.2.snapshot runtime := by
  rw [ofUnit, List.filter_filter, snapshots, OrderedMap.values, List.map_map, List.filter_map]
  refine congrArg _ (List.filter_congr fun entry member => ?_)
  have found : g.get? entry.1 = some entry.2 := OrderedMap.get?_eq_some_iff.2 member
  have own : (entry.2.snapshot runtime).name = entry.1 := (named entry.1 entry.2 found).1
  rw [isBrokenIn, substate?, found, Function.comp_apply, Function.comp_apply, own, Bool.and_comm]
  rfl

theorem WellNamed.diagnose_statuses (named : g.WellNamed) :
    Units.diagnose naming (g.statuses runtime)
        ((ofUnit unit (g.snapshots runtime)).filter fun s => s.substate.isBroken) =
      (g.edges.filter fun edge => g.isBrokenIn unit edge.1 && g.isWait naming edge).map (g.waitOn naming) := by
  rw [Units.diagnose, named.problems_snapshots, List.flatMap_map, flatMap_filter, edges, List.filter_flatMap,
    List.map_flatMap]
  refine List.flatMap_congr fun entry member => ?_
  have found : g.get? entry.1 = some entry.2 := OrderedMap.get?_eq_some_iff.2 member
  rw [named.waitsOf_statuses found, List.filter_map, List.filter_map]
  cases broken : g.isBrokenIn unit entry.1 <;> simp [Function.comp_def, broken]

theorem WellNamed.ofUnit_eq_nil_iff (named : g.WellNamed) :
    ofUnit unit (g.snapshots runtime) = [] ↔ ∀ name ∈ g.keys, ¬ unit.segments <+: name.segments := by
  simp only [ofUnit, List.filter_eq_nil_iff, ServiceName.covers_iff, mem_snapshots_iff]
  constructor
  · intro none name installed
    obtain ⟨r, found⟩ := exists_get?_of_mem_keys installed
    rw [← (named name r found).1]
    exact none (r.snapshot runtime) ⟨name, r, found, rfl⟩
  · rintro none _ ⟨name, r, found, rfl⟩
    rw [show (r.snapshot runtime).name = name from (named name r found).1]
    exact none name (mem_keys_of_get? found)

/-- **The diagnosis of a unit is exact.**  In a reachable graph, whatever the naming convention is:

- The unit is unknown exactly when no installed name lies at or below it.
- Otherwise the answer tells of certain edges of the graph, in their order and each once: of those on which a service
  of the unit is stuck, and no others.  For an edge it tells the two units and the states of the two services, the
  second one missing if it is not installed. -/
theorem unit_diagnosis_exact (reachable : g.Reachable) (runtime : RuntimeId) (naming : UnitNaming)
    (unit : ServiceName) :
    let answer := Units.examine naming unit (g.snapshots runtime) (g.statuses runtime)
    (answer = .error (.unknownUnit unit) ↔ ∀ name ∈ g.keys, ¬ unit.segments <+: name.segments) ∧
    ((∃ name ∈ g.keys, unit.segments <+: name.segments) → ∃ stuck : List (ServiceName × ServiceName),
      stuck.Sublist g.edges ∧ stuck.Nodup ∧
      (∀ name dependency, (name, dependency) ∈ stuck ↔ g.StuckOn naming unit name dependency) ∧
      answer = .ok (stuck.map (g.waitOn naming))) := by
  intro answer
  have named := reachable.settled.named
  by_cases absent : ofUnit unit (g.snapshots runtime) = []
  · have unknown : answer = .error (.unknownUnit unit) := by
      show Units.examine _ _ _ _ = _
      rw [Units.examine, problemsOfUnit, absent]
      rfl
    have nowhere := named.ofUnit_eq_nil_iff.1 absent
    refine ⟨iff_of_true unknown nowhere, ?_⟩
    rintro ⟨name, installed, below⟩
    exact absurd below (nowhere name installed)
  · have known : answer =
        .ok ((g.edges.filter fun edge => g.isBrokenIn unit edge.1 && g.isWait naming edge).map (g.waitOn naming)) := by
      show Units.examine _ _ _ _ = _
      rw [Units.examine, problemsOfUnit, if_neg (mt List.isEmpty_iff.1 absent), ← named.diagnose_statuses]
    refine ⟨iff_of_false (fun unknown => ?_) (mt named.ofUnit_eq_nil_iff.2 absent), fun _ => ⟨_, ?_, ?_, ?_, known⟩⟩
    · rw [known] at unknown
      cases unknown
    · exact List.filter_sublist
    · exact (nodup_edges g).filter _
    · intro name dependency
      rw [List.mem_filter, Bool.and_eq_true, stuckOn_iff]

/-- A short naming convention, and a part of a unit under it. -/
def shortNaming : UnitNaming := ⟨"ns".toList, "GO".toList, "OK".toList⟩

def unitPart (unit part : String) : ServiceName := ⟨["ns".toList, unit.toList, part.toList]⟩

/-- A unit that waits for a second one, which has failed, and for a third one, which is not installed. -/
def expectant : Graph := .ofList
  [(unitPart "b" "OK", ⟨unitPart "b" "OK", .active, .startFailed, .empty, .empty, none⟩),
    (unitPart "a" "GO", ⟨unitPart "a" "GO", .active, .problem, .ofList [unitPart "b" "OK", unitPart "c" "OK"],
      .ofList [unitPart "c" "OK"], none⟩)]

theorem reachable_expectant : expectant.Reachable :=
  .restore
    (s := ⟨[⟨unitPart "b" "OK", .active, .failed, none, []⟩,
      ⟨unitPart "a" "GO", .active, .down, none, [unitPart "b" "OK", unitPart "c" "OK"]⟩]⟩)
    (by cbv)

theorem expectant_told : (simpleName "ns").segments <+: (unitPart "a" "GO").segments ∧
    ∃ found, Units.examine shortNaming (simpleName "ns") (expectant.snapshots ⟨0⟩) (expectant.statuses ⟨0⟩) =
        .ok found ∧
      ⟨.named "a".toList, "DOWN".toList, .named "c".toList, "MISSING".toList⟩ ∈ found := by
  have below : (simpleName "ns").segments <+: (unitPart "a" "GO").segments := by decide
  have installed : unitPart "a" "GO" ∈ expectant.keys := by decide
  obtain ⟨-, exact⟩ := unit_diagnosis_exact reachable_expectant ⟨0⟩ shortNaming (simpleName "ns")
  obtain ⟨stuck, -, -, each, answer⟩ := exact ⟨unitPart "a" "GO", installed, below⟩
  have waiting : expectant.StuckOn shortNaming (simpleName "ns") (unitPart "a" "GO") (unitPart "c" "OK") :=
    { below := below
      broken := Or.inr (by cbv)
      inNamespace := by decide
      installs := by decide
      edge := ⟨_, by rfl, by decide⟩
      marker := by decide
      incomplete := by decide }
  have told : expectant.waitOn shortNaming (unitPart "a" "GO", unitPart "c" "OK") =
      ⟨.named "a".toList, "DOWN".toList, .named "c".toList, "MISSING".toList⟩ := by decide
  refine ⟨below, _, answer, ?_⟩
  rw [← told]
  exact List.mem_map_of_mem ((each _ _).2 waiting)

end Graph
end ServiceStability
