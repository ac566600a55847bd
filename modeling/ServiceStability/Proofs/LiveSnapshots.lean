import ServiceStability.RuntimeSnapshot
import ServiceStability.Units.Diagnosis
import ServiceStability.Proofs.Verdict
/-!
# Proofs.LiveSnapshots — a live graph put down and set up again

A snapshot keeps neither the marks of the dormant services nor the lists of what is unavailable.  On a reachable graph
both are what resolution makes of the rest, whatever led to the graph, so setting the snapshot up finds them again.
What is lost is the failure that a service still carries after it was stopped: only a service whose start has failed is
set up with its failure.

Verification and the diagnosis of units do not look at what is lost.  Each of their stages is followed through: on
snapshots of another runtime, without the lost failures, it does what it does on the old ones.

- `Graph.restored`: the graph that comes back.
- `Graph.restore_capture`: it comes back.
- `Diagnosis.diagnose_restored`, `Units.examine_restored`: reports and diagnoses are the same.
-/
namespace ServiceStability

theorem OrderedSet.foldl_insert_of_mem {α : Type} [DecidableEq α] {items : List α} {s : OrderedSet α}
    (present : ∀ a ∈ items, a ∈ s) : items.foldl insert s = s := by
  induction items with
  | nil => rfl
  | cons a rest ih =>
    have unchanged : s.insert a = s :=
      OrderedSet.ext ((toList_insert s a).trans (if_pos (present a (List.mem_cons_self ..))))
    rw [List.foldl_cons, unchanged]
    exact ih fun b member => present b (List.mem_cons_of_mem _ member)

theorem RestState.ofSubstate_eq_failed_iff {substate : Substate} :
    RestState.ofSubstate substate = .failed ↔ substate = .startFailed := by
  cases substate <;> simp [RestState.ofSubstate]

/-- The record of a service after its graph was put down and set up again. -/
def ServiceRecord.restored (r : ServiceRecord) : ServiceRecord :=
  { r with startFailure := if r.substate = .startFailed then r.startFailure else none }

/-- **The snapshot of a service after its graph was put down and set up again** as another runtime. -/
def ServiceSnapshot.restored (s : ServiceSnapshot) (runtime : RuntimeId) : ServiceSnapshot :=
  { s with runtime := runtime, startFailure := if s.substate = .startFailed then s.startFailure else none }

/-- **A result on services that were set up again.** -/
structure QuiescenceResult.Restores (result' result : QuiescenceResult) (runtime : RuntimeId) : Prop where
  failed : result'.failedServices = result.failedServices.map (·.restored runtime)
  problem : result'.problemServices = result.problemServices.map (·.restored runtime)

namespace Diagnosis

variable {result result' : QuiescenceResult} {runtime runtime' : RuntimeId} {services : List ServiceSnapshot}
  {lookup lookup' : ServiceLookup}

theorem failureText_restored {s : ServiceSnapshot} (failed : s.substate = .startFailed) :
    failureText (s.restored runtime) = failureText s := by
  simp only [failureText, ServiceSnapshot.restored, if_pos failed]

theorem missingIn_restored : missingIn (some (services.map (·.restored runtime))) = missingIn (some services) := by
  simp only [missingIn, List.filter_map, List.flatMap_map]
  rfl

theorem runtimesOf_of_forall (own : ∀ s ∈ services, s.runtime = runtime) :
    runtimesOf services = if services = [] then [] else [runtime] := by
  cases services with
  | nil => rfl
  | cons s rest =>
    obtain rfl := own s (List.mem_cons_self ..)
    have same : ∀ other ∈ rest.map (·.runtime), other ∈ (OrderedSet.empty.insert s.runtime : OrderedSet RuntimeId) := by
      intro other member
      obtain ⟨t, listed, rfl⟩ := List.mem_map.1 member
      exact OrderedSet.mem_insert.2 (Or.inr (own t (List.mem_cons_of_mem _ listed)))
    rw [runtimesOf, OrderedSet.ofList, List.map_cons, List.foldl_cons, OrderedSet.foldl_insert_of_mem same,
      if_neg (List.cons_ne_nil _ _)]
    rfl

theorem allMissing_restored {known : List ServiceSnapshot} (own : ∀ s ∈ services, s.runtime = runtime)
    (knows : lookup runtime = some known) (knows' : lookup' runtime' = some (known.map (·.restored runtime'))) :
    allMissing lookup' (services.map (·.restored runtime')) = allMissing lookup services := by
  have own' : ∀ s ∈ services.map (·.restored runtime'), s.runtime = runtime' := fun s member => by
    obtain ⟨t, -, rfl⟩ := List.mem_map.1 member
    rfl
  rw [allMissing, allMissing, runtimesOf_of_forall own, runtimesOf_of_forall own']
  cases services with
  | nil => rfl
  | cons s rest =>
    simp only [List.map_cons, if_neg (List.cons_ne_nil _ _), List.flatMap_cons, List.flatMap_nil, knows, knows',
      missingIn_restored]

theorem isStable_restored (restores : result'.Restores result runtime) : result'.isStable = result.isStable := by
  rw [Bool.eq_iff_iff, isStable_iff, isStable_iff, restores.failed, restores.problem, List.map_eq_nil_iff,
    List.map_eq_nil_iff]

theorem failures_restored (restores : result'.Restores result runtime)
    (failed : ∀ s ∈ result.failedServices, s.substate = .startFailed) : failures result' = failures result := by
  rw [failures, failures, restores.failed, List.map_map]
  congr 1
  refine List.map_congr_left fun s member => ?_
  rw [Function.comp_apply, failureText_restored (failed s member)]
  rfl

theorem missingRequired_restored (restores : result'.Restores result runtime) :
    missingRequired result' = missingRequired result := by
  rw [missingRequired, missingRequired, restores.failed, restores.problem, List.map_map, List.flatMap_map]
  rfl

theorem missingLines_restored (restores : result'.Restores result runtime) :
    missingLines result' = missingLines result := by
  rw [missingLines, missingLines, restores.problem, List.filter_map, List.map_map]
  rfl

theorem missingTransitive_restored (restores : result'.Restores result runtime) :
    missingTransitive result' = (missingTransitive result).map (·.restored runtime) := by
  rw [missingTransitive, missingTransitive, restores.problem, List.filter_map]
  rfl

/-- **The report is the same** on services that were set up again, if both runtimes can be looked up. -/
theorem diagnose_restored {known : List ServiceSnapshot} (restores : result'.Restores result runtime')
    (failed : ∀ s ∈ result.failedServices, s.substate = .startFailed)
    (own : ∀ s ∈ result.problemServices, s.runtime = runtime)
    (knows : lookup runtime = some known) (knows' : lookup' runtime' = some (known.map (·.restored runtime'))) :
    diagnose lookup' result' = diagnose lookup result := by
  have scanned : allMissing lookup' (missingTransitive result') = allMissing lookup (missingTransitive result) := by
    rw [missingTransitive_restored restores]
    exact allMissing_restored (fun s member => own s (List.mem_of_mem_filter member)) knows knows'
  have names : (missingTransitive result').map (·.name) = (missingTransitive result).map (·.name) := by
    rw [missingTransitive_restored restores, List.map_map]
    rfl
  have section' : transitive lookup' result' = transitive lookup result := by
    rw [transitive, transitive, scanned, names, missingRequired_restored restores]
  rw [diagnose, diagnose, isStable_restored restores, failures_restored restores failed,
    missingRequired_restored restores, missingLines_restored restores, section']

end Diagnosis

namespace Units

variable {naming : UnitNaming} {unit : ServiceName} {statuses : List ServiceStatus} {services : List ServiceSnapshot}
  {runtime : RuntimeId}

theorem problemsOfUnit_restored : Graph.problemsOfUnit unit (services.map (·.restored runtime)) =
    (Graph.problemsOfUnit unit services).map (List.map (·.restored runtime)) := by
  have part : Graph.ofUnit unit (services.map (·.restored runtime)) =
      (Graph.ofUnit unit services).map (·.restored runtime) := List.filter_map
  rw [Graph.problemsOfUnit, Graph.problemsOfUnit, part, List.isEmpty_map]
  split
  · rfl
  · rw [Option.map_some, List.filter_map]
    rfl

/-- **The diagnosis of a unit is the same** on services that were set up again. -/
theorem examine_restored :
    examine naming unit (services.map (·.restored runtime)) statuses = examine naming unit services statuses := by
  rw [examine, examine, problemsOfUnit_restored]
  cases Graph.problemsOfUnit unit services with
  | none => rfl
  | some problems => exact congrArg Except.ok (List.flatMap_map ..)

end Units

namespace Graph

variable {g : Graph} {name : ServiceName} {r : ServiceRecord} {runtime runtime' : RuntimeId}

/-- **The graph that comes back** when a graph at rest is put down and set up again. -/
def restored (g : Graph) : Graph := g.mapValues fun _ r => r.restored

theorem get?_restored (g : Graph) (name : ServiceName) : g.restored.get? name = (g.get? name).map (·.restored) :=
  OrderedMap.get?_mapValues ..

theorem get?_restored_eq_some_iff {s : ServiceRecord} :
    g.restored.get? name = some s ↔ ∃ r, g.get? name = some r ∧ r.restored = s := by
  rw [get?_restored, Option.map_eq_some_iff]

theorem akin_restored (g : Graph) : g.Akin g.restored where
  keys := (OrderedMap.keys_mapValues ..).symm
  record := fun found found' => by
    obtain ⟨r, present, rfl⟩ := get?_restored_eq_some_iff.1 found'
    obtain rfl := Option.some.inj (found.symm.trans present)
    exact ⟨rfl, rfl, Or.inl rfl⟩

/-- Nothing is on the move: no service is starting or being removed. -/
def Still (g : Graph) : Prop := ∀ name r, g.get? name = some r → r.substate ≠ .starting ∧ r.substate ≠ .removing

theorem Still.restored (still : g.Still) : g.restored.Still := fun name s found => by
  obtain ⟨r, found', rfl⟩ := get?_restored_eq_some_iff.1 found
  exact still name r found'

theorem Resolution.restored (resolution : g.Resolution g) : g.restored.Resolution g.restored where
  alike := .refl _
  unavailable := fun found => by
    obtain ⟨r, found', rfl⟩ := get?_restored_eq_some_iff.1 found
    have listed : r.unavailable = r.dependencies.filter g.isUnavailable := resolution.unavailable found'
    rw [← (akin_restored g).isUnavailable_eq]
    exact listed
  decided := fun name r found dormant => by
    obtain ⟨r, found', rfl⟩ := get?_restored_eq_some_iff.1 found
    rw [← (akin_restored g).blocked_iff]
    exact resolution.decided name r found' dormant

/-- The record that a captured service is set up with, before resolution. -/
def undecidedAgain (r : ServiceRecord) : ServiceRecord := (ServiceEntry.ofSnapshot (r.snapshot ⟨0⟩)).toRecord

/-- **Putting a service down and setting it up changes only what resolution writes**, if the service is at rest. -/
theorem alike_undecidedAgain (removed : r.substate ≠ .removed)
    (still : r.substate ≠ .starting ∧ r.substate ≠ .removing) : (undecidedAgain r).Alike r.restored where
  name := rfl
  mode := rfl
  dependencies := OrderedSet.ofList_toList _
  startFailure := by
    simp only [undecidedAgain, ServiceEntry.toRecord, ServiceEntry.ofSnapshot, ServiceRecord.snapshot,
      ServiceRecord.restored, RestState.ofSubstate_eq_failed_iff]
  substate := by
    simp only [undecidedAgain, ServiceEntry.toRecord, ServiceEntry.ofSnapshot, ServiceRecord.snapshot,
      ServiceRecord.restored]
    cases is : r.substate with
    | new | down | problem => exact Or.inr ⟨rfl, rfl⟩
    | up | startFailed => exact Or.inl rfl
    | starting => exact absurd is still.1
    | removing => exact absurd is still.2
    | removed => exact absurd is removed

/-- **Any graph can be set up from its own snapshot**: every service at rest or undecided, and then resolved. -/
theorem WellNamed.restore_capture_eq (named : g.WellNamed) :
    (RuntimeSnapshot.capture g).restore = .ok (resolve (g.mapValues fun _ r => undecidedAgain r)) := by
  have entries : (RuntimeSnapshot.capture g).services =
      g.toList.map fun entry => .ofSnapshot (entry.2.snapshot ⟨0⟩) := by
    simp only [RuntimeSnapshot.capture, snapshots, OrderedMap.values, List.map_map]
    rfl
  have own : ∀ entry ∈ g.toList, entry.2.name = entry.1 := fun entry member =>
    (named entry.1 entry.2 (OrderedMap.get?_eq_some_iff.2 member)).1
  have names : (RuntimeSnapshot.capture g).names = g.keys := by
    rw [RuntimeSnapshot.names, entries, List.map_map, OrderedMap.keys]
    exact List.map_congr_left own
  refine RuntimeSnapshot.restore_eq_ok_iff.2 ⟨names ▸ g.keys_nodup, _, ?_, rfl⟩
  rw [entries, List.map_map]
  refine List.map_congr_left fun entry member => ?_
  exact Prod.ext (own entry member).symm rfl

/-- **A reachable graph without a service on the move comes back from its own snapshot.** -/
theorem Settled.restore_capture (settled : g.Settled) (still : g.Still) :
    (RuntimeSnapshot.capture g).restore = .ok g.restored := by
  -- What comes back is the one resolution of what is set up.
  have alike : Graph.Alike (g.mapValues fun _ r => undecidedAgain r) g.restored :=
    { keys := (OrderedMap.keys_mapValues ..).trans (OrderedMap.keys_mapValues ..).symm
      record := fun {name s t} found found' => by
        rw [OrderedMap.get?_mapValues] at found
        obtain ⟨r, present, rfl⟩ := Option.map_eq_some_iff.1 found
        rw [get?_restored, present] at found'
        obtain rfl := Option.some.inj found'
        exact alike_undecidedAgain (settled.named name r present).2 (still name r present) }
  rw [settled.named.restore_capture_eq]
  exact congrArg Except.ok ((resolution_resolve _).unique (settled.resolved.restored.of_alike alike))

theorem substate?_restored (g : Graph) (name : ServiceName) : g.restored.substate? name = g.substate? name := by
  rw [substate?, substate?, get?_restored, Option.map_map]
  rfl

theorem snapshot?_restored (g : Graph) (runtime runtime' : RuntimeId) (name : ServiceName) :
    g.restored.snapshot? runtime' name = (g.snapshot? runtime name).map (·.restored runtime') := by
  rw [snapshot?, snapshot?, get?_restored, Option.map_map, Option.map_map]
  rfl

theorem snapshots_restored (g : Graph) (runtime runtime' : RuntimeId) :
    g.restored.snapshots runtime' = (g.snapshots runtime).map (·.restored runtime') := by
  simp only [snapshots, restored, OrderedMap.values, OrderedMap.mapValues, List.map_map]
  rfl

theorem statuses_restored (g : Graph) (runtime runtime' : RuntimeId) :
    g.restored.statuses runtime' = g.statuses runtime := by
  rw [statuses, statuses, snapshots_restored g runtime runtime', List.map_map]
  rfl

theorem shown_restored (g : Graph) (runtime runtime' : RuntimeId) (substate : Substate) (names : List ServiceName) :
    g.restored.shown runtime' substate names =
      (g.shown runtime substate names).map fun entry => (entry.1, entry.2.restored runtime') := by
  simp only [shown, substate?_restored, snapshot?_restored g runtime runtime', List.map_filterMap, Option.map_map]
  rfl

theorem Settled.restored (settled : g.Settled) : g.restored.Settled where
  named := fun name s found => by
    obtain ⟨r, found', rfl⟩ := get?_restored_eq_some_iff.1 found
    exact settled.named name r found'
  resolved := settled.resolved.restored

theorem Settled.atRest_of_still (settled : g.Settled) (still : g.Still) (m : Monitor) : m.atRest g = true := by
  refine isQuiescent_iff.2 fun name _ r found => ?_
  rw [← Bool.not_eq_false, Substate.isRest_eq_false_iff]
  rintro (new | starting | removing)
  · exact settled.substate_ne_new found new
  · exact (still name r found).1 starting
  · exact (still name r found).2 removing

theorem Settled.restores_capture (settled : g.Settled) (m : Monitor) :
    (m.capture runtime' g.restored).Restores (m.capture runtime g) runtime' := by
  obtain ⟨failed, problem⟩ := @Monitor.toList_capture m runtime g settled.named
  obtain ⟨failed', problem'⟩ := @Monitor.toList_capture m runtime' g.restored settled.restored.named
  constructor
  · rw [QuiescenceResult.failedServices, QuiescenceResult.failedServices, OrderedMap.values, OrderedMap.values,
      failed, failed', shown_restored g runtime runtime', List.map_map, List.map_map]
    rfl
  · rw [QuiescenceResult.problemServices, QuiescenceResult.problemServices, OrderedMap.values, OrderedMap.values,
      problem, problem', shown_restored g runtime runtime', List.map_map, List.map_map]
    rfl

/-- **A verification comes to the same end** on the graph that comes back, whoever waits and whether cancelled or not,
if both runtimes can be looked up. -/
theorem Settled.verify_restored (settled : g.Settled) (still : g.Still) (m : Monitor) (c : OperationContext)
    (cancelled : Bool) {lookup lookup' : ServiceLookup} (knows : lookup runtime = some (g.snapshots runtime))
    (knows' : lookup' runtime' = some (g.restored.snapshots runtime')) :
    ∃ waited waited', m.look runtime cancelled g = some waited ∧ m.look runtime' cancelled g.restored = some waited' ∧
      verify m c lookup' waited' = verify m c lookup waited := by
  cases cancelled with
  | true => exact ⟨_, _, rfl, rfl, rfl⟩
  | false =>
    refine ⟨.ok (m.capture runtime g), .ok (m.capture runtime' g.restored),
      Monitor.look_eq_ok_iff.2 ⟨rfl, settled.atRest_of_still still m, rfl⟩,
      Monitor.look_eq_ok_iff.2 ⟨rfl, settled.restored.atRest_of_still still.restored m, rfl⟩, ?_⟩
    have failed : ∀ s ∈ (m.capture runtime g).failedServices, s.substate = .startFailed := fun s shown => by
      obtain ⟨_, -, r, -, is, rfl⟩ := (Monitor.mem_failedServices_capture settled.named).1 shown
      exact is
    have own : ∀ s ∈ (m.capture runtime g).problemServices, s.runtime = runtime := fun s shown => by
      obtain ⟨_, -, r, -, -, rfl⟩ := (Monitor.mem_problemServices_capture settled.named).1 shown
      rfl
    rw [snapshots_restored g runtime runtime'] at knows'
    have report := Diagnosis.diagnose_restored (settled.restores_capture m) failed own knows knows'
    simp only [verify, OperationContext.conclude, report]

/-- **A live graph survives being put down and set up again.**  From a reachable graph without a service on the move the
snapshot can be restored.  The same services come back in the same order.  Each keeps its mode, its sub-state, its
dependencies in their order and what of them is unavailable, and a failed one its start failure.  Whatever is verified
ends the same way, with the same report, and each unit has the same diagnosis. -/
theorem live_snapshot_preserves (reachable : g.Reachable) (still : g.Still) :
    ∃ h, (RuntimeSnapshot.capture g).restore = .ok h ∧ h.keys = g.keys ∧
      (∀ name r, g.get? name = some r → ∃ s, h.get? name = some s ∧ s = { r with startFailure := s.startFailure } ∧
        (r.substate = .startFailed → s.startFailure = r.startFailure)) ∧
      (∀ (m : Monitor) (c : OperationContext) (cancelled : Bool) (runtime runtime' : RuntimeId)
        (lookup lookup' : ServiceLookup), lookup runtime = some (g.snapshots runtime) →
        lookup' runtime' = some (h.snapshots runtime') →
        ∃ waited waited', m.look runtime cancelled g = some waited ∧ m.look runtime' cancelled h = some waited' ∧
          verify m c lookup' waited' = verify m c lookup waited) ∧
      ∀ (naming : UnitNaming) (unit : ServiceName) (runtime runtime' : RuntimeId),
        Units.examine naming unit (h.snapshots runtime') (h.statuses runtime') =
          Units.examine naming unit (g.snapshots runtime) (g.statuses runtime) := by
  have settled := reachable.settled
  refine ⟨g.restored, settled.restore_capture still, OrderedMap.keys_mapValues .., fun name r found => ?_, ?_, ?_⟩
  · refine ⟨r.restored, by rw [get?_restored, found]; rfl, rfl, fun failed => ?_⟩
    exact if_pos failed
  · intro m c cancelled runtime runtime' lookup lookup' knows knows'
    exact settled.verify_restored still m c cancelled knows knows'
  · intro naming unit runtime runtime'
    rw [snapshots_restored g runtime runtime', statuses_restored g runtime runtime', Units.examine_restored]

/-- A service that was stopped after its start had failed, and one that depends on it and on something missing. -/
def stopped : Graph := .ofList
  [(simpleName "db", ⟨simpleName "db", .active, .down, .empty, .empty, some ⟨[], []⟩⟩),
    (simpleName "app", ⟨simpleName "app", .active, .problem, .ofList [simpleName "db", simpleName "gone"],
      .ofList [simpleName "gone"], none⟩)]

theorem reachable_stopped : stopped.Reachable :=
  @Reachable.apply _ _ (.stop (simpleName "db"))
    (.restore
      (s := ⟨[⟨simpleName "db", .active, .failed, some ⟨[], []⟩, []⟩,
        ⟨simpleName "app", .active, .down, none, [simpleName "db", simpleName "gone"]⟩]⟩)
      rfl)
    (by cbv)

theorem still_stopped : stopped.Still := by
  intro name r found
  have member : r ∈ stopped.values := OrderedMap.mem_values_iff.2 ⟨name, found⟩
  have each : ∀ s ∈ stopped.values, s.substate ≠ .starting ∧ s.substate ≠ .removing := by decide
  exact each r member

theorem stopped_comes_back : stopped.Reachable ∧ stopped.Still ∧
    ∃ h, (RuntimeSnapshot.capture stopped).restore = .ok h ∧ h.substate? (simpleName "app") = some .problem := by
  obtain ⟨h, restored, -, same, -⟩ := live_snapshot_preserves reachable_stopped still_stopped
  obtain ⟨s, found, is, -⟩ := same (simpleName "app") _ (by rfl)
  exact ⟨reachable_stopped, still_stopped, h, restored, substate?_eq_some_iff.2 ⟨s, found, by rw [is]⟩⟩

end Graph
end ServiceStability
