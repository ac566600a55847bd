import ServiceStability.Verification
import ServiceStability.Proofs.BlockingChains
import ServiceStability.Proofs.CanonicalForms
import ServiceStability.Proofs.Capture
import ServiceStability.Proofs.Reachability
/-!
# Proofs.Verdict — when a verification says stable

The verdict is read off the report, and the report is empty when nothing failed, no blocked service lacks a dependency
of its own, and nothing is missing in the runtimes of the blocked ones.  On a reachable graph this is a condition on the
services themselves.  It is weaker than nothing being broken: a service that is blocked by failed ones alone, none of
them touched, leaves no trace.

- `Diagnosis.isEmpty_diagnose_iff`: when a report is empty.
- `Graph.LeavesNoTrace`: the condition on the services.
- `Graph.Settled.isEmpty_report_iff`: when the report on a capture is empty.
- `Graph.Settled.exists_failed_of_blocked`: what can be broken then.
-/
namespace ServiceStability
namespace Diagnosis

variable {lookup : ServiceLookup} {result : QuiescenceResult} {name : ServiceName}

theorem isStable_iff : result.isStable = true ↔ result.failedServices = [] ∧ result.problemServices = [] := by
  simp [QuiescenceResult.isStable, OrderedMap.isEmpty, QuiescenceResult.failedServices,
    QuiescenceResult.problemServices, OrderedMap.values]

theorem isDirect_eq_false_iff {s : ServiceSnapshot} : isDirect s = false ↔ s.unavailable.toList = [] := by
  simp [isDirect, OrderedSet.isEmpty_iff]

theorem countsAsSource_iff {s : ServiceSnapshot} :
    countsAsSource s = true ↔ s.substate = .problem ∧ s.mode ≠ .never ∧ s.mode ≠ .remove := by
  simp only [countsAsSource, ServiceSnapshot.isProblem, Bool.and_eq_true, decide_eq_true_eq, Bool.not_eq_true',
    ← Bool.not_eq_true, Mode.isInert_iff, not_or, ne_eq]

theorem mem_runtimesOf {services : List ServiceSnapshot} {runtime : RuntimeId} :
    runtime ∈ runtimesOf services ↔ ∃ s ∈ services, s.runtime = runtime := by
  rw [runtimesOf, ← OrderedSet.mem_def, OrderedSet.mem_ofList, List.mem_map]

theorem mem_missingIn {known : List ServiceSnapshot} :
    name ∈ missingIn (some known) ↔ ∃ t ∈ known, countsAsSource t = true ∧ name ∈ t.unavailable := by
  simp only [missingIn, List.mem_flatMap, List.mem_filter, and_assoc]
  rfl

theorem mem_allMissing {services : List ServiceSnapshot} : name ∈ (allMissing lookup services).toList ↔
    ∃ s ∈ services, ∃ known, lookup s.runtime = some known ∧
      ∃ t ∈ known, countsAsSource t = true ∧ name ∈ t.unavailable := by
  rw [allMissing, NameSet.mem_ofList, List.mem_flatMap]
  constructor
  · rintro ⟨runtime, asked, missing⟩
    obtain ⟨s, member, rfl⟩ := mem_runtimesOf.1 asked
    cases answered : lookup s.runtime with
    | none => rw [answered] at missing; cases missing
    | some known =>
      rw [answered] at missing
      exact ⟨s, member, known, answered, mem_missingIn.1 missing⟩
  · rintro ⟨s, member, known, answered, found⟩
    exact ⟨s.runtime, mem_runtimesOf.2 ⟨s, member, rfl⟩, by rw [answered]; exact mem_missingIn.2 found⟩

theorem mem_missingRequired : name ∈ missingRequired result ↔
    (∃ s ∈ result.failedServices, s.name = name) ∨ ∃ s ∈ result.problemServices, name ∈ s.unavailable := by
  rw [missingRequired, OrderedSet.mem_ofList, List.mem_append, List.mem_map, List.mem_flatMap]
  rfl

theorem toList_allMissing_eq_nil_iff {services : List ServiceSnapshot} :
    (allMissing lookup services).toList = [] ↔ ∀ s ∈ services, ∀ known, lookup s.runtime = some known →
      ∀ t ∈ known, countsAsSource t = true → t.unavailable.toList = [] := by
  simp only [List.eq_nil_iff_forall_not_mem, mem_allMissing]
  constructor
  · intro h s member known answered t present counts name listed
    exact h name ⟨s, member, known, answered, t, present, counts, listed⟩
  · rintro h name ⟨s, member, known, answered, t, present, counts, listed⟩
    exact h s member known answered t present counts name listed

theorem toList_missingRequired_eq_nil_iff : (missingRequired result).toList = [] ↔
    result.failedServices = [] ∧ ∀ s ∈ result.problemServices, s.unavailable.toList = [] := by
  rw [missingRequired, OrderedSet.toList_ofList_eq_nil_iff, List.append_eq_nil_iff, List.map_eq_nil_iff,
    List.flatMap_eq_nil_iff]

theorem missingTransitive_of_direct (direct : ∀ s ∈ result.problemServices, s.unavailable.toList = []) :
    missingTransitive result = result.problemServices := by
  refine List.filter_eq_self.2 fun s member => ?_
  rw [isDirect_eq_false_iff.2 (direct s member)]
  rfl

/-- **A report is empty exactly when** nothing failed, no blocked service lacks a dependency itself, and nothing is
missing in the runtimes of the blocked ones. -/
theorem isEmpty_diagnose_iff : (diagnose lookup result).isEmpty = true ↔ result.failedServices = [] ∧
    (∀ s ∈ result.problemServices, s.unavailable.toList = []) ∧
    (allMissing lookup result.problemServices).toList = [] := by
  by_cases stable : result.isStable = true
  · obtain ⟨failed, problem⟩ := isStable_iff.1 stable
    rw [diagnose_of_isStable stable, failed, problem, toList_allMissing_eq_nil_iff]
    simp [DiagnosticReport.isEmpty_empty]
  · have unfolded : diagnose lookup result =
        ⟨failures result, missingRequired result, missingLines result, transitive lookup result⟩ := if_neg stable
    rw [unfolded, DiagnosticReport.isEmpty_iff, toList_missingRequired_eq_nil_iff]
    constructor
    · rintro ⟨-, ⟨failed, direct⟩, -, silent⟩
      -- Nothing is direct, so every blocked service is scanned for, and nothing found is excused.
      have all := missingTransitive_of_direct direct
      have required := toList_missingRequired_eq_nil_iff.2 ⟨failed, direct⟩
      refine ⟨failed, direct, List.eq_nil_iff_forall_not_mem.2 fun name missing => ?_⟩
      rw [transitive, all] at silent
      split at silent
      · rename_i excused
        have known := of_decide_eq_true (List.all_eq_true.1 excused name missing)
        rw [OrderedSet.mem_def, required] at known
        cases known
      · cases silent
    · rintro ⟨failed, direct, found⟩
      have none_direct : result.problemServices.filter isDirect = [] := List.filter_eq_nil_iff.2 fun s member => by
        rw [isDirect_eq_false_iff.2 (direct s member)]; decide
      have all := missingTransitive_of_direct direct
      refine ⟨?_, ⟨failed, direct⟩, ?_, ?_⟩
      · rw [failures, failed]; rfl
      · rw [missingLines, none_direct]; rfl
      · rw [transitive, all, found]; rfl

end Diagnosis

namespace Graph

open Diagnosis

variable {g : Graph} {runtime : RuntimeId} {name : ServiceName} {r : ServiceRecord} {touched : List ServiceName}

/-- Whether every dependency of a service can be reached. -/
def Supplies (g : Graph) (r : ServiceRecord) : Prop := ∀ dependency ∈ r.dependencies, ¬ g.OutOfReach dependency

/-- **Touched services that a report says nothing about.**  None of them failed, and none that is blocked has a
dependency out of reach; and if one of them is blocked at all, no blocked service of the graph that is meant to run has
a dependency out of reach. -/
structure LeavesNoTrace (g : Graph) (touched : List ServiceName) : Prop where
  unfailed : ∀ name ∈ touched, g.substate? name ≠ some .startFailed
  supplied : ∀ name ∈ touched, ∀ r, g.get? name = some r → r.substate = .problem → g.Supplies r
  suppliedAnywhere : (∃ name ∈ touched, g.substate? name = some .problem) → ∀ name r, g.get? name = some r →
    r.substate = .problem → r.mode ≠ .never → r.mode ≠ .remove → g.Supplies r

theorem Settled.unavailable_eq_nil_iff (settled : g.Settled) (found : g.get? name = some r) :
    r.unavailable.toList = [] ↔ g.Supplies r := by
  simp only [List.eq_nil_iff_forall_not_mem, ← OrderedSet.mem_def, settled.mem_unavailable_iff found, isUnavailable_iff,
    not_and, Supplies]

theorem lookup_own (g : Graph) (runtime : RuntimeId) : g.lookup runtime runtime = some (g.snapshots runtime) :=
  if_pos rfl

theorem mem_snapshots_iff {s : ServiceSnapshot} :
    s ∈ g.snapshots runtime ↔ ∃ name r, g.get? name = some r ∧ r.snapshot runtime = s := by
  simp only [snapshots, List.mem_map, OrderedMap.mem_values_iff]
  constructor
  · rintro ⟨r, ⟨name, found⟩, same⟩
    exact ⟨name, r, found, same⟩
  · rintro ⟨name, r, found, same⟩
    exact ⟨r, ⟨name, found⟩, same⟩

/-- **The report on a capture is empty exactly when the interest leaves no trace.** -/
theorem Settled.isEmpty_report_iff (settled : g.Settled) (m : Monitor) (runtime : RuntimeId) :
    (diagnose (g.lookup runtime) (m.capture runtime g)).isEmpty = true ↔ g.LeavesNoTrace m.interest.toList := by
  rw [isEmpty_diagnose_iff, toList_allMissing_eq_nil_iff]
  constructor
  · rintro ⟨failed, direct, scanned⟩
    refine ⟨fun name member is => ?_, fun name member r found is => ?_, ?_⟩
    · obtain ⟨r, found, is⟩ := substate?_eq_some_iff.1 is
      have shown : r.snapshot runtime ∈ (m.capture runtime g).failedServices :=
        (Monitor.mem_failedServices_capture settled.named).2 ⟨name, member, r, found, is, rfl⟩
      rw [failed] at shown
      cases shown
    · have shown : r.snapshot runtime ∈ (m.capture runtime g).problemServices :=
        (Monitor.mem_problemServices_capture settled.named).2 ⟨name, member, r, found, is, rfl⟩
      exact (settled.unavailable_eq_nil_iff found).1 (direct (r.snapshot runtime) shown)
    · rintro ⟨name, member, is⟩ other s found' is' mode mode'
      obtain ⟨r, found, is⟩ := substate?_eq_some_iff.1 is
      have shown : r.snapshot runtime ∈ (m.capture runtime g).problemServices :=
        (Monitor.mem_problemServices_capture settled.named).2 ⟨name, member, r, found, is, rfl⟩
      have nothing := scanned _ shown _ (lookup_own g runtime) _ (mem_snapshots_iff.2 ⟨other, s, found', rfl⟩)
      exact (settled.unavailable_eq_nil_iff found').1 (nothing (countsAsSource_iff.2 ⟨is', mode, mode'⟩))
  · rintro ⟨unfailed, supplied, anywhere⟩
    refine ⟨List.eq_nil_iff_forall_not_mem.2 fun s shown => ?_, fun s shown => ?_, fun s shown known answered t => ?_⟩
    · obtain ⟨name, member, r, found, is, -⟩ := (Monitor.mem_failedServices_capture settled.named).1 shown
      exact unfailed name member (substate?_eq_some_iff.2 ⟨r, found, is⟩)
    · obtain ⟨name, member, r, found, is, rfl⟩ := (Monitor.mem_problemServices_capture settled.named).1 shown
      exact (settled.unavailable_eq_nil_iff found).2 (supplied name member r found is)
    · obtain ⟨name, member, r, found, is, rfl⟩ := (Monitor.mem_problemServices_capture settled.named).1 shown
      obtain rfl : g.snapshots runtime = known := Option.some.inj ((lookup_own g runtime).symm.trans answered)
      intro present counts
      obtain ⟨other, s, found', rfl⟩ := mem_snapshots_iff.1 present
      obtain ⟨is', mode, mode'⟩ := countsAsSource_iff.1 counts
      have blocked : ∃ name ∈ m.interest.toList, g.substate? name = some .problem :=
        ⟨name, member, substate?_eq_some_iff.2 ⟨r, found, is⟩⟩
      exact (settled.unavailable_eq_nil_iff found').2 (anywhere blocked other s found' is' mode mode')

theorem verify_stable_iff_isEmpty {m : Monitor} (atRest : m.atRest g = true) (c : OperationContext)
    (later : List Graph) :
    (verify m c (g.lookup runtime) (m.await runtime (g :: later)).1).outcome = .stable ↔
      (diagnose (g.lookup runtime) (m.capture runtime g)).isEmpty = true := by
  rw [Monitor.await_of_atRest atRest]
  simp only [verify, OperationContext.conclude]
  split <;> simp_all

/-- **What blocks a service without a trace is a failed service.** -/
theorem Settled.exists_failed_of_blocked (settled : g.Settled)
    (anywhere : ∀ name r, g.get? name = some r → r.substate = .problem → r.mode ≠ .never → r.mode ≠ .remove →
      g.Supplies r)
    (blocked : g.Blocked name) (supplied : ∀ r, g.get? name = some r → g.Supplies r) :
    ∃ culprit, g.Reaches [name] culprit ∧ g.substate? culprit = some .startFailed := by
  induction blocked with
  | unavailable found able edge missing => exact absurd (isUnavailable_iff.1 missing) (supplied _ found _ edge)
  | failed found able edge broken =>
    obtain ⟨s, found', -⟩ := substate?_eq_some_iff.1 broken
    exact ⟨_, reaches_dependency found edge (mem_keys_of_get? found'), broken⟩
  | @chain name dependency r found able edge blocked ih =>
    -- The dependency is blocked and in reach, so it is meant to run, and the scan has looked at it.
    obtain ⟨s, found', -, never⟩ := blocked.exists_record
    have sole : ∀ t, g.get? dependency = some t → s = t := fun t found'' => Option.some.inj (found'.symm.trans found'')
    have remove : s.mode ≠ .remove := fun is => supplied r found dependency edge fun t found'' =>
      sole t found'' ▸ Or.inr (Or.inl is)
    have problem : s.substate = .problem := (settled.problem_iff found').2 blocked
    have further : g.Supplies s := anywhere dependency s found' problem never remove
    obtain ⟨culprit, reached, failed⟩ := ih fun t found'' => sole t found'' ▸ further
    exact ⟨culprit, (reaches_dependency found edge (mem_keys_of_get? found')).trans reached, failed⟩

/-- **The verdict on a reachable graph at rest.**  It is stable exactly when the report is empty, and exactly when the
interest leaves no trace.  Then no service of the interest has failed, and each that is blocked leads to a failed
service outside the interest. -/
theorem verify_stable_iff_leavesNoTrace (reachable : g.Reachable) (m : Monitor) (atRest : m.atRest g = true)
    (runtime : RuntimeId) (c : OperationContext) (later : List Graph) :
    let verified := verify m c (g.lookup runtime) (m.await runtime (g :: later)).1
    (verified.outcome = .stable ↔ (diagnose (g.lookup runtime) (m.capture runtime g)).isEmpty = true) ∧
    (verified.outcome = .stable ↔ g.LeavesNoTrace m.interest.toList) ∧
    (verified.outcome = .stable → ∀ name ∈ m.interest, g.substate? name ≠ some .startFailed ∧
      (g.substate? name = some .problem → ∃ culprit, g.Reaches [name] culprit ∧
        g.substate? culprit = some .startFailed ∧ culprit ∉ m.interest)) := by
  intro verified
  have settled := reachable.settled
  have read : verified.outcome = .stable ↔ (diagnose (g.lookup runtime) (m.capture runtime g)).isEmpty = true :=
    verify_stable_iff_isEmpty atRest c later
  have traceless := read.trans (settled.isEmpty_report_iff m runtime)
  refine ⟨read, traceless, fun stable name member => ?_⟩
  obtain ⟨unfailed, supplied, anywhere⟩ := traceless.1 stable
  refine ⟨unfailed name member, fun problem => ?_⟩
  obtain ⟨r, found, is⟩ := substate?_eq_some_iff.1 problem
  have own : ∀ t, g.get? name = some t → g.Supplies t := fun t found' => by
    obtain rfl : r = t := Option.some.inj (found.symm.trans found')
    exact supplied name member r found is
  obtain ⟨culprit, reached, failed⟩ :=
    settled.exists_failed_of_blocked (anywhere ⟨name, member, problem⟩) ((settled.problem_iff found).1 is) own
  exact ⟨culprit, reached, failed, fun touched => unfailed culprit touched failed⟩

/-- A service that failed, and one that it blocks. -/
def shadowed : Graph := .ofList
  [(simpleName "db", ⟨simpleName "db", .active, .startFailed, .empty, .empty, none⟩),
    (simpleName "app", ⟨simpleName "app", .active, .problem, .ofList [simpleName "db"], .empty, none⟩)]

theorem reachable_shadowed : shadowed.Reachable :=
  .restore
    (s := ⟨[⟨simpleName "db", .active, .failed, none, []⟩,
      ⟨simpleName "app", .active, .down, none, [simpleName "db"]⟩]⟩)
    (by cbv)

theorem shadowed_culprit : shadowed.substate? (simpleName "app") = some .problem ∧
    ∃ culprit, shadowed.Reaches [simpleName "app"] culprit ∧ shadowed.substate? culprit = some .startFailed ∧
      culprit ∉ (Monitor.idle.watch (simpleName "app")).interest := by
  have blocked : shadowed.substate? (simpleName "app") = some .problem := by cbv
  obtain ⟨-, -, culprits⟩ := verify_stable_iff_leavesNoTrace reachable_shadowed (.watch .idle (simpleName "app"))
    (by cbv) ⟨0⟩ (.new .default) []
  exact ⟨blocked, (culprits (by cbv) (simpleName "app") (OrderedSet.mem_insert.2 (Or.inr rfl))).2 blocked⟩

/-- **A stable verdict does not say that nothing touched is broken.** -/
theorem stable_though_blocked : ¬ ∀ (g : Graph) (m : Monitor) (runtime : RuntimeId) (c : OperationContext),
    g.Reachable → m.atRest g = true →
    (verify m c (g.lookup runtime) (m.await runtime [g]).1).outcome = .stable →
    ∀ name ∈ m.interest, g.substate? name ≠ some .startFailed ∧ g.substate? name ≠ some .problem := by
  intro claim
  have quiet :=
    claim shadowed (.watch .idle (simpleName "app")) ⟨0⟩ (.new .default) reachable_shadowed (by cbv) (by cbv)
  exact (quiet (simpleName "app") (OrderedSet.mem_insert.2 (Or.inr rfl))).2 (by cbv)

end Graph
end ServiceStability
