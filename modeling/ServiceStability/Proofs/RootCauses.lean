import ServiceStability.Proofs.Consistency
import ServiceStability.Proofs.Verdict
/-!
# Proofs.RootCauses — a report names what is missing at the root

What blocks a service may lie any number of dependencies away, among services that nobody registered.  The diagnosis
follows no chain: if some registered service is blocked without lacking a dependency itself, it collects what is lacking
anywhere in the runtime.  That reaches the end of every chain.  The one filter on the way is the mode of the services
looked at, and it leaves nothing out: a service not meant to run is itself unavailable to those that depend on it, so it
stands on no chain but as the cause.

- `Graph.BlockedThrough`: a chain of blocked services up to the first that lacks a dependency.
- `DiagnosticReport.Missing`: the names that a report gives as missing.
- `Graph.Settled.missing_iff`: what the report on a capture names, said of the services.
- `Graph.Settled.missing_of_blockedThrough`: it names the lacking dependencies at the end of every chain.
- `Graph.Settled.cause_of_missing`: it names nothing without a cause.
-/
namespace ServiceStability

/-- **The names that a report gives as missing**, in its required section or in its transitive one. -/
def DiagnosticReport.Missing (report : DiagnosticReport) (name : ServiceName) : Prop :=
  name ∈ report.required ∨ ∃ problem, report.transitive = some problem ∧ name ∈ problem.dependencies.toList

namespace Diagnosis

variable {lookup : ServiceLookup} {result : QuiescenceResult} {name : ServiceName}

/-- **Leaving the transitive section out drops no name**: it is left out only if the required section has them all. -/
theorem missing_diagnose_iff : (diagnose lookup result).Missing name ↔
    name ∈ missingRequired result ∨ name ∈ (allMissing lookup (missingTransitive result)).toList := by
  by_cases stable : result.isStable = true
  · obtain ⟨failed, problem⟩ := isStable_iff.1 stable
    rw [diagnose_of_isStable stable, mem_missingRequired, mem_allMissing, missingTransitive, failed, problem]
    simp [DiagnosticReport.Missing, DiagnosticReport.empty, OrderedSet.mem_def]
  · rw [show diagnose lookup result =
      ⟨failures result, missingRequired result, missingLines result, transitive lookup result⟩ from if_neg stable]
    simp only [DiagnosticReport.Missing, transitive]
    split
    · rename_i excused
      have known : name ∈ (allMissing lookup (missingTransitive result)).toList → name ∈ missingRequired result :=
        fun missing => of_decide_eq_true (List.all_eq_true.1 excused name missing)
      refine ⟨?_, fun named => Or.inl (named.elim id known)⟩
      rintro (required | ⟨_, absent, _⟩)
      · exact Or.inl required
      · cases absent
    · simp

end Diagnosis

namespace Graph

open Diagnosis

variable {g : Graph} {m : Monitor} {runtime : RuntimeId} {name dependency source missing : ServiceName}
  {r : ServiceRecord}

/-- **A chain of blocked services** that ends at the first one which lacks a dependency itself. -/
inductive BlockedThrough (g : Graph) : ServiceName → ServiceName → Prop where
  | itself {name : ServiceName} {r : ServiceRecord} (found : g.get? name = some r) (blocked : r.substate = .problem)
      (lacking : r.unavailable.toList ≠ []) : BlockedThrough g name name
  | dependency {name dependency source : ServiceName} {r : ServiceRecord} (found : g.get? name = some r)
      (blocked : r.substate = .problem) (supplied : r.unavailable.toList = []) (edge : dependency ∈ r.dependencies)
      (further : BlockedThrough g dependency source) : BlockedThrough g name source

theorem BlockedThrough.exists_record (chain : g.BlockedThrough name source) :
    ∃ r, g.get? source = some r ∧ r.substate = .problem ∧ r.unavailable.toList ≠ [] := by
  induction chain with
  | itself found blocked lacking => exact ⟨_, found, blocked, lacking⟩
  | dependency _ _ _ _ _ ih => exact ih

/-- The mode of a service does not stop it from running. -/
def Meant (g : Graph) (name : ServiceName) : Prop :=
  ∀ r, g.get? name = some r → r.mode ≠ .never ∧ r.mode ≠ .remove

theorem Settled.meant_of_supplied (settled : g.Settled) (found : g.get? name = some r)
    (supplied : r.unavailable.toList = []) (edge : dependency ∈ r.dependencies) : g.Meant dependency := by
  intro s found'
  have reach := (settled.unavailable_eq_nil_iff found).1 supplied dependency edge
  refine ⟨fun never => reach fun t found'' => ?_, fun remove => reach fun t found'' => ?_⟩
  · obtain rfl : s = t := Option.some.inj (found'.symm.trans found'')
    exact Or.inl never
  · obtain rfl : s = t := Option.some.inj (found'.symm.trans found'')
    exact Or.inr (Or.inl remove)

theorem Settled.meant_source (settled : g.Settled) (chain : g.BlockedThrough name source) (meant : g.Meant name) :
    g.Meant source := by
  induction chain with
  | itself => exact meant
  | dependency found _ supplied edge _ ih => exact ih (settled.meant_of_supplied found supplied edge)

theorem Settled.mem_missingRequired_capture (settled : g.Settled) : missing ∈ missingRequired (m.capture runtime g) ↔
    (missing ∈ m.interest ∧ g.substate? missing = some .startFailed) ∨
      ∃ name ∈ m.interest, ∃ r, g.get? name = some r ∧ r.substate = .problem ∧ missing ∈ r.unavailable := by
  simp only [mem_missingRequired, Monitor.mem_failedServices_capture settled.named,
    Monitor.mem_problemServices_capture settled.named, substate?_eq_some_iff]
  refine or_congr ⟨?_, ?_⟩ ⟨?_, ?_⟩
  · rintro ⟨_, ⟨name, touched, r, found, is, rfl⟩, rfl⟩
    have own : (r.snapshot runtime).name = name := (settled.named name r found).1
    rw [own]
    exact ⟨touched, r, found, is⟩
  · rintro ⟨touched, r, found, is⟩
    exact ⟨_, ⟨missing, touched, r, found, is, rfl⟩, (settled.named missing r found).1⟩
  · rintro ⟨_, ⟨name, touched, r, found, is, rfl⟩, listed⟩
    exact ⟨name, touched, r, found, is, listed⟩
  · rintro ⟨name, touched, r, found, is, listed⟩
    exact ⟨_, ⟨name, touched, r, found, is, rfl⟩, listed⟩

theorem Settled.mem_missingTransitive_capture (settled : g.Settled) {s : ServiceSnapshot} :
    s ∈ missingTransitive (m.capture runtime g) ↔ ∃ name ∈ m.interest, ∃ r, g.get? name = some r ∧
      r.substate = .problem ∧ r.unavailable.toList = [] ∧ r.snapshot runtime = s := by
  rw [missingTransitive, List.mem_filter, Bool.not_eq_true', isDirect_eq_false_iff,
    Monitor.mem_problemServices_capture settled.named]
  constructor
  · rintro ⟨⟨name, touched, r, found, is, rfl⟩, none⟩
    exact ⟨name, touched, r, found, is, none, rfl⟩
  · rintro ⟨name, touched, r, found, is, none, rfl⟩
    exact ⟨⟨name, touched, r, found, is, rfl⟩, none⟩

/-- **What a report on a capture names**, said of the services: those of the interest that failed, what those of the
interest lack that are blocked, and, once one of these lacks nothing, what any blocked service lacks that is meant to
run. -/
theorem Settled.missing_iff (settled : g.Settled) :
    (diagnose (g.lookup runtime) (m.capture runtime g)).Missing missing ↔
      ((missing ∈ m.interest ∧ g.substate? missing = some .startFailed) ∨
        ∃ name ∈ m.interest, ∃ r, g.get? name = some r ∧ r.substate = .problem ∧ missing ∈ r.unavailable) ∨
      (∃ name ∈ m.interest, ∃ r, g.get? name = some r ∧ r.substate = .problem ∧ r.unavailable.toList = []) ∧
        ∃ name r, g.get? name = some r ∧ r.substate = .problem ∧ r.mode ≠ .never ∧ r.mode ≠ .remove ∧
          missing ∈ r.unavailable := by
  rw [missing_diagnose_iff, settled.mem_missingRequired_capture, mem_allMissing]
  refine or_congr_right ⟨?_, ?_⟩
  · rintro ⟨s, scanned, known, answered, t, member, counts, listed⟩
    obtain ⟨name, touched, r, found, is, none, rfl⟩ := settled.mem_missingTransitive_capture.1 scanned
    obtain rfl : g.snapshots runtime = known := Option.some.inj ((lookup_own g runtime).symm.trans answered)
    obtain ⟨other, r', found', rfl⟩ := mem_snapshots_iff.1 member
    obtain ⟨is', mode, mode'⟩ := countsAsSource_iff.1 counts
    exact ⟨⟨name, touched, r, found, is, none⟩, other, r', found', is', mode, mode', listed⟩
  · rintro ⟨⟨name, touched, r, found, is, none⟩, other, r', found', is', mode, mode', listed⟩
    exact ⟨r.snapshot runtime, settled.mem_missingTransitive_capture.2 ⟨name, touched, r, found, is, none, rfl⟩,
      g.snapshots runtime, lookup_own g runtime, r'.snapshot runtime, mem_snapshots_iff.2 ⟨other, r', found', rfl⟩,
      countsAsSource_iff.2 ⟨is', mode, mode'⟩, listed⟩

/-- **What is lacking at the end of a chain is in the report**, once the chain begins at a service of the interest. -/
theorem Settled.missing_of_blockedThrough (settled : g.Settled) (touched : name ∈ m.interest)
    (chain : g.BlockedThrough name source) (found : g.get? source = some r) (listed : missing ∈ r.unavailable) :
    (diagnose (g.lookup runtime) (m.capture runtime g)).Missing missing := by
  rw [settled.missing_iff]
  cases chain with
  | itself found' blocked =>
    obtain rfl := Option.some.inj (found.symm.trans found')
    exact Or.inl (Or.inr ⟨name, touched, r, found, blocked, listed⟩)
  | @dependency _ next _ s found' blocked supplied edge further =>
    -- The first service of the chain lacks nothing, so the runtime is looked through, and the last one is meant to run.
    have meant := settled.meant_source further (settled.meant_of_supplied found' supplied edge)
    obtain ⟨t, found'', problem, -⟩ := further.exists_record
    obtain rfl := Option.some.inj (found.symm.trans found'')
    exact Or.inr ⟨⟨name, touched, s, found', blocked, supplied⟩, source, r, found, problem, (meant r found).1,
      (meant r found).2, listed⟩

/-- **What blocks a service that leads to no failed one is a chain** to a service that lacks a dependency. -/
theorem Settled.exists_source (settled : g.Settled) (blocked : g.Blocked name)
    (unfailed : ∀ other, g.Reaches [name] other → g.substate? other ≠ some .startFailed) :
    ∃ source, g.BlockedThrough name source ∧ g.Reaches [name] source := by
  induction blocked with
  | @unavailable name dependency r found able edge missing =>
    have problem := (settled.problem_iff found).2 (.unavailable found able edge missing)
    have lacking := (settled.unavailable_ne_nil_iff found).2 ⟨dependency, edge, missing⟩
    exact ⟨name, .itself found problem lacking, reaches_self (mem_keys_of_get? found)⟩
  | @failed name dependency r found able edge broken =>
    obtain ⟨s, found', -⟩ := substate?_eq_some_iff.1 broken
    exact absurd broken (unfailed dependency (reaches_dependency found edge (mem_keys_of_get? found')))
  | @chain name dependency r found able edge further ih =>
    have problem := (settled.problem_iff found).2 (.chain found able edge further)
    obtain ⟨s, found', -⟩ := further.exists_record
    have reached := reaches_dependency found edge (mem_keys_of_get? found')
    obtain ⟨source, chain, onward⟩ := ih fun other reaches => unfailed other (reached.trans reaches)
    by_cases supplied : r.unavailable.toList = []
    · exact ⟨source, .dependency found problem supplied edge chain, reached.trans onward⟩
    · exact ⟨name, .itself found problem supplied, reaches_self (mem_keys_of_get? found)⟩

/-- **Nothing is in the report without a cause.** -/
theorem Settled.cause_of_missing (settled : g.Settled)
    (named : (diagnose (g.lookup runtime) (m.capture runtime g)).Missing missing) :
    (missing ∈ m.interest ∧ g.substate? missing = some .startFailed) ∨ g.LeftOut missing := by
  have left : ∀ {name r}, g.get? name = some r → missing ∈ r.unavailable → g.LeftOut missing := fun found listed =>
    settled.isUnavailable_iff_leftOut.1 ((settled.mem_unavailable_iff found).1 listed).2
  rcases settled.missing_iff.1 named with (failed | ⟨_, -, r, found, -, listed⟩) | ⟨-, _, r, found, -, -, -, listed⟩
  · exact Or.inl failed
  · exact Or.inr (left found listed)
  · exact Or.inr (left found listed)

/-- **A report names every root cause and nothing else.**  A wait that meets a reachable graph at rest ends there, and
the report on its result, looked up in the same graph, names

- what is lacking at the end of every chain of blocked services that begins in the interest,
- so for every blocked service of the interest that leads to no failed one something that it, or a service that it
  leads to, lacks,
- and otherwise only failed services of the interest and names that stand for nothing that could come up. -/
theorem report_names_root_causes (reachable : g.Reachable) (m : Monitor) (atRest : m.atRest g = true)
    (runtime : RuntimeId) (later : List Graph) :
    ∃ result, (m.await runtime (g :: later)).1 = .ok result ∧
      let report := diagnose (g.lookup runtime) result
      (∀ name ∈ m.interest, ∀ source r, g.BlockedThrough name source → g.get? source = some r →
        ∀ missing ∈ r.unavailable, report.Missing missing) ∧
      (∀ name ∈ m.interest, g.substate? name = some .problem →
        (∀ other, g.Reaches [name] other → g.substate? other ≠ some .startFailed) →
        ∃ source r, g.Reaches [name] source ∧ g.get? source = some r ∧
          ∃ missing ∈ r.unavailable, report.Missing missing) ∧
      ∀ missing, report.Missing missing →
        (missing ∈ m.interest ∧ g.substate? missing = some .startFailed) ∨ g.LeftOut missing := by
  have settled := reachable.settled
  refine ⟨m.capture runtime g, by rw [Monitor.await_of_atRest atRest], ?_, ?_, ?_⟩
  · intro name touched source r chain found missing listed
    exact settled.missing_of_blockedThrough touched chain found listed
  · intro name touched problem unfailed
    obtain ⟨source, chain, reached⟩ := settled.exists_source (settled.substate?_eq_problem_iff.1 problem) unfailed
    obtain ⟨r, found, -, lacking⟩ := chain.exists_record
    obtain ⟨missing, listed⟩ := List.exists_mem_of_ne_nil _ lacking
    exact ⟨source, r, reached, found, missing, listed,
      settled.missing_of_blockedThrough touched chain found listed⟩
  · intro missing named
    exact settled.cause_of_missing named

/-- A service that is blocked two dependencies away by one that is not installed. -/
def bereft : Graph := .ofList
  [(simpleName "app", ⟨simpleName "app", .active, .problem, .ofList [simpleName "mid"], .empty, none⟩),
    (simpleName "mid", ⟨simpleName "mid", .active, .problem, .ofList [simpleName "db"], .ofList [simpleName "db"],
      none⟩)]

theorem reachable_bereft : bereft.Reachable :=
  .restore
    (s := ⟨[⟨simpleName "app", .active, .down, none, [simpleName "mid"]⟩,
      ⟨simpleName "mid", .active, .down, none, [simpleName "db"]⟩]⟩)
    (by cbv)

theorem root_cause_of_bereft : bereft.Reachable ∧ (Monitor.idle.watch (simpleName "app")).atRest bereft = true ∧
    ∃ result, ((Monitor.idle.watch (simpleName "app")).await ⟨0⟩ [bereft]).1 = .ok result ∧
      (diagnose (bereft.lookup ⟨0⟩) result).Missing (simpleName "db") := by
  have rest : (Monitor.idle.watch (simpleName "app")).atRest bereft = true := by cbv
  obtain ⟨result, ended, chains, -, -⟩ := report_names_root_causes reachable_bereft _ rest ⟨0⟩ []
  have chain : bereft.BlockedThrough (simpleName "app") (simpleName "mid") :=
    .dependency (by rfl) rfl rfl (OrderedSet.mem_ofList.2 (List.mem_singleton.2 rfl))
      (.itself (by rfl) rfl (by decide))
  exact ⟨reachable_bereft, rest, result, ended,
    chains _ (OrderedSet.mem_insert.2 (Or.inr rfl)) _ _ chain (by rfl) _
      (OrderedSet.mem_ofList.2 (List.mem_singleton.2 rfl))⟩

end Graph
end ServiceStability
