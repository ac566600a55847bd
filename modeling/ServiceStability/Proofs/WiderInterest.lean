import ServiceStability.Proofs.RootCauses
/-!
# Proofs.WiderInterest — registering more services hides nothing

Take one graph at rest, and verify it twice: for some services, and then for these and further ones.  A section of the
first report may be gone from the second.  The transitive section is left out as soon as the required one has all its
names, and a further service may bring them there.  But no name is lost on the way, and the verdict is failed exactly
when some name is missing.

- `DiagnosticReport.Within`: one report says nothing that the other does not.
- `Diagnosis.isEmpty_diagnose_iff_missing`: the verdict, read off the names.
- `Diagnosis.within_diagnose`: what more failed and blocked services do to a report.
- `Graph.wider_interest_hides_nothing`: what more registered services do to a verification.
-/
namespace ServiceStability

/-- **What one report says is in the other**, be it in another section. -/
structure DiagnosticReport.Within (report wider : DiagnosticReport) : Prop where
  failed : ∀ entry ∈ report.failed.toList, entry ∈ wider.failed.toList
  required : ∀ name ∈ report.required, name ∈ wider.required
  lines : ∀ line ∈ report.lines, line ∈ wider.lines
  missing : ∀ name, report.Missing name → wider.Missing name

namespace Diagnosis

variable {lookup : ServiceLookup} {result result' : QuiescenceResult} {name : ServiceName}

/-- All sections but the transitive one are the same whether or not the result is stable: a stable one has nothing to
put there. -/
theorem sections_diagnose : (diagnose lookup result).failed = failures result ∧
    (diagnose lookup result).required = missingRequired result ∧
    (diagnose lookup result).lines = missingLines result := by
  by_cases stable : result.isStable = true
  · obtain ⟨failed, problem⟩ := isStable_iff.1 stable
    rw [diagnose_of_isStable stable, failures, missingRequired, missingLines, failed, problem]
    exact ⟨rfl, rfl, rfl⟩
  · rw [diagnose, if_neg stable]
    exact ⟨rfl, rfl, rfl⟩

/-- **A report is empty exactly when it gives no name as missing.** -/
theorem isEmpty_diagnose_iff_missing :
    (diagnose lookup result).isEmpty = true ↔ ∀ name, ¬ (diagnose lookup result).Missing name := by
  constructor
  · intro empty name missing
    obtain ⟨-, required, -, silent⟩ := DiagnosticReport.isEmpty_iff.1 empty
    rcases missing with named | ⟨problem, present, -⟩
    · rw [OrderedSet.mem_def, required] at named
      cases named
    · rw [silent] at present
      cases present
  · intro unnamed
    have required : (missingRequired result).toList = [] :=
      List.eq_nil_iff_forall_not_mem.2 fun name named => unnamed name (missing_diagnose_iff.2 (Or.inl named))
    obtain ⟨failed, direct⟩ := toList_missingRequired_eq_nil_iff.1 required
    refine isEmpty_diagnose_iff.2 ⟨failed, direct, List.eq_nil_iff_forall_not_mem.2 fun name found => ?_⟩
    rw [← missingTransitive_of_direct direct] at found
    exact unnamed name (missing_diagnose_iff.2 (Or.inr found))

/-- If no two failed services have one name, each is an entry of its own. -/
theorem toList_failures (distinct : (result.failedServices.map (·.name)).Nodup) :
    (failures result).toList = result.failedServices.map fun s => (s.name, failureText s) := by
  refine OrderedMap.toList_ofList ?_
  rw [List.map_map]
  exact distinct

theorem missingTransitive_subset (problem : result.problemServices ⊆ result'.problemServices) :
    missingTransitive result ⊆ missingTransitive result' := List.filter_subset _ problem

theorem mem_allMissing_of_subset {services services' : List ServiceSnapshot} (more : services ⊆ services')
    (missing : name ∈ (allMissing lookup services).toList) : name ∈ (allMissing lookup services').toList := by
  obtain ⟨s, member, found⟩ := mem_allMissing.1 missing
  exact mem_allMissing.2 ⟨s, more member, found⟩

theorem mem_missingRequired_of_subset (failed : result.failedServices ⊆ result'.failedServices)
    (problem : result.problemServices ⊆ result'.problemServices) (required : name ∈ missingRequired result) :
    name ∈ missingRequired result' := by
  rw [mem_missingRequired] at required ⊢
  rcases required with ⟨s, member, own⟩ | ⟨s, member, listed⟩
  · exact Or.inl ⟨s, failed member, own⟩
  · exact Or.inr ⟨s, problem member, listed⟩

/-- **With more failed and more blocked services a report says no less.** -/
theorem within_diagnose (failed : result.failedServices ⊆ result'.failedServices)
    (problem : result.problemServices ⊆ result'.problemServices)
    (distinct : (result.failedServices.map (·.name)).Nodup)
    (distinct' : (result'.failedServices.map (·.name)).Nodup) :
    (diagnose lookup result).Within (diagnose lookup result') := by
  obtain ⟨entries, names, sentences⟩ := @sections_diagnose lookup result
  obtain ⟨entries', names', sentences'⟩ := @sections_diagnose lookup result'
  constructor
  case failed =>
    rw [entries, entries', toList_failures distinct, toList_failures distinct']
    exact List.map_subset _ failed
  case required =>
    rw [names, names']
    exact fun name => mem_missingRequired_of_subset failed problem
  case lines =>
    rw [sentences, sentences', missingLines, missingLines]
    exact List.map_subset _ (List.filter_subset _ problem)
  case missing =>
    intro name missing
    rw [missing_diagnose_iff] at missing ⊢
    rcases missing with required | found
    · exact Or.inl (mem_missingRequired_of_subset failed problem required)
    · exact Or.inr (mem_allMissing_of_subset (missingTransitive_subset problem) found)

/-- A report that says no less than another is empty only if the other is. -/
theorem isEmpty_of_within (within : (diagnose lookup result).Within (diagnose lookup result'))
    (empty : (diagnose lookup result').isEmpty = true) : (diagnose lookup result).isEmpty = true := by
  rw [isEmpty_diagnose_iff_missing] at empty ⊢
  intro name missing
  exact empty name (within.missing name missing)

end Diagnosis

section
variable {m : Monitor} {c : OperationContext} {lookup : ServiceLookup} {result : QuiescenceResult}

theorem outcome_verify_ok : (verify m c lookup (.ok result)).outcome =
    if (diagnose lookup result).isEmpty then .stable else .failed := rfl

theorem verify_ok_failed_iff :
    (verify m c lookup (.ok result)).outcome = .failed ↔ (diagnose lookup result).isEmpty = false := by
  rw [outcome_verify_ok]
  cases (diagnose lookup result).isEmpty
  · exact iff_of_true rfl rfl
  · exact iff_of_false nofun nofun

/-- The context of a failed verification has the report. -/
theorem report?_of_verify_failed (failed : (verify m c lookup (.ok result)).outcome = .failed) :
    (verify m c lookup (.ok result)).context.report? = some (diagnose lookup result) := by
  have present := verify_ok_failed_iff.1 failed
  simp only [verify, OperationContext.conclude, OperationContext.attach, present]
  cases c.rollbackOnRuntimeFailure <;> rfl

end

namespace Graph

open Diagnosis

variable {g : Graph} {m m' : Monitor} {runtime : RuntimeId}

theorem atRest_of_subset (wider : ∀ name ∈ m.interest, name ∈ m'.interest) (rest : m'.atRest g = true) :
    m.atRest g = true := by
  refine isQuiescent_iff.2 fun name reached => isQuiescent_iff.1 rest name ?_
  exact reached.of_roots fun root member installed => .root (wider root member) installed

theorem shown_subset {names names' : List ServiceName} {substate : Substate} (wider : names ⊆ names') :
    g.shown runtime substate names ⊆ g.shown runtime substate names' :=
  List.filterMap_subset _ (List.filter_subset _ wider)

theorem WellNamed.capture_subset (named : g.WellNamed) (wider : ∀ name ∈ m.interest, name ∈ m'.interest) :
    (m.capture runtime g).failedServices ⊆ (m'.capture runtime g).failedServices ∧
      (m.capture runtime g).problemServices ⊆ (m'.capture runtime g).problemServices := by
  obtain ⟨failed, problem⟩ := @Monitor.toList_capture m runtime g named
  obtain ⟨failed', problem'⟩ := @Monitor.toList_capture m' runtime g named
  rw [QuiescenceResult.failedServices, QuiescenceResult.problemServices, OrderedMap.values, OrderedMap.values, failed,
    problem, QuiescenceResult.failedServices, QuiescenceResult.problemServices, OrderedMap.values, OrderedMap.values,
    failed', problem']
  exact ⟨List.map_subset _ (shown_subset wider), List.map_subset _ (shown_subset wider)⟩

theorem nodup_names_failedServices_capture : ((m.capture runtime g).failedServices.map (·.name)).Nodup := by
  rw [QuiescenceResult.failedServices, Monitor.capture, (QuiescenceResult.keyed_partition _).1.names]
  exact OrderedMap.keys_nodup _

theorem WellNamed.within_capture (named : g.WellNamed) (wider : ∀ name ∈ m.interest, name ∈ m'.interest) :
    (diagnose (g.lookup runtime) (m.capture runtime g)).Within
      (diagnose (g.lookup runtime) (m'.capture runtime g)) := by
  obtain ⟨failed, problem⟩ := @WellNamed.capture_subset g m m' runtime named wider
  exact within_diagnose failed problem nodup_names_failedServices_capture nodup_names_failedServices_capture

/-- **Registering more services hides no problem.**  Take a reachable graph that is at rest for some services, and
register only part of them, in any order and any number of times.  Both waits end, with a report on what they saw.

- If the verdict on the part is failed, so is the verdict on all, and the context of each has its report.
- The failed services, the required names and the lines of the one report are in the other, and so is every name that it
  gives as missing, be it as required or in the transitive section.
- If the part leaves no name out, the verdicts are the same. -/
theorem wider_interest_hides_nothing (reachable : g.Reachable) {touched touched' : List ServiceName}
    (wider : touched ⊆ touched') (rest : (Monitor.idle.watchAll touched').atRest g = true) (runtime : RuntimeId)
    (c c' : OperationContext) (later later' : List Graph) :
    let m := Monitor.idle.watchAll touched
    let m' := Monitor.idle.watchAll touched'
    ∃ result result', (m.await runtime (g :: later)).1 = .ok result ∧
      (m'.await runtime (g :: later')).1 = .ok result' ∧
      let verified := verify m c (g.lookup runtime) (.ok result)
      let verified' := verify m' c' (g.lookup runtime) (.ok result')
      let report := diagnose (g.lookup runtime) result
      let report' := diagnose (g.lookup runtime) result'
      (verified.outcome = .failed → verified'.outcome = .failed ∧
        verified.context.report? = some report ∧ verified'.context.report? = some report') ∧
      report.Within report' ∧
      (touched' ⊆ touched → verified.outcome = verified'.outcome) := by
  intro m m'
  have named := reachable.settled.named
  have fewer : ∀ name ∈ m.interest, name ∈ m'.interest := fun name member =>
    Monitor.mem_interest_watchAll.2 (wider (Monitor.mem_interest_watchAll.1 member))
  have within := @WellNamed.within_capture g m m' runtime named fewer
  refine ⟨m.capture runtime g, m'.capture runtime g, ?_, ?_, ?_⟩
  · rw [Monitor.await_of_atRest (atRest_of_subset fewer rest)]
  · rw [Monitor.await_of_atRest rest]
  intro verified verified' report report'
  refine ⟨fun failed => ?_, within, fun back => ?_⟩
  · have failed' : verified'.outcome = .failed := by
      rw [verify_ok_failed_iff, Bool.eq_false_iff] at failed ⊢
      exact fun empty => failed (isEmpty_of_within within empty)
    exact ⟨failed', report?_of_verify_failed failed, report?_of_verify_failed failed'⟩
  · have as_few : ∀ name ∈ m'.interest, name ∈ m.interest := fun name member =>
      Monitor.mem_interest_watchAll.2 (back (Monitor.mem_interest_watchAll.1 member))
    have within' := @WellNamed.within_capture g m' m runtime named as_few
    have same : report.isEmpty = report'.isEmpty :=
      Bool.eq_iff_iff.2 ⟨isEmpty_of_within within', isEmpty_of_within within⟩
    rw [outcome_verify_ok, outcome_verify_ok, same]

/-- In this graph, registering the service in between as well moves what is missing out of the transitive section. -/
theorem nothing_hidden_of_bereft :
    [simpleName "app"] ⊆ [simpleName "mid", simpleName "app", simpleName "mid"] ∧
    (Monitor.idle.watchAll [simpleName "mid", simpleName "app", simpleName "mid"]).atRest bereft = true ∧
    ∃ result result' : QuiescenceResult, (diagnose (bereft.lookup ⟨0⟩) result).transitive.isSome = true ∧
      (diagnose (bereft.lookup ⟨0⟩) result').transitive = none ∧
      (diagnose (bereft.lookup ⟨0⟩) result').Missing (simpleName "db") := by
  have wider : [simpleName "app"] ⊆ [simpleName "mid", simpleName "app", simpleName "mid"] := by decide
  have rest : (Monitor.idle.watchAll [simpleName "mid", simpleName "app", simpleName "mid"]).atRest bereft = true := by
    cbv
  obtain ⟨result, result', ended, ended', -, within, -⟩ :=
    wider_interest_hides_nothing reachable_bereft wider rest ⟨0⟩ (.new .default) (.new .default) [] []
  have few : result = (Monitor.idle.watchAll [simpleName "app"]).capture ⟨0⟩ bereft :=
    Except.ok.inj (ended.symm.trans (by cbv))
  have many : result' =
      (Monitor.idle.watchAll [simpleName "mid", simpleName "app", simpleName "mid"]).capture ⟨0⟩ bereft :=
    Except.ok.inj (ended'.symm.trans (by cbv))
  have named : (diagnose (bereft.lookup ⟨0⟩) result).Missing (simpleName "db") := by
    rw [few]
    exact Or.inr ⟨⟨.ofList [simpleName "app"], .ofList [simpleName "db"]⟩, by cbv, by decide⟩
  refine ⟨wider, rest, result, result', ?_, ?_, within.missing (simpleName "db") named⟩
  · rw [few]
    cbv
  · rw [many]
    cbv

end Graph
end ServiceStability
