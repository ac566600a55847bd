import ServiceStability.Inquiry
import ServiceStability.Proofs.NameOrder
import ServiceStability.Proofs.Overlap
import ServiceStability.Proofs.WiderInterest
/-!
# Proofs.Classification — every service in one place, every runtime asked for once

A result holds failed services and blocked ones, and a report has a place for each: failed services have an entry,
blocked ones that lack a dependency have a line, and the others stand behind the transitive section.  Whether that
section is there depends on what a registry tells about the runtimes of these others, in answer to one question for
each runtime.

- `QuiescenceResult.Built`: how a result is made.
- `Diagnosis.MissingAround`: what the answers of a registry name as missing.
- `Diagnosis.Classifies`: what a report says, section by section.
- `Diagnosis.every_service_once_every_runtime_once`: a diagnosis with any registry.
-/
namespace ServiceStability
namespace QuiescenceResult

variable {result : QuiescenceResult}

/-- **Every result is made in one of three ways.** -/
inductive Built : QuiescenceResult → Prop
  | stable : Built stable
  | new {failed problem : List ServiceSnapshot} {result : QuiescenceResult} :
      new failed problem = .ok result → Built result
  | partition (snapshots : List ServiceSnapshot) : Built (partition snapshots)

theorem Built.keyed (built : result.Built) : Keyed result.failed ∧ Keyed result.problem := by
  cases built with
  | stable => exact ⟨keyed_empty, keyed_empty⟩
  | new done =>
    obtain ⟨-, rfl⟩ := new_eq_ok_iff.1 done
    exact ⟨keyed_empty.foldl_record _, keyed_empty.foldl_record _⟩
  | partition snapshots => exact keyed_partition snapshots

theorem Built.names_failedServices (built : result.Built) :
    result.failedServices.map (·.name) = result.failed.keys := built.keyed.1.names

theorem Built.names_problemServices (built : result.Built) :
    result.problemServices.map (·.name) = result.problem.keys := built.keyed.2.names

theorem Apart.nodup_names (apart : result.Apart) : (result.failed.keys ++ result.problem.keys).Nodup := by
  refine List.nodup_append.2 ⟨result.failed.keys_nodup, result.problem.keys_nodup, ?_⟩
  rintro name failed _ problem rfl
  exact apart name failed problem

end QuiescenceResult

namespace Diagnosis

open ServiceStability.Graph (simpleName)

variable {σ : Type} {lookup : ServiceLookup} {result : QuiescenceResult} {name : ServiceName} {log : List Inquiry}
  {found : NameSet}

theorem failureText_eq (s : ServiceSnapshot) : failureText s = (s.startFailure.map fun failure =>
    "\n    Caused by: ".toList.intercalate (failure.message :: failure.causes)).getD [] := by
  unfold failureText
  cases s.startFailure with
  | none => rfl
  | some failure => exact failure.describe_eq_intercalate

theorem isDirect_eq : isDirect = fun s => decide (s.unavailable.toList ≠ []) := by
  funext s
  rw [Bool.eq_iff_iff, decide_eq_true_eq, ne_eq, ← isDirect_eq_false_iff, Bool.not_eq_false]

theorem missingTransitive_eq :
    missingTransitive result = result.problemServices.filter fun s => s.unavailable.toList = [] := by
  rw [missingTransitive, isDirect_eq]
  simp only [ne_eq, decide_not, Bool.not_not]

theorem mem_missingTransitive {s : ServiceSnapshot} :
    s ∈ missingTransitive result ↔ s ∈ result.problemServices ∧ s.unavailable.toList = [] := by
  rw [missingTransitive_eq, List.mem_filter, decide_eq_true_eq]

theorem missingTransitive_of_isStable (stable : result.isStable = true) : missingTransitive result = [] := by
  rw [missingTransitive, (isStable_iff.1 stable).2]
  rfl

/-- A stable result has no runtime to scan. -/
theorem runtimesToScan_eq : runtimesToScan result = runtimesOf (missingTransitive result) := by
  unfold runtimesToScan
  split
  · rename_i stable
    rw [missingTransitive_of_isStable stable]
    rfl
  · rfl

theorem transitive_diagnose :
    (diagnose lookup result).transitive = transitiveOf result (allMissing lookup (missingTransitive result)) := by
  unfold diagnose
  split
  · rename_i stable
    rw [missingTransitive_of_isStable stable]
    rfl
  · exact transitive_eq

theorem isSome_transitiveOf_iff :
    (transitiveOf result found).isSome ↔ ∃ name ∈ found.toList, name ∉ missingRequired result := by
  unfold transitiveOf
  by_cases more : ∃ name ∈ found.toList, name ∉ missingRequired result
  · rw [if_pos (by simpa using more)]
    exact iff_of_true rfl more
  · rw [if_neg (by simpa using more)]
    exact iff_of_false nofun more

theorem eq_of_transitiveOf {problem : TransitiveProblem} (present : transitiveOf result found = some problem) :
    problem = ⟨.ofList ((missingTransitive result).map (·.name)), found⟩ := by
  unfold transitiveOf at present
  split at present
  · exact (Option.some.inj present).symm
  · cases present

/-- **A name that is missing around the services that are blocked by something further away.**  A blocked service that
is meant to run lacks it, in a runtime that one of the former is in and that was known when it was asked for. -/
def MissingAround (result : QuiescenceResult) (log : List Inquiry) (name : ServiceName) : Prop :=
  ∃ host ∈ result.problemServices, host.unavailable.toList = [] ∧ ∃ known, (host.runtime, some known) ∈ log ∧
    ∃ s ∈ known, s.substate = .problem ∧ s.mode ≠ .never ∧ s.mode ≠ .remove ∧ name ∈ s.unavailable

theorem mem_allMissing_iff_missingAround (asked : log.map Prod.fst = runtimesToScan result)
    (agree : ∀ inquiry ∈ log, lookup inquiry.1 = inquiry.2) :
    name ∈ (allMissing lookup (missingTransitive result)).toList ↔ MissingAround result log name := by
  have answered {host : ServiceSnapshot} (indirect : host ∈ missingTransitive result)
      {answer : Option (List ServiceSnapshot)} : lookup host.runtime = answer ↔ (host.runtime, answer) ∈ log := by
    have scanned : host.runtime ∈ log.map Prod.fst := by
      rw [asked, runtimesToScan_eq]
      exact mem_runtimesOf.2 ⟨host, indirect, rfl⟩
    obtain ⟨⟨runtime, given⟩, member, rfl⟩ := List.mem_map.1 scanned
    constructor
    · rintro rfl
      rw [agree _ member]
      exact member
    · exact agree _
  simp only [mem_allMissing, MissingAround, countsAsSource_iff, and_assoc]
  constructor
  · rintro ⟨host, indirect, known, told, lacking⟩
    obtain ⟨blocked, supplied⟩ := mem_missingTransitive.1 indirect
    exact ⟨host, blocked, supplied, known, (answered indirect).1 told, lacking⟩
  · rintro ⟨host, blocked, supplied, known, told, lacking⟩
    have indirect := mem_missingTransitive.2 ⟨blocked, supplied⟩
    exact ⟨host, indirect, known, (answered indirect).2 told, lacking⟩

/-- **A report with every service in its place**, given what a registry was asked and answered. -/
structure Classifies (result : QuiescenceResult) (log : List Inquiry) (report : DiagnosticReport) : Prop where
  /-- Every failed service, with the chain of causes of its start failure if it has one. -/
  failed : report.failed.toList = result.failedServices.map fun s => (s.name, (s.startFailure.map fun failure =>
    "\n    Caused by: ".toList.intercalate (failure.message :: failure.causes)).getD [])
  /-- A line for every blocked service that lacks a dependency. -/
  lines : report.lines = (result.problemServices.filter fun s => s.unavailable.toList ≠ []).map missingLine
  /-- The failed services and what the blocked ones lack, each at its first occurrence. -/
  required : report.required.toList =
    (result.failedServices.map (·.name) ++ result.problemServices.flatMap (·.unavailable.toList)).eraseDups
  present : report.transitive.isSome ↔ ∃ name, MissingAround result log name ∧ name ∉ report.required
  dependencies : ∀ problem, report.transitive = some problem → ∀ name,
    name ∈ problem.dependencies.toList ↔ MissingAround result log name
  dependents : ∀ problem, report.transitive = some problem → ∀ name,
    name ∈ problem.dependents.toList ↔ ∃ s ∈ result.problemServices, s.unavailable.toList = [] ∧ s.name = name
  ascending : ∀ problem, report.transitive = some problem → ∀ names ∈ [problem.dependents, problem.dependencies],
    names.toList.Pairwise fun a b => compare (Text.bytes a.canonical) (Text.bytes b.canonical) = .lt

theorem classifies_diagnose (built : result.Built) (asked : log.map Prod.fst = runtimesToScan result)
    (agree : ∀ inquiry ∈ log, lookup inquiry.1 = inquiry.2) : Classifies result log (diagnose lookup result) := by
  obtain ⟨failed, required, lines⟩ := @sections_diagnose lookup result
  constructor
  case failed =>
    have distinct : (result.failedServices.map (·.name)).Nodup := by
      rw [built.names_failedServices]
      exact result.failed.keys_nodup
    rw [failed, toList_failures distinct]
    exact List.map_congr_left fun s _ => congrArg (s.name, ·) (failureText_eq s)
  case lines =>
    rw [lines, missingLines, isDirect_eq]
  case required => rw [required, missingRequired, OrderedSet.toList_ofList_eq_eraseDups]
  case present =>
    rw [transitive_diagnose, isSome_transitiveOf_iff, required]
    simp only [mem_allMissing_iff_missingAround asked agree]
  case dependencies =>
    intro problem present name
    rw [eq_of_transitiveOf (transitive_diagnose.symm.trans present), mem_allMissing_iff_missingAround asked agree]
  case dependents =>
    intro problem present name
    rw [eq_of_transitiveOf (transitive_diagnose.symm.trans present), NameSet.mem_ofList, List.mem_map]
    simp only [mem_missingTransitive, and_assoc]
  case ascending =>
    intro problem present names member
    exact names.ascending_bytes

/-- Answers to distinct questions make a lookup. -/
theorem exists_lookup (distinct : (log.map Prod.fst).Nodup) :
    ∃ lookup : ServiceLookup, ∀ inquiry ∈ log, lookup inquiry.1 = inquiry.2 := by
  refine ⟨fun runtime => ((OrderedMap.ofList log).get? runtime).join, fun inquiry member => ?_⟩
  have given : (OrderedMap.ofList log).get? inquiry.1 = some inquiry.2 := by
    rw [OrderedMap.get?_eq_some_iff, OrderedMap.toList_ofList distinct]
    exact member
  exact congrArg Option.join given

theorem nodup_runtimesToScan : (runtimesToScan result).Nodup := by
  rw [runtimesToScan_eq]
  exact OrderedSet.nodup _

/-- Each blocked service either has a line or stands behind the transitive section. -/
theorem perm_problemServices (result : QuiescenceResult) :
    ((result.problemServices.filter fun s => s.unavailable.toList ≠ []) ++ missingTransitive result).Perm
      result.problemServices := by
  rw [missingTransitive, isDirect_eq]
  exact List.filter_append_perm ..

/-- **Every service has one place, and every runtime is asked for once.**  Diagnose a result that has no name in both
of its sets with any registry, which may change with each question, and remember what it is asked and answers.

- The report has an entry for every failed service, a line for every blocked service that lacks a dependency, the failed
  names and what the blocked services lack, and the transitive section exactly if the answers name more than that.
- The failed services, those with a line and the others are the services of the result, each once.
- The registry is asked for the runtimes of these others, each once, in order of capture.
- To remember changes nothing, and a lookup that gives the same answers leads to the same report. -/
theorem every_service_once_every_runtime_once (R : ServiceRegistry σ) (s : σ) (built : result.Built)
    (apart : result.Apart) :
    let ended := diagnoseAsking R.logged result (s, [])
    let report := ended.1
    let log := ended.2.2
    let direct := result.problemServices.filter fun s => s.unavailable.toList ≠ []
    let indirect := result.problemServices.filter fun s => s.unavailable.toList = []
    let places := report.failed.keys ++ direct.map (·.name) ++ indirect.map (·.name)
    Classifies result log report ∧
    places.Nodup ∧ places.Perm (result.failed.keys ++ result.problem.keys) ∧
    log.map Prod.fst = (indirect.map (·.runtime)).eraseDups ∧ (log.map Prod.fst).Nodup ∧
    (∀ inquiry ∈ log, ∃ t, (R.services inquiry.1 t).1 = inquiry.2) ∧
    diagnoseAsking R result s = (report, ended.2.1) ∧
    ∀ lookup : ServiceLookup, (∀ inquiry ∈ log, lookup inquiry.1 = inquiry.2) → report = diagnose lookup result := by
  intro ended report log direct indirect places
  obtain ⟨asked, answered, same⟩ := diagnoseAsking_eq R result s
  have distinct : (log.map Prod.fst).Nodup := by
    rw [asked]
    exact nodup_runtimesToScan
  obtain ⟨lookup, agree⟩ := exists_lookup distinct
  have classifies : Classifies result log report := by
    rw [show report = diagnose lookup result from same lookup agree]
    exact classifies_diagnose built asked agree
  have failed : report.failed.keys = result.failed.keys := by
    rw [OrderedMap.keys, classifies.failed, List.map_map, ← built.names_failedServices]
    rfl
  have perm : places.Perm (result.failed.keys ++ result.problem.keys) := by
    have blocked := (perm_problemServices result).map (·.name)
    rw [built.names_problemServices, List.map_append, missingTransitive_eq] at blocked
    simp only [places, failed, List.append_assoc]
    exact blocked.append_left _
  refine ⟨classifies, perm.nodup_iff.2 apart.nodup_names, perm, ?_, distinct, answered, ?_, same⟩
  · rw [← OrderedSet.toList_ofList_eq_eraseDups, asked, runtimesToScan_eq, runtimesOf, missingTransitive_eq]
  · exact diagnoseAsking_logged R result s []

/-- A failed service, one that lacks two names, and three that lack none, in two runtimes. -/
def mixed : List ServiceSnapshot :=
  [(ServiceSnapshot.fresh (simpleName "db") ⟨1⟩).withStartFailure ⟨"io".toList, ["disk".toList]⟩,
    (((ServiceSnapshot.fresh (simpleName "app") ⟨1⟩).withUnavailable (simpleName "cache")).withUnavailable
      (simpleName "db")).withSubstate .problem,
    (ServiceSnapshot.fresh (simpleName "web") ⟨1⟩).withSubstate .problem,
    (ServiceSnapshot.fresh (simpleName "mail") ⟨2⟩).withSubstate .problem,
    (ServiceSnapshot.fresh (simpleName "api") ⟨1⟩).withSubstate .problem]

/-- A service that nobody registered. -/
def worker : ServiceSnapshot :=
  ((ServiceSnapshot.fresh (simpleName "worker") ⟨1⟩).withUnavailable (simpleName "queue")).withSubstate .problem

/-- A registry of one runtime, which counts the questions. -/
def counting : ServiceRegistry Nat := ⟨fun runtime n => (if runtime = ⟨1⟩ then some [worker] else none, n + 1)⟩

theorem two_questions_on_mixed :
    let result := QuiescenceResult.partition mixed
    result.Built ∧ result.Apart ∧ (diagnoseAsking counting result 0).2 = 2 ∧
      Classifies result [(⟨1⟩, some [worker]), (⟨2⟩, none)] (diagnoseAsking counting result 0).1 ∧
      (diagnoseAsking counting result 0).1.transitive.isSome := by
  intro result
  have built : result.Built := .partition mixed
  have apart : result.Apart := QuiescenceResult.apart_partition (by decide)
  have log : (diagnoseAsking counting.logged result (0, [])).2.2 = [(⟨1⟩, some [worker]), (⟨2⟩, none)] := by cbv
  obtain ⟨classifies, -, -, -, -, -, unlogged, -⟩ := every_service_once_every_runtime_once counting 0 built apart
  rw [log] at classifies
  rw [unlogged]
  have around : MissingAround result [(⟨1⟩, some [worker]), (⟨2⟩, none)] (simpleName "queue") :=
    ⟨(ServiceSnapshot.fresh (simpleName "web") ⟨1⟩).withSubstate .problem, by decide, rfl, [worker],
      List.mem_cons_self .., worker, List.mem_cons_self .., rfl, by decide, by decide, by decide⟩
  exact ⟨built, apart, by cbv, classifies, classifies.present.2 ⟨simpleName "queue", around, by decide⟩⟩

end Diagnosis
end ServiceStability
