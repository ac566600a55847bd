import ServiceStability.Diagnosis
/-!
# Inquiry — a diagnosis that asks a registry

A registry answers one question at a time, and what it answers next may depend on what it was asked before.  The
diagnosis goes through the runtimes of the services that are blocked by something further away, and takes up what is
missing in each before it asks for the next.

- `ServiceRegistry`: what the diagnosis asks.
- `ServiceRegistry.logged`: the same registry, which remembers what it was asked and what it answered.
- `diagnoseAsking`: the report, and the registry after it.
- `Diagnosis.diagnoseAsking_eq`: with answers that do not change this is `diagnose`.
-/
namespace ServiceStability

/-- **A registry**, with states `σ`: it is asked for all services of one runtime, which it may not know. -/
structure ServiceRegistry (σ : Type) where
  services : RuntimeId → σ → Option (List ServiceSnapshot) × σ

/-- A runtime that was asked for, with the answer. -/
abbrev Inquiry := RuntimeId × Option (List ServiceSnapshot)

namespace ServiceRegistry

variable {σ : Type}

def ofLookup (lookup : ServiceLookup) : ServiceRegistry Unit := ⟨fun runtime _ => (lookup runtime, ())⟩

/-- **The same registry, which remembers what it was asked and what it answered.** -/
def logged (R : ServiceRegistry σ) : ServiceRegistry (σ × List Inquiry) where
  services runtime s :=
    let (answer, after) := R.services runtime s.1
    (answer, after, s.2 ++ [(runtime, answer)])

end ServiceRegistry

namespace Diagnosis

variable {σ : Type}

/-- **Ask for one runtime after another**, and add what is missing there to what was found before. -/
def scan (R : ServiceRegistry σ) : List RuntimeId → NameSet → σ → NameSet × σ
  | [], found, s => (found, s)
  | runtime :: rest, found, s =>
    let (answer, after) := R.services runtime s
    scan R rest (found.insertAll (missingIn answer)) after

/-- The transitive section on what was found: present when it is not all required anyway. -/
def transitiveOf (result : QuiescenceResult) (found : NameSet) : Option TransitiveProblem :=
  if found.toList.any fun name => decide (name ∉ missingRequired result) then
    some ⟨.ofList ((missingTransitive result).map (·.name)), found⟩
  else none

end Diagnosis

open Diagnosis in
/-- **The report on a result, and the registry after it.**  On a stable result nothing is asked. -/
def diagnoseAsking {σ : Type} (R : ServiceRegistry σ) (result : QuiescenceResult) (s : σ) : DiagnosticReport × σ :=
  if result.isStable then (.empty, s)
  else
    let (found, after) := scan R (runtimesOf (missingTransitive result)) .empty s
    (⟨failures result, missingRequired result, missingLines result, transitiveOf result found⟩, after)

namespace Diagnosis

variable {σ : Type} {lookup : ServiceLookup} {result : QuiescenceResult}

theorem transitive_eq :
    transitive lookup result = transitiveOf result (allMissing lookup (missingTransitive result)) := by
  rw [transitive, transitiveOf]
  by_cases excused : ∀ name ∈ (allMissing lookup (missingTransitive result)).toList, name ∈ missingRequired result
  · rw [if_pos (by simpa using excused), if_neg (by simpa using excused)]
  · rw [if_neg (by simpa using excused), if_pos (by simpa using excused)]

/-- To remember the questions changes neither what is found nor the registry. -/
theorem scan_logged (R : ServiceRegistry σ) (runtimes : List RuntimeId) (found : NameSet) (s : σ)
    (log : List Inquiry) :
    scan R runtimes found s =
      ((scan R.logged runtimes found (s, log)).1, (scan R.logged runtimes found (s, log)).2.1) := by
  induction runtimes generalizing found s log with
  | nil => rfl
  | cons runtime rest ih => exact ih ..

/-- **A scan asks for its runtimes in turn**, and finds what is missing in the answers. -/
theorem exists_inquiries (R : ServiceRegistry σ) (runtimes : List RuntimeId) (found : NameSet) (s : σ)
    (log : List Inquiry) :
    ∃ asked : List Inquiry, asked.map Prod.fst = runtimes ∧
      (∀ inquiry ∈ asked, ∃ t, (R.services inquiry.1 t).1 = inquiry.2) ∧
      (scan R.logged runtimes found (s, log)).1 = found.insertAll (asked.flatMap fun inquiry => missingIn inquiry.2) ∧
      (scan R.logged runtimes found (s, log)).2.2 = log ++ asked := by
  induction runtimes generalizing found s log with
  | nil => exact ⟨[], rfl, nofun, rfl, (List.append_nil log).symm⟩
  | cons runtime rest ih =>
    let inquiry : Inquiry := (runtime, (R.services runtime s).1)
    have step : scan R.logged (runtime :: rest) found (s, log) =
        scan R.logged rest (found.insertAll (missingIn inquiry.2)) ((R.services runtime s).2, log ++ [inquiry]) := rfl
    obtain ⟨asked, runtimes, answered, names, remembered⟩ :=
      ih (found.insertAll (missingIn inquiry.2)) (R.services runtime s).2 (log ++ [inquiry])
    refine ⟨inquiry :: asked, congrArg (runtime :: ·) runtimes, ?_, ?_, ?_⟩
    · exact List.forall_mem_cons.2 ⟨⟨s, rfl⟩, answered⟩
    · rw [step, names, List.flatMap_cons, NameSet.insertAll, NameSet.insertAll, NameSet.insertAll, List.foldl_append]
    · rw [step, remembered, List.append_assoc, List.singleton_append]

/-- To remember the questions changes neither the report nor the registry. -/
theorem diagnoseAsking_logged (R : ServiceRegistry σ) (result : QuiescenceResult) (s : σ) (log : List Inquiry) :
    diagnoseAsking R result s =
      ((diagnoseAsking R.logged result (s, log)).1, (diagnoseAsking R.logged result (s, log)).2.1) := by
  unfold diagnoseAsking
  split
  · rfl
  · simp only [scan_logged R _ _ s log]

/-- **The diagnosis asks for the runtimes to scan, and reports what a lookup with the same answers does.** -/
theorem diagnoseAsking_eq (R : ServiceRegistry σ) (result : QuiescenceResult) (s : σ) :
    let ended := diagnoseAsking R.logged result (s, [])
    ended.2.2.map Prod.fst = runtimesToScan result ∧
      (∀ inquiry ∈ ended.2.2, ∃ t, (R.services inquiry.1 t).1 = inquiry.2) ∧
      ∀ lookup : ServiceLookup, (∀ inquiry ∈ ended.2.2, lookup inquiry.1 = inquiry.2) →
        ended.1 = diagnose lookup result := by
  unfold diagnoseAsking runtimesToScan diagnose
  by_cases stable : result.isStable = true
  · simp only [if_pos stable]
    exact ⟨rfl, nofun, fun _ _ => trivial⟩
  · obtain ⟨asked, runtimes, answered, names, remembered⟩ :=
      exists_inquiries R (runtimesOf (missingTransitive result)) .empty s []
    simp only [if_neg stable, names, remembered, List.nil_append]
    refine ⟨runtimes, answered, fun lookup agree => ?_⟩
    have found : NameSet.empty.insertAll (asked.flatMap fun inquiry => missingIn inquiry.2) =
        allMissing lookup (missingTransitive result) := by
      rw [allMissing, ← runtimes, List.flatMap_map, NameSet.ofList]
      refine congrArg _ (congrArg List.flatten (List.map_congr_left fun inquiry member => ?_))
      rw [agree inquiry member]
    rw [found, transitive_eq]

theorem diagnoseAsking_ofLookup : (diagnoseAsking (.ofLookup lookup) result ()).1 = diagnose lookup result := by
  obtain ⟨-, answered, same⟩ := diagnoseAsking_eq (.ofLookup lookup) result ()
  rw [diagnoseAsking_logged _ result () []]
  refine same lookup fun inquiry member => ?_
  obtain ⟨_, answer⟩ := answered inquiry member
  exact answer

end Diagnosis
end ServiceStability
