import ServiceStability.Proofs.BlockingChains
import ServiceStability.Proofs.Capture
import ServiceStability.Proofs.Consistency
/-!
# Proofs.Overlap — services that count as failed and as blocked

A result that is put together from its two sets is refused if the sets share a name.  Sorting snapshots into the two
sets makes no such check: each snapshot goes where its own sub-state sends it, so a name that comes up in both
sub-states ends up in both sets.  A wait does not meet this, because its snapshots are of distinct services.

- `QuiescenceResult.Apart`: no name is in both sets.
- `QuiescenceResult.new_eq_ok_iff`: what the check lets through.
- `QuiescenceResult.overlap_exactly_when_sorted_twice`: where an overlap comes from.
-/
namespace ServiceStability
namespace QuiescenceResult

open ServiceStability.Graph (attempt faltering simpleName)

variable {snapshots failed problem : List ServiceSnapshot} {name : ServiceName} {result : QuiescenceResult}

/-- **No name is both failed and blocked.** -/
def Apart (result : QuiescenceResult) : Prop := ∀ name ∈ result.failed.keys, name ∉ result.problem.keys

theorem mem_keys_foldl_record {m : OrderedMap ServiceName ServiceSnapshot} :
    name ∈ (snapshots.foldl record m).keys ↔ name ∈ m.keys ∨ ∃ s ∈ snapshots, s.name = name := by
  have entries : snapshots.foldl record m =
      (snapshots.map fun s => (s.name, s)).foldl (fun m entry => m.insert entry.1 entry.2) m := by
    rw [List.foldl_map]
    rfl
  rw [entries, OrderedMap.mem_keys_foldl_insert, List.map_map, List.mem_map]
  rfl

/-- The names of recorded snapshots. -/
theorem mem_keys_recorded : name ∈ (snapshots.foldl record .empty).keys ↔ ∃ s ∈ snapshots, s.name = name := by
  rw [mem_keys_foldl_record]
  exact or_iff_right nofun

theorem mem_failed_partition :
    name ∈ (partition snapshots).failed.keys ↔ ∃ s ∈ snapshots, s.name = name ∧ s.substate = .startFailed := by
  rw [partition, foldl_sort, stable, mem_keys_recorded]
  simp only [List.mem_filter, decide_eq_true_eq, and_assoc, and_comm]

theorem mem_problem_partition :
    name ∈ (partition snapshots).problem.keys ↔ ∃ s ∈ snapshots, s.name = name ∧ s.substate = .problem := by
  rw [partition, foldl_sort, stable, mem_keys_recorded]
  simp only [List.mem_filter, decide_eq_true_eq, and_assoc, and_comm]

/-- The check stands in front of every blocked service that is recorded. -/
theorem recordProblems_eq_ok_iff {taken m done : OrderedMap ServiceName ServiceSnapshot} :
    recordProblems taken m problem = .ok done ↔
      (∀ s ∈ problem, s.name ∉ taken.keys) ∧ problem.foldl record m = done := by
  induction problem generalizing m with
  | nil => simp [recordProblems]
  | cons s rest ih =>
    rw [recordProblems, List.forall_mem_cons, List.foldl_cons]
    split
    · rename_i present
      exact ⟨nofun, fun ⟨⟨absent, _⟩, _⟩ => absurd (OrderedMap.contains_iff.1 present) absent⟩
    · rename_i absent
      rw [ih, and_iff_right fun present => absent (OrderedMap.contains_iff.2 present)]

/-- **What the check lets through**: two lists without a common name, each recorded by itself. -/
theorem new_eq_ok_iff : new failed problem = .ok result ↔
    (∀ s ∈ failed, ∀ t ∈ problem, s.name ≠ t.name) ∧
      (⟨failed.foldl record .empty, problem.foldl record .empty⟩ : QuiescenceResult) = result := by
  have distinct : (∀ t ∈ problem, t.name ∉ (failed.foldl record .empty).keys) ↔
      ∀ s ∈ failed, ∀ t ∈ problem, s.name ≠ t.name := by
    simp only [mem_keys_recorded, not_exists, not_and]
    exact ⟨fun apart s member t member' => apart t member' s member,
      fun apart t member' s member => apart s member t member'⟩
  rw [← distinct, new]
  cases done : recordProblems (failed.foldl record .empty) .empty problem with
  | error overlap =>
    refine ⟨nofun, fun ⟨apart, _⟩ => ?_⟩
    rw [recordProblems_eq_ok_iff.2 ⟨apart, rfl⟩] at done
    cases done
  | ok m =>
    obtain ⟨apart, rfl⟩ := recordProblems_eq_ok_iff.1 done
    rw [and_iff_right apart]
    exact ⟨Except.ok.inj, congrArg Except.ok⟩

theorem apart_of_new (done : new failed problem = .ok result) : result.Apart := by
  obtain ⟨distinct, rfl⟩ := new_eq_ok_iff.1 done
  intro name member member'
  obtain ⟨s, listed, rfl⟩ := mem_keys_recorded.1 member
  obtain ⟨t, listed', same⟩ := mem_keys_recorded.1 member'
  exact distinct s listed t listed' same.symm

/-- **Sorting does what the check would let through**, and overlaps where the check would refuse. -/
theorem new_partition_iff :
    new (snapshots.filter fun s => s.substate = .startFailed) (snapshots.filter fun s => s.substate = .problem) =
      .ok (partition snapshots) ↔ (partition snapshots).Apart := by
  refine ⟨apart_of_new, fun apart => new_eq_ok_iff.2 ⟨fun s member t member' same => ?_, ?_⟩⟩
  · obtain ⟨listed, broken⟩ := List.mem_filter.1 member
    obtain ⟨listed', blocked⟩ := List.mem_filter.1 member'
    exact apart s.name (mem_failed_partition.2 ⟨s, listed, rfl, of_decide_eq_true broken⟩)
      (mem_problem_partition.2 ⟨t, listed', same.symm, of_decide_eq_true blocked⟩)
  · rw [partition, foldl_sort]
    rfl

/-- Snapshots of distinct services do not overlap. -/
theorem apart_partition (distinct : (snapshots.map (·.name)).Nodup) : (partition snapshots).Apart := by
  intro name member member'
  obtain ⟨s, listed, own, broken⟩ := mem_failed_partition.1 member
  obtain ⟨t, listed', own', blocked⟩ := mem_problem_partition.1 member'
  obtain rfl : s = t := List.inj_on_of_nodup_map distinct listed listed' (own.trans own'.symm)
  rw [broken] at blocked
  cases blocked

/-- **Where an overlap comes from.**  The stable result has none, and neither has a result that is put together from two
sets; the sets are refused exactly if they share a name.  Sorted snapshots put a name into both sets exactly if one
snapshot of that name has failed and another one is blocked, and then the check would have refused what was sorted.
What a wait on a reachable graph captures never overlaps. -/
theorem overlap_exactly_when_sorted_twice (failed problem snapshots : List ServiceSnapshot) (name : ServiceName) :
    stable.Apart ∧
    (∀ result, new failed problem = .ok result → result.Apart) ∧
    ((∃ result, new failed problem = .ok result) ↔ ∀ s ∈ failed, ∀ t ∈ problem, s.name ≠ t.name) ∧
    (name ∈ (partition snapshots).failed.keys ∧ name ∈ (partition snapshots).problem.keys ↔
      (∃ s ∈ snapshots, s.name = name ∧ s.substate = .startFailed) ∧
        ∃ t ∈ snapshots, t.name = name ∧ t.substate = .problem) ∧
    ((partition snapshots).Apart ↔
      new (snapshots.filter fun s => s.substate = .startFailed) (snapshots.filter fun s => s.substate = .problem) =
        .ok (partition snapshots)) ∧
    ∀ (g : Graph) (m : Monitor) (runtime : RuntimeId), g.Reachable → (m.capture runtime g).Apart := by
  refine ⟨nofun, fun _ => apart_of_new, ?_, ?_, new_partition_iff.symm, fun g m runtime reachable => apart_partition ?_⟩
  · simp only [new_eq_ok_iff, exists_and_left, exists_eq', and_true]
  · rw [mem_failed_partition, mem_problem_partition]
  · rw [reachable.settled.named.names_snapshots]
    exact m.interest.nodup.filter _

/-- Two looks at one service: its start has failed, and then it is blocked. -/
def failedThenBlocked : List ServiceSnapshot :=
  [(ServiceSnapshot.fresh (simpleName "db") ⟨0⟩).withStartFailure ⟨"io".toList, []⟩,
    (ServiceSnapshot.fresh (simpleName "db") ⟨0⟩).withSubstate .problem]

theorem failed_and_blocked_of_both_looks :
    (∃ result, new (failedThenBlocked.take 1) [] = .ok result ∧ result.Apart) ∧
    (∃ s ∈ failedThenBlocked, s.name = simpleName "db" ∧ s.substate = .startFailed) ∧
    (∃ t ∈ failedThenBlocked, t.name = simpleName "db" ∧ t.substate = .problem) ∧
    simpleName "db" ∈ (partition failedThenBlocked).failed.keys ∧
    simpleName "db" ∈ (partition failedThenBlocked).problem.keys ∧
    (faltering.foldl attempt .empty).Reachable ∧
    ((Monitor.idle.watchAll [simpleName "db", simpleName "app"]).capture ⟨0⟩
      (faltering.foldl attempt .empty)).Apart := by
  obtain ⟨-, checked, -, both, -, captured⟩ :=
    overlap_exactly_when_sorted_twice (failedThenBlocked.take 1) [] failedThenBlocked (simpleName "db")
  have passes : new (failedThenBlocked.take 1) [] = .ok (partition (failedThenBlocked.take 1)) := by rfl
  have failed : ∃ s ∈ failedThenBlocked, s.name = simpleName "db" ∧ s.substate = .startFailed :=
    ⟨_, List.mem_cons_self .., rfl, rfl⟩
  have blocked : ∃ t ∈ failedThenBlocked, t.name = simpleName "db" ∧ t.substate = .problem :=
    ⟨_, List.mem_cons_of_mem _ (List.mem_cons_self ..), rfl, rfl⟩
  obtain ⟨inFailed, inProblem⟩ := both.2 ⟨failed, blocked⟩
  have reachable : (faltering.foldl attempt .empty).Reachable := Graph.Reachable.new.foldl_attempt faltering
  exact ⟨⟨_, passes, checked _ passes⟩, failed, blocked, inFailed, inProblem, reachable, captured _ _ _ reachable⟩

/-- **Sorted snapshots can overlap**: not every result keeps its two sets apart. -/
theorem sorted_twice : ¬ ∀ snapshots, (partition snapshots).Apart := by
  intro apart
  have failed : simpleName "db" ∈ (partition failedThenBlocked).failed.keys := by decide
  exact apart failedThenBlocked (simpleName "db") failed (by decide)

end QuiescenceResult
end ServiceStability
