import ServiceStability.Monitor
import ServiceStability.Proofs.Changes
/-!
# Proofs.Capture — what a wait returns

A captured snapshot goes into one of two maps, under its own name.  The interest of a monitor names no service twice and
a service is installed under its own name, so the two maps of a capture are the interest itself, cut down to what has
failed and to what is blocked.

- `QuiescenceResult.Keyed`: every snapshot is under its own name.
- `Graph.shown`: the services of some names that are in one sub-state.
- `Monitor.toList_capture`: the two maps of a capture.
-/
namespace ServiceStability
namespace QuiescenceResult

variable {m : OrderedMap ServiceName ServiceSnapshot}

theorem foldl_sort {snapshots : List ServiceSnapshot} {result : QuiescenceResult} :
    snapshots.foldl sort result =
      ⟨(snapshots.filter fun s => s.substate = .startFailed).foldl record result.failed,
        (snapshots.filter fun s => s.substate = .problem).foldl record result.problem⟩ := by
  induction snapshots generalizing result with
  | nil => rfl
  | cons s rest ih =>
    rw [List.foldl_cons, ih]
    cases is : s.substate <;> simp [sort, is]

theorem toList_foldl_record {snapshots : List ServiceSnapshot}
    (distinct : (m.keys ++ snapshots.map (·.name)).Nodup) :
    (snapshots.foldl record m).toList = m.toList ++ snapshots.map fun s => (s.name, s) := by
  have entries : (m.keys ++ (snapshots.map fun s => (s.name, s)).map Prod.fst).Nodup := by
    rw [List.map_map]
    exact distinct
  rw [← OrderedMap.toList_foldl_insert entries, List.foldl_map]
  rfl

theorem toList_partition {snapshots : List ServiceSnapshot} (distinct : (snapshots.map (·.name)).Nodup) :
    (partition snapshots).failed.toList =
        (snapshots.filter fun s => s.substate = .startFailed).map (fun s => (s.name, s)) ∧
      (partition snapshots).problem.toList =
        (snapshots.filter fun s => s.substate = .problem).map (fun s => (s.name, s)) := by
  have part : ∀ keep : ServiceSnapshot → Bool, ((snapshots.filter keep).map (·.name)).Nodup := fun keep =>
    (List.filter_sublist.map _).nodup distinct
  rw [partition, foldl_sort]
  exact ⟨toList_foldl_record (m := .empty) (part _), toList_foldl_record (m := .empty) (part _)⟩

/-- Every snapshot is under its own name. -/
def Keyed (m : OrderedMap ServiceName ServiceSnapshot) : Prop := ∀ entry ∈ m.toList, entry.2.name = entry.1

theorem keyed_empty : Keyed .empty := List.forall_mem_nil _

theorem Keyed.record (keyed : Keyed m) (s : ServiceSnapshot) : Keyed (record m s) := by
  rintro ⟨name, t⟩ member
  rw [← OrderedMap.get?_eq_some_iff, QuiescenceResult.record, OrderedMap.get?_insert] at member
  by_cases same : name = s.name
  · rw [if_pos same] at member
    rw [← Option.some.inj member, same]
  · rw [if_neg same] at member
    exact keyed _ (OrderedMap.get?_eq_some_iff.1 member)

theorem Keyed.foldl_record (keyed : Keyed m) (snapshots : List ServiceSnapshot) :
    Keyed (snapshots.foldl QuiescenceResult.record m) := by
  induction snapshots generalizing m with
  | nil => exact keyed
  | cons s rest ih => exact ih (keyed.record s)

theorem Keyed.names (keyed : Keyed m) : m.values.map (·.name) = m.keys := by
  rw [OrderedMap.values, OrderedMap.keys, List.map_map]
  exact List.map_congr_left keyed

theorem keyed_partition (snapshots : List ServiceSnapshot) :
    Keyed (partition snapshots).failed ∧ Keyed (partition snapshots).problem := by
  rw [partition, foldl_sort]
  exact ⟨keyed_empty.foldl_record _, keyed_empty.foldl_record _⟩

end QuiescenceResult

namespace Graph

variable {g : Graph} {runtime : RuntimeId} {substate : Substate} {names : List ServiceName}

/-- **The services of some names that are in one sub-state**, each with its snapshot. -/
def shown (g : Graph) (runtime : RuntimeId) (substate : Substate) (names : List ServiceName) :
    List (ServiceName × ServiceSnapshot) :=
  (names.filter fun name => g.substate? name = some substate).filterMap fun name =>
    (g.snapshot? runtime name).map (name, ·)

theorem mem_shown {name : ServiceName} {s : ServiceSnapshot} :
    (name, s) ∈ g.shown runtime substate names ↔
      name ∈ names ∧ ∃ r, g.get? name = some r ∧ r.substate = substate ∧ r.snapshot runtime = s := by
  simp only [shown, List.mem_filterMap, List.mem_filter, snapshot?, substate?, decide_eq_true_eq,
    Option.map_eq_some_iff, Prod.mk.injEq]
  constructor
  · rintro ⟨_, ⟨member, r, found, is⟩, _, ⟨r', found', rfl⟩, rfl, rfl⟩
    obtain rfl : r = r' := Option.some.inj (found.symm.trans found')
    exact ⟨member, r, found, is, rfl⟩
  · rintro ⟨member, r, found, is, rfl⟩
    exact ⟨name, ⟨member, r, found, is⟩, _, ⟨r, found, rfl⟩, rfl, rfl⟩

theorem WellNamed.names_snapshots (named : g.WellNamed) :
    (names.filterMap (g.snapshot? runtime)).map (·.name) = names.filter fun name => g.contains name := by
  induction names with
  | nil => rfl
  | cons name rest ih =>
    cases found : g.get? name with
    | none => simp [snapshot?, OrderedMap.contains, found, ih]
    | some r => simp [snapshot?, OrderedMap.contains, found, ih, ServiceRecord.snapshot, (named name r found).1]

theorem WellNamed.filter_snapshots (named : g.WellNamed) :
    ((names.filterMap (g.snapshot? runtime)).filter fun s => s.substate = substate).map (fun s => (s.name, s)) =
      g.shown runtime substate names := by
  unfold shown
  induction names with
  | nil => rfl
  | cons name rest ih =>
    cases found : g.get? name with
    | none => simpa [snapshot?, substate?, found] using ih
    | some r =>
      have own := (named name r found).1
      by_cases is : r.substate = substate
      · simpa [snapshot?, substate?, found, ServiceRecord.snapshot, own, is] using ih
      · simpa [snapshot?, substate?, found, ServiceRecord.snapshot, own, is] using ih

end Graph

namespace Monitor

variable {m : Monitor} {runtime : RuntimeId} {g : Graph}

/-- **The two maps of a capture**: the failed and the blocked services of the interest, in order of registration, each
with its snapshot. -/
theorem toList_capture (named : g.WellNamed) :
    (m.capture runtime g).failed.toList = g.shown runtime .startFailed m.interest.toList ∧
      (m.capture runtime g).problem.toList = g.shown runtime .problem m.interest.toList := by
  have distinct : ((m.interest.toList.filterMap (g.snapshot? runtime)).map (·.name)).Nodup := by
    rw [named.names_snapshots]
    exact m.interest.nodup.filter _
  obtain ⟨failed, problem⟩ := QuiescenceResult.toList_partition distinct
  rw [named.filter_snapshots] at failed problem
  exact ⟨failed, problem⟩

theorem mem_failedServices_capture (named : g.WellNamed) {s : ServiceSnapshot} :
    s ∈ (m.capture runtime g).failedServices ↔
      ∃ name ∈ m.interest, ∃ r, g.get? name = some r ∧ r.substate = .startFailed ∧ r.snapshot runtime = s := by
  rw [QuiescenceResult.failedServices, OrderedMap.values, (toList_capture named).1]
  simp only [List.mem_map, Prod.exists, Graph.mem_shown, exists_eq_right]
  rfl

theorem mem_problemServices_capture (named : g.WellNamed) {s : ServiceSnapshot} :
    s ∈ (m.capture runtime g).problemServices ↔
      ∃ name ∈ m.interest, ∃ r, g.get? name = some r ∧ r.substate = .problem ∧ r.snapshot runtime = s := by
  rw [QuiescenceResult.problemServices, OrderedMap.values, (toList_capture named).2]
  simp only [List.mem_map, Prod.exists, Graph.mem_shown, exists_eq_right]
  rfl

theorem mem_interest_watchAll {names : List ServiceName} {name : ServiceName} :
    name ∈ (idle.watchAll names).interest ↔ name ∈ names := by
  have watched : ∀ m : Monitor, (m.watchAll names).interest = names.foldl OrderedSet.insert m.interest := by
    induction names with
    | nil => exact fun _ => rfl
    | cons first rest ih => exact fun m => ih (m.watch first)
  rw [watched, OrderedSet.mem_foldl_insert]
  simp [idle, OrderedSet.mem_def]

theorem await_of_atRest (rest : m.atRest g = true) (later : List Graph) :
    m.await runtime (g :: later) = (.ok (m.capture runtime g), 0) := by
  rw [await, look_eq_ok_iff.2 ⟨rfl, rest, rfl⟩]

end Monitor
end ServiceStability
