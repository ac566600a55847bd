import ServiceStability.Proofs.BlockingChains
import ServiceStability.Proofs.Reachability
/-!
# Proofs.Consistency — what callers find between two calls

A call either leaves a graph that has just been resolved, or is refused and leaves the graph alone.  So between calls
the marks and the lists of a graph agree with each other, service by service: what a record says can be checked against
the records of its own dependencies, without following a chain.

- `Graph.attempt`: a call.
- `Graph.Fits`: a record that agrees with its graph.
- `Graph.blocked_iff_of_get?`: one step of a chain that blocks a service.
-/
namespace ServiceStability
namespace Graph

variable {g : Graph} {name dependency : ServiceName} {r : ServiceRecord}

/-- **The graph after a call**, carried out or refused. -/
def attempt (g : Graph) (operation : Operation) : Graph :=
  match g.apply operation with
  | .ok h => h
  | .error _ => g

theorem Reachable.attempt (reachable : g.Reachable) (operation : Operation) : (g.attempt operation).Reachable := by
  unfold Graph.attempt
  split
  · rename_i applied
    exact reachable.apply applied
  · exact reachable

theorem Reachable.foldl_attempt (reachable : g.Reachable) (calls : List Operation) :
    (calls.foldl Graph.attempt g).Reachable := by
  induction calls generalizing g with
  | nil => exact reachable
  | cons operation calls ih => exact ih (reachable.attempt operation)

/-- A name that stands for nothing that could come up: not installed, not meant to run, or being removed. -/
def LeftOut (g : Graph) (name : ServiceName) : Prop :=
  ∀ r, g.get? name = some r → r.mode = .never ∨ r.mode = .remove ∨ r.substate = .removing

/-- **A record that agrees with its graph.** -/
structure Fits (g : Graph) (name : ServiceName) (r : ServiceRecord) : Prop where
  own : r.name = name
  settled : r.substate ≠ .new ∧ r.substate ≠ .removed
  inOrder : r.unavailable.toList.Sublist r.dependencies.toList
  exact : ∀ dependency, dependency ∈ r.unavailable ↔ dependency ∈ r.dependencies ∧ g.LeftOut dependency
  unmeant : r.mode = .never → r.substate ≠ .problem
  marked : r.substate = .down ∨ r.substate = .problem → r.mode ≠ .never →
    (r.substate = .problem ↔ r.unavailable.toList ≠ [] ∨ ∃ dependency ∈ r.dependencies,
      g.substate? dependency = some .startFailed ∨ g.substate? dependency = some .problem)

theorem blocked_iff_of_get? (found : g.get? name = some r) : g.Blocked name ↔ canBeBlocked r = true ∧
    ∃ dependency ∈ r.dependencies, g.isUnavailable dependency = true ∨
      g.substate? dependency = some .startFailed ∨ g.Blocked dependency := by
  constructor
  · intro blocked
    have same : ∀ {s}, g.get? name = some s → s = r := fun found' => Option.some.inj (found'.symm.trans found)
    cases blocked with
    | unavailable found' able edge missing => obtain rfl := same found'; exact ⟨able, _, edge, Or.inl missing⟩
    | failed found' able edge broken => obtain rfl := same found'; exact ⟨able, _, edge, Or.inr (Or.inl broken)⟩
    | chain found' able edge further => obtain rfl := same found'; exact ⟨able, _, edge, Or.inr (Or.inr further)⟩
  · rintro ⟨able, dependency, edge, missing | broken | further⟩
    · exact .unavailable found able edge missing
    · exact .failed found able edge broken
    · exact .chain found able edge further

namespace Settled

theorem isUnavailable_iff_leftOut (settled : g.Settled) : g.isUnavailable dependency = true ↔ g.LeftOut dependency := by
  rw [isUnavailable_iff]
  constructor
  · intro out r found
    rcases out r found with never | remove | removing | removed
    · exact Or.inl never
    · exact Or.inr (Or.inl remove)
    · exact Or.inr (Or.inr removing)
    · exact absurd removed (settled.named _ r found).2
  · exact fun out r found => (out r found).imp_right (Or.imp_right Or.inl)

theorem substate?_eq_problem_iff (settled : g.Settled) : g.substate? name = some .problem ↔ g.Blocked name := by
  rw [substate?_eq_some_iff]
  constructor
  · rintro ⟨r, found, problem⟩
    exact (settled.problem_iff found).1 problem
  · intro blocked
    obtain ⟨r, found, -⟩ := blocked.exists_record
    exact ⟨r, found, (settled.problem_iff found).2 blocked⟩

theorem unavailable_ne_nil_iff (settled : g.Settled) (found : g.get? name = some r) :
    r.unavailable.toList ≠ [] ↔ ∃ dependency ∈ r.dependencies, g.isUnavailable dependency = true := by
  rw [ne_eq, List.eq_nil_iff_forall_not_mem, not_forall_not]
  simp only [← OrderedSet.mem_def, settled.mem_unavailable_iff found]

/-- **In a settled graph every record fits.** -/
theorem fits (settled : g.Settled) (found : g.get? name = some r) : g.Fits name r where
  own := (settled.named name r found).1
  settled := ⟨settled.substate_ne_new found, (settled.named name r found).2⟩
  inOrder := by rw [settled.resolved.unavailable found]; exact List.filter_sublist
  exact := fun dependency => by rw [settled.mem_unavailable_iff found, settled.isUnavailable_iff_leftOut]
  unmeant := fun never problem => (((settled.problem_iff found).1 problem).of_get? found).2 never
  marked := fun dormant meant => by
    have able : canBeBlocked r = true :=
      canBeBlocked_iff.2 ⟨Substate.isDormant_iff.2 (Or.inr dormant), meant⟩
    rw [settled.problem_iff found, blocked_iff_of_get? found, and_iff_right able, settled.unavailable_ne_nil_iff found]
    simp only [settled.substate?_eq_problem_iff, and_or_left, exists_or]

end Settled

/-- **Between calls every record fits.**  A runtime starts without services or from a snapshot; whatever calls follow,
whether they are carried out or refused, no two services share a name, and each record agrees with the graph. -/
theorem fits_after_calls {start : Graph} (begins : start = .empty ∨ ∃ s : RuntimeSnapshot, s.restore = .ok start)
    (calls : List Operation) :
    ((calls.foldl attempt start).values.map (·.name)).Nodup ∧
      ∀ name r, (calls.foldl attempt start).get? name = some r → (calls.foldl attempt start).Fits name r := by
  have reachable : start.Reachable := by
    rcases begins with rfl | ⟨s, restored⟩
    · exact .new
    · exact .restore restored
  have settled := (reachable.foldl_attempt calls).settled
  refine ⟨?_, fun name r found => settled.fits found⟩
  have names : (calls.foldl attempt start).values.map (·.name) = (calls.foldl attempt start).keys := by
    rw [OrderedMap.values, OrderedMap.keys, List.map_map]
    refine List.map_congr_left fun entry member => ?_
    exact (settled.named entry.1 entry.2 (OrderedMap.get?_eq_some_iff.2 member)).1
  rw [names]
  exact (calls.foldl attempt start).keys_nodup

/-- A service is installed in front of its dependency, which then fails to start; the last call is refused. -/
def faltering : List Operation :=
  [.install (simpleName "app") .active (.ofList [simpleName "db"]), .install (simpleName "db") .active .empty,
    .start (simpleName "db"), .fail (simpleName "db") ⟨[], []⟩, .start (simpleName "app")]

theorem fits_after_faltering : Graph.empty = .empty ∧
    ∃ r, (faltering.foldl attempt .empty).get? (simpleName "app") = some r ∧ r.substate = .problem ∧
      r.unavailable.toList = [] ∧ ∃ dependency ∈ r.dependencies,
        (faltering.foldl attempt .empty).substate? dependency = some .startFailed ∨
          (faltering.foldl attempt .empty).substate? dependency = some .problem := by
  let r : ServiceRecord :=
    ⟨simpleName "app", .active, .problem, .ofList [simpleName "db"], .empty, none⟩
  have found : (faltering.foldl attempt .empty).get? (simpleName "app") = some r := by cbv
  have fit := (fits_after_calls (Or.inl rfl) faltering).2 (simpleName "app") r found
  exact ⟨rfl, r, found, rfl, rfl, ((fit.marked (Or.inr rfl) (by decide)).1 rfl).resolve_left fun listed => listed rfl⟩

end Graph
end ServiceStability
