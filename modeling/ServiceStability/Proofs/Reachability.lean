import ServiceStability.Proofs.Restoration
/-!
# Proofs.Reachability — the graphs that callers can bring about

A runtime starts without services or from a snapshot, and changes by operations.  A refused operation changes nothing,
so a reachable graph is the last one that a carried-out operation or the restoration left behind; in each case it has
just been resolved.

- `Graph.Reachable`: such graphs.
- `Graph.Settled`: resolving such a graph once more would change nothing.
- `Graph.Reachable.settled`: the invariant.
-/
namespace ServiceStability
namespace Graph

variable {g h : Graph}

/-- **A graph that callers can bring about.** -/
inductive Reachable : Graph → Prop where
  | new : Reachable .empty
  | restore {s : RuntimeSnapshot} {g : Graph} (restored : s.restore = .ok g) : Reachable g
  | apply {g h : Graph} {operation : Operation} (before : Reachable g) (applied : g.apply operation = .ok h) :
      Reachable h

theorem WellNamed.of_resolution (named : g.WellNamed) (resolution : g.Resolution h) : h.WellNamed := by
  intro name s found
  obtain ⟨r, found', same⟩ := resolution.alike.symm.exists_record found
  obtain ⟨own, stays⟩ := named name r found'
  refine ⟨same.name.trans own, fun removed => stays ?_⟩
  rw [← same.substate.eq_of_not_dormant (by rw [removed]; rfl), removed]

theorem Resolution.self (resolution : g.Resolution h) : h.Resolution h := resolution.of_alike resolution.alike.symm

/-- **A graph at rest from the side of resolution**: every service under its own name, none `removed`, and the list of
what is unavailable and the marks as resolution would make them. -/
structure Settled (g : Graph) : Prop where
  named : g.WellNamed
  resolved : g.Resolution g

theorem WellNamed.settled_resolve (named : g.WellNamed) : g.resolve.Settled where
  named := named.of_resolution (resolution_resolve g)
  resolved := (resolution_resolve g).self

theorem settled_empty : Graph.empty.Settled where
  named := wellNamed_empty
  resolved :=
    { alike := .refl _
      unavailable := fun found => nomatch found
      decided := fun _ _ found => nomatch found }

theorem settled_of_apply {operation : Operation} (settled : g.Settled) (applied : g.apply operation = .ok h) :
    h.Settled := by
  obtain ⟨changed, change, rfl⟩ := apply_eq_ok_iff.1 applied
  exact (wellNamed_of_change settled.named change).settled_resolve

/-- **Every reachable graph is settled.** -/
theorem Reachable.settled (reachable : g.Reachable) : g.Settled := by
  induction reachable with
  | new => exact settled_empty
  | restore restored =>
    obtain ⟨-, h, entries, rfl⟩ := RuntimeSnapshot.restore_eq_ok_iff.1 restored
    exact (RuntimeSnapshot.wellNamed_of_toList entries).settled_resolve
  | apply _ applied ih => exact settled_of_apply ih applied

namespace Settled

variable {name : ServiceName} {r : ServiceRecord}

theorem mem_unavailable_iff (settled : g.Settled) (found : g.get? name = some r) {dependency : ServiceName} :
    dependency ∈ r.unavailable ↔ dependency ∈ r.dependencies ∧ g.isUnavailable dependency = true := by
  rw [settled.resolved.unavailable found, OrderedSet.mem_def, OrderedSet.toList_filter, List.mem_filter,
    OrderedSet.mem_def]

theorem resolve_eq (settled : g.Settled) : g.resolve = g := (resolution_resolve g).unique settled.resolved

/-- **In a settled graph the services in `problem` are the blocked ones.** -/
theorem problem_iff (settled : g.Settled) (found : g.get? name = some r) :
    r.substate = .problem ↔ g.Blocked name := settled.resolved.problem_iff found

theorem substate_ne_new (settled : g.Settled) (found : g.get? name = some r) : r.substate ≠ .new := by
  intro new
  rcases settled.resolved.decided name r found (by rw [new]; rfl) with ⟨is, -⟩ | ⟨is, -⟩ <;> rw [new] at is <;> cases is

end Settled
end Graph
end ServiceStability
