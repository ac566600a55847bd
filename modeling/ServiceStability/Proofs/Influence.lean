import ServiceStability.Proofs.Consistency
/-!
# Proofs.Influence — what an operation does to the other services

An operation changes one service, and the others feel it through those of them that depend on it.  A service *hinders*
its dependents when it is unavailable, has failed to start, or is blocked itself.  Take two graphs that agree but for
one service.  If that service hinders in the second graph whenever it does in the first, then whatever else is blocked
in the first is blocked in the second: a chain that leads through the service is cut off there, on cycles too.

- `Graph.Hinders`: what blocks a dependent.
- `Graph.AgreeOff.blocked`: more hindrance, more blocked services.
- `Graph.effect_on_others`: in which direction each operation works.
-/
namespace ServiceStability
namespace Operation

/-- Operations that no other service feels. -/
def IsQuiet : Operation → Prop
  | .start _ | .started _ | .removed _ => True
  | _ => False

/-- Operations that can only free others, on a service in a certain sub-state or on none. -/
def Relieves (current : Option Substate) : Operation → Prop
  | .install _ _ _ => True
  | .retry _ => current = some .startFailed
  | _ => False

/-- Operations that can only block others, on a service in a certain sub-state. -/
def Burdens (current : Option Substate) : Operation → Prop
  | .fail _ _ | .remove _ => True
  | .stop _ => current = some .up
  | _ => False

end Operation

namespace Graph

variable {g h k : Graph} {operation : Operation} {name other dependency : ServiceName} {r s : ServiceRecord}

/-- **A service blocks what depends on it.** -/
def Hinders (g : Graph) (name : ServiceName) : Prop :=
  g.isUnavailable name = true ∨ g.substate? name = some .startFailed ∨ g.Blocked name

/-- Graphs that differ at most in one service. -/
def AgreeOff (g h : Graph) (name : ServiceName) : Prop := ∀ other, other ≠ name → h.get? other = g.get? other

theorem blocked_of_hinders (found : g.get? name = some r) (able : canBeBlocked r = true)
    (edge : dependency ∈ r.dependencies) (hinders : g.Hinders dependency) : g.Blocked name :=
  (blocked_iff_of_get? found).2 ⟨able, dependency, edge, hinders⟩

theorem hinders_of_absent (absent : name ∉ g.keys) : g.Hinders name := by
  refine Or.inl (isUnavailable_iff.2 fun r found => ?_)
  rw [OrderedMap.get?_eq_none_iff.2 absent] at found
  cases found

theorem isUnavailable_of_get? (found : g.get? name = some r) :
    g.isUnavailable name = (r.mode.isInert || r.substate.isLeaving) := by
  rw [isUnavailable, found]

theorem hinders_of_awake (found : g.get? name = some r) (awake : r.substate.isDormant = false) :
    g.Hinders name ↔ (r.mode.isInert || r.substate.isLeaving) = true ∨ r.substate = .startFailed := by
  have free : ¬ g.Blocked name := fun blocked => by
    rw [(blocked.of_get? found).1] at awake
    cases awake
  rw [Hinders, isUnavailable_of_get? found, substate?, found, Option.map_some, Option.some.injEq, or_iff_left free]

theorem Settled.hinders_of_down (settled : g.Settled) (found : g.get? name = some r) (down : r.substate = .down) :
    g.Hinders name ↔ (r.mode.isInert || r.substate.isLeaving) = true := by
  have free : ¬ g.Blocked name := fun blocked => by
    have problem := (settled.problem_iff found).2 blocked
    rw [down] at problem
    cases problem
  rw [Hinders, isUnavailable_of_get? found, substate?, found, Option.map_some, Option.some.injEq, or_iff_left free]
  simp [down]

namespace AgreeOff

theorem symm (agree : g.AgreeOff h name) : h.AgreeOff g name := fun other different => (agree other different).symm

theorem isUnavailable_eq (agree : g.AgreeOff h name) (different : other ≠ name) :
    h.isUnavailable other = g.isUnavailable other := by rw [isUnavailable, isUnavailable, agree other different]

theorem substate?_eq (agree : g.AgreeOff h name) (different : other ≠ name) :
    h.substate? other = g.substate? other := by rw [substate?, substate?, agree other different]

/-- **Where one service hinders more, no other service is freed.**  The induction is along the chain that blocks a
service; where the chain meets the one that differs, what it hinders in the second graph takes the place of the rest. -/
theorem blocked (agree : g.AgreeOff h name) (outweighs : g.Hinders name → h.Hinders name) (blocked : g.Blocked other) :
    other ≠ name → h.Blocked other := by
  have hinders : ∀ {dependency}, g.Hinders dependency → (dependency ≠ name → h.Hinders dependency) →
      h.Hinders dependency := fun {dependency} before otherwise => by
    by_cases same : dependency = name
    · rw [same] at before ⊢
      exact outweighs before
    · exact otherwise same
  induction blocked with
  | unavailable found able edge missing =>
    intro different
    refine blocked_of_hinders ((agree _ different).trans found) able edge (hinders (Or.inl missing) fun apart => ?_)
    exact Or.inl ((agree.isUnavailable_eq apart).trans missing)
  | failed found able edge broken =>
    intro different
    refine blocked_of_hinders ((agree _ different).trans found) able edge
      (hinders (Or.inr (Or.inl broken)) fun apart => ?_)
    exact Or.inr (Or.inl ((agree.substate?_eq apart).trans broken))
  | chain found able edge further ih =>
    intro different
    refine blocked_of_hinders ((agree _ different).trans found) able edge
      (hinders (Or.inr (Or.inr further)) fun apart => ?_)
    exact Or.inr (Or.inr (ih apart))

end AgreeOff

theorem Change.agreeOff (change : g.Change operation k) : g.AgreeOff k operation.name :=
  fun _ different => change.get?_of_ne different

/-- Being down in a settled graph and starting, starting and being up, leaving and being gone: for a dependent these are
the same. -/
theorem Change.hinders_iff_of_quiet (settled : g.Settled) (change : g.Change operation k) (quiet : operation.IsQuiet) :
    k.isUnavailable operation.name = g.isUnavailable operation.name ∧
      (k.Hinders operation.name ↔ g.Hinders operation.name) := by
  cases change with
  | @start name r found allowed ready =>
    have down := Substate.starting_mem_successors_iff.1 allowed
    have written : (g.insert name { r with substate := .starting }).get? name = some { r with substate := .starting } :=
      OrderedMap.get?_insert_self ..
    constructor
    · rw [Operation.name, isUnavailable_of_get? written, isUnavailable_of_get? found, down]
      rfl
    · rw [Operation.name, hinders_of_awake written rfl, settled.hinders_of_down found down, down]
      simp [Substate.isLeaving]
  | @started name r found allowed =>
    have starting := Substate.up_mem_successors_iff.1 allowed
    have written : (g.insert name { r with substate := .up }).get? name = some { r with substate := .up } :=
      OrderedMap.get?_insert_self ..
    constructor
    · rw [Operation.name, isUnavailable_of_get? written, isUnavailable_of_get? found, starting]
      rfl
    · rw [Operation.name, hinders_of_awake written rfl, hinders_of_awake found (by rw [starting]; rfl), starting]
      simp [Substate.isLeaving]
  | @removed name r found allowed =>
    have removing := Substate.removed_mem_successors_iff.1 allowed
    have before : g.isUnavailable name = true := by
      rw [isUnavailable_of_get? found, removing]
      exact Bool.or_true _
    have behind : isUnavailable ((g.insert name { r with substate := .removed }).erase name) name = true :=
      isUnavailable_iff.2 fun s present => by
        rw [OrderedMap.get?_erase_self] at present
        cases present
    exact ⟨behind.trans before.symm, ⟨fun _ => Or.inl before, fun _ => Or.inl behind⟩⟩
  | _ => cases quiet

theorem Change.hinders_of_relieves (change : g.Change operation k)
    (relieves : operation.Relieves (g.substate? operation.name)) : g.Hinders operation.name := by
  cases change with
  | install fresh => exact hinders_of_absent fresh
  | retry => exact Or.inr (Or.inl relieves)
  | _ => exact relieves.elim

/-- What has failed to start, or is leaving, hinders whatever it did before; what is up hinders only by its mode, and
keeps that when it is stopped. -/
theorem Change.hinders_of_burdens (change : g.Change operation k)
    (burdens : operation.Burdens (g.substate? operation.name)) (before : g.Hinders operation.name) :
    k.Hinders operation.name := by
  cases change with
  | @fail name r failure found allowed =>
    exact Or.inr (Or.inl (substate?_eq_some_iff.2 ⟨_, OrderedMap.get?_insert_self .., rfl⟩))
  | @remove name r found allowed =>
    refine Or.inl ((isUnavailable_of_get? (OrderedMap.get?_insert_self ..)).trans ?_)
    rfl
  | @stop name r found allowed =>
    have up : r.substate = .up := by
      obtain ⟨s, found', up⟩ := substate?_eq_some_iff.1 burdens
      rwa [Option.some.inj (found.symm.trans found')]
    have inert : r.mode.isInert = true := by
      have hinders := (hinders_of_awake found (by rw [up]; rfl)).1 before
      simpa [up, Substate.isLeaving] using hinders
    refine Or.inl ((isUnavailable_of_get? (OrderedMap.get?_insert_self ..)).trans ?_)
    rw [inert]
    rfl
  | _ => exact burdens.elim

/-- **In which direction an operation works on the others.**  Let an operation go through on a reachable graph, and take
any other installed service.  It is still installed.  A start, its success and the end of a removal leave its whole
record as it is.  An installation, and a retry after a failed start, do not block it if it was free; a failed start, a
removal, and a stop of what is up do not free it if it was blocked. -/
theorem effect_on_others (reachable : g.Reachable) (applied : g.apply operation = .ok h)
    (different : other ≠ operation.name) (found : g.get? other = some r) :
    ∃ s, h.get? other = some s ∧
      (operation.IsQuiet → s = r) ∧
      (operation.Relieves (g.substate? operation.name) → r.substate = .down → s.substate = .down) ∧
      (operation.Burdens (g.substate? operation.name) → r.substate = .problem → s.substate = .problem) := by
  have settled := reachable.settled
  obtain ⟨k, change, rfl⟩ := apply_eq_ok_iff.1 applied
  have agree := change.agreeOff
  have resolution := resolution_resolve k
  have between : k.get? other = some r := (agree other different).trans found
  obtain ⟨s, found', same⟩ := resolution.alike.exists_record between
  refine ⟨s, found', fun quiet => ?_, fun relieves down => ?_, fun burdens problem => ?_⟩
  · obtain ⟨own, hinders⟩ := change.hinders_iff_of_quiet settled quiet
    have reach : k.isUnavailable = g.isUnavailable := by
      funext dependency
      by_cases is : dependency = operation.name
      · rw [is, own]
      · exact agree.isUnavailable_eq is
    have blocked : k.Blocked other ↔ g.Blocked other :=
      ⟨fun stuck => agree.symm.blocked hinders.1 stuck different, fun stuck => agree.blocked hinders.2 stuck different⟩
    exact resolution.record_eq settled.resolved found' found same.symm reach blocked
  · have dormant : s.substate.isDormant = true := by rw [← same.substate.isDormant_eq, down]; rfl
    refine resolution.down_of_free found' dormant fun blocked => ?_
    have before := agree.symm.blocked (fun _ => change.hinders_of_relieves relieves) blocked different
    have problem := (settled.problem_iff found).2 before
    rw [down] at problem
    cases problem
  · have before := (settled.problem_iff found).1 problem
    exact (resolution.problem_iff found').2 (agree.blocked (change.hinders_of_burdens burdens) before different)

/-- Two services that depend on each other; the start of one has failed, and that blocks the other. -/
def deadlocked : Graph := .ofList
  [(simpleName "app", ⟨simpleName "app", .active, .problem, .ofList [simpleName "db"], .empty, none⟩),
    (simpleName "db", ⟨simpleName "db", .active, .startFailed, .ofList [simpleName "app"], .empty, some ⟨[], []⟩⟩)]

theorem reachable_deadlocked : deadlocked.Reachable :=
  .restore
    (s := ⟨[⟨simpleName "app", .active, .down, none, [simpleName "db"]⟩,
      ⟨simpleName "db", .active, .failed, some ⟨[], []⟩, [simpleName "app"]⟩]⟩)
    (by cbv)

theorem removal_keeps_deadlock : deadlocked.Reachable ∧ ∃ h, deadlocked.apply (.remove (simpleName "db")) = .ok h ∧
    ∃ s, h.get? (simpleName "app") = some s ∧ s.substate = .problem := by
  have carried : ∃ h, deadlocked.apply (.remove (simpleName "db")) = .ok h := ⟨_, rfl⟩
  obtain ⟨h, applied⟩ := carried
  have different : simpleName "app" ≠ (Operation.remove (simpleName "db")).name := by decide
  obtain ⟨s, found, -, -, burdened⟩ := effect_on_others reachable_deadlocked applied different rfl
  exact ⟨reachable_deadlocked, h, applied, s, found, burdened trivial rfl⟩

end Graph
end ServiceStability
