import Mathlib
import ServiceStability.Proofs.Resolution
/-!
# Proofs.BlockingChains — what blocks a service, said by chains

A service is blocked when a chain of dependencies leads from it to a cause: an unavailable dependency, or one that has
failed to start.  The services on the chain are dormant and meant to run, so that each passes the blockage on.

- `Graph.BlockingChain`: such a chain.
- `Graph.blocked_iff_exists_chain`: chains and `Graph.Blocked` agree, so resolution marks exactly the services that have
  such a chain.
-/
namespace ServiceStability
namespace Graph

variable {g h : Graph} {name dependency : ServiceName}

/-- **A dependency that cannot be reached at all**: not installed, not meant to run, or on its way out. -/
def OutOfReach (g : Graph) (dependency : ServiceName) : Prop :=
  ∀ r, g.get? dependency = some r →
    r.mode = .never ∨ r.mode = .remove ∨ r.substate = .removing ∨ r.substate = .removed

/-- An edge to a dependency, which need not be installed. -/
def DependsOn (g : Graph) (name dependency : ServiceName) : Prop :=
  ∃ r, g.get? name = some r ∧ dependency ∈ r.dependencies

/-- A service that passes a blockage on: dormant, and meant to run at some time. -/
def PassesOn (g : Graph) (name : ServiceName) : Prop :=
  ∃ r, g.get? name = some r ∧ r.substate.isDormant = true ∧ r.mode ≠ .never

/-- A service with a dependency that is unavailable or has failed to start. -/
def HasCause (g : Graph) (name : ServiceName) : Prop :=
  ∃ dependency, g.DependsOn name dependency ∧ (g.OutOfReach dependency ∨ g.substate? dependency = some .startFailed)

/-- **A chain of dependencies from a service to a cause**, on which every service passes the blockage on. -/
structure BlockingChain (g : Graph) (name : ServiceName) (chain : List ServiceName) : Prop where
  starts : chain.head? = some name
  follows : chain.IsChain g.DependsOn
  passes : ∀ link ∈ chain, g.PassesOn link
  caused : ∃ last ∈ chain.getLast?, g.HasCause last

theorem isUnavailable_iff : g.isUnavailable dependency = true ↔ g.OutOfReach dependency := by
  unfold isUnavailable OutOfReach
  match g.get? dependency with
  | none => simp
  | some r => simp [Mode.isInert_iff, Substate.isLeaving_iff, or_assoc]

theorem BlockingChain.cons {chain : List ServiceName} (h : g.BlockingChain dependency chain) (passes : g.PassesOn name)
    (edge : g.DependsOn name dependency) : g.BlockingChain name (name :: chain) := by
  obtain ⟨starts, follows, all, last, isLast, cause⟩ := h
  match chain with
  | [] => cases starts
  | first :: rest =>
    obtain rfl : first = dependency := Option.some.inj starts
    refine ⟨rfl, List.isChain_cons_cons.2 ⟨edge, follows⟩, fun link member => ?_, last, ?_, cause⟩
    · rcases List.mem_cons.1 member with rfl | member
      · exact passes
      · exact all link member
    · rwa [List.getLast?_cons_cons]

theorem blocked_of_chain : ∀ {chain : List ServiceName} {name : ServiceName},
    g.BlockingChain name chain → g.Blocked name
  | [], _, h => nomatch h.starts
  | [link], name, h => by
    obtain rfl : link = name := Option.some.inj h.starts
    obtain ⟨r, found, able⟩ := h.passes link (List.mem_singleton.2 rfl)
    obtain ⟨last, isLast, d, ⟨s, found', edge⟩, cause⟩ := h.caused
    obtain rfl : link = last := Option.some.inj isLast
    obtain rfl : r = s := Option.some.inj (found.symm.trans found')
    rcases cause with missing | failed
    · exact .unavailable found (canBeBlocked_iff.2 able) edge (isUnavailable_iff.2 missing)
    · exact .failed found (canBeBlocked_iff.2 able) edge failed
  | link :: next :: rest, name, h => by
    obtain rfl : link = name := Option.some.inj h.starts
    obtain ⟨r, found, able⟩ := h.passes link (List.mem_cons_self ..)
    obtain ⟨⟨s, found', edge⟩, follows⟩ := List.isChain_cons_cons.1 h.follows
    obtain rfl : r = s := Option.some.inj (found.symm.trans found')
    have further : g.BlockingChain next (next :: rest) :=
      ⟨rfl, follows, fun other member => h.passes other (List.mem_cons_of_mem _ member),
        by simpa [List.getLast?_cons_cons] using h.caused⟩
    exact .chain found (canBeBlocked_iff.2 able) edge (blocked_of_chain further)

/-- **A service is blocked exactly when a chain leads from it to a cause.** -/
theorem blocked_iff_exists_chain : g.Blocked name ↔ ∃ chain, g.BlockingChain name chain := by
  refine ⟨fun blocked => ?_, fun ⟨_, h⟩ => blocked_of_chain h⟩
  have single : ∀ {name r}, g.get? name = some r → canBeBlocked r = true → g.HasCause name →
      g.BlockingChain name [name] := fun found able cause =>
    ⟨rfl, .singleton _, fun link member => List.mem_singleton.1 member ▸ ⟨_, found, canBeBlocked_iff.1 able⟩,
      _, rfl, cause⟩
  induction blocked with
  | unavailable found able edge missing =>
    exact ⟨_, single found able ⟨_, ⟨_, found, edge⟩, Or.inl (isUnavailable_iff.1 missing)⟩⟩
  | failed found able edge broken => exact ⟨_, single found able ⟨_, ⟨_, found, edge⟩, Or.inr broken⟩⟩
  | chain found able edge _ ih =>
    obtain ⟨chain, further⟩ := ih
    exact ⟨_, further.cons ⟨_, found, canBeBlocked_iff.1 able⟩ ⟨_, found, edge⟩⟩

theorem Decided.substate_iff {r : ServiceRecord} (decided : g.Decided h name) (found : h.get? name = some r)
    (dormant : r.substate.isDormant = true) :
    (r.substate = .problem ↔ g.Blocked name) ∧ (r.substate ≠ .problem → r.substate = .down) := by
  rcases decided r found dormant with ⟨is, blocked⟩ | ⟨is, free⟩
  · exact ⟨⟨fun _ => blocked, fun _ => is⟩, fun other => absurd is other⟩
  · refine ⟨⟨fun marked => ?_, fun blocked => absurd blocked free⟩, fun _ => is⟩
    rw [is] at marked; cases marked

/-- **Resolution blocks exactly what has to be blocked**, for every graph, whatever marks are left on it, and for every
order of its components with dependencies first.  The same services stay installed in the same order.  Each keeps all
but two things.  Its unavailable dependencies become, in order, those that are out of reach.  A dormant one ends as
`problem` if a chain leads from it to a cause, and as `down` if not. -/
theorem resolveIn_blocks_exactly (g : Graph) {components : List (List ServiceName)}
    (order : g.DependenciesFirst components) :
    g.resolveIn components = g.resolve ∧ (g.resolveIn components).keys = g.keys ∧
    ∀ name r, g.get? name = some r → ∃ s, (g.resolveIn components).get? name = some s ∧
      s = { r with substate := s.substate, unavailable := s.unavailable } ∧
      s.unavailable.toList.Sublist r.dependencies.toList ∧
      (∀ dependency, dependency ∈ s.unavailable ↔ dependency ∈ r.dependencies ∧ g.OutOfReach dependency) ∧
      (r.substate ≠ .new ∧ r.substate ≠ .down ∧ r.substate ≠ .problem → s.substate = r.substate) ∧
      (r.substate = .new ∨ r.substate = .down ∨ r.substate = .problem →
        (s.substate = .problem ↔ ∃ chain, g.BlockingChain name chain) ∧
          (s.substate ≠ .problem → s.substate = .down)) := by
  have resolution := resolution_resolveIn order
  refine ⟨resolution.unique (resolution_resolve g), resolution.alike.keys.symm, fun name r found => ?_⟩
  obtain ⟨s, found', same⟩ := resolution.alike.exists_record found
  have unavailable := resolution.unavailable found'
  rw [← same.dependencies] at unavailable
  refine ⟨s, found', ?_, ?_, fun dependency => ?_, fun ⟨new, down, problem⟩ => ?_, fun dormant => ?_⟩
  · obtain ⟨_, _, _, _, _, _⟩ := r
    obtain ⟨_, _, _, _, _, _⟩ := s
    obtain ⟨rfl, rfl, rfl, rfl, -⟩ := same
    rfl
  · rw [unavailable]; exact List.filter_sublist
  · rw [unavailable, OrderedSet.mem_def, OrderedSet.toList_filter, List.mem_filter, isUnavailable_iff,
      OrderedSet.mem_def]
  · refine (same.substate.eq_of_not_dormant (Bool.eq_false_iff.2 fun dormant => ?_)).symm
    rcases Substate.isDormant_iff.1 dormant with is | is | is
    · exact new is
    · exact down is
    · exact problem is
  · rw [← blocked_iff_exists_chain]
    have dormant' : s.substate.isDormant = true := same.substate.isDormant_eq ▸ Substate.isDormant_iff.2 dormant
    exact (resolution.decided name).substate_iff found' dormant'

def simpleName (segment : String) : ServiceName := ⟨[segment.toList]⟩

/-- Two services that depend on each other, one of them also on something missing, and a third that depends on itself.
Every mark on them is an old one. -/
def knot : Graph := .ofList
  [(simpleName "a", ⟨simpleName "a", .active, .down, .ofList [simpleName "b"], .empty, none⟩),
    (simpleName "b", ⟨simpleName "b", .active, .new, .ofList [simpleName "a", simpleName "gone"], .empty, none⟩),
    (simpleName "c", ⟨simpleName "c", .active, .problem, .ofList [simpleName "c"], .empty, none⟩)]

theorem knot_resolved : knot.DependenciesFirst [[simpleName "c"], [simpleName "b", simpleName "a"]] ∧
    (knot.resolveIn [[simpleName "c"], [simpleName "b", simpleName "a"]]).substate? (simpleName "a") = some .problem ∧
    knot.resolve.substate? (simpleName "c") = some .down := by
  have order : knot.DependenciesFirst [[simpleName "c"], [simpleName "b", simpleName "a"]] :=
    of_decide_eq_true (by cbv)
  obtain ⟨same, -, each⟩ := resolveIn_blocks_exactly knot order
  refine ⟨order, ?_, same ▸ by decide +kernel⟩
  obtain ⟨s, found, -, -, -, -, dormant⟩ := each (simpleName "a") _ (by rfl)
  have chain : knot.BlockingChain (simpleName "a") [simpleName "a", simpleName "b"] :=
    { starts := rfl
      follows := .cons_cons ⟨_, rfl, by decide⟩ (.singleton _)
      passes := List.forall_mem_cons.2 ⟨⟨_, rfl, rfl, by decide⟩, List.forall_mem_singleton.2 ⟨_, rfl, rfl, by decide⟩⟩
      caused :=
        ⟨simpleName "b", rfl, simpleName "gone", ⟨_, rfl, by decide⟩, Or.inl (isUnavailable_iff.1 (by decide))⟩ }
  rw [substate?, found, Option.map_some, ((dormant (by decide)).1.2 ⟨_, chain⟩)]

end Graph
end ServiceStability
