import Mathlib.Algebra.BigOperators.Group.List.Basic
import ServiceStability.Graph.Worklist
import ServiceStability.Proofs.WholeSnapshot
/-!
# Proofs.RestTest — the rest test comes to an end, and to the right one

The stack of the loop may grow, but a service puts its dependencies onto it only once.  So a turn takes one away from
what is on the stack and what the services not noted so far may still put there.  The answer is right because what is
noted is at rest and leads only to what is noted or on the stack.

- `Worklist.load`: how many turns there are at most.
- `Worklist.Explores`: what every turn keeps.
- `Worklist.ends_iff`: the loop ends, once, with the answer of `Graph.isQuiescent`.
- `CommandLine.rest_test_exact`: it looks at all that the roots lead to, and holds a verification up nowhere.
-/
namespace ServiceStability

theorem Substate.isRest_iff {s : Substate} : s.isRest = true ↔ s ≠ .new ∧ s ≠ .starting ∧ s ≠ .removing := by
  cases s <;> decide

namespace Graph

variable {g : Graph} {name : ServiceName}

/-- The dependencies of a service; none if it is not installed. -/
def listed (g : Graph) (name : ServiceName) : List ServiceName := (g.get? name).elim [] (·.dependencies.toList)

theorem listed_of_get? {r : ServiceRecord} (found : g.get? name = some r) :
    g.listed name = r.dependencies.toList := by
  rw [listed, found]
  rfl

theorem listed_of_get?_none (missing : g.get? name = none) : g.listed name = [] := by
  rw [listed, missing]
  rfl

theorem mem_listed_iff {dependency : ServiceName} :
    dependency ∈ g.listed name ↔ ∃ r, g.get? name = some r ∧ dependency ∈ r.dependencies := by
  cases found : g.get? name with
  | none => simp [listed, found]
  | some r => simp [listed, found, OrderedSet.mem_def]

theorem atRest_iff {r : ServiceRecord} (found : g.get? name = some r) : g.AtRest name ↔ r.substate.isRest = true :=
  ⟨fun h => h r found, fun h _ found' => Option.some.inj (found.symm.trans found') ▸ h⟩

theorem atRest_of_get?_none (missing : g.get? name = none) : g.AtRest name := fun r found => by
  rw [missing] at found
  cases found

theorem mem_keys_of_not_atRest (moving : ¬ g.AtRest name) : name ∈ g.keys :=
  Decidable.byContradiction fun missing => moving (atRest_of_get?_none (OrderedMap.get?_eq_none_iff.2 missing))

/-- **What the services outside a set list**, counted. -/
def owed (g : Graph) (seen : OrderedSet ServiceName) : Nat :=
  ((g.keys.filter fun name => decide (name ∉ seen)).map fun name => (g.listed name).length).sum

theorem owed_insert {seen : OrderedSet ServiceName} (fresh : name ∉ seen) :
    g.owed (seen.insert name) + (g.listed name).length = g.owed seen := by
  have outside : g.keys.filter (fun other => decide (other ∉ seen.insert name)) =
      (g.keys.filter fun other => decide (other ∉ seen)).erase name := by
    have distinct : g.keys.Nodup := g.keys_nodup
    rw [(distinct.filter _).erase_eq_filter, List.filter_filter]
    refine List.filter_congr fun other _ => ?_
    rw [Bool.eq_iff_iff]
    simp [and_comm]
  rw [owed, outside, owed]
  by_cases installed : name ∈ g.keys
  · have member : name ∈ g.keys.filter fun other => decide (other ∉ seen) :=
      List.mem_filter.2 ⟨installed, decide_eq_true fresh⟩
    rw [Nat.add_comm]
    exact List.sum_map_erase (fun other => (g.listed other).length) member
  · have apart : name ∉ g.keys.filter fun other => decide (other ∉ seen) := fun member =>
      installed (List.mem_filter.1 member).1
    rw [List.erase_of_not_mem apart, listed_of_get?_none (OrderedMap.get?_eq_none_iff.2 installed)]
    rfl

theorem owed_empty (g : Graph) : g.owed .empty = (g.values.map fun r => r.dependencies.size).sum := by
  have all : g.keys.filter (fun name => decide (name ∉ OrderedSet.empty)) = g.keys :=
    List.filter_eq_self.2 fun _ _ => decide_eq_true List.not_mem_nil
  rw [owed, all, OrderedMap.keys, OrderedMap.values, List.map_map, List.map_map]
  refine congrArg List.sum (List.map_congr_left fun entry member => ?_)
  exact congrArg List.length (listed_of_get? (OrderedMap.get?_eq_some_iff.2 member))

theorem LeadsInto.insert {seen : OrderedSet ServiceName} {rest pending : List ServiceName}
    (h : g.LeadsInto seen.toList (name :: rest)) (own : ∀ dependency ∈ g.listed name, dependency ∈ pending)
    (kept : ∀ other ∈ rest, other ∈ pending) : g.LeadsInto (seen.insert name).toList pending := by
  intro a member r found d edge installed
  rcases OrderedSet.mem_insert.1 member with member | rfl
  · rcases h a member r found d edge installed with old | waiting
    · exact Or.inl (OrderedSet.mem_insert.2 (Or.inl old))
    · rcases List.mem_cons.1 waiting with rfl | waiting
      · exact Or.inl (OrderedSet.mem_insert.2 (Or.inr rfl))
      · exact Or.inr (kept d waiting)
  · exact Or.inr (own d (listed_of_get? found ▸ edge))

end Graph

namespace Worklist

variable {g : Graph} {w w' : Worklist} {seen : OrderedSet ServiceName} {name : ServiceName}
  {roots rest : List ServiceName} {turns : Nat} {answer : Bool}

theorem turn_of_old (old : name ∈ seen) : turn g ⟨seen, name :: rest⟩ = .next ⟨seen, rest⟩ := by
  rw [turn, if_pos old]

theorem turn_of_still (fresh : name ∉ seen) (still : g.AtRest name) :
    turn g ⟨seen, name :: rest⟩ = .next ⟨seen.insert name, (g.listed name).reverse ++ rest⟩ := by
  rw [turn, if_neg fresh]
  cases found : g.get? name with
  | none =>
    rw [Graph.listed_of_get?_none found]
    rfl
  | some r =>
    rw [Graph.listed_of_get? found]
    exact if_pos (still r found)

theorem turn_of_moving (fresh : name ∉ seen) (moving : ¬ g.AtRest name) :
    turn g ⟨seen, name :: rest⟩ = .stop false := by
  rw [turn, if_neg fresh]
  cases found : g.get? name with
  | none => exact absurd (Graph.atRest_of_get?_none found) moving
  | some r => exact if_neg (mt (Graph.atRest_iff found).2 moving)

/-- **A turn that leads to a next one**: the name on top is dropped, or it is noted and what it lists goes onto the
stack. -/
theorem exists_top_of_next (turn : w.turn g = .next w') :
    ∃ name rest, w.stack = name :: rest ∧
      (name ∈ w.seen ∧ w' = ⟨w.seen, rest⟩ ∨
        name ∉ w.seen ∧ g.AtRest name ∧ w' = ⟨w.seen.insert name, (g.listed name).reverse ++ rest⟩) := by
  obtain ⟨seen, _ | ⟨name, rest⟩⟩ := w
  · cases turn
  · refine ⟨name, rest, rfl, ?_⟩
    by_cases old : name ∈ seen
    · exact Or.inl ⟨old, Turn.next.inj (turn.symm.trans (turn_of_old old))⟩
    · by_cases still : g.AtRest name
      · exact Or.inr ⟨old, still, Turn.next.inj (turn.symm.trans (turn_of_still old still))⟩
      · cases turn.symm.trans (turn_of_moving old still)

/-- **The last turn**: nothing is left on the stack, or a service on it is not at rest. -/
theorem of_stop (turn : w.turn g = .stop answer) :
    answer = true ∧ w.stack = [] ∨ answer = false ∧ ∃ name ∈ w.stack, ¬ g.AtRest name := by
  obtain ⟨seen, _ | ⟨name, rest⟩⟩ := w
  · cases turn
    exact Or.inl ⟨rfl, rfl⟩
  · by_cases old : name ∈ seen
    · cases turn.symm.trans (turn_of_old old)
    · by_cases still : g.AtRest name
      · cases turn.symm.trans (turn_of_still old still)
      · exact Or.inr ⟨Turn.stop.inj (turn.symm.trans (turn_of_moving old still)), name, List.mem_cons_self .., still⟩

/-- **How many turns there are at most**: one for each name on the stack, and for each that may still come onto it. -/
def load (g : Graph) (w : Worklist) : Nat := w.stack.length + g.owed w.seen

theorem load_next (turn : w.turn g = .next w') : w'.load g + 1 = w.load g := by
  obtain ⟨name, rest, stack, ⟨-, rfl⟩ | ⟨fresh, -, rfl⟩⟩ := exists_top_of_next turn
  · simp only [load, stack, List.length_cons]
    omega
  · -- What goes onto the stack is no longer owed.
    have spent := Graph.owed_insert (g := g) fresh
    simp only [load, stack, List.length_append, List.length_reverse, List.length_cons]
    omega

theorem load_start (g : Graph) (roots : List ServiceName) :
    (start roots).load g = roots.length + (g.values.map fun r => r.dependencies.size).sum := by
  rw [load, start, List.length_reverse, Graph.owed_empty]

/-- **The loop ends**: a turn that leads to a next one leaves one turn less. -/
theorem exists_ends (g : Graph) (w : Worklist) : ∃ turns ≤ w.load g, ∃ answer, w.Ends g turns answer := by
  cases turn : w.turn g with
  | stop answer => exact ⟨0, Nat.zero_le _, answer, .last turn⟩
  | next w' =>
    have less : w'.load g + 1 = w.load g := load_next turn
    obtain ⟨turns, few, answer, ends⟩ := exists_ends g w'
    exact ⟨turns + 1, less ▸ Nat.succ_le_succ few, answer, .next turn ends⟩
termination_by w.load g
decreasing_by omega

theorem Ends.unique (ends : w.Ends g turns answer) {turns' : Nat} {answer' : Bool}
    (ends' : w.Ends g turns' answer') : turns' = turns ∧ answer' = answer := by
  induction ends generalizing turns' with
  | last turn =>
    cases ends' with
    | last turn' => exact ⟨rfl, Turn.stop.inj (turn'.symm.trans turn)⟩
    | next turn' _ => cases turn'.symm.trans turn
  | next turn _ ih =>
    cases ends' with
    | last turn' => cases turn'.symm.trans turn
    | next turn' ends' =>
      obtain rfl := Turn.next.inj (turn'.symm.trans turn)
      obtain ⟨rfl, rfl⟩ := ih ends'
      exact ⟨rfl, rfl⟩

/-- **What every turn keeps.** -/
structure Explores (g : Graph) (roots : List ServiceName) (w : Worklist) : Prop where
  begun : ∀ root ∈ roots, root ∈ w.seen ∨ root ∈ w.stack
  reached : ∀ name, name ∈ w.seen ∨ name ∈ w.stack → name ∈ g.keys → g.Reaches roots name
  closed : g.LeadsInto w.seen.toList w.stack
  rest : ∀ name ∈ w.seen, g.AtRest name

theorem explores_start (g : Graph) (roots : List ServiceName) : (start roots).Explores g roots where
  begun _ member := Or.inr (List.mem_reverse.2 member)
  reached _ met installed := .root (List.mem_reverse.1 (met.resolve_left List.not_mem_nil)) installed
  closed _ member := nomatch member
  rest _ member := nomatch member

namespace Explores

/-- A name that was noted before is dropped. -/
theorem drop (h : w.Explores g roots) (stack : w.stack = name :: rest) (old : name ∈ w.seen) :
    Explores g roots ⟨w.seen, rest⟩ where
  begun root member := by
    rcases h.begun root member with seen | waiting
    · exact Or.inl seen
    · rcases List.mem_cons.1 (stack ▸ waiting) with rfl | waiting
      · exact Or.inl old
      · exact Or.inr waiting
  reached other met := h.reached other (met.imp_right fun waiting => stack ▸ List.mem_cons_of_mem _ waiting)
  closed := (stack ▸ h.closed).pass (Or.inl old)
  rest := h.rest

/-- A name is noted, and what its service lists goes onto the stack. -/
theorem note (h : w.Explores g roots) (stack : w.stack = name :: rest) (still : g.AtRest name) :
    Explores g roots ⟨w.seen.insert name, (g.listed name).reverse ++ rest⟩ where
  begun root member := by
    rcases h.begun root member with seen | waiting
    · exact Or.inl (OrderedSet.mem_insert.2 (Or.inl seen))
    · rcases List.mem_cons.1 (stack ▸ waiting) with rfl | waiting
      · exact Or.inl (OrderedSet.mem_insert.2 (Or.inr rfl))
      · exact Or.inr (List.mem_append_right _ waiting)
  reached other met installed := by
    have top : name ∈ w.stack := stack ▸ List.mem_cons_self ..
    rcases met with seen | waiting
    · rcases OrderedSet.mem_insert.1 seen with seen | rfl
      · exact h.reached other (Or.inl seen) installed
      · exact h.reached other (Or.inr top) installed
    · rcases List.mem_append.1 waiting with listed | waiting
      · obtain ⟨r, found, edge⟩ := Graph.mem_listed_iff.1 (List.mem_reverse.1 listed)
        exact (h.reached name (Or.inr top) (Graph.mem_keys_of_get? found)).step found edge installed
      · exact h.reached other (Or.inr (stack ▸ List.mem_cons_of_mem _ waiting)) installed
  closed := Graph.LeadsInto.insert (stack ▸ h.closed)
    (fun _ listed => List.mem_append_left _ (List.mem_reverse.2 listed)) fun _ => List.mem_append_right _
  rest other member := (OrderedSet.mem_insert.1 member).elim (h.rest other) fun same => same ▸ still

/-- **A turn keeps it.** -/
theorem next (h : w.Explores g roots) (turn : w.turn g = .next w') : w'.Explores g roots := by
  obtain ⟨name, rest, stack, ⟨old, rfl⟩ | ⟨-, still, rfl⟩⟩ := exists_top_of_next turn
  · exact h.drop stack old
  · exact h.note stack still

theorem mem_seen_of_reaches (h : w.Explores g roots) (stack : w.stack = []) (reaches : g.Reaches roots name) :
    name ∈ w.seen := by
  have nothing : ∀ other, other ∉ w.stack := fun other waiting => List.not_mem_nil (stack ▸ waiting)
  induction reaches with
  | root member _ => exact (h.begun _ member).resolve_right (nothing _)
  | step _ found edge installed ih => exact (h.closed _ ih _ found _ edge installed).resolve_right (nothing _)

/-- **Where the loop ends, its answer is right.** -/
theorem answer_iff (h : w.Explores g roots) (turn : w.turn g = .stop answer) :
    answer = true ↔ ∀ name, g.Reaches roots name → g.AtRest name := by
  rcases of_stop turn with ⟨rfl, stack⟩ | ⟨rfl, name, waiting, moving⟩
  · exact iff_of_true rfl fun name reaches => h.rest name (h.mem_seen_of_reaches stack reaches)
  · refine iff_of_false Bool.false_ne_true fun still => moving (still name ?_)
    exact h.reached name (Or.inr waiting) (Graph.mem_keys_of_not_atRest moving)

theorem ends (h : w.Explores g roots) (ends : w.Ends g turns answer) :
    answer = true ↔ ∀ name, g.Reaches roots name → g.AtRest name := by
  induction ends with
  | last turn => exact h.answer_iff turn
  | next turn _ ih => exact ih (h.next turn)

end Explores

/-- **The loop ends once, with the answer of the rest test.** -/
theorem ends_iff (g : Graph) (roots : List ServiceName) :
    ∃ turns ≤ roots.length + (g.values.map fun r => r.dependencies.size).sum, ∀ turns' answer,
      (start roots).Ends g turns' answer ↔ turns' = turns ∧ answer = g.isQuiescent roots := by
  obtain ⟨turns, few, answer, ends⟩ := exists_ends g (start roots)
  have right : answer = g.isQuiescent roots := by
    rw [Bool.eq_iff_iff, Graph.isQuiescent_iff]
    exact (explores_start g roots).ends ends
  subst right
  refine ⟨turns, load_start g roots ▸ few, fun turns' answer' => ⟨ends.unique, ?_⟩⟩
  rintro ⟨rfl, rfl⟩
  exact ends

end Worklist

namespace CommandLine

theorem answer_of_restore {s : RuntimeSnapshot} {g : Graph} (restored : s.restore = .ok g) (request : VerifyRequest) :
    request.answer s = .ok ⟨(verifyGraph g request.touched request.rollback).outcome != .stable,
      request.format.write (verifyGraph g request.touched request.rollback)⟩ := by
  rw [VerifyRequest.answer, CommandLine.restored, restored]
  rfl

/-- **The rest test is exact, and it holds no verification up.**

- For any graph and any roots the loop ends, once, with as many turns at most as there are roots and dependencies.  Its
  answer is that of the rest test: whether no installed service that the roots lead to is new, starting or removing.
- In a restored graph any roots are at rest.  So the wait of a verification ends when it first looks, whatever states
  would have followed, and the program answers what it captured there. -/
theorem rest_test_exact :
    (∀ (g : Graph) (roots : List ServiceName),
      (∃ turns ≤ roots.length + (g.values.map fun r => r.dependencies.size).sum, ∀ turns' answer,
        (Worklist.start roots).Ends g turns' answer ↔ turns' = turns ∧ answer = g.isQuiescent roots) ∧
      (g.isQuiescent roots = true ↔ ∀ name, g.Reaches roots name → ∀ r, g.get? name = some r →
        r.substate ≠ .new ∧ r.substate ≠ .starting ∧ r.substate ≠ .removing)) ∧
    ∀ (s : RuntimeSnapshot) (g : Graph), s.restore = .ok g →
      (∀ roots, g.isQuiescent roots = true) ∧
      ∀ request : VerifyRequest,
        let m := Monitor.idle.watchAll (touchedIn g request.touched)
        let v := verify m (.new ⟨request.rollback⟩) (g.lookup ownRuntime) (.ok (m.capture ownRuntime g))
        (∀ later, m.await ownRuntime (g :: later) = (.ok (m.capture ownRuntime g), 0)) ∧
          request.answer s = .ok ⟨v.outcome != .stable, request.format.write v⟩ := by
  refine ⟨fun g roots => ⟨Worklist.ends_iff g roots, ?_⟩, fun s g restored => ?_⟩
  · rw [Graph.isQuiescent_iff]
    exact forall₂_congr fun name _ => forall₂_congr fun r _ => Substate.isRest_iff
  · have still : ∀ roots, g.isQuiescent roots = true := fun roots =>
      Graph.isQuiescent_iff.2 fun name _ => RuntimeSnapshot.atRest_of_restore restored name
    refine ⟨still, fun request => ?_⟩
    let m := Monitor.idle.watchAll (touchedIn g request.touched)
    have looked : ∀ later, m.await ownRuntime (g :: later) = (.ok (m.capture ownRuntime g), 0) :=
      Monitor.await_of_atRest (still m.interest.toList)
    refine ⟨looked, ?_⟩
    rw [answer_of_restore restored request, verifyGraph, looked []]

/-- Two services that depend on each other, one of them on itself and on one that is missing. -/
def knotted : RuntimeSnapshot := ⟨[
  ⟨Graph.simpleName "app", .active, .up, none, [Graph.simpleName "db", Graph.simpleName "app"]⟩,
  ⟨Graph.simpleName "db", .active, .failed, none, [Graph.simpleName "app", Graph.simpleName "none"]⟩]⟩

theorem knotted_at_rest :
    let roots := [Graph.simpleName "app", Graph.simpleName "app", Graph.simpleName "none"]
    ∃ g, knotted.restore = .ok g ∧ (∃ turns ≤ 7, (Worklist.start roots).Ends g turns true) ∧
      ((Monitor.idle.watchAll (touchedIn g roots)).await ownRuntime [g, .empty]).2 = 0 := by
  intro roots
  obtain ⟨g, restored⟩ := RuntimeSnapshot.exists_restore_of_nodup (s := knotted) (by decide)
  have listed : knotted.restore.map (fun g => (g.values.map fun r => r.dependencies.size).sum) = .ok 4 := by cbv
  rw [restored] at listed
  have four : (g.values.map fun r => r.dependencies.size).sum = 4 := Except.ok.inj listed
  obtain ⟨exact, waits⟩ := rest_test_exact
  obtain ⟨⟨turns, few, ends⟩, -⟩ := exact g roots
  obtain ⟨still, verifies⟩ := waits knotted g restored
  rw [four] at few
  obtain ⟨looked, -⟩ := verifies ⟨[], roots, .text, true⟩
  exact ⟨g, restored, ⟨turns, few, (ends turns true).2 ⟨rfl, (still roots).symm⟩⟩, congrArg Prod.snd (looked [.empty])⟩

end CommandLine
end ServiceStability
