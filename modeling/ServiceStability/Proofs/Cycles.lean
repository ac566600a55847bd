import Mathlib.Data.List.Chain
import ServiceStability.Proofs.FailureNotes
import ServiceStability.Proofs.Refusals
/-!
# Proofs.Cycles — services that wait for each other never start

A start goes through only while all dependencies of the service are up.  So take a kind of names such that whatever is
installed under one of them depends on another one: the first of them to start would need one that is up already, and
what is up has started.  It does not matter how the other calls fall between, nor when the names are installed.  The
services on a cycle are of such a kind, as long as no name is installed twice.

- `Graph.Held`: no service of a kind has begun to start; what one change and what a run of calls keep.
- `Graph.Requires`: what depends on what, as it was installed.
- `Graph.cycles_never_start`: the services on a cycle.
-/
namespace ServiceStability

/-- **Whether a service has begun to start**, and has not been set down since. -/
def Substate.hasBegun : Substate → Bool
  | .starting | .startFailed | .up => true
  | _ => false

theorem Substate.Alike.hasBegun_eq {a b : Substate} (h : a.Alike b) : a.hasBegun = b.hasBegun := by
  rcases h with rfl | ⟨ha, hb⟩
  · rfl
  · rcases isDormant_iff.1 ha with rfl | rfl | rfl <;> rcases isDormant_iff.1 hb with rfl | rfl | rfl <;> rfl

/-- The name that an operation brings in. -/
def Operation.newcomer? : Operation → Option ServiceName
  | .install name _ _ => some name
  | _ => none

namespace Graph

variable {g h : Graph} {operation : Operation} {kind : ServiceName → Prop} {name dependency : ServiceName}
  {r : ServiceRecord} {done : List Operation}

/-- **No service of a kind has begun to start, and each depends on one of the kind.** -/
def Held (g : Graph) (kind : ServiceName → Prop) : Prop :=
  ∀ name r, kind name → g.get? name = some r →
    r.substate.hasBegun = false ∧ ∃ dependency ∈ r.dependencies, kind dependency

/-- Whatever an operation installs under a name of a kind depends on one of the kind. -/
def Keeps (kind : ServiceName → Prop) (operation : Operation) : Prop :=
  ∀ name mode dependencies, operation = .install name mode dependencies → kind name →
    ∃ dependency ∈ dependencies, kind dependency

theorem held_empty (kind : ServiceName → Prop) : Graph.empty.Held kind := fun _ _ _ found => nomatch found

/-- **A held service waits for one that is not up.** -/
theorem Held.pending_ne_nil (held : g.Held kind) (member : kind name) (found : g.get? name = some r) :
    g.pending r ≠ [] := by
  obtain ⟨-, dependency, edge, further⟩ := held name r member found
  have notUp : g.NotUp dependency := by
    intro s found' up
    have begun := (held dependency s further found').1
    rw [up] at begun
    cases begun
  exact List.ne_nil_of_mem (mem_pending_iff.2 ⟨edge, notUp⟩)

theorem Held.change (held : g.Held kind) (keeps : Keeps kind operation) (change : g.Change operation h) :
    h.Held kind := by
  intro name s member found
  by_cases own : name = operation.name
  · subst own
    -- Only an admitted start begins a service; every other move leaves its record no further than it was.
    have kept : ∀ {r}, g.get? operation.name = some r → s.dependencies = r.dependencies →
        (s.substate.hasBegun = true → r.substate.hasBegun = true) →
        s.substate.hasBegun = false ∧ ∃ dependency ∈ s.dependencies, kind dependency := fun {r} before same begun => by
      obtain ⟨still, edge⟩ := held operation.name r member before
      rw [same]
      exact ⟨Bool.eq_false_iff.2 fun now => Bool.eq_false_iff.1 still (begun now), edge⟩
    cases change with
    | install fresh =>
      obtain rfl := eq_of_get?_insert found
      exact ⟨rfl, keeps _ _ _ rfl member⟩
    | start before allowed ready => exact absurd ready (held.pending_ne_nil member before)
    | started before allowed =>
      obtain rfl := eq_of_get?_insert found
      exact kept before rfl fun _ => by rw [Substate.up_mem_successors_iff.1 allowed]; rfl
    | fail before allowed =>
      obtain rfl := eq_of_get?_insert found
      exact kept before rfl fun _ => by rw [Substate.startFailed_mem_successors_iff.1 allowed]; rfl
    | retry before | stop before | remove before =>
      obtain rfl := eq_of_get?_insert found
      exact kept before rfl nofun
    | removed =>
      have gone : none = some s := (OrderedMap.get?_erase_self ..).symm.trans found
      cases gone
    | setMode before =>
      obtain rfl := eq_of_get?_insert found
      exact kept before rfl id
  · exact held name s member ((change.get?_of_ne own).symm.trans found)

theorem Held.of_alike (held : g.Held kind) (alike : g.Alike h) : h.Held kind := by
  intro name s member found
  obtain ⟨r, found', same⟩ := alike.symm.exists_record found
  rw [same.dependencies, same.substate.hasBegun_eq]
  exact held name r member found'

/-- **Calls that keep a kind to itself start none of it**, carried out or refused. -/
theorem Held.foldl_attempt (held : g.Held kind) (calls : List Operation)
    (keeps : ∀ operation ∈ g.carriedOut calls, Keeps kind operation) : (calls.foldl attempt g).Held kind := by
  induction calls generalizing g with
  | nil => exact held
  | cons operation calls ih =>
    rw [List.foldl_cons]
    rw [carriedOut] at keeps
    cases applied : g.apply operation with
    | error problem =>
      have same : g.attempt operation = g := by rw [attempt, applied]
      rw [same, applied] at keeps
      rw [same]
      exact ih held keeps
    | ok h =>
      have same : g.attempt operation = h := by rw [attempt, applied]
      rw [same, applied] at keeps
      rw [same]
      obtain ⟨changed, change, rfl⟩ := apply_eq_ok_iff.1 applied
      have further := held.change (keeps operation (List.mem_cons_self ..)) change
      exact ih (further.of_alike (resolution_resolve changed).alike) fun later member =>
        keeps later (List.mem_cons_of_mem _ member)

/-- **One name depends on another**, by an installation among what was done. -/
def Requires (done : List Operation) (name dependency : ServiceName) : Prop :=
  ∃ mode dependencies, .install name mode dependencies ∈ done ∧ dependency ∈ dependencies

/-- If no name is installed twice, there is one installation to say what a name depends on. -/
theorem eq_of_install_mem (once : (done.filterMap Operation.newcomer?).Nodup) {mode mode' : Mode}
    {dependencies dependencies' : OrderedSet ServiceName} (first : .install name mode dependencies ∈ done)
    (second : .install name mode' dependencies' ∈ done) : dependencies = dependencies' := by
  have apart := List.pairwise_filterMap.1 once
  by_contra different
  have distinct : Operation.install name mode dependencies ≠ .install name mode' dependencies' := by
    intro same
    exact different (Operation.install.inj same).2.2
  have symmetric : Std.Symm fun a b : Operation =>
      ∀ n, a.newcomer? = some n → ∀ m, b.newcomer? = some m → n ≠ m :=
    ⟨fun a b differ n is m is' => (differ m is' n is).symm⟩
  exact apart.forall first second distinct name rfl name rfl rfl

/-- Every member of a cycle is followed by a member. -/
theorem exists_next_of_cycle {α : Type} {related : α → α → Prop} {first : α} {rest : List α}
    (cycle : List.IsChain related (first :: rest ++ [first])) {a : α} (member : a ∈ first :: rest) :
    ∃ b ∈ first :: rest, related a b := by
  obtain ⟨before, after, split⟩ := List.append_of_mem member
  rw [split, List.append_assoc, List.cons_append] at cycle
  have behind := (List.isChain_append.1 cycle).2.1
  cases after with
  | nil => exact ⟨first, List.mem_cons_self .., (List.isChain_cons_cons.1 behind).1⟩
  | cons b after =>
    refine ⟨b, ?_, (List.isChain_cons_cons.1 behind).1⟩
    rw [split]
    simp

/-- **Dependency cycles never start.**  Take any calls on a new runtime of which none that goes through installs a name
again, and any names of which each requires the next and the last the first, be it one name that requires itself.
Whatever part of the calls has been made, no service under one of these names is starting, up, or failed to start. -/
theorem cycles_never_start {calls : List Operation}
    (once : ((carriedOut .empty calls).filterMap Operation.newcomer?).Nodup) {first : ServiceName}
    {rest : List ServiceName}
    (cycle : List.IsChain (Requires (carriedOut .empty calls)) (first :: rest ++ [first])) :
    ∀ made later, calls = made ++ later → ∀ name ∈ first :: rest,
      (made.foldl attempt .empty).substate? name ≠ some .starting ∧
        (made.foldl attempt .empty).substate? name ≠ some .up ∧
        (made.foldl attempt .empty).substate? name ≠ some .startFailed := by
  intro made later split name on
  have keeps : ∀ operation ∈ carriedOut .empty made, Keeps (· ∈ first :: rest) operation := by
    rintro _ carried member mode dependencies rfl on
    have part : .install member mode dependencies ∈ carriedOut .empty calls := by
      rw [split, carriedOut_append]
      exact List.mem_append_left _ carried
    obtain ⟨next, next_on, mode', dependencies', installed, edge⟩ := exists_next_of_cycle cycle on
    rw [← eq_of_install_mem once part installed] at edge
    exact ⟨next, edge, next_on⟩
  have held := (held_empty (· ∈ first :: rest)).foldl_attempt made keeps
  have still : ∀ substate, substate.hasBegun = true → (made.foldl attempt .empty).substate? name ≠ some substate := by
    intro substate begun is
    obtain ⟨r, found, rfl⟩ := substate?_eq_some_iff.1 is
    rw [(held name r on found).1] at begun
    cases begun
  exact ⟨still _ rfl, still _ rfl, still _ rfl⟩

/-- Two services that depend on each other, one of them also on a service that comes up in between.  Their starts are
refused. -/
def entangled : List Operation :=
  [.install (simpleName "a") .active (.ofList [simpleName "b"]), .start (simpleName "a"),
    .install (simpleName "c") .active .empty, .start (simpleName "c"), .started (simpleName "c"),
    .install (simpleName "b") .passive (.ofList [simpleName "c", simpleName "a"]), .start (simpleName "b"),
    .setMode (simpleName "b") .active, .start (simpleName "a")]

theorem carriedOut_entangled : carriedOut .empty entangled =
    [.install (simpleName "a") .active (.ofList [simpleName "b"]), .install (simpleName "c") .active .empty,
      .start (simpleName "c"), .started (simpleName "c"),
      .install (simpleName "b") .passive (.ofList [simpleName "c", simpleName "a"]),
      .setMode (simpleName "b") .active] := by cbv

theorem entangled_never_starts :
    ((carriedOut .empty entangled).filterMap Operation.newcomer?).Nodup ∧
    List.IsChain (Requires (carriedOut .empty entangled)) [simpleName "a", simpleName "b", simpleName "a"] ∧
    (entangled.foldl attempt .empty).substate? (simpleName "b") ≠ some .up := by
  have once : ((carriedOut .empty entangled).filterMap Operation.newcomer?).Nodup := by
    rw [carriedOut_entangled]
    decide
  have forth : Requires (carriedOut .empty entangled) (simpleName "a") (simpleName "b") := by
    rw [carriedOut_entangled]
    exact ⟨_, _, List.mem_cons_self .., by decide⟩
  have back : Requires (carriedOut .empty entangled) (simpleName "b") (simpleName "a") := by
    rw [carriedOut_entangled]
    exact ⟨.passive, .ofList [simpleName "c", simpleName "a"], by decide, by decide⟩
  have cycle : List.IsChain (Requires (carriedOut .empty entangled)) [simpleName "a", simpleName "b", simpleName "a"] :=
    .cons_cons forth (.cons_cons back (.singleton _))
  have each := @cycles_never_start entangled once (simpleName "a") [simpleName "b"] cycle entangled [] rfl
  exact ⟨once, cycle, (each (simpleName "b") (by decide)).2.1⟩

end Graph
end ServiceStability
