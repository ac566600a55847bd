import ServiceStability.Waiter
import ServiceStability.Proofs.Interleaving
/-!
# Proofs.Sharing — what becomes of registrations on a shared waiter

All clients of a waiter register with one monitor, and a wait that is over releases all of its interest.  So a
registration lasts until the next release, and a wait copies it if it is called before that.  What a client registered
is missing from its own wait only if the wait of another client was over in between.

- `Waiter.exists_wait_of_registration`: a registration reaches the waits that are called before the next release.
- `Waiter.release_notMem_of_entered`: it is another client that releases what a client registered.
- `Waiter.registrations_reach_waits`: both, and that a result covers what was copied.
-/
namespace ServiceStability

theorem World.monitors_of_spares {w w' : World} {event : Event} {monitor : Nat} (step : w.Step event w')
    (apart : event.spares monitor = true) : w'.monitors monitor = w.monitors monitor := by
  cases step with
  | watch other name | clear other => exact if_neg fun same => (bne_iff_ne.1 apart) same.symm
  | cancel | begin | refuse | finish | call | look | conclude => rfl

namespace Waiter

variable {start s s' : Waiter} {event : WaiterEvent} {events earlier later : List WaiterEvent} {client token : Nat}
  {number : Nat} {wait : Wait} {name : ServiceName}

/-- **A waiter on which nothing has happened yet.** -/
structure Fresh (s : Waiter) : Prop where
  world : s.world.Fresh
  free : s.turn = none
  early : ∀ client, s.clients client = .registering

/-! ## Runs -/

/-- **A run can be cut at any of its events.** -/
theorem Run.exists_step (run : start.Run events s) : ∀ {earlier later : List WaiterEvent} {event : WaiterEvent},
    events = earlier ++ event :: later →
      ∃ before after, start.Run earlier before ∧ before.Step event after ∧ after.Run later s := by
  induction run with
  | nil => intro earlier later event whole; simp at whole
  | @snoc events s s' last run step ih =>
    intro earlier later event whole
    rcases List.eq_nil_or_concat later with rfl | ⟨rest, end', rfl⟩
    · obtain ⟨rfl, same⟩ := List.append_inj' whole rfl
      cases same
      exact ⟨s, s', run, step, .nil⟩
    · have whole' : events ++ [last] = (earlier ++ event :: rest) ++ [end'] := by simpa using whole
      obtain ⟨same, same'⟩ := List.append_inj' whole' rfl
      cases same'
      obtain ⟨before, after, first, middle, further⟩ := ih same
      rw [List.concat_eq_append]
      exact ⟨before, after, first, middle, further.snoc step⟩

theorem Run.monitor (run : start.Run events s) : s.monitor = start.monitor := by
  induction run with
  | nil => rfl
  | snoc _ step ih => cases step <;> exact ih

/-- **The runtime of a waiter goes through a run of its own.** -/
theorem Run.world (run : start.Run events s) :
    start.world.Run (events.filterMap (inRuntime start.monitor)) s.world := by
  induction run with
  | nil => exact .nil
  | snoc run step ih =>
    rw [List.filterMap_append]
    have same := run.monitor
    cases step with
    | enter => rw [show List.filterMap (inRuntime start.monitor) [.enter _] = [] from rfl, List.append_nil]; exact ih
    | register _ step | copy _ step | release _ _ _ step | runtime _ step => exact ih.snoc (same ▸ step)

/-! ## Registrations -/

theorem mem_interest_of_register (step : s.Step (.register client name) s') : name ∈ s'.interest := by
  cases step with
  | register _ step =>
    cases step
    rw [interest]
    simp [World.overwrite, Monitor.watch]

/-- **Only a release takes a registration away.** -/
theorem mem_interest_of_step (step : s.Step event s') (kept : ∀ other, event ≠ .release other)
    (registered : name ∈ s.interest) : name ∈ s'.interest := by
  cases step with
  | register _ step =>
    cases step
    rw [interest]
    simp only [World.overwrite, Monitor.watch, if_true, OrderedSet.mem_insert]
    exact Or.inl registered
  | enter => exact registered
  | copy _ step => cases step; exact registered
  | release => exact absurd rfl (kept _)
  | runtime apart step =>
    rw [interest, World.monitors_of_spares step apart]
    exact registered

theorem mem_interest_of_run (run : s.Run events s') (kept : ∀ other, .release other ∉ events)
    (registered : name ∈ s.interest) : name ∈ s'.interest := by
  induction run with
  | nil => exact registered
  | snoc _ step ih =>
    refine mem_interest_of_step step (fun other same => ?_) (ih fun other member => ?_)
    · exact kept other (List.mem_append_right _ (List.mem_singleton.2 same.symm))
    · exact kept other (List.mem_append_left _ member)

/-! ## The wait of a client -/

theorem waitOf?_of_copy (step : s.Step (.copy client token) s') :
    ∃ wait, s'.waitOf? client = some wait ∧ wait.token = token ∧ wait.copied.interest = s.interest := by
  cases step with
  | copy _ step =>
    cases step
    exact ⟨⟨s.monitor, token, s.world.monitors s.monitor, .between⟩,
      by simp [waitOf?, World.overwrite, ClientStage.wait?], rfl, rfl⟩

/-- **What one event does to the stage of one client.** -/
inductive Advances (s : Waiter) (client : Nat) : WaiterEvent → ClientStage → ClientStage → Prop where
  | stays (event : WaiterEvent) (stage : ClientStage) : Advances s client event stage stage
  | enters : Advances s client (.enter client) .registering .entered
  | copies (token : Nat) : Advances s client (.copy client token) .entered (.waiting s.world.waits.length)
  | releases (number : Nat) : Advances s client (.release client) (.waiting number) (.served number)

theorem advances_of_step (step : s.Step event s') (client : Nat) :
    s.Advances client event (s.clients client) (s'.clients client) := by
  cases step with
  | register | runtime => exact .stays ..
  | @enter other early =>
    by_cases same : client = other
    · subst same
      simp only [World.overwrite, if_true, early]
      exact .enters
    · simp only [World.overwrite, if_neg same]
      exact .stays ..
  | @copy other token _ entered =>
    by_cases same : client = other
    · subst same
      simp only [World.overwrite, if_true, entered]
      exact .copies token
    · simp only [World.overwrite, if_neg same]
      exact .stays ..
  | @release other number _ _ _ waiting =>
    by_cases same : client = other
    · subst same
      simp only [World.overwrite, if_true, waiting]
      exact .releases number
    · simp only [World.overwrite, if_neg same]
      exact .stays ..

/-- **A client whose wait has been called** goes on with that wait. -/
theorem wait?_of_step (step : s.Step event s') (called : (s.clients client).wait? = some number) :
    (s'.clients client).wait? = some number := by
  have advances := advances_of_step step client
  revert called
  generalize s.clients client = before, s'.clients client = after at advances ⊢
  cases advances with
  | stays | releases => exact id
  | enters | copies => exact nofun

theorem wait?_of_run (run : s.Run events s') (called : (s.clients client).wait? = some number) :
    (s'.clients client).wait? = some number := by
  induction run with
  | nil => exact called
  | snoc _ step ih => exact wait?_of_step step ih

theorem waitOf?_of_step (step : s.Step event s') (found : s.waitOf? client = some wait) :
    ∃ wait', s'.waitOf? client = some wait' ∧ wait'.token = wait.token ∧ wait'.copied = wait.copied := by
  obtain ⟨number, called, found⟩ := Option.bind_eq_some_iff.1 found
  have called' := wait?_of_step step called
  have further : ∃ wait', s'.world.waits[number]? = some wait' ∧ wait'.token = wait.token ∧
      wait'.copied = wait.copied := by
    cases step with
    | enter => exact ⟨wait, found, rfl, rfl⟩
    | register _ step | copy _ step | release _ _ _ step | runtime _ step =>
      obtain ⟨wait', found', moves⟩ := World.exists_wait_of_step step found
      exact ⟨wait', found', moves.same_call.2⟩
  obtain ⟨wait', found', same⟩ := further
  exact ⟨wait', Option.bind_eq_some_iff.2 ⟨number, called', found'⟩, same⟩

/-- **What a wait copied, and its token, stay with it.** -/
theorem waitOf?_of_run (run : s.Run events s') (found : s.waitOf? client = some wait) :
    ∃ wait', s'.waitOf? client = some wait' ∧ wait'.token = wait.token ∧ wait'.copied = wait.copied := by
  induction run with
  | nil => exact ⟨wait, found, rfl, rfl⟩
  | snoc _ step ih =>
    obtain ⟨wait', found', token, copied⟩ := ih
    obtain ⟨wait'', found'', token', copied'⟩ := waitOf?_of_step step found'
    exact ⟨wait'', found'', token'.trans token, copied'.trans copied⟩

/-- **A registration reaches the waits that are called before the next release**, whoever calls them. -/
theorem exists_wait_of_registration
    (run : start.Run (earlier ++ .register client name :: events ++ .copy number token :: later) s)
    (kept : ∀ other, .release other ∉ events) :
    ∃ wait, s.waitOf? number = some wait ∧ wait.token = token ∧ name ∈ wait.copied.interest := by
  obtain ⟨before, after, run', step, further⟩ := run.exists_step rfl
  obtain ⟨_, registered, _, step', between⟩ := run'.exists_step rfl
  obtain ⟨wait, found, asked, copied⟩ := waitOf?_of_copy step
  obtain ⟨wait', found', asked', copied'⟩ := waitOf?_of_run further found
  refine ⟨wait', found', asked'.trans asked, ?_⟩
  rw [copied', copied]
  exact mem_interest_of_run between kept (mem_interest_of_register step')

/-- **A client in whose turn nothing has been copied yet has released nothing.** -/
theorem release_notMem_of_entered (run : start.Run events s) (entered : s.clients client = .entered) :
    .release client ∉ events := by
  intro released
  obtain ⟨earlier, later, rfl⟩ := List.append_of_mem released
  obtain ⟨before, after, -, step, further⟩ := run.exists_step rfl
  have called : ∃ number, (after.clients client).wait? = some number := by
    cases step with
    | release => exact ⟨_, by simp only [World.overwrite, if_true]; rfl⟩
  obtain ⟨number, called⟩ := called
  have called' := wait?_of_run further called
  rw [entered] at called'
  cases called'

theorem register_notMem_of_called (run : s.Run events s') (called : (s.clients client).wait? = some number) :
    .register client name ∉ events := by
  intro registered
  obtain ⟨earlier, later, rfl⟩ := List.append_of_mem registered
  obtain ⟨before, after, run', step, -⟩ := run.exists_step rfl
  have called' := wait?_of_run run' called
  cases step with
  | register early => rw [early] at called'; cases called'

theorem wait?_or_copy_of_step (step : s.Step event s') (called : (s'.clients client).wait? = some number) :
    (s.clients client).wait? = some number ∨ ∃ token, event = .copy client token := by
  have advances := advances_of_step step client
  revert called
  generalize s.clients client = before, s'.clients client = after at advances ⊢
  cases advances with
  | stays | releases => exact Or.inl
  | enters => exact nofun
  | copies token => exact fun _ => Or.inr ⟨token, rfl⟩

theorem exists_copy (fresh : start.Fresh) (run : start.Run events s) (called : (s.clients client).wait? = some number) :
    ∃ earlier token later, events = earlier ++ .copy client token :: later := by
  induction run with
  | nil => rw [fresh.early] at called; cases called
  | @snoc events s s' event run step ih =>
    rcases wait?_or_copy_of_step step called with called | ⟨token, rfl⟩
    · obtain ⟨earlier, token, later, rfl⟩ := ih called
      exact ⟨earlier, token, later ++ [event], by rw [List.append_assoc, List.cons_append]⟩
    · exact ⟨events, token, [], rfl⟩

/-- **What a shared waiter promises for registrations**, in every run:
- a registration reaches every wait that is called before the next release, whoever calls it;
- so a wait has copied what its client registered, all of it before the call, except for what another client released
  in between;
- a result covers what was copied: it is what the graph showed of it, at rest, at one moment between call and return. -/
theorem registrations_reach_waits (fresh : start.Fresh) (run : start.Run events s) :
    (∀ (client other token : Nat) (name : ServiceName) (earlier between later : List WaiterEvent),
      events = earlier ++ .register client name :: between ++ .copy other token :: later →
      (∀ any, .release any ∉ between) →
      ∃ wait, s.waitOf? other = some wait ∧ wait.token = token ∧ name ∈ wait.copied.interest) ∧
    (∀ (client : Nat) (wait : Wait), s.waitOf? client = some wait → ∃ before after : List WaiterEvent,
      events = before ++ .copy client wait.token :: after ∧ (∀ name, .register client name ∉ after) ∧
      ∀ (name : ServiceName) (earlier between : List WaiterEvent),
        before = earlier ++ .register client name :: between →
        name ∈ wait.copied.interest ∨ ∃ other, other ≠ client ∧ .release other ∈ between) ∧
    (∀ (client : Nat) (wait : Wait) (result : QuiescenceResult), s.waitOf? client = some wait →
      wait.stage = .ended (.ok result) → ∃ number moment, s.world.waits[number]? = some wait ∧
        World.EndsAt start.world (events.filterMap (inRuntime start.monitor)) s.world number wait moment ∧
        (∀ name, moment.graph.Reaches wait.copied.interest.toList name → moment.graph.AtRest name) ∧
        result.failed.toList =
          moment.graph.shown start.world.runtime .startFailed wait.copied.interest.toList ∧
        result.problem.toList = moment.graph.shown start.world.runtime .problem wait.copied.interest.toList) := by
  refine ⟨fun client other token name earlier between later whole kept => ?_, fun client wait found => ?_,
    fun client wait result found ended => ?_⟩
  · subst whole
    exact exists_wait_of_registration run kept
  · obtain ⟨number, called, -⟩ := Option.bind_eq_some_iff.1 found
    obtain ⟨before, token, after, rfl⟩ := exists_copy fresh run called
    obtain ⟨middle, next, run', step, further⟩ := run.exists_step rfl
    -- The wait that was called there is the one that the client has in the end.
    obtain ⟨first, begun, asked, -⟩ := waitOf?_of_copy step
    obtain ⟨last, found', asked', -⟩ := waitOf?_of_run further begun
    obtain rfl : wait = last := Option.some.inj (found.symm.trans found')
    obtain ⟨_, called', -⟩ := Option.bind_eq_some_iff.1 begun
    refine ⟨before, after, by rw [asked', asked], fun name => register_notMem_of_called further called', ?_⟩
    rintro name earlier between rfl
    by_cases kept : ∀ other, .release other ∉ between
    · obtain ⟨reached, found', -, copied⟩ := exists_wait_of_registration run kept
      obtain rfl : wait = reached := Option.some.inj (found.symm.trans found')
      exact Or.inl copied
    · obtain ⟨other, released⟩ := not_forall_not.1 kept
      refine Or.inr ⟨other, ?_, released⟩
      rintro rfl
      have entered : middle.clients other = .entered := by
        cases step with
        | copy entered => exact entered
      exact release_notMem_of_entered run' entered
        (List.mem_append_right _ (List.mem_cons_of_mem _ released))
  · obtain ⟨number, -, found⟩ := Option.bind_eq_some_iff.1 found
    obtain ⟨moment, ends, -, shown⟩ := World.exists_moment_of_result fresh.world run.world found ended
    exact ⟨number, moment, found, ends, shown⟩

/-- A waiter on a runtime in which one service failed and blocks another. -/
def office : Waiter where
  world := ⟨⟨0⟩, Graph.shadowed, none, fun _ => .idle, fun _ => false, []⟩
  monitor := 0
  turn := none
  clients := fun _ => .registering

theorem fresh_office : office.Fresh := ⟨⟨Graph.reachable_shadowed, rfl, rfl⟩, rfl, fun _ => rfl⟩

/-- Two clients register, and the first one waits until it is served. -/
def firstTurn : List WaiterEvent :=
  [.register 0 (Graph.simpleName "app"), .register 1 (Graph.simpleName "db"), .enter 0, .copy 0 0,
    .runtime (.look 0), .runtime (.conclude 0), .release 0]

theorem exists_firstTurn : ∃ s, office.Run firstTurn s ∧ s.clients 1 = .registering ∧ s.turn = none ∧
    s.interest = .empty := by
  have asked := Run.nil.snoc
    (show office.Step (.register 0 (Graph.simpleName "app")) _ from .register rfl (.watch ..))
  have asked' := asked.snoc (show Step _ (.register 1 (Graph.simpleName "db")) _ from .register rfl (.watch ..))
  have entered := asked'.snoc (show Step _ (.enter 0) _ from .enter rfl rfl)
  have copied := entered.snoc (show Step _ (.copy 0 0) _ from .copy rfl (.call ..))
  have looked := copied.snoc (show Step _ (.runtime (.look 0)) _ from .runtime rfl (.look rfl rfl rfl))
  have concluded := looked.snoc
    (show Step _ (.runtime (.conclude 0)) _ from .runtime rfl (.conclude rfl rfl rfl))
  let both := (Monitor.idle.watch (Graph.simpleName "app")).watch (Graph.simpleName "db")
  have answered : both.look ⟨0⟩ false Graph.shadowed = some (.ok (both.capture ⟨0⟩ Graph.shadowed)) :=
    Monitor.look_eq_ok_iff.2 ⟨rfl, by cbv, rfl⟩
  have ended : Stage.afterLook (both.look ⟨0⟩ false Graph.shadowed) =
      .ended (.ok (both.capture ⟨0⟩ Graph.shadowed)) := by rw [answered]; rfl
  have released := concluded.snoc (show Step _ (.release 0) _ from .release rfl rfl ended (.clear ..))
  exact ⟨_, released, rfl, rfl, rfl⟩

theorem registrations_reach_first_turn : office.Fresh ∧ ∃ s, office.Run firstTurn s ∧
    ∃ wait, s.waitOf? 0 = some wait ∧ Graph.simpleName "db" ∈ wait.copied.interest := by
  obtain ⟨s, run, -⟩ := exists_firstTurn
  obtain ⟨wait, found, -, copied⟩ := (registrations_reach_waits fresh_office run).1 1 0 0 (Graph.simpleName "db")
    [.register 0 (Graph.simpleName "app")] [.enter 0]
    [.runtime (.look 0), .runtime (.conclude 0), .release 0] rfl (by simp)
  exact ⟨fresh_office, s, run, wait, found, copied⟩

/-- **A wait need not have copied what its client registered**: the second client's registration is gone when the first
one is served. -/
theorem registration_released_by_another : ¬ ∀ (start s : Waiter) (events : List WaiterEvent), start.Fresh →
    start.Run events s → ∀ (client : Nat) (wait : Wait) (name : ServiceName), s.waitOf? client = some wait →
      .register client name ∈ events → name ∈ wait.copied.interest := by
  intro claim
  obtain ⟨s, run, early, free, nothing⟩ := exists_firstTurn
  have entered := run.snoc (.enter early free)
  have step : Step { s with turn := some 1, clients := World.overwrite s.clients 1 .entered } (.copy 1 0) _ :=
    .copy rfl (.call ..)
  obtain ⟨wait, found, -, copied⟩ := waitOf?_of_copy step
  have kept := claim office _ _ fresh_office (entered.snoc step) 1 wait (Graph.simpleName "db") found
    (by simp [firstTurn])
  rw [copied, show interest { s with turn := some 1, clients := _ } = .empty from nothing] at kept
  cases kept

end Waiter
end ServiceStability
