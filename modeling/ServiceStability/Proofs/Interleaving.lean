import ServiceStability.Proofs.Verdict
import ServiceStability.Waiting
/-!
# Proofs.Interleaving — waits under every order of events

Whatever happens between two looks of a wait, a look is made with the lock held, so what it decides and what it captures
belong to one state of the graph; and the token is read before, so a look that begins after the cancellation ends in it.
Waits write nothing but their own stages.

- `World.Moves`: what one event does to one wait.
- `World.Sound`: the invariant of runs.
- `World.EndsAt`: the moment at which a wait gets its answer.
- `World.exists_moment_of_result`: what a result tells of that moment.
- `World.exists_quiet_run`: a run without its waits.
-/
namespace ServiceStability
namespace World

variable {start w w' : World} {event : Event} {events : List Event} {number : Nat} {wait wait' : Wait}

/-- What one event does to one wait. -/
inductive Moves (w : World) (number : Nat) : Event → Wait → Wait → Prop where
  | stays (event : Event) (wait : Wait) : Moves w number event wait wait
  | looks {wait : Wait} (between : wait.stage = .between) :
      Moves w number (.look number) wait (wait.at (.looking (w.cancelled wait.token)))
  | concludes {wait : Wait} {seen : Bool} (held : w.holder = some (.wait number))
      (looking : wait.stage = .looking seen) :
      Moves w number (.conclude number) wait (wait.at (.afterLook (wait.copied.look w.runtime seen w.graph)))

theorem eq_or_found_of_set {waits : List Wait} {place : Nat} (found : (waits.set place wait)[number]? = some wait') :
    place = number ∧ wait = wait' ∨ waits[number]? = some wait' := by
  rw [List.getElem?_set] at found
  split at found
  · rename_i same
    split at found
    · exact Or.inl ⟨same, Option.some.inj found⟩
    · cases found
  · exact Or.inr found

/-- **A wait after an event** is a wait from before, moved on, or one that has just been called. -/
theorem wait_of_step (step : w.Step event w') (found : w'.waits[number]? = some wait') :
    (∃ wait, w.waits[number]? = some wait ∧ w.Moves number event wait wait') ∨
      w.waits.length = number ∧ event = .call wait'.monitor wait'.token ∧ w.monitors wait'.monitor = wait'.copied ∧
        wait'.stage = .between := by
  cases step with
  | watch | clear | cancel | begin | refuse | finish => exact Or.inl ⟨wait', found, .stays ..⟩
  | call monitor token =>
    rcases Nat.lt_trichotomy number w.waits.length with before | rfl | behind
    · rw [List.getElem?_append_left before] at found
      exact Or.inl ⟨wait', found, .stays ..⟩
    · rw [List.getElem?_append_right (Nat.le_refl _), Nat.sub_self] at found
      cases found
      exact Or.inr ⟨rfl, rfl, rfl, rfl⟩
    · rw [List.getElem?_eq_none (by simp; omega)] at found
      cases found
  | look free found' between =>
    rcases eq_or_found_of_set found with ⟨rfl, rfl⟩ | found
    · exact Or.inl ⟨_, found', .looks between⟩
    · exact Or.inl ⟨wait', found, .stays ..⟩
  | conclude held found' looking =>
    rcases eq_or_found_of_set found with ⟨rfl, rfl⟩ | found
    · exact Or.inl ⟨_, found', .concludes held looking⟩
    · exact Or.inl ⟨wait', found, .stays ..⟩

theorem Moves.same_call (moves : w.Moves number event wait wait') :
    wait'.monitor = wait.monitor ∧ wait'.token = wait.token ∧ wait'.copied = wait.copied := by
  cases moves with
  | stays | looks | concludes => exact ⟨rfl, rfl, rfl⟩

theorem length_waits_le (step : w.Step event w') : w.waits.length ≤ w'.waits.length := by
  cases step with
  | watch | clear | cancel | begin | refuse | finish => exact Nat.le_refl _
  | call => simp
  | look | conclude => simp

theorem exists_wait_of_step (step : w.Step event w') (found : w.waits[number]? = some wait) :
    ∃ wait', w'.waits[number]? = some wait' ∧ w.Moves number event wait wait' := by
  have early : number < w.waits.length := (List.getElem?_eq_some_iff.1 found).1
  have late : number < w'.waits.length := Nat.lt_of_lt_of_le early (length_waits_le step)
  refine ⟨w'.waits[number], List.getElem?_eq_getElem late, ?_⟩
  rcases wait_of_step step (List.getElem?_eq_getElem late) with ⟨earlier, found', moves⟩ | ⟨new, -⟩
  · obtain rfl : wait = earlier := Option.some.inj (found.symm.trans found')
    exact moves
  · omega

theorem cancelled_of_step (step : w.Step event w') {token : Nat} (cancelled : w.cancelled token = true) :
    w'.cancelled token = true := by
  cases step with
  | cancel other =>
    simp only [overwrite]
    split
    · rfl
    · exact cancelled
  | watch | clear | begin | refuse | finish | call | look | conclude => exact cancelled

theorem runtime_of_run (run : start.Run events w) : w.runtime = start.runtime := by
  induction run with
  | nil => rfl
  | snoc _ step ih => cases step <;> exact ih

/-- **A runtime on which no operation and no wait has begun.** -/
structure Fresh (w : World) : Prop where
  reachable : w.graph.Reachable
  free : w.holder = none
  uncalled : w.waits = []

/-- **The invariant.**  The graph is one that callers can bring about, unless an operation is under way; then it is a
change away from one.  A wait that has read a cancelled token has read it right. -/
structure Sound (w : World) : Prop where
  whole : w.holder ≠ some .operation → w.graph.Reachable
  changed : w.holder = some .operation →
    ∃ (g : Graph) (operation : Operation), g.Reachable ∧ g.change operation = .ok w.graph
  honest : ∀ (number : Nat) (wait : Wait), w.waits[number]? = some wait → wait.stage = .looking true →
    w.cancelled wait.token = true

theorem Fresh.sound (fresh : w.Fresh) : w.Sound where
  whole := fun _ => fresh.reachable
  changed := fun held => by rw [fresh.free] at held; cases held
  honest := fun number wait found => by rw [fresh.uncalled] at found; cases found

theorem Sound.step (sound : w.Sound) (step : w.Step event w') : w'.Sound := by
  have honest : ∀ (number : Nat) (wait : Wait), w'.waits[number]? = some wait → wait.stage = .looking true →
      w'.cancelled wait.token = true := by
    intro number wait' found looking
    refine cancelled_of_step step ?_
    rcases wait_of_step step found with ⟨wait, found', moves⟩ | ⟨-, -, -, between⟩
    · cases moves with
      | stays => exact sound.honest number _ found' looking
      | looks => exact Stage.looking.inj looking
      | concludes held earlier =>
        revert looking
        simp only [Wait.at]
        cases wait.copied.look w.runtime _ w.graph <;> exact fun looking => nomatch looking
    · rw [between] at looking; cases looking
  cases step with
  | watch | clear | cancel | call | refuse => exact ⟨sound.whole, sound.changed, honest⟩
  | begin free done =>
    exact ⟨fun idle => absurd rfl idle, fun _ => ⟨w.graph, _, sound.whole (by rw [free]; nofun), done⟩, honest⟩
  | finish held =>
    obtain ⟨g, operation, reachable, done⟩ := sound.changed held
    have applied : g.apply operation = .ok w.graph.resolve := by rw [Graph.apply, done]; rfl
    exact ⟨fun _ => reachable.apply applied, nofun, honest⟩
  | look free => exact ⟨fun _ => sound.whole (by rw [free]; nofun), nofun, honest⟩
  | conclude held => exact ⟨fun _ => sound.whole (by rw [held]; nofun), nofun, honest⟩

theorem Sound.run (sound : start.Sound) (run : start.Run events w) : w.Sound := by
  induction run with
  | nil => exact sound
  | snoc _ step ih => exact ih.step step

/-- **Every wait has been called**, and works on the interest as it was then. -/
theorem exists_call (fresh : start.Fresh) (run : start.Run events w) : ∀ {number : Nat} {wait : Wait},
    w.waits[number]? = some wait → ∃ before between called,
      events = before ++ .call wait.monitor wait.token :: between ∧ start.Run before called ∧
      called.Run (.call wait.monitor wait.token :: between) w ∧ called.waits.length = number ∧
      called.monitors wait.monitor = wait.copied := by
  induction run with
  | nil =>
    intro number wait found
    rw [fresh.uncalled] at found
    cases found
  | @snoc events w w' event run step ih =>
    intro number wait' found
    rcases wait_of_step step found with ⟨wait, found', moves⟩ | ⟨new, rfl, copied, -⟩
    · obtain ⟨before, between, called, rfl, run', further, place, copied⟩ := ih found'
      obtain ⟨monitor, token, same⟩ := moves.same_call
      rw [monitor, token, same]
      exact ⟨before, between ++ [event], called, by rw [List.append_assoc, List.cons_append], run',
        further.snoc step, place, copied⟩
    · exact ⟨events, [], w, rfl, run, .snoc .nil step, new, copied⟩

/-- **A wait gets its answer at a moment of a run**: behind its call, when it copied the interest of its monitor, and
right before it concludes. -/
def EndsAt (start : World) (events : List Event) (w : World) (number : Nat) (wait : Wait) (moment : World) : Prop :=
  ∃ before between after called,
    events = before ++ (.call wait.monitor wait.token :: between) ++ .conclude number :: after ∧
    start.Run before called ∧ called.Run (.call wait.monitor wait.token :: between) moment ∧
    moment.Run (.conclude number :: after) w ∧
    called.waits.length = number ∧ called.monitors wait.monitor = wait.copied

/-- **A wait that is over had a last look**, with the lock held and its token read. -/
theorem exists_moment (fresh : start.Fresh) (run : start.Run events w) {answer : Except WaitError QuiescenceResult} :
    ∀ {number : Nat} {wait : Wait}, w.waits[number]? = some wait → wait.stage = .ended answer →
      ∃ moment seen, EndsAt start events w number wait moment ∧ moment.holder = some (.wait number) ∧
        (seen = true → moment.cancelled wait.token = true) ∧
        wait.copied.look moment.runtime seen moment.graph = some answer := by
  induction run with
  | nil =>
    intro number wait found
    rw [fresh.uncalled] at found
    cases found
  | @snoc events w w' event run step ih =>
    intro number wait' found ended
    rcases wait_of_step step found with ⟨wait, found', moves⟩ | ⟨-, -, -, between⟩
    · cases moves with
      | stays =>
        obtain ⟨moment, seen, ends, rest⟩ := ih found' ended
        obtain ⟨before, between, after, called, rfl, run', further, last, place⟩ := ends
        refine ⟨moment, seen, ⟨before, between, after ++ [event], called, ?_, run', further, ?_, place⟩, rest⟩
        · rw [List.append_assoc, List.cons_append]
        · exact last.snoc step
      | looks => cases ended
      | @concludes _ seen held looking =>
        obtain ⟨before, between, called, rfl, run', further, place⟩ := exists_call fresh run found'
        refine ⟨w, seen, ⟨before, between, [], called, rfl, run', further, .snoc .nil step, place⟩, held, ?_, ?_⟩
        · rintro rfl
          exact (fresh.sound.run run).honest number wait found' looking
        · revert ended
          simp only [Wait.at]
          cases wait.copied.look w.runtime seen w.graph with
          | none => exact fun ended => nomatch ended
          | some answer' => exact fun ended => congrArg some (Stage.ended.inj ended)
    · rw [between] at ended; cases ended

/-- **A result belongs to one moment between call and return**: all that the copied interest leads to was at rest then,
and the result is what the graph showed of that interest. -/
theorem exists_moment_of_result {result : QuiescenceResult} (fresh : start.Fresh) (run : start.Run events w)
    (found : w.waits[number]? = some wait) (ended : wait.stage = .ended (.ok result)) :
    ∃ moment, EndsAt start events w number wait moment ∧ moment.graph.Reachable ∧
      (∀ name, moment.graph.Reaches wait.copied.interest.toList name → moment.graph.AtRest name) ∧
      result.failed.toList = moment.graph.shown start.runtime .startFailed wait.copied.interest.toList ∧
      result.problem.toList = moment.graph.shown start.runtime .problem wait.copied.interest.toList := by
  obtain ⟨moment, seen, ends, held, -, looked⟩ := exists_moment fresh run found ended
  obtain ⟨-, atRest, rfl⟩ := Monitor.look_eq_ok_iff.1 looked
  obtain ⟨before, between, after, called, -, run', further, -⟩ := id ends
  have reachable : moment.graph.Reachable := ((fresh.sound.run run').run further).whole (by rw [held]; nofun)
  have runtime : moment.runtime = start.runtime := (runtime_of_run further).trans (runtime_of_run run')
  rw [← runtime]
  exact ⟨moment, ends, reachable, Graph.isQuiescent_iff.1 atRest, Monitor.toList_capture reachable.settled.named⟩

/-- **A wait that cannot end well any more**: its token is cancelled, and no look from before is under way. -/
def Doomed (w : World) (number : Nat) : Prop :=
  ∃ wait, w.waits[number]? = some wait ∧ w.cancelled wait.token = true ∧
    (wait.stage = .between ∨ wait.stage = .looking true ∨ wait.stage = .ended (.error .cancelled))

theorem Doomed.step (doomed : w.Doomed number) (step : w.Step event w') : w'.Doomed number := by
  obtain ⟨wait, found, cancelled, stage⟩ := doomed
  obtain ⟨wait', found', moves⟩ := exists_wait_of_step step found
  refine ⟨wait', found', ?_, ?_⟩
  · rw [moves.same_call.2.1]
    exact cancelled_of_step step cancelled
  · cases moves with
    | stays => exact stage
    | looks => exact Or.inr (Or.inl (by rw [cancelled]; rfl))
    | @concludes _ seen held looking =>
      obtain rfl : seen = true := by
        rcases stage with is | is | is <;> rw [looking] at is
        · cases is
        · exact Stage.looking.inj is
        · cases is
      exact Or.inr (Or.inr rfl)

theorem Doomed.run (doomed : w.Doomed number) (run : w.Run events w') : w'.Doomed number := by
  induction run with
  | nil => exact doomed
  | snoc _ step ih => exact ih.step step

/-- **Two runtimes that waits alone tell apart**: in the second no wait holds the lock. -/
structure AlikeButForWaits (w quiet : World) : Prop where
  graph : quiet.graph = w.graph
  monitors : quiet.monitors = w.monitors
  cancelled : quiet.cancelled = w.cancelled
  operation : quiet.holder = some .operation ↔ w.holder = some .operation
  unheld : ∀ number, quiet.holder ≠ some (.wait number)

theorem AlikeButForWaits.free {quiet : World} (alike : w.AlikeButForWaits quiet) (free : w.holder = none) :
    quiet.holder = none := by
  match holder : quiet.holder with
  | none => rfl
  | some .operation => rw [alike.operation.1 holder] at free; cases free
  | some (.wait number) => exact absurd holder (alike.unheld number)

theorem AlikeButForWaits.of_wait {quiet : World} (alike : w.AlikeButForWaits quiet) (own : event.isOfWait = true)
    (step : w.Step event w') : w'.AlikeButForWaits quiet := by
  obtain ⟨graph, monitors, cancelled, operation, unheld⟩ := alike
  cases step with
  | watch | clear | cancel | begin | refuse | finish => cases own
  | call => exact ⟨graph, monitors, cancelled, operation, unheld⟩
  | look free =>
    refine ⟨graph, monitors, cancelled, operation.trans ?_, unheld⟩
    rw [free]
    exact ⟨nofun, nofun⟩
  | conclude held =>
    refine ⟨graph, monitors, cancelled, operation.trans ?_, unheld⟩
    rw [held]
    exact ⟨nofun, nofun⟩

theorem AlikeButForWaits.of_other {quiet : World} (alike : w.AlikeButForWaits quiet) (other : event.isOfWait = false)
    (step : w.Step event w') : ∃ quiet', quiet.Step event quiet' ∧ w'.AlikeButForWaits quiet' := by
  have unlocked := alike.free
  obtain ⟨graph, monitors, cancelled, operation, unheld⟩ := alike
  cases step with
  | call | look | conclude => cases other
  | watch monitor name =>
    exact ⟨_, .watch monitor name, graph, by rw [monitors], cancelled, operation, unheld⟩
  | clear monitor => exact ⟨_, .clear monitor, graph, by rw [monitors], cancelled, operation, unheld⟩
  | cancel token => exact ⟨_, .cancel token, graph, monitors, by rw [cancelled], operation, unheld⟩
  | begin free done =>
    exact ⟨_, .begin (unlocked free) (graph ▸ done), rfl, monitors, cancelled, Iff.rfl, nofun⟩
  | refuse free refused =>
    exact ⟨_, .refuse (unlocked free) (graph ▸ refused), graph, monitors, cancelled, operation, unheld⟩
  | finish held =>
    exact ⟨_, .finish (operation.2 held), by rw [graph], monitors, cancelled, Iff.rfl, nofun⟩

/-- **A run without its waits is a run**, with the same graph, interests and tokens in the end. -/
theorem exists_quiet_run (free : start.holder = none) (run : start.Run events w) :
    ∃ quiet, start.Run (events.filter fun event => !event.isOfWait) quiet ∧ w.AlikeButForWaits quiet := by
  induction run with
  | nil => exact ⟨start, .nil, rfl, rfl, rfl, Iff.rfl, by rw [free]; nofun⟩
  | @snoc events w w' event run step ih =>
    obtain ⟨quiet, run', alike⟩ := ih
    rw [List.filter_append]
    cases own : event.isOfWait with
    | true => exact ⟨quiet, by simpa [own] using run', alike.of_wait own step⟩
    | false =>
      obtain ⟨quiet', step', alike'⟩ := alike.of_other own step
      exact ⟨quiet', by simpa [own] using run'.snoc step', alike'⟩

/-- **Waits are atomic, and they change nothing.**  In every run, whatever the order of its events:
- a wait that returned a result did so at a moment between its call and its return at which all that its interest leads
  to was at rest, and the result is what the graph showed of the interest at that moment;
- a wait that returned as cancelled had its token cancelled at such a moment;
- a wait that is not looking when its token is cancelled never returns a result afterwards;
- without the waits, the run would have ended in the same graph, interests and tokens. -/
theorem waits_are_atomic (fresh : start.Fresh) (run : start.Run events w) :
    (∀ (number : Nat) (wait : Wait) (result : QuiescenceResult), w.waits[number]? = some wait →
      wait.stage = .ended (.ok result) → ∃ moment, EndsAt start events w number wait moment ∧ moment.graph.Reachable ∧
        (∀ name, moment.graph.Reaches wait.copied.interest.toList name → moment.graph.AtRest name) ∧
        result.failed.toList = moment.graph.shown start.runtime .startFailed wait.copied.interest.toList ∧
        result.problem.toList = moment.graph.shown start.runtime .problem wait.copied.interest.toList) ∧
    (∀ (number : Nat) (wait : Wait), w.waits[number]? = some wait → wait.stage = .ended (.error .cancelled) →
      ∃ moment, EndsAt start events w number wait moment ∧ moment.cancelled wait.token = true) ∧
    (∀ (number : Nat) (wait : Wait), w.waits[number]? = some wait → wait.stage = .between →
      w.cancelled wait.token = true → ∀ (later : List Event) (w' : World), w.Run later w' →
      ∀ (wait' : Wait) (result : QuiescenceResult), w'.waits[number]? = some wait' →
        wait'.stage ≠ .ended (.ok result)) ∧
    ∃ quiet, start.Run (events.filter fun event => !event.isOfWait) quiet ∧ quiet.graph = w.graph ∧
      quiet.monitors = w.monitors ∧ quiet.cancelled = w.cancelled := by
  refine ⟨fun _ _ _ => exists_moment_of_result fresh run, fun number wait found ended => ?_,
    fun number wait found between cancelled later w' further wait' result found' ended => ?_, ?_⟩
  · obtain ⟨moment, seen, ends, -, honest, looked⟩ := exists_moment fresh run found ended
    refine ⟨moment, ends, honest ?_⟩
    cases seen with
    | true => rfl
    | false =>
      simp only [Monitor.look] at looked
      split at looked
      · rename_i impossible; cases impossible
      · split at looked <;> cases looked
  · have doomed : w.Doomed number := ⟨wait, found, cancelled, Or.inl between⟩
    obtain ⟨last, found'', -, stage⟩ := doomed.run further
    obtain rfl : wait' = last := Option.some.inj (found'.symm.trans found'')
    rw [ended] at stage
    rcases stage with is | is | is <;> cases is
  · obtain ⟨quiet, run', alike⟩ := exists_quiet_run fresh.free run
    exact ⟨quiet, run', alike.graph, alike.monitors, alike.cancelled⟩

/-- **An operation that goes through**, and nothing before it is over. -/
theorem Run.apply {g : Graph} (run : start.Run events w) (operation : Operation) (free : w.holder = none)
    (applied : w.graph.apply operation = .ok g) :
    start.Run (events ++ [.begin operation, .finish]) { w with graph := g, holder := none } := by
  rw [Graph.apply] at applied
  cases changed : w.graph.change operation with
  | error problem => rw [changed] at applied; cases applied
  | ok g' =>
    rw [changed] at applied
    cases applied
    have done := (run.snoc (.begin free changed)).snoc (.finish rfl)
    rwa [List.append_assoc] at done

/-- **A look of a wait**, and nothing before it is over. -/
theorem Run.look (run : start.Run events w) (number : Nat) (free : w.holder = none)
    (found : w.waits[number]? = some wait) (between : wait.stage = .between) :
    start.Run (events ++ [.look number, .conclude number])
      { w with
        holder := none
        waits := w.waits.set number
          (wait.at (.afterLook (wait.copied.look w.runtime (w.cancelled wait.token) w.graph))) } := by
  have early : number < w.waits.length := (List.getElem?_eq_some_iff.1 found).1
  have done := (run.snoc (.look free found between)).snoc (.conclude rfl (List.getElem?_set_self early) rfl)
  rwa [List.append_assoc, List.set_set] at done

/-- A runtime with two monitors: the first watches a blocked service, and the others the failed one that blocks it. -/
def crowded : World where
  runtime := ⟨0⟩
  graph := Graph.shadowed
  holder := none
  monitors := fun monitor => .watch .idle (Graph.simpleName (if monitor = 0 then "app" else "db"))
  cancelled := fun _ => false
  waits := []

/-- The graph of that runtime while the start of the failed service is tried again. -/
def tried (db app : Substate) (failure : Option StartFailure) : Graph := .ofList
  [(Graph.simpleName "db", ⟨Graph.simpleName "db", .active, db, .empty, .empty, failure⟩),
    (Graph.simpleName "app", ⟨Graph.simpleName "app", .active, app, .ofList [Graph.simpleName "db"], .empty, none⟩)]

/-- The runtime when two waits have been called and the first monitor was cleared behind the back of its wait. -/
def crossed (g : Graph) (cancelled : Nat → Bool) (first second : Stage) : World where
  runtime := ⟨0⟩
  graph := g
  holder := none
  monitors := overwrite crowded.monitors 0 .idle
  cancelled := cancelled
  waits :=
    [⟨0, 0, .watch .idle (Graph.simpleName "app"), first⟩, ⟨1, 1, .watch .idle (Graph.simpleName "db"), second⟩]

/-- The first wait looks while the failed service is started again, and goes on; the second one is cancelled.  Then the
start fails once more, the first wait looks again, and behind it the failure is forgotten. -/
def crossing : List Event :=
  [.call 0 0, .call 1 1, .clear 0, .begin (.retry (Graph.simpleName "db")), .finish,
    .begin (.start (Graph.simpleName "db")), .finish, .look 0, .conclude 0, .cancel 1, .look 1, .conclude 1,
    .begin (.fail (Graph.simpleName "db") ⟨"refused".toList, []⟩), .finish, .look 0, .conclude 0,
    .begin (.retry (Graph.simpleName "db")), .finish]

theorem crossing_waits : crowded.Fresh ∧ ∃ w, crowded.Run crossing w ∧ w.graph = tried .down .down none ∧
    (∃ wait result moment, w.waits[0]? = some wait ∧ wait.stage = .ended (.ok result) ∧
      EndsAt crowded crossing w 0 wait moment ∧ result.problem.keys = [Graph.simpleName "app"] ∧
      result.problem.toList = moment.graph.shown ⟨0⟩ .problem [Graph.simpleName "app"]) ∧
    ∃ wait moment, w.waits[1]? = some wait ∧ wait.stage = .ended (.error .cancelled) ∧
      EndsAt crowded crossing w 1 wait moment ∧ moment.cancelled 1 = true := by
  have fresh : crowded.Fresh := ⟨Graph.reachable_shadowed, rfl, rfl⟩
  let app : Monitor := .watch .idle (Graph.simpleName "app")
  let one := overwrite crowded.cancelled 1 true
  let idle := tried .down .down none
  let starting := tried .starting .down none
  let broken := tried .startFailed .problem (some ⟨"refused".toList, []⟩)
  have called : crowded.Run _ (crossed Graph.shadowed crowded.cancelled .between .between) :=
    ((Run.nil.snoc (.call 0 0)).snoc (.call 1 1)).snoc (.clear 0)
  have forgotten : crowded.Run _ (crossed idle crowded.cancelled .between .between) :=
    called.apply (.retry (Graph.simpleName "db")) rfl (by cbv)
  have begun : crowded.Run _ (crossed starting crowded.cancelled .between .between) :=
    forgotten.apply (.start (Graph.simpleName "db")) rfl (by cbv)
  have unrest : Stage.afterLook (app.look ⟨0⟩ false starting) = .between := by cbv
  have looked : crowded.Run _ (crossed starting crowded.cancelled .between .between) :=
    unrest ▸ begun.look 0 rfl rfl rfl
  have stopped : crowded.Run _ (crossed starting one .between (.ended (.error .cancelled))) :=
    (looked.snoc (.cancel 1)).look 1 rfl rfl rfl
  have failed : crowded.Run _ (crossed broken one .between (.ended (.error .cancelled))) :=
    stopped.apply (.fail (Graph.simpleName "db") ⟨"refused".toList, []⟩) rfl (by cbv)
  have rest : Stage.afterLook (app.look ⟨0⟩ false broken) = .ended (.ok (app.capture ⟨0⟩ broken)) := by
    rw [Monitor.look_eq_ok_iff.2 ⟨rfl, by cbv, rfl⟩]
    rfl
  have answered : crowded.Run _
      (crossed broken one (.ended (.ok (app.capture ⟨0⟩ broken))) (.ended (.error .cancelled))) :=
    rest ▸ failed.look 0 rfl rfl rfl
  have run : crowded.Run crossing
      (crossed idle one (.ended (.ok (app.capture ⟨0⟩ broken))) (.ended (.error .cancelled))) :=
    answered.apply (.retry (Graph.simpleName "db")) rfl (by cbv)
  obtain ⟨results, cancellations, -⟩ := waits_are_atomic fresh run
  obtain ⟨moment, ends, -, -, -, problem⟩ := results 0 _ _ rfl rfl
  obtain ⟨moment', ends', token⟩ := cancellations 1 _ rfl rfl
  exact ⟨fresh, _, run, rfl, ⟨_, _, moment, rfl, rfl, ends, by cbv, problem⟩, _, moment', rfl, rfl, ends', token⟩

end World
end ServiceStability
