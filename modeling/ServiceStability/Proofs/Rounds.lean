import ServiceStability.Verifier
import ServiceStability.Proofs.Verdict
/-!
# Proofs.Rounds — what repeated verifications leave on a context

A wait ends in one of three ways.  A stable end leaves the context alone, so what a context tells after some rounds is
told by the rounds that were not stable: the last of them has its description there, and any of them may have asked for
a rollback.  Nothing takes a rollback back, and nothing but the settings decides whether a report asks for one.

The source is asked for the same in every round, whatever its answer: what was touched, one wait, and the release.  So
what it answers in a round is known from the rounds before, without the verifier: it is `wait`, asked of `asked`.

- `OperationContext.Conclusion`: the three ways.
- `Verifier.conclusion_round`: a round ends as the wait of its source does.
- `Verifier.source_after`: what has become of the source.
- `Verifier.context_after_rounds`: the context and the source after any rounds.
-/
namespace ServiceStability
namespace OperationContext

/-- **How a wait is concluded**: the outcome, and the context with it. -/
inductive Conclusion (c : OperationContext) (lookup : ServiceLookup) :
    Except WaitError QuiescenceResult → Outcome → OperationContext → Prop where
  | stable {result : QuiescenceResult} (nothing : (diagnose lookup result).isEmpty = true) :
      Conclusion c lookup (.ok result) .stable c
  | failed {result : QuiescenceResult} (something : (diagnose lookup result).isEmpty = false) :
      Conclusion c lookup (.ok result) .failed
        { c with
          rollbackOnly := c.rollbackOnly || c.rollbackOnRuntimeFailure
          failureDescription := some (.report (diagnose lookup result)) }
  | cancelled :
      Conclusion c lookup (.error .cancelled) .cancelled
        { c with rollbackOnly := true, failureDescription := some (.cancelled cancelledText) }

theorem conclusion (c : OperationContext) (lookup : ServiceLookup) (waited : Except WaitError QuiescenceResult) :
    c.Conclusion lookup waited (c.conclude lookup waited).1 (c.conclude lookup waited).2 := by
  rcases waited with ⟨⟨⟩⟩ | result
  · exact .cancelled
  · rw [conclude]
    cases empty : (diagnose lookup result).isEmpty with
    | true =>
      simp only [attach, empty, if_true]
      exact .stable empty
    | false =>
      have failed := Conclusion.failed (c := c) empty
      cases policy : c.rollbackOnRuntimeFailure <;>
        simpa [attach, empty, policy, describeFailure, setRollbackOnly] using failed

namespace Conclusion

variable {c c' : OperationContext} {lookup : ServiceLookup} {waited : Except WaitError QuiescenceResult}
  {outcome : Outcome}

theorem cancelled_iff (conclusion : c.Conclusion lookup waited outcome c') :
    outcome = .cancelled ↔ waited = .error .cancelled := by
  cases conclusion <;> simp

theorem failed_iff (conclusion : c.Conclusion lookup waited outcome c') :
    outcome = .failed ↔ ∃ result, waited = .ok result ∧ (diagnose lookup result).isEmpty = false := by
  cases conclusion <;> simp_all

theorem rollbackOnly_iff (conclusion : c.Conclusion lookup waited outcome c') : c'.rollbackOnly = true ↔
    c.rollbackOnly = true ∨ outcome = .cancelled ∨ c.rollbackOnRuntimeFailure = true ∧ outcome = .failed := by
  cases conclusion <;> simp

theorem eq_of_stable (conclusion : c.Conclusion lookup waited .stable c') : c' = c := by
  cases conclusion
  rfl

theorem description_of_cancelled (conclusion : c.Conclusion lookup waited .cancelled c') :
    c'.failureDescription = some (.cancelled cancelledText) := by
  cases conclusion
  rfl

theorem description_of_failed (conclusion : c.Conclusion lookup waited .failed c') :
    ∃ result, waited = .ok result ∧ c'.failureDescription = some (.report (diagnose lookup result)) := by
  cases conclusion
  exact ⟨_, rfl, rfl⟩

end Conclusion
end OperationContext

namespace Verifier

variable {σ ε : Type} {S : StabilitySource σ ε} {e : Ended σ}

/-- **A round ends in one of the three ways**, as its wait does. -/
theorem conclusion_round (S : StabilitySource σ ε) (v : Verifier σ) (r : Round ε) :
    v.context.Conclusion r.lookup (S.wait r.met (S.registerAll r.touched v.source)).1 (v.round S r).outcome
      (v.round S r).verifier.context :=
  OperationContext.conclusion ..

theorem rounds_append : ∀ (earlier later : List (Round ε)) (v : Verifier σ),
    v.rounds S (earlier ++ later) = v.rounds S earlier ++ (v.after S earlier).rounds S later
  | [], _, _ => rfl
  | r :: earlier, later, v => congrArg (v.round S r :: ·) (rounds_append earlier later (v.round S r).verifier)

theorem after_append (earlier later : List (Round ε)) (v : Verifier σ) :
    v.after S (earlier ++ later) = (v.after S earlier).after S later := List.foldl_append

theorem length_rounds : ∀ (rounds : List (Round ε)) (v : Verifier σ), (v.rounds S rounds).length = rounds.length
  | [], _ => rfl
  | r :: rest, v => congrArg Nat.succ (length_rounds rest (v.round S r).verifier)

theorem exists_round_of_mem : ∀ {rounds : List (Round ε)} {v : Verifier σ}, e ∈ v.rounds S rounds →
    ∃ earlier r, e = (v.after S earlier).round S r
  | r :: rest, v, member => by
    rcases List.mem_cons.1 member with rfl | member
    · exact ⟨[], r, rfl⟩
    · obtain ⟨earlier, r', is⟩ := exists_round_of_mem member
      exact ⟨r :: earlier, r', is⟩

/-- **The source is asked for the same whatever it answers.** -/
theorem source_after : ∀ (rounds : List (Round ε)) (v : Verifier σ),
    (v.after S rounds).source = S.asked v.source rounds
  | [], _ => rfl
  | r :: rest, v => source_after rest (v.round S r).verifier

theorem rollbackOnRuntimeFailure_after (rounds : List (Round ε)) :
    ∀ v : Verifier σ, (v.after S rounds).context.rollbackOnRuntimeFailure = v.context.rollbackOnRuntimeFailure := by
  induction rounds with
  | nil => exact fun _ => rfl
  | cons r rest ih => exact fun v => (ih _).trans (OperationContext.rollbackOnRuntimeFailure_conclude ..)

/-- **Stable rounds leave the context alone.** -/
theorem context_after_of_stable : ∀ (rounds : List (Round ε)) (v : Verifier σ),
    (∀ e ∈ v.rounds S rounds, e.outcome = .stable) → (v.after S rounds).context = v.context
  | [], _, _ => rfl
  | r :: rest, v, stable => by
    obtain ⟨first, others⟩ := List.forall_mem_cons.1 stable
    have conclusion := conclusion_round S v r
    rw [first] at conclusion
    exact (context_after_of_stable rest _ others).trans conclusion.eq_of_stable

/-- **Who asks for a rollback**: any round that is cancelled, and any that fails if the settings have it so. -/
theorem rollbackOnly_after_iff (rounds : List (Round ε)) : ∀ v : Verifier σ,
    (v.after S rounds).context.rollbackOnly = true ↔ v.context.rollbackOnly = true ∨
      (∃ e ∈ v.rounds S rounds, e.outcome = .cancelled) ∨
      v.context.rollbackOnRuntimeFailure = true ∧ ∃ e ∈ v.rounds S rounds, e.outcome = .failed := by
  induction rounds with
  | nil => simp [after, Verifier.rounds]
  | cons r rest ih =>
    intro v
    have step : v.after S (r :: rest) = (v.round S r).verifier.after S rest := rfl
    have policy : (v.round S r).verifier.context.rollbackOnRuntimeFailure = v.context.rollbackOnRuntimeFailure :=
      OperationContext.rollbackOnRuntimeFailure_conclude ..
    rw [step, ih, policy, (conclusion_round S v r).rollbackOnly_iff, Verifier.rounds]
    simp only [List.mem_cons, exists_eq_or_imp]
    grind

/-- **The last round that was not stable has its description on the context.** -/
theorem description_after (v : Verifier σ) (earlier : List (Round ε)) (r : Round ε) (later : List (Round ε))
    (stable : ∀ e ∈ (v.after S (earlier ++ [r])).rounds S later, e.outcome = .stable) :
    (((v.after S earlier).round S r).outcome = .cancelled →
      (v.after S (earlier ++ r :: later)).context.failureDescription =
        some (.cancelled OperationContext.cancelledText)) ∧
    (((v.after S earlier).round S r).outcome = .failed →
      ∃ result, (S.wait r.met (S.registerAll r.touched (v.after S earlier).source)).1 = .ok result ∧
        (v.after S (earlier ++ r :: later)).context.failureDescription =
          some (.report (diagnose r.lookup result))) := by
  have last : v.after S (earlier ++ r :: later) = (v.after S (earlier ++ [r])).after S later := by
    rw [← after_append, List.append_assoc, List.singleton_append]
  have here : v.after S (earlier ++ [r]) = ((v.after S earlier).round S r).verifier := after_append earlier [r] v
  rw [last, context_after_of_stable later _ stable, here]
  have conclusion := conclusion_round S (v.after S earlier) r
  constructor
  · intro cancelled
    rw [cancelled] at conclusion
    exact conclusion.description_of_cancelled
  · intro failed
    rw [failed] at conclusion
    exact conclusion.description_of_failed

/-- Remembering what a source is asked for changes nothing else. -/
theorem registerAll_logged (S : StabilitySource σ ε) : ∀ (names : List ServiceName) (s : σ × List (SourceCall ε)),
    S.logged.registerAll names s = (S.registerAll names s.1, s.2 ++ names.map .register)
  | [], s => by simp [StabilitySource.registerAll]
  | name :: names, s => by
    have first : S.logged.registerAll (name :: names) s =
        S.logged.registerAll names (S.register name s.1, s.2 ++ [.register name]) := rfl
    rw [first, registerAll_logged S names, List.append_assoc, List.map_cons, List.singleton_append]
    rfl

theorem round_logged (S : StabilitySource σ ε) (v : Verifier σ) (log : List (SourceCall ε)) (r : Round ε) :
    (Verifier.round S.logged ⟨(v.source, log), v.context⟩ r).verifier =
      ⟨((v.round S r).verifier.source, log ++ r.calls), (v.round S r).verifier.context⟩ := by
  have registered : Verifier.round S.logged ⟨(v.source, log), v.context⟩ r =
      Verifier.execute S.logged ⟨S.logged.registerAll r.touched (v.source, log), v.context⟩ r := rfl
  rw [registered, registerAll_logged, Round.calls]
  simp only [Verifier.execute, StabilitySource.logged, List.append_assoc, List.singleton_append]
  rfl

/-- **What a source is asked for**: in each round what was touched, then one wait, then the release. -/
theorem after_logged (S : StabilitySource σ ε) : ∀ (rounds : List (Round ε)) (v : Verifier σ)
    (log : List (SourceCall ε)), Verifier.after S.logged ⟨(v.source, log), v.context⟩ rounds =
      ⟨((v.after S rounds).source, log ++ rounds.flatMap Round.calls), (v.after S rounds).context⟩
  | [], v, log => by simp [after]
  | r :: rest, v, log => by
    have first : Verifier.after S.logged ⟨(v.source, log), v.context⟩ (r :: rest) =
        (Verifier.round S.logged ⟨(v.source, log), v.context⟩ r).verifier.after S.logged rest := rfl
    rw [first, round_logged, after_logged S rest (v.round S r).verifier, List.flatMap_cons, List.append_assoc]
    rfl

/-- Each round releases the interest once. -/
theorem countP_isClear_calls (rounds : List (Round ε)) :
    (rounds.flatMap Round.calls).countP SourceCall.isClear = rounds.length := by
  induction rounds with
  | nil => rfl
  | cons r rest ih =>
    have registering : (r.touched.map (SourceCall.register (ε := ε))).countP SourceCall.isClear = 0 := by
      simp [List.countP_map, Function.comp_def, SourceCall.isClear]
    rw [List.flatMap_cons, List.countP_append, ih, Round.calls, List.countP_append, registering, List.length_cons]
    simp [SourceCall.isClear, Nat.add_comm]

/-- **The context and the source after any rounds.**  A round is cancelled exactly if its wait was, and it fails exactly
if there is something to report on the result of the wait.  If all rounds behind it are stable, it has its description
on the context in the end; if all were stable, what was there has stayed.  There is a rollback exactly if there was one
at the beginning, or some round was cancelled, or some round failed and the settings ask for it then.  The settings have
stayed as they were.  A source that has no interest left once it is cleared has none left after a round.  In each round
the source was asked to register what was touched, to wait once, and to clear its interest once. -/
theorem context_after_rounds (S : StabilitySource σ ε) (v : Verifier σ) (rounds : List (Round ε)) :
    let ended := v.rounds S rounds
    let last := v.after S rounds
    ended.length = rounds.length ∧
    (∀ (earlier : List (Round ε)) (r : Round ε) (later : List (Round ε)), rounds = earlier ++ r :: later →
      let waited := (S.wait r.met (S.registerAll r.touched (S.asked v.source earlier))).1
      ∃ (before : List (Ended σ)) (e : Ended σ) (behind : List (Ended σ)),
        ended = before ++ e :: behind ∧ before.length = earlier.length ∧
        (e.outcome = .cancelled ↔ waited = .error .cancelled) ∧
        (e.outcome = .failed ↔ ∃ result, waited = .ok result ∧ (diagnose r.lookup result).isEmpty = false) ∧
        ((∀ further ∈ behind, further.outcome = .stable) →
          (e.outcome = .cancelled →
            last.context.failureDescription = some (.cancelled OperationContext.cancelledText)) ∧
          (e.outcome = .failed → ∃ result, waited = .ok result ∧
            last.context.failureDescription = some (.report (diagnose r.lookup result))))) ∧
    ((∀ e ∈ ended, e.outcome = .stable) → last.context.failureDescription = v.context.failureDescription) ∧
    (last.context.rollbackOnly = true ↔ v.context.rollbackOnly = true ∨ (∃ e ∈ ended, e.outcome = .cancelled) ∨
      v.context.rollbackOnRuntimeFailure = true ∧ ∃ e ∈ ended, e.outcome = .failed) ∧
    (∀ e ∈ ended, e.verifier.context.rollbackOnRuntimeFailure = v.context.rollbackOnRuntimeFailure) ∧
    ((∀ s, S.interest (S.clear s) = []) → ∀ e ∈ ended, S.interest e.verifier.source = []) ∧
    last.source = S.asked v.source rounds ∧
    ∃ calls, Verifier.after S.logged ⟨(v.source, []), v.context⟩ rounds = ⟨(last.source, calls), last.context⟩ ∧
      calls = rounds.flatMap Round.calls ∧ calls.countP SourceCall.isClear = rounds.length := by
  intro ended last
  refine ⟨length_rounds rounds v, ?_, fun stable => ?_, rollbackOnly_after_iff rounds v, fun e member => ?_,
    fun forgets e member => ?_, source_after rounds v, _, after_logged S rounds v [], List.nil_append _, ?_⟩
  · rintro earlier r later rfl waited
    have conclusion := conclusion_round S (v.after S earlier) r
    have described := description_after (S := S) v earlier r later
    rw [source_after] at conclusion described
    rw [after_append earlier [r]] at described
    exact ⟨v.rounds S earlier, (v.after S earlier).round S r, _, rounds_append earlier (r :: later) v,
      length_rounds earlier v, conclusion.cancelled_iff, conclusion.failed_iff, described⟩
  · exact congrArg OperationContext.failureDescription (context_after_of_stable rounds v stable)
  · obtain ⟨earlier, r, rfl⟩ := exists_round_of_mem member
    exact (OperationContext.rollbackOnRuntimeFailure_conclude ..).trans (rollbackOnRuntimeFailure_after earlier v)
  · obtain ⟨earlier, r, rfl⟩ := exists_round_of_mem member
    exact forgets _
  · rw [List.nil_append, countP_isClear_calls]

/-- A verification that is cancelled, one of a failed service, and one of nothing. -/
def troubled : List (Round (Bool × List Graph)) :=
  [⟨[Graph.simpleName "db"], (true, []), Graph.shadowed.lookup ⟨0⟩⟩,
    ⟨[Graph.simpleName "db"], (false, [Graph.shadowed]), Graph.shadowed.lookup ⟨0⟩⟩,
    ⟨[], (false, [Graph.shadowed]), Graph.shadowed.lookup ⟨0⟩⟩]

theorem context_after_troubled :
    let v : Verifier Monitor := ⟨.idle, .new .default⟩
    let last := v.after (Monitor.source ⟨0⟩) troubled
    (v.rounds (Monitor.source ⟨0⟩) troubled).map (·.outcome) = [.cancelled, .failed, .stable] ∧
    last.context.rollbackOnly = true ∧
    (∃ result, ((Monitor.source ⟨0⟩).wait (false, [Graph.shadowed]) (Monitor.idle.watch (Graph.simpleName "db"))).1 =
      .ok result ∧
      last.context.failureDescription = some (.report (diagnose (Graph.shadowed.lookup ⟨0⟩) result))) ∧
    ∀ e ∈ v.rounds (Monitor.source ⟨0⟩) troubled, e.verifier.source.interest.toList = [] := by
  intro v last
  have outcomes : (v.rounds (Monitor.source ⟨0⟩) troubled).map (·.outcome) = [.cancelled, .failed, .stable] := by cbv
  obtain ⟨-, each, -, rollback, -, released, -⟩ := context_after_rounds (Monitor.source ⟨0⟩) v troubled
  obtain ⟨before, e, behind, ended, place, -, -, described⟩ := each _ _ _ (show troubled = [_] ++ _ :: [_] from rfl)
  have split := outcomes
  rw [ended, List.map_append, List.map_cons] at split
  obtain ⟨first, rfl⟩ := List.length_eq_one_iff.1 place
  obtain ⟨-, failed, others⟩ : first.outcome = .cancelled ∧ e.outcome = .failed ∧
      behind.map (·.outcome) = [.stable] := by simpa using split
  have stable : ∀ further ∈ behind, further.outcome = .stable := fun further member =>
    List.mem_singleton.1 (others ▸ List.mem_map_of_mem member)
  obtain ⟨result, waited, description⟩ := (described stable).2 failed
  refine ⟨outcomes, rollback.2 (Or.inr (Or.inl ?_)), ⟨result, waited, description⟩, released fun _ => rfl⟩
  exact List.mem_map.1 (outcomes ▸ List.mem_cons_self)

end Verifier
end ServiceStability
