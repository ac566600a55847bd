import ServiceStability.CommandLine.Run
import ServiceStability.Proofs.Verdict
/-!
# Proofs.WholeSnapshot — a whole snapshot verified

A restored graph is at rest, and with all of its services touched nothing can hide behind a service that was not.  So
the answer of a verification can be read off the entries: it depends on each entry and on the entries of what it lists,
and on no chain.

- `RuntimeSnapshot.HasProblem`: the condition on the entries.
- `RuntimeSnapshot.leavesNoTrace_iff`: it is the condition on the restored graph.
-/
namespace ServiceStability
namespace RuntimeSnapshot

open ServiceStability.Graph

variable {s : RuntimeSnapshot} {g : Graph} {e : ServiceEntry} {r : ServiceRecord} {name : ServiceName}

/-- **A name that no entry of a snapshot can supply**: it has no entry, or one that is not meant to run. -/
def Lacks (s : RuntimeSnapshot) (name : ServiceName) : Prop :=
  name ∉ s.names ∨ ∃ e ∈ s.services, e.name = name ∧ (e.mode = .never ∨ e.mode = .remove)

/-- **An entry that is a problem by itself**: it failed, or it is down, meant to run, and lists something lacking. -/
def HasProblem (s : RuntimeSnapshot) : Prop :=
  (∃ e ∈ s.services, e.state = .failed) ∨
    ∃ e ∈ s.services, e.state = .down ∧ e.mode ≠ .never ∧ ∃ dependency ∈ e.dependencies, s.Lacks dependency

instance (s : RuntimeSnapshot) (name : ServiceName) : Decidable (s.Lacks name) :=
  inferInstanceAs (Decidable (_ ∨ _))

instance (s : RuntimeSnapshot) : Decidable s.HasProblem := inferInstanceAs (Decidable (_ ∨ _))

theorem exists_record_of_mem (restored : s.restore = .ok g) (member : e ∈ s.services) :
    ∃ r, g.get? e.name = some r ∧ e.toRecord.Alike r := by
  obtain ⟨-, h, entries, rfl⟩ := restore_eq_ok_iff.1 restored
  have found : h.get? e.name = some e.toRecord := by
    rw [OrderedMap.get?_eq_some_iff, entries]
    exact List.mem_map.2 ⟨e, member, rfl⟩
  exact (resolution_resolve h).alike.exists_record found

theorem exists_entry_of_get? (restored : s.restore = .ok g) (found : g.get? name = some r) :
    ∃ e ∈ s.services, e.name = name ∧ e.toRecord.Alike r := by
  obtain ⟨-, h, entries, rfl⟩ := restore_eq_ok_iff.1 restored
  obtain ⟨q, found', same⟩ := (resolution_resolve h).alike.symm.exists_record found
  rw [OrderedMap.get?_eq_some_iff, entries] at found'
  obtain ⟨e, member, pair⟩ := List.mem_map.1 found'
  cases pair
  exact ⟨e, member, rfl, same.symm⟩

theorem substate_of_alike (same : e.toRecord.Alike r) :
    (r.substate = .startFailed ↔ e.state = .failed) ∧ (r.substate.isDormant = true ↔ e.state = .down) ∧
      r.substate.isLeaving = false ∧ r.substate ≠ .starting := by
  have substates : e.state.substate.Alike r.substate := same.substate
  cases state : e.state with
  | down =>
    rw [state] at substates
    have dormant : r.substate.isDormant = true := substates.isDormant_eq ▸ rfl
    rcases Substate.isDormant_iff.1 dormant with is | is | is <;> rw [is] <;> decide
  | up =>
    rw [state] at substates
    rw [← substates.eq_of_not_dormant rfl]
    decide
  | failed =>
    rw [state] at substates
    rw [← substates.eq_of_not_dormant rfl]
    decide

/-- **A restored graph is at rest.** -/
theorem atRest_of_restore (restored : s.restore = .ok g) (name : ServiceName) : g.AtRest name := by
  intro r found
  obtain ⟨e, -, -, same⟩ := exists_entry_of_get? restored found
  obtain ⟨-, -, stays, still⟩ := substate_of_alike same
  rw [← Bool.not_eq_false, Substate.isRest_eq_false_iff]
  rintro (new | starting | removing)
  · exact (Reachable.restore restored).settled.substate_ne_new found new
  · exact still starting
  · rw [removing] at stays; cases stays

theorem outOfReach_iff (restored : s.restore = .ok g) : g.OutOfReach name ↔ s.Lacks name := by
  constructor
  · intro out
    by_cases listed : name ∈ s.names
    · obtain ⟨e, member, rfl⟩ := List.mem_map.1 listed
      obtain ⟨r, found, same⟩ := exists_record_of_mem restored member
      have stays := (substate_of_alike same).2.2.1
      refine Or.inr ⟨e, member, rfl, ?_⟩
      rw [show e.mode = r.mode from same.mode]
      rcases out r found with never | remove | removing | removed
      · exact Or.inl never
      · exact Or.inr remove
      · rw [removing] at stays; cases stays
      · rw [removed] at stays; cases stays
    · exact Or.inl listed
  · rintro (unlisted | ⟨e, member, rfl, inert⟩) r found
    · obtain ⟨e, member, rfl, -⟩ := exists_entry_of_get? restored found
      exact absurd (List.mem_map.2 ⟨e, member, rfl⟩) unlisted
    · obtain ⟨r', found', same⟩ := exists_record_of_mem restored member
      obtain rfl : r = r' := Option.some.inj (found.symm.trans found')
      rw [← show e.mode = r.mode from same.mode]
      exact inert.imp_right Or.inl

/-- **With every service touched, a restored graph leaves no trace exactly when no entry is a problem by itself.** -/
theorem leavesNoTrace_iff (restored : s.restore = .ok g) {touched : List ServiceName}
    (all : ∀ name, name ∈ touched ↔ name ∈ g.keys) : g.LeavesNoTrace touched ↔ ¬ s.HasProblem := by
  have settled := (Reachable.restore restored).settled
  have dependencies : ∀ {e : ServiceEntry} {r : ServiceRecord}, e.toRecord.Alike r → ∀ dependency,
      dependency ∈ r.dependencies ↔ dependency ∈ e.dependencies := fun same dependency => by
    rw [← same.dependencies]; exact OrderedSet.mem_ofList
  constructor
  · rintro ⟨unfailed, supplied, -⟩ (⟨e, member, failed⟩ | ⟨e, member, down, meant, dependency, listed, lacking⟩)
    · obtain ⟨r, found, same⟩ := exists_record_of_mem restored member
      exact unfailed e.name ((all _).2 (mem_keys_of_get? found))
        (substate?_eq_some_iff.2 ⟨r, found, (substate_of_alike same).1.2 failed⟩)
    · obtain ⟨r, found, same⟩ := exists_record_of_mem restored member
      have able : canBeBlocked r = true :=
        canBeBlocked_iff.2 ⟨(substate_of_alike same).2.1.2 down, show r.mode ≠ .never from same.mode ▸ meant⟩
      have edge := (dependencies same dependency).2 listed
      have out := (outOfReach_iff restored).2 lacking
      have problem := (settled.problem_iff found).2 (.unavailable found able edge (isUnavailable_iff.2 out))
      exact supplied e.name ((all _).2 (mem_keys_of_get? found)) r found problem dependency edge out
  · intro healthy
    -- Any blocked service with a dependency out of reach comes from an entry that is a problem.
    have supplied : ∀ name r, g.get? name = some r → r.substate = .problem → g.Supplies r := by
      intro name r found problem dependency edge out
      obtain ⟨e, member, -, same⟩ := exists_entry_of_get? restored found
      have down : e.state = .down := (substate_of_alike same).2.1.1 (by rw [problem]; rfl)
      have meant : r.mode ≠ .never := (((settled.problem_iff found).1 problem).of_get? found).2
      exact healthy (Or.inr ⟨e, member, down, fun never => meant (same.mode.symm.trans never), dependency,
        (dependencies same dependency).1 edge, (outOfReach_iff restored).1 out⟩)
    refine ⟨fun name _ failed => ?_, fun name _ => supplied name, fun _ name r found problem _ _ =>
      supplied name r found problem⟩
    obtain ⟨r, found, is⟩ := substate?_eq_some_iff.1 failed
    obtain ⟨e, member, -, same⟩ := exists_entry_of_get? restored found
    exact healthy (Or.inl ⟨e, member, (substate_of_alike same).1.1 is⟩)

end RuntimeSnapshot

namespace CommandLine

open RuntimeSnapshot

variable {s : RuntimeSnapshot} {g : Graph}

theorem mem_interest_touchedIn (named : g.WellNamed) (name : ServiceName) :
    name ∈ (Monitor.idle.watchAll (touchedIn g [])).interest.toList ↔ name ∈ g.keys := by
  rw [← OrderedSet.mem_def, Monitor.mem_interest_watchAll, touchedIn, if_pos rfl, List.mem_map]
  simp only [Graph.mem_snapshots_iff]
  constructor
  · rintro ⟨_, ⟨own, r, found, rfl⟩, rfl⟩
    rw [show (r.snapshot ownRuntime).name = r.name from rfl, (named own r found).1]
    exact Graph.mem_keys_of_get? found
  · intro installed
    obtain ⟨r, found⟩ := Graph.exists_get?_of_mem_keys installed
    exact ⟨_, ⟨name, r, found, rfl⟩, (named name r found).1⟩

/-- **A whole snapshot verified.**  If no name comes up twice and no services are given as touched, the program answers
that there are problems exactly when some entry is a problem by itself, whatever the format and the policy. -/
theorem verify_answers_hasProblem (distinct : s.names.Nodup) (request : VerifyRequest) (whole : request.touched = []) :
    ∃ answer, request.answer s = .ok answer ∧ (answer.problems = true ↔ s.HasProblem) ∧
      ∀ file, load request.snapshot file = .ok s → (Command.verify request).run file = .ok answer := by
  obtain ⟨g, restored⟩ := exists_restore_of_nodup distinct
  have reachable : g.Reachable := .restore restored
  let m := Monitor.idle.watchAll (touchedIn g [])
  have atRest : m.atRest g = true := Graph.isQuiescent_iff.2 fun name _ => atRest_of_restore restored name
  have verdict : (verifyGraph g request.touched request.rollback).outcome = .stable ↔ ¬ s.HasProblem := by
    rw [whole, ← leavesNoTrace_iff restored (mem_interest_touchedIn reachable.settled.named),
      ← reachable.settled.isEmpty_report_iff m ownRuntime]
    exact Graph.verify_stable_iff_isEmpty atRest _ []
  have answered : request.answer s = .ok
      ⟨(verifyGraph g request.touched request.rollback).outcome != .stable,
        request.format.write (verifyGraph g request.touched request.rollback)⟩ := by
    rw [VerifyRequest.answer, CommandLine.restored, restored]
    rfl
  refine ⟨_, answered, ?_, fun file loaded => ?_⟩
  · rw [bne_iff_ne, ne_eq, verdict, Decidable.not_not]
  · rw [Command.run, show load (Command.verify request).snapshot file = .ok s from loaded]
    exact answered

theorem verify_answers_inert : ∃ s : RuntimeSnapshot, s.names.Nodup ∧ s.HasProblem ∧
    ∃ answer, (VerifyRequest.mk [] [] .text true).answer s = .ok answer ∧ answer.problems = true := by
  let s : RuntimeSnapshot := ⟨[⟨Graph.simpleName "a", .never, .down, none, []⟩,
    ⟨Graph.simpleName "b", .active, .down, none, [Graph.simpleName "a"]⟩,
    ⟨Graph.simpleName "c", .passive, .down, none, [Graph.simpleName "b"]⟩]⟩
  have distinct : s.names.Nodup := by decide
  have problem : s.HasProblem := by decide
  obtain ⟨answer, answered, problems, -⟩ := verify_answers_hasProblem distinct ⟨[], [], .text, true⟩ rfl
  exact ⟨s, distinct, problem, answer, answered, problems.2 problem⟩

end CommandLine
end ServiceStability
