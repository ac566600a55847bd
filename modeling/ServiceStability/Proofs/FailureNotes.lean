import ServiceStability.Proofs.Consistency
/-!
# Proofs.FailureNotes — which start failure a service carries

An installation and a retry leave a service without a start failure, a failed start leaves it with its own, and nothing
else writes there.  So a service carries the failure of the last of these operations, if that was a failed start.  A
service whose start has failed has not been moved since.  A removal takes the failure along, and so does a stop, which
goes through on a failed service although only a retry is meant for it: a service that came down that way carries an
old failure, even when it is up again.

- `Graph.carriedOut`: the calls that went through.
- `Graph.Since`: what came after an operation.
- `Graph.FailureNote`: what a record says of the calls; every step keeps it.
- `Graph.failures_carried`: who carries a failure, in a graph and in its snapshot.
-/
namespace ServiceStability
namespace Operation

/-- Whether an operation writes the start failure of a service. -/
def Notes (name : ServiceName) : Operation → Prop
  | .install other _ _ | .fail other _ | .retry other => other = name
  | _ => False

/-- Whether an operation moves a service or brings it in. -/
def Moves (name : ServiceName) : Operation → Prop
  | .setMode _ _ => False
  | operation => operation.name = name

theorem Moves.name_eq {operation : Operation} {name : ServiceName} (moves : operation.Moves name) :
    operation.name = name := by
  cases operation with
  | setMode => exact moves.elim
  | _ => exact moves

theorem notes_fail (name : ServiceName) (failure : StartFailure) : (fail name failure).Notes name := rfl

theorem Notes.moves {operation : Operation} {name : ServiceName} (notes : operation.Notes name) :
    operation.Moves name := by
  cases operation with
  | install | fail | retry => exact notes
  | _ => exact notes.elim

end Operation

namespace Graph

variable {g h k : Graph} {operation other : Operation} {kind : Operation → Prop} {done after : List Operation}
  {name : ServiceName} {r s : ServiceRecord} {failure : StartFailure}

/-- **The calls that go through**, one after another. -/
def carriedOut (g : Graph) : List Operation → List Operation
  | [] => []
  | operation :: calls =>
    if (g.apply operation).isOk then operation :: carriedOut (g.attempt operation) calls
    else carriedOut (g.attempt operation) calls

theorem carriedOut_append (calls further : List Operation) :
    g.carriedOut (calls ++ further) = g.carriedOut calls ++ carriedOut (calls.foldl attempt g) further := by
  induction calls generalizing g with
  | nil => rfl
  | cons operation calls ih =>
    rw [List.cons_append, carriedOut, carriedOut, ih, List.foldl_cons]
    split <;> rfl

/-- **What was done since an operation**, when nothing of a kind came later. -/
def Since (kind : Operation → Prop) (operation : Operation) (done after : List Operation) : Prop :=
  ∃ before, done = before ++ operation :: after ∧ ∀ later ∈ after, ¬ kind later

theorem since_self (kind : Operation → Prop) (operation : Operation) (done : List Operation) :
    Since kind operation (done ++ [operation]) [] := ⟨done, rfl, fun _ later => nomatch later⟩

theorem Since.later (since : Since kind operation done after) (unlike : ¬ kind other) :
    Since kind operation (done ++ [other]) (after ++ [other]) := by
  obtain ⟨before, rfl, quiet⟩ := since
  refine ⟨before, by rw [List.append_assoc, List.cons_append], fun later member => ?_⟩
  rcases List.mem_append.1 member with earlier | last
  · exact quiet later earlier
  · rwa [List.mem_singleton.1 last]

theorem Since.mono {kind' : Operation → Prop} (since : Since kind operation done after)
    (fewer : ∀ later, kind' later → kind later) : Since kind' operation done after := by
  obtain ⟨before, split, quiet⟩ := since
  exact ⟨before, split, fun later member is => quiet later member (fewer later is)⟩

theorem exists_since_append_iff (is : kind operation) :
    (∃ after, Since kind operation (done ++ [other]) after) ↔
      other = operation ∨ ¬ kind other ∧ ∃ after, Since kind operation done after := by
  constructor
  · rintro ⟨after, before, split, quiet⟩
    rcases List.eq_nil_or_concat after with rfl | ⟨after, last, rfl⟩
    · exact Or.inl (List.cons.inj (List.append_inj' split rfl).2).1
    · rw [List.concat_eq_append] at split quiet
      rw [← List.cons_append, ← List.append_assoc] at split
      obtain ⟨rfl, same⟩ := List.append_inj' split rfl
      cases same
      exact Or.inr ⟨quiet _ (by simp), after, before, rfl, fun later member => quiet later (by simp [member])⟩
  · rintro (rfl | ⟨unlike, after, since⟩)
    · exact ⟨[], since_self kind other done⟩
    · exact ⟨_, since.later unlike⟩

/-- **What a record says of the calls that went through.** -/
structure FailureNote (done : List Operation) (name : ServiceName) (r : ServiceRecord) : Prop where
  noted : ∀ failure, r.startFailure = some failure ↔
    ∃ after, Since (Operation.Notes name) (.fail name failure) done after
  failed : r.substate = .startFailed →
    ∃ failure after, Since (Operation.Moves name) (.fail name failure) done after
  stopped : r.substate ≠ .startFailed → r.substate ≠ .removing → ∀ failure, r.startFailure = some failure →
    ∃ after, Since (Operation.Notes name) (.fail name failure) done after ∧ .stop name ∈ after

namespace FailureNote

theorem of_alike (note : FailureNote done name r) (same : r.Alike s) : FailureNote done name s := by
  have failed : r.substate = .startFailed ↔ s.substate = .startFailed := same.substate.eq_iff rfl
  have removing : r.substate = .removing ↔ s.substate = .removing := same.substate.eq_iff rfl
  constructor
  · rw [← same.startFailure]
    exact note.noted
  · rw [← failed]
    exact note.failed
  · rw [ne_eq, ne_eq, ← failed, ← removing, ← same.startFailure]
    exact note.stopped

theorem unmoved (note : FailureNote done name r) (still : ¬ operation.Moves name)
    (failure : s.startFailure = r.startFailure) (substate : s.substate = r.substate) :
    FailureNote (done ++ [operation]) name s where
  noted := fun f => by
    have unlike : operation ≠ .fail name f := fun same => still (same ▸ rfl)
    rw [failure, note.noted, exists_since_append_iff (Operation.notes_fail name f), or_iff_right unlike,
      and_iff_right fun notes => still notes.moves]
  failed := fun is => by
    obtain ⟨f, after, since⟩ := note.failed (substate ▸ is)
    exact ⟨f, _, since.later still⟩
  stopped := fun sound stays f carried => by
    obtain ⟨after, since, stop⟩ := note.stopped (substate ▸ sound) (substate ▸ stays) f (failure ▸ carried)
    exact ⟨_, since.later fun notes => still notes.moves, List.mem_append_left _ stop⟩

/-- A move that writes no failure.  Unless it is a stop or the removal, the service was sound before. -/
theorem moved (note : FailureNote done name r) (unlike : ¬ operation.Notes name)
    (failure : s.startFailure = r.startFailure) (sound : s.substate ≠ .startFailed)
    (before : s.substate = .removing ∨ operation = .stop name ∨ r.substate ≠ .startFailed ∧ r.substate ≠ .removing) :
    FailureNote (done ++ [operation]) name s := by
  have noted : ∀ f, s.startFailure = some f ↔
      ∃ after, Since (Operation.Notes name) (.fail name f) (done ++ [operation]) after := fun f => by
    have other : operation ≠ .fail name f := fun same => unlike (same ▸ rfl)
    rw [failure, note.noted, exists_since_append_iff (Operation.notes_fail name f), or_iff_right other,
      and_iff_right unlike]
  refine ⟨noted, fun is => absurd is sound, fun _ stays f carried => ?_⟩
  rw [failure] at carried
  rcases before with removing | rfl | ⟨sound, stays⟩
  · exact absurd removing stays
  · obtain ⟨after, since⟩ := (note.noted f).1 carried
    exact ⟨_, since.later unlike, List.mem_append_right _ (List.mem_singleton_self _)⟩
  · obtain ⟨after, since, stop⟩ := note.stopped sound stays f carried
    exact ⟨_, since.later unlike, List.mem_append_left _ stop⟩

theorem cleared (notes : operation.Notes name) (other : ∀ f, operation ≠ .fail name f)
    (failure : s.startFailure = none) (sound : s.substate ≠ .startFailed) :
    FailureNote (done ++ [operation]) name s where
  noted := fun f => by
    rw [failure, exists_since_append_iff (Operation.notes_fail name f), or_iff_right (other f)]
    constructor
    · exact nofun
    · rintro ⟨unlike, -⟩
      exact absurd notes unlike
  failed := fun is => absurd is sound
  stopped := fun _ _ f carried => by
    rw [failure] at carried
    cases carried

theorem broken (carried : s.startFailure = some failure) (broken : s.substate = .startFailed) :
    FailureNote (done ++ [.fail name failure]) name s where
  noted := fun f => by
    rw [carried, exists_since_append_iff (Operation.notes_fail name f)]
    constructor
    · rintro ⟨⟩
      exact Or.inl rfl
    · rintro (⟨⟨⟩⟩ | ⟨unlike, -⟩)
      · rfl
      · exact absurd rfl unlike
  failed := fun _ => ⟨failure, [], since_self _ _ done⟩
  stopped := fun sound => absurd broken sound

end FailureNote

theorem eq_of_get?_insert (found : (g.insert name r).get? name = some s) : r = s := by
  rw [OrderedMap.get?_insert_self] at found
  exact Option.some.inj found

theorem Change.failureNote (change : g.Change operation k)
    (noted : ∀ name r, g.get? name = some r → FailureNote done name r) (found : k.get? name = some s) :
    FailureNote (done ++ [operation]) name s := by
  by_cases own : name = operation.name
  · subst own
    cases change with
    | install fresh =>
      obtain rfl := eq_of_get?_insert found
      exact .cleared rfl nofun rfl nofun
    | start before allowed ready =>
      obtain rfl := eq_of_get?_insert found
      have down := Substate.starting_mem_successors_iff.1 allowed
      exact (noted _ _ before).moved id rfl nofun (Or.inr (Or.inr (by simp [down])))
    | started before allowed =>
      obtain rfl := eq_of_get?_insert found
      have starting := Substate.up_mem_successors_iff.1 allowed
      exact (noted _ _ before).moved id rfl nofun (Or.inr (Or.inr (by simp [starting])))
    | fail before allowed =>
      obtain rfl := eq_of_get?_insert found
      exact .broken rfl rfl
    | retry before allowed =>
      obtain rfl := eq_of_get?_insert found
      exact .cleared rfl nofun rfl nofun
    | stop before allowed =>
      obtain rfl := eq_of_get?_insert found
      exact (noted _ _ before).moved id rfl nofun (Or.inr (Or.inl rfl))
    | remove before allowed =>
      obtain rfl := eq_of_get?_insert found
      exact (noted _ _ before).moved id rfl nofun (Or.inl rfl)
    | removed before allowed =>
      have gone : none = some s := (OrderedMap.get?_erase_self ..).symm.trans found
      cases gone
    | setMode before =>
      obtain rfl := eq_of_get?_insert found
      exact (noted _ _ before).unmoved id rfl rfl
  · have before := (change.get?_of_ne own).symm.trans found
    exact (noted name s before).unmoved (fun moves => own moves.name_eq.symm) rfl rfl

/-- **What records say of the calls that went through**: what holds of the records at the start, and is kept by every
change and by resolution, holds of them after any calls. -/
theorem record_of_calls {holds : List Operation → ServiceName → ServiceRecord → Prop}
    (start : ∀ name r, g.get? name = some r → holds [] name r)
    (change : ∀ {h k : Graph} {done operation}, (∀ name r, h.get? name = some r → holds done name r) →
      h.Change operation k → ∀ name s, k.get? name = some s → holds (done ++ [operation]) name s)
    (alike : ∀ {done name r s}, holds done name r → r.Alike s → holds done name s) (calls : List Operation) :
    ∀ name r, (calls.foldl attempt g).get? name = some r → holds (carriedOut g calls) name r := by
  -- From the end of the run: the last call goes through, or leaves both the graph and the list of calls alone.
  induction calls using List.reverseRecOn with
  | nil => exact start
  | append_singleton calls operation ih =>
    intro name s found
    rw [List.foldl_append, List.foldl_cons, List.foldl_nil] at found
    rw [carriedOut_append]
    cases applied : (calls.foldl attempt g).apply operation with
    | error problem =>
      rw [attempt, applied] at found
      rw [carriedOut, applied]
      simpa [Except.isOk, Except.toBool, carriedOut] using ih name s found
    | ok h =>
      rw [attempt, applied] at found
      rw [carriedOut, applied]
      obtain ⟨k, changes, rfl⟩ := apply_eq_ok_iff.1 applied
      obtain ⟨t, between, same⟩ := (resolution_resolve k).alike.symm.exists_record found
      exact alike (change ih changes name t between) same.symm

theorem failureNote_of_calls (calls : List Operation) : ∀ name r, (calls.foldl attempt .empty).get? name = some r →
    FailureNote (carriedOut .empty calls) name r :=
  record_of_calls (fun _ _ found => nomatch found) (fun noted change _ _ found => change.failureNote noted found)
    (fun note same => note.of_alike same) calls

theorem exists_get?_of_mem_capture (settled : g.Settled) {e : ServiceEntry}
    (member : e ∈ (RuntimeSnapshot.capture g).services) :
    ∃ r, g.get? e.name = some r ∧ e = .ofSnapshot (r.snapshot ⟨0⟩) := by
  simp only [RuntimeSnapshot.capture, snapshots, List.map_map, List.mem_map] at member
  obtain ⟨r, present, rfl⟩ := member
  obtain ⟨name, found⟩ := OrderedMap.mem_values_iff.1 present
  have own : r.name = name := (settled.named name r found).1
  refine ⟨r, ?_, rfl⟩
  rw [← found, ← own]
  rfl

/-- **Who carries a start failure.**  After any calls on a new runtime, a service whose start has failed carries the
failure that it failed with last, and nothing has moved it since.  In general a service carries a failure if that is
what was written last by the installations, the retries and the failed starts of its name.  A service that has neither
failed nor is being removed carries one exactly if it was stopped since.  So it is with a snapshot: where an entry that
is not put down as failed has a failure, the service is being removed, or it was stopped since. -/
theorem failures_carried (calls : List Operation) :
    (∀ name r, (calls.foldl attempt .empty).get? name = some r →
      (r.substate = .startFailed → ∃ failure after, r.startFailure = some failure ∧
        Since (Operation.Moves name) (.fail name failure) (carriedOut .empty calls) after) ∧
      (∀ failure, r.startFailure = some failure ↔
        ∃ after, Since (Operation.Notes name) (.fail name failure) (carriedOut .empty calls) after) ∧
      (r.substate ≠ .startFailed → r.substate ≠ .removing → ∀ failure, r.startFailure = some failure ↔
        ∃ after, Since (Operation.Notes name) (.fail name failure) (carriedOut .empty calls) after ∧
          .stop name ∈ after)) ∧
    ∀ e ∈ (RuntimeSnapshot.capture (calls.foldl attempt .empty)).services, e.state ≠ .failed →
      ∀ failure, e.failure = some failure → (calls.foldl attempt .empty).substate? e.name = some .removing ∨
        ∃ after, Since (Operation.Notes e.name) (.fail e.name failure) (carriedOut .empty calls) after ∧
          .stop e.name ∈ after := by
  constructor
  · intro name r found
    have note := failureNote_of_calls calls name r found
    refine ⟨fun broken => ?_, note.noted, fun sound stays failure => ⟨note.stopped sound stays failure, ?_⟩⟩
    · obtain ⟨failure, after, since⟩ := note.failed broken
      exact ⟨failure, after, (note.noted failure).2 ⟨after, since.mono fun _ notes => notes.moves⟩, since⟩
    · rintro ⟨after, since, -⟩
      exact (note.noted failure).2 ⟨after, since⟩
  · intro e member rest failure carried
    have settled := (Reachable.new.foldl_attempt calls).settled
    obtain ⟨r, found, made⟩ := exists_get?_of_mem_capture settled member
    by_cases removing : r.substate = .removing
    · exact Or.inl (substate?_eq_some_iff.2 ⟨r, found, removing⟩)
    · have sound : r.substate ≠ .startFailed := fun broken => rest (by
        rw [made]
        simp only [ServiceEntry.ofSnapshot, ServiceRecord.snapshot, broken, RestState.ofSubstate])
      have carried' : r.startFailure = some failure := by rw [← carried, made]; rfl
      exact Or.inr ((failureNote_of_calls calls _ r found).stopped sound removing failure carried')

/-- The start of a service fails; it is stopped, and started again with success.  The second call is refused. -/
def relapse : List Operation :=
  [.install (simpleName "db") .active .empty, .retry (simpleName "db"), .start (simpleName "db"),
    .fail (simpleName "db") ⟨"io".toList, []⟩, .stop (simpleName "db"), .start (simpleName "db"),
    .started (simpleName "db")]

def relapsed : ServiceRecord := ⟨simpleName "db", .active, .up, .empty, .empty, some ⟨"io".toList, []⟩⟩

theorem get?_relapse : (relapse.foldl attempt .empty).get? (simpleName "db") = some relapsed := by cbv

theorem relapse_went_by_stop : ∃ after,
    Since (Operation.Notes (simpleName "db")) (.fail (simpleName "db") ⟨"io".toList, []⟩) (carriedOut .empty relapse)
      after ∧ .stop (simpleName "db") ∈ after :=
  (((failures_carried relapse).1 _ _ get?_relapse).2.2 (by decide) (by decide) _).1 rfl

/-- **A service that is up can carry an old failure**, and its snapshot then has it as well. -/
theorem up_with_old_failure :
    (∃ r, (relapse.foldl attempt .empty).get? (simpleName "db") = some r ∧ r.substate = .up ∧
      r.startFailure = some ⟨"io".toList, []⟩) ∧
    ∃ e ∈ (RuntimeSnapshot.capture (relapse.foldl attempt .empty)).services,
      e.state = .up ∧ e.failure = some ⟨"io".toList, []⟩ := by
  refine ⟨⟨relapsed, get?_relapse, rfl, rfl⟩, .ofSnapshot (relapsed.snapshot ⟨0⟩), ?_, rfl, rfl⟩
  rw [RuntimeSnapshot.capture, snapshots, List.map_map]
  exact List.mem_map_of_mem (OrderedMap.mem_values_iff.2 ⟨_, get?_relapse⟩)

end Graph
end ServiceStability
