import ServiceStability.Graph.Operation
import ServiceStability.Proofs.Search
/-!
# Proofs.Changes — what an operation changes, before resolution

An operation that is carried out writes one record, adds one, or drops one.  `Graph.Change` lists what each operation
needs and what it writes; every fact about operations is a case analysis on it.

- `Graph.change_eq_ok_iff`: an operation is carried out exactly as listed.
- `Graph.WellNamed`: every service is installed under its own name, and none is `removed`.
- `Graph.wellNamed_of_change`: operations keep that.
-/
namespace ServiceStability
namespace Graph

variable {g h : Graph}

/-- **What each operation needs and what it writes.** -/
inductive Change (g : Graph) : Operation → Graph → Prop where
  | install {name : ServiceName} {mode : Mode} {dependencies : OrderedSet ServiceName} (fresh : name ∉ g.keys) :
      Change g (.install name mode dependencies) (g.insert name (.installed name mode dependencies))
  | start {name : ServiceName} {r : ServiceRecord} (found : g.get? name = some r)
      (allowed : .starting ∈ r.substate.successors) (ready : g.pending r = []) :
      Change g (.start name) (g.insert name { r with substate := .starting })
  | started {name : ServiceName} {r : ServiceRecord} (found : g.get? name = some r)
      (allowed : .up ∈ r.substate.successors) : Change g (.started name) (g.insert name { r with substate := .up })
  | fail {name : ServiceName} {r : ServiceRecord} {failure : StartFailure} (found : g.get? name = some r)
      (allowed : .startFailed ∈ r.substate.successors) :
      Change g (.fail name failure) (g.insert name { r with substate := .startFailed, startFailure := some failure })
  | retry {name : ServiceName} {r : ServiceRecord} (found : g.get? name = some r)
      (allowed : .down ∈ r.substate.successors) :
      Change g (.retry name) (g.insert name { r with substate := .down, startFailure := none })
  | stop {name : ServiceName} {r : ServiceRecord} (found : g.get? name = some r)
      (allowed : .down ∈ r.substate.successors) : Change g (.stop name) (g.insert name { r with substate := .down })
  | remove {name : ServiceName} {r : ServiceRecord} (found : g.get? name = some r)
      (allowed : .removing ∈ r.substate.successors) :
      Change g (.remove name) (g.insert name { r with substate := .removing, mode := .remove })
  | removed {name : ServiceName} {r : ServiceRecord} (found : g.get? name = some r)
      (allowed : .removed ∈ r.substate.successors) :
      Change g (.removed name) ((g.insert name { r with substate := .removed }).erase name)
  | setMode {name : ServiceName} {mode : Mode} {r : ServiceRecord} (found : g.get? name = some r) :
      Change g (.setMode name mode) (g.insert name { r with mode := mode })

/-- **An operation changes its own service only.** -/
theorem Change.get?_of_ne {operation : Operation} {name : ServiceName} (change : g.Change operation h)
    (different : name ≠ operation.name) : h.get? name = g.get? name := by
  cases change with
  | removed => exact (OrderedMap.get?_erase_of_ne different _).trans (OrderedMap.get?_insert_of_ne different ..)
  | _ => exact OrderedMap.get?_insert_of_ne different ..

theorem find_eq_ok_iff {name : ServiceName} {r : ServiceRecord} : g.find name = .ok r ↔ g.get? name = some r := by
  unfold find
  split
  · rename_i missing; simp [missing]
  · rename_i s found; simp [found]

theorem move_eq_ok_iff {name : ServiceName} {target : Substate} {change : ServiceRecord → ServiceRecord} :
    g.move name target change = .ok h ↔ ∃ r, g.get? name = some r ∧ target ∈ r.substate.successors ∧
      g.insert name (change { r with substate := target }) = h := by
  unfold move find
  match g.get? name with
  | none => simp [bind, Except.bind]
  | some r =>
    by_cases allowed : target ∈ r.substate.successors
    · simp [bind, Except.bind, allowed]
    · simp [bind, Except.bind, allowed]

theorem move_of_allowed {name : ServiceName} {target : Substate} (change : ServiceRecord → ServiceRecord)
    {r : ServiceRecord} (found : g.get? name = some r) (allowed : target ∈ r.substate.successors) :
    g.move name target change = .ok (g.insert name (change { r with substate := target })) :=
  move_eq_ok_iff.2 ⟨r, found, allowed, rfl⟩

theorem change_of_eq_ok {operation : Operation} (done : g.change operation = .ok h) : g.Change operation h := by
  cases operation with
  | install name mode dependencies =>
    simp only [change] at done
    split at done
    · cases done
    · rename_i absent
      cases done
      exact .install fun present => absent (OrderedMap.contains_iff.2 present)
  | start name =>
    simp only [change, bind, Except.bind] at done
    split at done
    · cases done
    rename_i next moved
    split at done
    · cases done
    rename_i r found
    split at done
    · rename_i ready
      obtain ⟨s, found', allowed, rfl⟩ := move_eq_ok_iff.1 moved
      obtain rfl : s = r := Option.some.inj (found'.symm.trans (find_eq_ok_iff.1 found))
      cases done
      exact .start found' allowed ready
    · cases done
  | started name =>
    rw [change] at done
    obtain ⟨r, found, allowed, rfl⟩ := move_eq_ok_iff.1 done
    exact .started found allowed
  | fail name failure =>
    rw [change] at done
    obtain ⟨r, found, allowed, rfl⟩ := move_eq_ok_iff.1 done
    exact .fail (r := r) found allowed
  | retry name =>
    rw [change] at done
    obtain ⟨r, found, allowed, rfl⟩ := move_eq_ok_iff.1 done
    exact .retry (r := r) found allowed
  | stop name =>
    rw [change] at done
    obtain ⟨r, found, allowed, rfl⟩ := move_eq_ok_iff.1 done
    exact .stop found allowed
  | remove name =>
    rw [change] at done
    obtain ⟨r, found, allowed, rfl⟩ := move_eq_ok_iff.1 done
    exact .remove (r := r) found allowed
  | removed name =>
    simp only [change, bind, Except.bind] at done
    split at done
    · cases done
    rename_i next moved
    obtain ⟨r, found, allowed, rfl⟩ := move_eq_ok_iff.1 moved
    cases done
    exact .removed found allowed
  | setMode name mode =>
    simp only [change, bind, Except.bind] at done
    split at done
    · cases done
    rename_i r found
    cases done
    exact .setMode (find_eq_ok_iff.1 found)

theorem eq_ok_of_change {operation : Operation} (change : g.Change operation h) : g.change operation = .ok h := by
  cases change with
  | install fresh =>
    have absent : g.contains _ = false := Bool.eq_false_iff.2 fun present => fresh (OrderedMap.contains_iff.1 present)
    simp only [Graph.change, absent]
    rfl
  | start found allowed ready =>
    have moved := move_of_allowed id found allowed
    simp only [Graph.change, bind, Except.bind, moved, find_eq_ok_iff.2 found, ready, if_true]
    rfl
  | started found allowed =>
    rw [Graph.change]
    exact move_of_allowed _ found allowed
  | fail found allowed =>
    rw [Graph.change]
    exact move_of_allowed _ found allowed
  | retry found allowed =>
    rw [Graph.change]
    exact move_of_allowed _ found allowed
  | stop found allowed =>
    rw [Graph.change]
    exact move_of_allowed _ found allowed
  | remove found allowed =>
    rw [Graph.change]
    exact move_of_allowed _ found allowed
  | removed found allowed =>
    have moved := move_of_allowed id found allowed
    simp only [Graph.change, bind, Except.bind, moved]
    rfl
  | setMode found =>
    simp only [Graph.change, bind, Except.bind, find_eq_ok_iff.2 found]

/-- **An operation is carried out exactly when it gets what it needs**, and it writes what is listed. -/
theorem change_eq_ok_iff {operation : Operation} : g.change operation = .ok h ↔ g.Change operation h :=
  ⟨change_of_eq_ok, eq_ok_of_change⟩

theorem apply_eq_ok_iff {operation : Operation} :
    g.apply operation = .ok h ↔ ∃ changed, g.Change operation changed ∧ changed.resolve = h := by
  unfold apply
  cases done : g.change operation with
  | error problem =>
    have never : ∀ changed, ¬ g.Change operation changed := fun changed change => by
      rw [change_eq_ok_iff.2 change] at done; cases done
    simp [Except.map, never]
  | ok changed =>
    have only : ∀ other, g.Change operation other ↔ changed = other := fun other => by
      rw [← change_eq_ok_iff, done, Except.ok.injEq]
    simp [Except.map, only]

/-- **Every service is installed under its own name, and none is left behind as `removed`.** -/
def WellNamed (g : Graph) : Prop := ∀ name r, g.get? name = some r → r.name = name ∧ r.substate ≠ .removed

theorem wellNamed_empty : Graph.empty.WellNamed := fun _ _ found => nomatch found

theorem WellNamed.insert (named : g.WellNamed) {name : ServiceName} {s : ServiceRecord} (own : s.name = name)
    (stays : s.substate ≠ .removed) : Graph.WellNamed (g.insert name s) := by
  intro other r found
  rw [OrderedMap.get?_insert] at found
  split at found
  · rename_i same
    cases found
    exact ⟨own.trans same.symm, stays⟩
  · exact named other r found

theorem wellNamed_of_change {operation : Operation} (named : g.WellNamed) (change : g.Change operation h) :
    h.WellNamed := by
  cases change with
  | install fresh => exact named.insert rfl (by simp [ServiceRecord.installed])
  | start found | started found | fail found | retry found | stop found | remove found =>
    exact named.insert (named _ _ found).1 (by simp)
  | setMode found => exact named.insert (named _ _ found).1 (named _ _ found).2
  | removed found =>
    intro other r found'
    rw [OrderedMap.get?_erase] at found'
    split at found'
    · cases found'
    · rename_i different
      rw [OrderedMap.get?_insert_of_ne different] at found'
      exact named other r found'

end Graph
end ServiceStability
