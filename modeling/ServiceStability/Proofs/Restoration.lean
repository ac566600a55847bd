import ServiceStability.RuntimeSnapshot
import ServiceStability.Proofs.Changes
import ServiceStability.Proofs.Resolution
/-!
# Proofs.Restoration — what setting up a snapshot gives

Entries are set up one behind the other, each under a name that has not come up.  So the graph before resolution is the
list of the entries, and the set-up fails exactly when a name comes up twice.
-/
namespace ServiceStability
namespace RuntimeSnapshot

open ServiceStability.Graph

variable {g h : Graph} {s : RuntimeSnapshot}

def names (s : RuntimeSnapshot) : List ServiceName := s.services.map (·.name)

/-- **Setting up entries whose names are new and do not repeat** adds them as they stand. -/
theorem installAll_of_nodup : ∀ {entries : List ServiceEntry} {g : Graph},
    (g.keys ++ entries.map (·.name)).Nodup →
      ∃ h, installAll g entries = .ok h ∧ h.toList = g.toList ++ entries.map fun e => (e.name, e.toRecord)
  | [], g, _ => ⟨g, rfl, by simp⟩
  | e :: entries, g, distinct => by
    rw [List.map_cons] at distinct
    have fresh : e.name ∉ g.keys := fun present =>
      (List.nodup_append.1 distinct).2.2 _ present _ (List.mem_cons_self ..) rfl
    have absent : g.contains e.name = false := Bool.eq_false_iff.2 fun h => fresh (OrderedMap.contains_iff.1 h)
    have keys : (g.insert e.name e.toRecord).keys = g.keys ++ [e.name] := by rw [OrderedMap.keys_insert, if_neg fresh]
    have distinct' : ((g.insert e.name e.toRecord).keys ++ entries.map (·.name)).Nodup := by
      rw [keys, List.append_assoc, List.singleton_append]; exact distinct
    obtain ⟨h, done, entries_h⟩ := installAll_of_nodup distinct'
    refine ⟨h, ?_, ?_⟩
    · rw [installAll, absent]; exact done
    · rw [entries_h, OrderedMap.toList_insert, if_neg fresh, List.append_assoc, List.singleton_append, List.map_cons]

theorem nodup_of_installAll : ∀ {entries : List ServiceEntry} {g : Graph}, installAll g entries = .ok h →
    (g.keys ++ entries.map (·.name)).Nodup
  | [], g, _ => by rw [List.map_nil, List.append_nil]; exact g.keys_nodup
  | e :: entries, g, done => by
    rw [installAll] at done
    split at done
    · cases done
    · rename_i absent
      have fresh : e.name ∉ g.keys := fun present => absent (OrderedMap.contains_iff.2 present)
      have distinct := nodup_of_installAll done
      rw [OrderedMap.keys_insert, if_neg fresh, List.append_assoc, List.singleton_append] at distinct
      exact distinct

/-- **A snapshot can be restored exactly when no name comes up twice**; the entries are set up as they stand, and
resolved. -/
theorem restore_eq_ok_iff : s.restore = .ok g ↔ s.names.Nodup ∧
    ∃ h : Graph, h.toList = s.services.map (fun e => (e.name, e.toRecord)) ∧ h.resolve = g := by
  have start : ((Graph.empty : Graph).keys ++ s.services.map (·.name)) = s.names := rfl
  rw [restore]
  constructor
  · intro done
    cases installed : installAll .empty s.services with
    | error problem => rw [installed] at done; cases done
    | ok h =>
      rw [installed] at done
      cases done
      have distinct := nodup_of_installAll installed
      obtain ⟨h', installed', entries⟩ := installAll_of_nodup distinct
      obtain rfl : h = h' := Except.ok.inj (installed.symm.trans installed')
      exact ⟨start ▸ distinct, h, entries, rfl⟩
  · rintro ⟨distinct, h, entries, rfl⟩
    obtain ⟨h', installed, entries'⟩ := installAll_of_nodup (g := .empty) (start ▸ distinct)
    obtain rfl : h' = h := OrderedMap.ext (entries'.trans entries.symm)
    rw [installed]
    rfl

theorem exists_restore_of_nodup (distinct : s.names.Nodup) : ∃ g, s.restore = .ok g := by
  have start : ((Graph.empty : Graph).keys ++ s.services.map (·.name)).Nodup := distinct
  obtain ⟨h, -, entries⟩ := installAll_of_nodup start
  exact ⟨h.resolve, restore_eq_ok_iff.2 ⟨distinct, h, entries, rfl⟩⟩

theorem substate_ne_removed (state : RestState) : state.substate ≠ .removed := by
  cases state <;> simp [RestState.substate]

theorem wellNamed_of_toList (entries : h.toList = s.services.map fun e => (e.name, e.toRecord)) : h.WellNamed := by
  intro name r found
  have member := OrderedMap.get?_eq_some_iff.1 found
  rw [entries, List.mem_map] at member
  obtain ⟨e, -, same⟩ := member
  cases same
  exact ⟨rfl, substate_ne_removed e.state⟩

end RuntimeSnapshot
end ServiceStability
