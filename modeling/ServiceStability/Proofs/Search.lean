import ServiceStability.Graph.Components
/-!
# Proofs.Search — what a search through a graph finds

The search of `Graph.gather` and that of `Graph.visit` follow the same steps.  A search is right when the services seen
so far lead only to what is seen or still to be visited; a step keeps that, and in the end nothing is left to visit.

- `Graph.mem_gather_iff`: a search gathers what its roots lead to.
- `Graph.isQuiescent_iff`: the rest test looks at what its roots lead to.
-/
namespace ServiceStability
namespace Graph

variable {g : Graph}

theorem mem_keys_of_get? {name : ServiceName} {r : ServiceRecord} (found : g.get? name = some r) : name ∈ g.keys :=
  Decidable.byContradiction fun h => by simp [OrderedMap.get?_eq_none_iff.2 h] at found

theorem exists_get?_of_mem_keys {name : ServiceName} (installed : name ∈ g.keys) : ∃ r, g.get? name = some r :=
  Option.ne_none_iff_exists'.1 fun missing => OrderedMap.get?_eq_none_iff.1 missing installed

theorem Reaches.installed {roots : List ServiceName} {name : ServiceName} (h : g.Reaches roots name) :
    name ∈ g.keys := by
  cases h with
  | root _ installed => exact installed
  | step _ _ _ installed => exact installed

theorem Reaches.of_roots {roots others : List ServiceName} {name : ServiceName} (h : g.Reaches roots name)
    (lead : ∀ root ∈ roots, root ∈ g.keys → g.Reaches others root) : g.Reaches others name := by
  induction h with
  | root member installed => exact lead _ member installed
  | step _ found edge installed ih => exact ih.step found edge installed

theorem Reaches.trans {roots : List ServiceName} {name other : ServiceName} (h : g.Reaches roots name)
    (further : g.Reaches [name] other) : g.Reaches roots other :=
  further.of_roots fun _ member _ => List.mem_singleton.1 member ▸ h

theorem reaches_self {name : ServiceName} (installed : name ∈ g.keys) : g.Reaches [name] name :=
  .root (List.mem_singleton.2 rfl) installed

theorem reaches_dependency {name dependency : ServiceName} {r : ServiceRecord} (found : g.get? name = some r)
    (edge : dependency ∈ r.dependencies) (installed : dependency ∈ g.keys) : g.Reaches [name] dependency :=
  (reaches_self (mem_keys_of_get? found)).step found edge installed

/-- **A set of services leads only to itself and to some pending ones.** -/
def LeadsInto (g : Graph) (seen pending : List ServiceName) : Prop :=
  ∀ name ∈ seen, ∀ r, g.get? name = some r → ∀ dependency ∈ r.dependencies, dependency ∈ g.keys →
    dependency ∈ seen ∨ dependency ∈ pending

theorem LeadsInto.see {seen rest : List ServiceName} {name : ServiceName} {r : ServiceRecord}
    (h : g.LeadsInto seen (name :: rest)) (found : g.get? name = some r) :
    g.LeadsInto (name :: seen) (r.dependencies.toList ++ rest) := by
  intro a member s found' d edge installed
  rcases List.mem_cons.1 member with rfl | member
  · have same : s = r := Option.some.inj (found'.symm.trans found)
    exact Or.inr (List.mem_append_left _ (same ▸ edge))
  · rcases h a member s found' d edge installed with seen | pending
    · exact Or.inl (List.mem_cons_of_mem _ seen)
    · rcases List.mem_cons.1 pending with rfl | pending
      · exact Or.inl (List.mem_cons_self ..)
      · exact Or.inr (List.mem_append_right _ pending)

theorem LeadsInto.pass {seen rest : List ServiceName} {name : ServiceName} (h : g.LeadsInto seen (name :: rest))
    (idle : name ∈ seen ∨ name ∉ g.keys) : g.LeadsInto seen rest := by
  intro a member s found d edge installed
  rcases h a member s found d edge installed with seen | pending
  · exact Or.inl seen
  · rcases List.mem_cons.1 pending with rfl | pending
    · exact idle.elim Or.inl fun missing => absurd installed missing
    · exact Or.inr pending

theorem mem_gather_of_seen {seen pending : List ServiceName} {name : ServiceName} (h : name ∈ seen) :
    name ∈ g.gather seen pending := by
  fun_induction gather g seen pending with
  | case1 => exact h
  | case2 seen other rest fresh ih => exact ih h
  | case3 seen other rest fresh missing ih => exact ih h
  | case4 seen other rest fresh r found ih => exact ih (List.mem_cons_of_mem _ h)

theorem mem_gather_of_pending {seen pending : List ServiceName} {name : ServiceName} (h : name ∈ pending)
    (installed : name ∈ g.keys) : name ∈ g.gather seen pending := by
  fun_induction gather g seen pending with
  | case1 => cases h
  | case2 seen other rest fresh ih =>
    rcases List.mem_cons.1 h with rfl | h
    · exact mem_gather_of_seen fresh
    · exact ih h
  | case3 seen other rest fresh missing ih =>
    rcases List.mem_cons.1 h with rfl | h
    · exact absurd installed (OrderedMap.get?_eq_none_iff.1 missing)
    · exact ih h
  | case4 seen other rest fresh r found ih =>
    rcases List.mem_cons.1 h with rfl | h
    · exact mem_gather_of_seen (List.mem_cons_self ..)
    · exact ih (List.mem_append_right _ h)

/-- **A right search ends in services that lead only to themselves.** -/
theorem leadsInto_gather {seen pending : List ServiceName} (h : g.LeadsInto seen pending) :
    g.LeadsInto (g.gather seen pending) [] := by
  fun_induction gather g seen pending with
  | case1 => exact h
  | case2 seen other rest fresh ih => exact ih (h.pass (Or.inl fresh))
  | case3 seen other rest fresh missing ih => exact ih (h.pass (Or.inr (OrderedMap.get?_eq_none_iff.1 missing)))
  | case4 seen other rest fresh r found ih => exact ih (h.see found)

theorem reaches_of_mem_gather {seen pending : List ServiceName} {name : ServiceName}
    (h : name ∈ g.gather seen pending) : name ∈ seen ∨ g.Reaches pending name := by
  fun_induction gather g seen pending with
  | case1 => exact Or.inl h
  | case2 seen other rest fresh ih =>
    exact (ih h).imp_right (·.of_roots fun root member installed => .root (List.mem_cons_of_mem _ member) installed)
  | case3 seen other rest fresh missing ih =>
    exact (ih h).imp_right (·.of_roots fun root member installed => .root (List.mem_cons_of_mem _ member) installed)
  | case4 seen other rest fresh r found ih =>
    have start : g.Reaches (other :: rest) other := .root (List.mem_cons_self ..) (mem_keys_of_get? found)
    rcases ih h with seen | further
    · rcases List.mem_cons.1 seen with rfl | seen
      · exact Or.inr start
      · exact Or.inl seen
    · refine Or.inr (further.of_roots fun root member installed => ?_)
      rcases List.mem_append.1 member with edge | member
      · exact start.step found edge installed
      · exact .root (List.mem_cons_of_mem _ member) installed

/-- **A search from nothing gathers what its roots lead to.** -/
theorem mem_gather_iff {roots : List ServiceName} {name : ServiceName} :
    name ∈ g.gather [] roots ↔ g.Reaches roots name := by
  constructor
  · intro h
    exact (reaches_of_mem_gather h).resolve_left (List.not_mem_nil)
  · intro h
    have closed : g.LeadsInto (g.gather [] roots) [] := leadsInto_gather fun _ member => nomatch member
    induction h with
    | root member installed => exact mem_gather_of_pending member installed
    | step _ found edge installed ih =>
      exact (closed _ ih _ found _ edge installed).resolve_right List.not_mem_nil

theorem mem_below_iff {name other : ServiceName} : other ∈ g.below name ↔ g.Reaches [name] other := mem_gather_iff

theorem nodup_gather {seen pending : List ServiceName} (h : seen.Nodup) : (g.gather seen pending).Nodup := by
  fun_induction gather g seen pending with
  | case1 => exact h
  | case2 seen other rest fresh ih => exact ih h
  | case3 seen other rest fresh missing ih => exact ih h
  | case4 seen other rest fresh r found ih => exact ih (List.nodup_cons.2 ⟨fresh, h⟩)

theorem nodup_below (name : ServiceName) : (g.below name).Nodup := nodup_gather List.nodup_nil

/-- Whether a service, if it is installed, is at rest. -/
def AtRest (g : Graph) (name : ServiceName) : Prop := ∀ r, g.get? name = some r → r.substate.isRest = true

/-- **Visiting asks every service that gathering adds whether it is at rest.** -/
theorem visit_iff {seen pending : List ServiceName} :
    g.visit seen pending = true ↔ ∀ name ∈ g.gather seen pending, name ∉ seen → g.AtRest name := by
  fun_induction gather g seen pending with
  | case1 seen =>
    rw [visit]
    exact ⟨fun _ _ member unseen => absurd member unseen, fun _ => rfl⟩
  | case2 seen other rest fresh ih => rw [visit, dif_pos fresh, ih]
  | case3 seen other rest fresh missing ih =>
    rw [visit, dif_neg fresh]
    split
    · exact ih
    · rename_i r found
      rw [missing] at found; cases found
  | case4 seen other rest fresh r found ih =>
    have own : g.AtRest other ↔ r.substate.isRest = true :=
      ⟨fun h => h r found, fun h s found' => Option.some.inj (found.symm.trans found') ▸ h⟩
    have member : other ∈ g.gather (other :: seen) (r.dependencies.toList ++ rest) :=
      mem_gather_of_seen (List.mem_cons_self ..)
    rw [visit, dif_neg fresh]
    split
    · rename_i missing
      rw [missing] at found; cases found
    · rename_i s found'
      obtain rfl : s = r := Option.some.inj (found'.symm.trans found)
      rw [Bool.and_eq_true, ih, ← own]
      constructor
      · rintro ⟨rest_other, h⟩ name gathered unseen
        by_cases same : name = other
        · exact same ▸ rest_other
        · exact h name gathered fun seen' => (List.mem_cons.1 seen').elim same unseen
      · intro h
        exact ⟨h other member fresh, fun name gathered unseen => h name gathered fun seen' =>
          unseen (List.mem_cons_of_mem _ seen')⟩

/-- **The rest test**: every installed service that the roots lead to is at rest. -/
theorem isQuiescent_iff {roots : List ServiceName} :
    g.isQuiescent roots = true ↔ ∀ name, g.Reaches roots name → g.AtRest name := by
  rw [isQuiescent, visit_iff]
  exact ⟨fun h name reached => h name (mem_gather_iff.2 reached) List.not_mem_nil,
    fun h name gathered _ => h name (mem_gather_iff.1 gathered)⟩

end Graph
end ServiceStability
