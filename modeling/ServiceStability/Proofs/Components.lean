import ServiceStability.Proofs.Search
/-!
# Proofs.Components — the components come with dependencies first

`Graph.components` takes the services in order of how much they lead to.  A service that leads to another one leads to
all that the other leads to; if the other does not lead back, it leads to strictly more.  So what a component leads to
outside itself comes earlier in the list.

- `Graph.dependenciesFirst_components`: `Graph.components` is a list that resolution may go by.
- `Graph.DependenciesFirst.closed`: where the dependencies of a component are.
-/
namespace ServiceStability
namespace Graph

variable {g : Graph}

/-- **An entry is an installed service with what it leads to.** -/
def IsEntry (g : Graph) (entry : ServiceName × List ServiceName) : Prop :=
  entry.1 ∈ g.keys ∧ entry.2 = g.below entry.1

theorem isEntry_of_mem_ranked {entry : ServiceName × List ServiceName} (h : entry ∈ g.ranked) : g.IsEntry entry := by
  rw [ranked, List.mem_mergeSort, List.mem_map] at h
  obtain ⟨name, installed, rfl⟩ := h
  exact ⟨installed, rfl⟩

theorem names_ranked (g : Graph) : (g.ranked.map Prod.fst).Perm g.keys := by
  have sorted := (List.mergeSort_perm (g.keys.map fun name => (name, g.below name))
    fun a b => decide (a.2.length ≤ b.2.length)).map Prod.fst
  rw [List.map_map] at sorted
  simpa [ranked, Function.comp_def] using sorted

theorem ranked_ascending (g : Graph) : g.ranked.Pairwise fun a b => a.2.length ≤ b.2.length := by
  have sorted := @List.pairwise_mergeSort _ (fun a b : ServiceName × List ServiceName =>
    decide (a.2.length ≤ b.2.length)) (by simp; omega) (by simp; omega) (g.keys.map fun name => (name, g.below name))
  exact sorted.imp fun h => of_decide_eq_true h

theorem together_iff {a b : ServiceName × List ServiceName} (ha : g.IsEntry a) (hb : g.IsEntry b) :
    together a b = true ↔ g.Reaches [a.1] b.1 ∧ g.Reaches [b.1] a.1 := by
  rw [together, Bool.and_eq_true, decide_eq_true_eq, decide_eq_true_eq, ha.2, hb.2, mem_below_iff, mem_below_iff]

/-- **A service that another one leads to, and that does not lead back, leads to less.** -/
theorem length_below_lt {a b : ServiceName} (forth : g.Reaches [a] b) (back : ¬ g.Reaches [b] a)
    (installed : a ∈ g.keys) : (g.below b).length < (g.below a).length := by
  have distinct : (a :: g.below b).Nodup := List.nodup_cons.2 ⟨fun h => back (mem_below_iff.1 h), nodup_below b⟩
  have included : (a :: g.below b) ⊆ g.below a := by
    intro other member
    rcases List.mem_cons.1 member with rfl | member
    · exact mem_below_iff.2 (reaches_self installed)
    · exact mem_below_iff.2 (forth.trans (mem_below_iff.1 member))
  exact distinct.length_le_of_subset included

theorem isEntry_of_mem_apartFrom {a : ServiceName × List ServiceName} {rest : List (ServiceName × List ServiceName)}
    (right : ∀ entry ∈ a :: rest, g.IsEntry entry) : ∀ entry ∈ apartFrom a rest, g.IsEntry entry :=
  fun entry h => right entry (List.mem_cons_of_mem _ (List.mem_filter.1 h).1)

theorem flatten_cut_perm (entries : List (ServiceName × List ServiceName)) :
    (cut entries).flatten.Perm (entries.map Prod.fst) := by
  fun_induction cut entries with
  | case1 => exact .refl _
  | case2 a rest ih =>
    rw [List.flatten_cons, List.cons_append, List.map_cons]
    refine List.Perm.cons _ ((ih.append_left _).trans ?_)
    rw [← List.map_append]
    exact (List.filter_append_perm (together a) rest).map _

theorem exists_entry_of_mem_cut {entries : List (ServiceName × List ServiceName)} {members : List ServiceName}
    {name : ServiceName} (component : members ∈ cut entries) (member : name ∈ members) :
    ∃ entry ∈ entries, entry.1 = name :=
  List.mem_map.1 ((flatten_cut_perm entries).mem_iff.1 (List.mem_flatten.2 ⟨members, component, member⟩))

theorem reaches_head {a : ServiceName × List ServiceName} {rest : List (ServiceName × List ServiceName)}
    {name : ServiceName} (entries : ∀ entry ∈ a :: rest, g.IsEntry entry)
    (member : name ∈ a.1 :: (rest.filter (together a)).map Prod.fst) : g.Reaches [a.1] name ∧ g.Reaches [name] a.1 := by
  have head := entries a (List.mem_cons_self ..)
  rcases List.mem_cons.1 member with rfl | member
  · exact ⟨reaches_self head.1, reaches_self head.1⟩
  · obtain ⟨b, hb, rfl⟩ := List.mem_map.1 member
    obtain ⟨hb, both⟩ := List.mem_filter.1 hb
    exact (together_iff head (entries b (List.mem_cons_of_mem _ hb))).1 both

theorem reaches_of_mem_cut {entries : List (ServiceName × List ServiceName)}
    (right : ∀ entry ∈ entries, g.IsEntry entry)
    {members : List ServiceName} (component : members ∈ cut entries) {a b : ServiceName} (ha : a ∈ members)
    (hb : b ∈ members) : g.Reaches [a] b := by
  fun_induction cut entries with
  | case1 => cases component
  | case2 head rest ih =>
    rcases List.mem_cons.1 component with rfl | component
    · exact (reaches_head right ha).2.trans (reaches_head right hb).1
    · exact ih (isEntry_of_mem_apartFrom right) component

theorem pairwise_cut {entries : List (ServiceName × List ServiceName)} (right : ∀ entry ∈ entries, g.IsEntry entry)
    (ascending : entries.Pairwise fun a b => a.2.length ≤ b.2.length) :
    (cut entries).Pairwise fun earlier later => ∀ a ∈ earlier, ∀ b ∈ later, ¬ g.Reaches [a] b := by
  fun_induction cut entries with
  | case1 => exact .nil
  | case2 head rest ih =>
    obtain ⟨least, ascending⟩ := List.pairwise_cons.1 ascending
    refine List.pairwise_cons.2 ⟨?_, ih (isEntry_of_mem_apartFrom right) (ascending.filter _)⟩
    intro later component a ha b hb forth
    obtain ⟨entry, kept, rfl⟩ := exists_entry_of_mem_cut component hb
    obtain ⟨kept, apart⟩ := List.mem_filter.1 kept
    have first := right head (List.mem_cons_self ..)
    have second := right entry (List.mem_cons_of_mem _ kept)
    have away : g.Reaches [head.1] entry.1 := (reaches_head right ha).1.trans forth
    have noReturn : ¬ g.Reaches [entry.1] head.1 := fun back => by
      rw [(together_iff first second).2 ⟨away, back⟩] at apart; cases apart
    have less := length_below_lt away noReturn first.1
    have more := least entry kept
    rw [first.2, second.2] at more
    omega

/-- **The components of a graph come with dependencies first.** -/
theorem dependenciesFirst_components (g : Graph) : g.DependenciesFirst g.components where
  once := (flatten_cut_perm g.ranked).trans (names_ranked g)
  connected := fun _ component _ ha _ hb => reaches_of_mem_cut (fun _ => isEntry_of_mem_ranked) component ha hb
  ordered := pairwise_cut (fun _ => isEntry_of_mem_ranked) (ranked_ascending g)

instance (a b : ServiceName) : Decidable (g.Reaches [a] b) := decidable_of_iff (b ∈ g.below a) mem_below_iff

theorem dependenciesFirst_iff {components : List (List ServiceName)} :
    g.DependenciesFirst components ↔ components.flatten.Perm g.keys ∧
      (∀ members ∈ components, ∀ a ∈ members, ∀ b ∈ members, g.Reaches [a] b) ∧
      components.Pairwise fun earlier later => ∀ a ∈ earlier, ∀ b ∈ later, ¬ g.Reaches [a] b :=
  ⟨fun h => ⟨h.once, h.connected, h.ordered⟩, fun ⟨once, connected, ordered⟩ => ⟨once, connected, ordered⟩⟩

instance (components : List (List ServiceName)) : Decidable (g.DependenciesFirst components) :=
  decidable_of_iff _ dependenciesFirst_iff.symm

namespace DependenciesFirst

variable {components : List (List ServiceName)}

theorem mem_flatten (order : g.DependenciesFirst components) {name : ServiceName} :
    name ∈ components.flatten ↔ name ∈ g.keys := order.once.mem_iff

/-- **The dependencies of a component** are members of it or of an earlier one. -/
theorem closed {earlier later : List (List ServiceName)} {members : List ServiceName}
    (order : g.DependenciesFirst (earlier ++ members :: later)) {name dependency : ServiceName} {r : ServiceRecord}
    (member : name ∈ members) (found : g.get? name = some r) (edge : dependency ∈ r.dependencies)
    (installed : dependency ∈ g.keys) : dependency ∈ earlier.flatten ∨ dependency ∈ members := by
  have somewhere := order.mem_flatten.2 installed
  rw [List.flatten_append, List.flatten_cons, List.mem_append, List.mem_append] at somewhere
  rcases somewhere with before | own | after
  · exact Or.inl before
  · exact Or.inr own
  · obtain ⟨component, hc, hd⟩ := List.mem_flatten.1 after
    have apart := (List.pairwise_cons.1 (List.pairwise_append.1 order.ordered).2.1).1 component hc
    exact absurd (reaches_dependency found edge installed) (apart name member dependency hd)

theorem notMem_earlier {earlier later : List (List ServiceName)} {members : List ServiceName}
    (order : g.DependenciesFirst (earlier ++ members :: later)) (distinct : g.keys.Nodup) {name : ServiceName}
    (member : name ∈ members) : name ∉ earlier.flatten := by
  have nodup := order.once.nodup_iff.2 distinct
  rw [List.flatten_append, List.flatten_cons] at nodup
  intro before
  exact (List.nodup_append.1 nodup).2.2 name before name (List.mem_append_left _ member) rfl

end DependenciesFirst
end Graph
end ServiceStability
