import ServiceStability.Name.Basic
/-!
# Name.SortedSet — names in ascending order

The transitive section of a report lists names in the order of their canonical forms, each once.
-/
namespace ServiceStability

/-- **A strictly ascending list of names**, read as a set. -/
structure NameSet where
  toList : List ServiceName
  ascending : toList.Pairwise fun a b => a.cmp b = .lt
deriving DecidableEq

namespace NameSet

@[ext] theorem ext {s t : NameSet} (h : s.toList = t.toList) : s = t := by
  cases s; cases t; cases h; rfl

/-- Put a name into an ascending list, unless it is there. -/
def place (name : ServiceName) : List ServiceName → List ServiceName
  | [] => [name]
  | other :: rest =>
    match name.cmp other with
    | .lt => name :: other :: rest
    | .eq => other :: rest
    | .gt => other :: place name rest

theorem eq_or_mem_of_mem_place {name a : ServiceName} {names : List ServiceName} (h : a ∈ place name names) :
    a = name ∨ a ∈ names := by
  induction names with
  | nil => simpa [place] using h
  | cons other rest ih =>
    unfold place at h
    split at h
    · simpa using h
    · exact Or.inr h
    · rcases List.mem_cons.1 h with h | h
      · exact Or.inr (h ▸ List.mem_cons_self ..)
      · exact (ih h).imp_right (List.mem_cons_of_mem _)

theorem pairwise_place {name : ServiceName} {names : List ServiceName}
    (h : names.Pairwise fun a b => a.cmp b = .lt) : (place name names).Pairwise fun a b => a.cmp b = .lt := by
  induction names with
  | nil => simp [place]
  | cons other rest ih =>
    obtain ⟨first, rest_ascending⟩ := List.pairwise_cons.1 h
    unfold place
    split
    · rename_i lt
      refine List.pairwise_cons.2 ⟨fun b hb => ?_, h⟩
      rcases List.mem_cons.1 hb with rfl | hb
      · exact lt
      · exact ServiceName.cmp_lt_trans lt (first b hb)
    · exact h
    · rename_i gt
      refine List.pairwise_cons.2 ⟨fun b hb => ?_, ih rest_ascending⟩
      rcases eq_or_mem_of_mem_place hb with rfl | hb
      · rw [← ServiceName.cmp_swap, gt]; rfl
      · exact first b hb

def empty : NameSet := ⟨[], List.Pairwise.nil⟩

def insert (s : NameSet) (name : ServiceName) : NameSet := ⟨place name s.toList, pairwise_place s.ascending⟩

def insertAll (s : NameSet) (names : List ServiceName) : NameSet := names.foldl insert s

/-- **The names of a list in ascending order, each once.** -/
def ofList (names : List ServiceName) : NameSet := empty.insertAll names

@[simp] theorem toList_empty : empty.toList = [] := rfl

theorem place_ne_nil (name : ServiceName) (names : List ServiceName) : place name names ≠ [] := by
  cases names with
  | nil => simp [place]
  | cons other rest => unfold place; split <;> simp

theorem toList_insertAll_eq_nil_iff {s : NameSet} {names : List ServiceName} :
    (s.insertAll names).toList = [] ↔ s.toList = [] ∧ names = [] := by
  induction names generalizing s with
  | nil => simp [insertAll]
  | cons name rest ih =>
    have filled : (s.insert name).toList ≠ [] := place_ne_nil name s.toList
    have step : s.insertAll (name :: rest) = (s.insert name).insertAll rest := rfl
    simp [step, ih, filled]

theorem toList_ofList_eq_nil_iff {names : List ServiceName} : (ofList names).toList = [] ↔ names = [] := by
  simp [ofList, toList_insertAll_eq_nil_iff]

theorem place_of_forall_gt {name : ServiceName} {names : List ServiceName} (h : ∀ a ∈ names, a.cmp name = .lt) :
    place name names = names ++ [name] := by
  induction names with
  | nil => rfl
  | cons other rest ih =>
    have gt : name.cmp other = .gt := by
      rw [← ServiceName.cmp_swap, h other (List.mem_cons_self ..)]; rfl
    simp [place, gt, ih fun a ha => h a (List.mem_cons_of_mem _ ha)]

theorem toList_insertAll {s : NameSet} {names : List ServiceName}
    (h : (s.toList ++ names).Pairwise fun a b => a.cmp b = .lt) : (s.insertAll names).toList = s.toList ++ names := by
  induction names generalizing s with
  | nil => simp [insertAll]
  | cons name names ih =>
    have above : ∀ a ∈ s.toList, a.cmp name = .lt := fun a ha =>
      (List.pairwise_append.1 h).2.2 a ha name (List.mem_cons_self ..)
    have hs : (s.insert name).toList = s.toList ++ [name] := place_of_forall_gt above
    have := ih (s := s.insert name) (by rw [hs]; simpa using h)
    simpa [insertAll, hs] using this

/-- **Reading a set back from its names gives the set.** -/
@[simp] theorem ofList_toList (s : NameSet) : ofList s.toList = s :=
  ext (toList_insertAll (s := empty) (by simpa using s.ascending))

end NameSet
end ServiceStability
