/-!
# OrderedSet — a set that remembers the order of insertion

Dependencies, unavailable dependencies and registered interest are sets whose order shows in reports, so they are lists
without repetition: inserting a member again changes nothing, a new one goes to the end.
-/
namespace ServiceStability

/-- **A list without repetition**, read as a set in order of first insertion. -/
structure OrderedSet (α : Type) where
  toList : List α
  nodup : toList.Nodup
deriving DecidableEq

namespace OrderedSet

variable {α : Type}

@[ext] theorem ext {s t : OrderedSet α} (h : s.toList = t.toList) : s = t := by
  cases s; cases t; cases h; rfl

def empty : OrderedSet α := ⟨[], List.nodup_nil⟩

instance : Membership α (OrderedSet α) := ⟨fun s a => a ∈ s.toList⟩

theorem mem_def {s : OrderedSet α} {a : α} : a ∈ s ↔ a ∈ s.toList := Iff.rfl

instance [DecidableEq α] (s : OrderedSet α) (a : α) : Decidable (a ∈ s) :=
  inferInstanceAs (Decidable (a ∈ s.toList))

def isEmpty (s : OrderedSet α) : Bool := s.toList.isEmpty

def size (s : OrderedSet α) : Nat := s.toList.length

/-- **Insert**: at the end, unless it is a member already. -/
def insert [DecidableEq α] (s : OrderedSet α) (a : α) : OrderedSet α :=
  if h : a ∈ s.toList then s
  else ⟨s.toList ++ [a], List.nodup_append.2
    ⟨s.nodup, by simp, fun x hx y hy e => h (List.mem_singleton.1 hy ▸ e ▸ hx)⟩⟩

/-- **The members of a list, each at its first occurrence.** -/
def ofList [DecidableEq α] (items : List α) : OrderedSet α := items.foldl insert empty

def filter (s : OrderedSet α) (keep : α → Bool) : OrderedSet α :=
  ⟨s.toList.filter keep, s.nodup.filter _⟩

def erase [DecidableEq α] (s : OrderedSet α) (a : α) : OrderedSet α := s.filter fun b => b != a

@[simp] theorem toList_empty : (empty : OrderedSet α).toList = [] := rfl

@[simp] theorem toList_filter (s : OrderedSet α) (keep : α → Bool) :
    (s.filter keep).toList = s.toList.filter keep := rfl

theorem isEmpty_iff {s : OrderedSet α} : s.isEmpty = true ↔ s.toList = [] := List.isEmpty_iff

section
variable [DecidableEq α]

theorem toList_insert (s : OrderedSet α) (a : α) :
    (s.insert a).toList = if a ∈ s.toList then s.toList else s.toList ++ [a] := by
  unfold insert; split <;> rfl

@[simp] theorem mem_insert {s : OrderedSet α} {a b : α} : b ∈ s.insert a ↔ b ∈ s ∨ b = a := by
  rw [mem_def, mem_def, toList_insert]
  split
  · rename_i h; exact ⟨Or.inl, fun e => e.elim id fun e => e ▸ h⟩
  · simp

theorem mem_foldl_insert {items : List α} {s : OrderedSet α} {b : α} :
    b ∈ items.foldl insert s ↔ b ∈ s ∨ b ∈ items := by
  induction items generalizing s with
  | nil => simp
  | cons a items ih => simp [ih, or_assoc]

@[simp] theorem mem_ofList {items : List α} {b : α} : b ∈ ofList items ↔ b ∈ items := by
  rw [ofList, mem_foldl_insert]; simp [mem_def]

theorem toList_ofList_eq_nil_iff {items : List α} : (ofList items).toList = [] ↔ items = [] := by
  simp only [List.eq_nil_iff_forall_not_mem, ← mem_def, mem_ofList]

/-- New members without repetition are appended as they stand. -/
theorem toList_foldl_insert {items : List α} {s : OrderedSet α} (h : (s.toList ++ items).Nodup) :
    (items.foldl insert s).toList = s.toList ++ items := by
  induction items generalizing s with
  | nil => simp
  | cons a items ih =>
    have ha : a ∉ s.toList := fun m => (List.nodup_append.1 h).2.2 a m a (List.mem_cons_self ..) rfl
    have hs : (s.insert a).toList = s.toList ++ [a] := by simp [toList_insert, ha]
    rw [List.foldl_cons, ih (by simpa [hs] using h), hs, List.append_assoc, List.singleton_append]

/-- **A list without repetition is its own set.** -/
theorem toList_ofList {items : List α} (h : items.Nodup) : (ofList items).toList = items :=
  toList_foldl_insert (s := empty) h

/-- The new members of a list are appended, each where it is first met. -/
theorem toList_foldl_insert_eq (items : List α) (s : OrderedSet α) :
    (items.foldl insert s).toList = s.toList ++ (items.filter fun a => decide (a ∉ s)).eraseDups := by
  induction items generalizing s with
  | nil => simp
  | cons a items ih =>
    rw [List.foldl_cons, ih, toList_insert]
    by_cases present : a ∈ s
    · have same : s.insert a = s := ext ((toList_insert s a).trans (if_pos present))
      rw [if_pos (mem_def.1 present), same, List.filter_cons_of_neg (by simpa using present)]
    · rw [if_neg (mt mem_def.2 present), List.filter_cons_of_pos (by simpa using present), List.eraseDups_cons,
        List.filter_filter, List.append_assoc, List.singleton_append]
      congr 4
      funext b
      rw [Bool.eq_iff_iff]
      simp [and_comm]

/-- **The set of a list is the list without its later repetitions.** -/
theorem toList_ofList_eq_eraseDups (items : List α) : (ofList items).toList = items.eraseDups := by
  rw [ofList, toList_foldl_insert_eq, toList_empty, List.nil_append, List.filter_eq_self.2]
  exact fun a _ => decide_eq_true nofun

@[simp] theorem ofList_toList (s : OrderedSet α) : ofList s.toList = s := ext (toList_ofList s.nodup)

end

end OrderedSet
end ServiceStability
