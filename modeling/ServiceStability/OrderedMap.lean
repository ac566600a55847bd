/-!
# OrderedMap — a map that remembers the order of insertion

The services of a runtime, the failed services of a report and the known runtimes of a registry are maps whose order
shows.  Putting a new value under a present key replaces the value where it stands; a new key goes to the end.
-/
namespace ServiceStability

/-- **A list of entries whose keys do not repeat**, read as a map in order of first insertion. -/
structure OrderedMap (κ ν : Type) where
  toList : List (κ × ν)
  keys_nodup : (toList.map Prod.fst).Nodup
deriving DecidableEq

def replaceValue {κ ν : Type} [DecidableEq κ] (k : κ) (v : ν) : List (κ × ν) → List (κ × ν)
  | [] => []
  | entry :: rest => if entry.1 = k then (k, v) :: rest else entry :: replaceValue k v rest

@[simp] theorem keys_replaceValue {κ ν : Type} [DecidableEq κ] (k : κ) (v : ν) (entries : List (κ × ν)) :
    (replaceValue k v entries).map Prod.fst = entries.map Prod.fst := by
  induction entries with
  | nil => rfl
  | cons entry rest ih => unfold replaceValue; split <;> simp_all

namespace OrderedMap

variable {κ ν : Type}

@[ext] theorem ext {m n : OrderedMap κ ν} (h : m.toList = n.toList) : m = n := by
  cases m; cases n; cases h; rfl

def empty : OrderedMap κ ν := ⟨[], List.nodup_nil⟩

def keys (m : OrderedMap κ ν) : List κ := m.toList.map Prod.fst

def values (m : OrderedMap κ ν) : List ν := m.toList.map Prod.snd

def size (m : OrderedMap κ ν) : Nat := m.toList.length

def isEmpty (m : OrderedMap κ ν) : Bool := m.toList.isEmpty

/-- **Change every value, given its key**; the keys stay as they are. -/
def mapValues {μ : Type} (m : OrderedMap κ ν) (f : κ → ν → μ) : OrderedMap κ μ :=
  ⟨m.toList.map fun entry => (entry.1, f entry.1 entry.2), by
    have : (m.toList.map fun entry => (entry.1, f entry.1 entry.2)).map Prod.fst = m.toList.map Prod.fst := by
      simp [Function.comp_def]
    rw [this]; exact m.keys_nodup⟩

section
variable [DecidableEq κ]

def get? (m : OrderedMap κ ν) (k : κ) : Option ν := m.toList.lookup k

def contains (m : OrderedMap κ ν) (k : κ) : Bool := (m.get? k).isSome

/-- **Put a value under a key**: in place of its old value, or at the end. -/
def insert (m : OrderedMap κ ν) (k : κ) (v : ν) : OrderedMap κ ν :=
  if h : k ∈ m.toList.map Prod.fst then ⟨replaceValue k v m.toList, by rw [keys_replaceValue]; exact m.keys_nodup⟩
  else ⟨m.toList ++ [(k, v)], by
    rw [List.map_append]
    exact List.nodup_append.2 ⟨m.keys_nodup, by simp, fun x hx y hy e => h (by simp_all)⟩⟩

def update (m : OrderedMap κ ν) (k : κ) (change : ν → ν) : OrderedMap κ ν :=
  match m.get? k with
  | none => m
  | some v => m.insert k (change v)

/-- **Drop a key**; the other entries keep their order. -/
def erase (m : OrderedMap κ ν) (k : κ) : OrderedMap κ ν :=
  ⟨m.toList.filter (fun entry => entry.1 != k), (List.filter_sublist.map _).nodup m.keys_nodup⟩

/-- **The entries of a list**: the first position of a key with its last value. -/
def ofList (entries : List (κ × ν)) : OrderedMap κ ν := entries.foldl (fun m entry => m.insert entry.1 entry.2) empty

end

@[simp] theorem toList_empty : (empty : OrderedMap κ ν).toList = [] := rfl

@[simp] theorem keys_mapValues {μ : Type} (m : OrderedMap κ ν) (f : κ → ν → μ) : (m.mapValues f).keys = m.keys := by
  simp [keys, mapValues, Function.comp_def]

@[simp] theorem size_mapValues {μ : Type} (m : OrderedMap κ ν) (f : κ → ν → μ) :
    (m.mapValues f).size = m.size := by simp [size, mapValues]

section
variable [DecidableEq κ]

theorem get?_eq_some_iff {m : OrderedMap κ ν} {k : κ} {v : ν} : m.get? k = some v ↔ (k, v) ∈ m.toList := by
  obtain ⟨entries, nodup⟩ := m
  simp only [get?]
  induction entries with
  | nil => simp
  | cons entry rest ih =>
    obtain ⟨k', v'⟩ := entry
    simp only [List.map_cons, List.nodup_cons] at nodup
    by_cases e : k = k'
    · subst e
      have : (k, v) ∉ rest := fun h => nodup.1 (List.mem_map.2 ⟨_, h, rfl⟩)
      simp [this, eq_comm]
    · simp [List.lookup_cons, beq_false_of_ne e, ih nodup.2, e]

theorem get?_eq_none_iff {m : OrderedMap κ ν} {k : κ} : m.get? k = none ↔ k ∉ m.keys := by
  rw [Option.eq_none_iff_forall_ne_some, keys]
  simp only [ne_eq, get?_eq_some_iff, List.mem_map, Prod.exists, exists_and_right, exists_eq_right, not_exists]

theorem contains_iff {m : OrderedMap κ ν} {k : κ} : m.contains k = true ↔ k ∈ m.keys := by
  rw [contains, ← Option.ne_none_iff_isSome, ne_eq, get?_eq_none_iff, Decidable.not_not]

@[simp] theorem get?_empty (k : κ) : (empty : OrderedMap κ ν).get? k = none := rfl

@[simp] theorem get?_mapValues {μ : Type} (m : OrderedMap κ ν) (f : κ → ν → μ) (k : κ) :
    (m.mapValues f).get? k = (m.get? k).map (f k) := by
  obtain ⟨entries, nodup⟩ := m
  simp only [get?, mapValues]
  clear nodup
  induction entries with
  | nil => rfl
  | cons entry rest ih =>
    obtain ⟨k', v'⟩ := entry
    by_cases e : k = k'
    · subst e; simp
    · simp [List.lookup_cons, beq_false_of_ne e, ih]

theorem toList_insert (m : OrderedMap κ ν) (k : κ) (v : ν) :
    (m.insert k v).toList = if k ∈ m.keys then replaceValue k v m.toList else m.toList ++ [(k, v)] := by
  unfold insert keys; split <;> rfl

theorem lookup_replaceValue (k k' : κ) (v : ν) (entries : List (κ × ν)) :
    (replaceValue k v entries).lookup k'
      = if k' = k ∧ k ∈ entries.map Prod.fst then some v else entries.lookup k' := by
  induction entries with
  | nil => simp [replaceValue]
  | cons entry rest ih =>
    obtain ⟨a, b⟩ := entry
    by_cases ha : a = k
    · subst ha
      by_cases hk : k' = a
      · subst hk; simp [replaceValue]
      · simp [replaceValue, List.lookup_cons, beq_false_of_ne hk, hk]
    · simp only [replaceValue, ha, if_false, List.lookup_cons, List.map_cons, List.mem_cons, Ne.symm ha, false_or]
      by_cases hka : k' = a
      · subst hka; simp [ha]
      · simp [beq_false_of_ne hka, ih]

/-- **What a map reads after a value is put under a key.** -/
theorem get?_insert (m : OrderedMap κ ν) (k k' : κ) (v : ν) :
    (m.insert k v).get? k' = if k' = k then some v else m.get? k' := by
  rw [get?, toList_insert]
  split
  · rename_i h
    rw [lookup_replaceValue]
    simp only [keys] at h
    simp [h, get?]
  · rename_i h
    rw [List.lookup_append]
    by_cases e : k' = k
    · subst e
      have := get?_eq_none_iff.2 h
      rw [get?] at this
      simp [this]
    · simp [List.lookup_cons, beq_false_of_ne e, e, get?]

@[simp] theorem get?_insert_self (m : OrderedMap κ ν) (k : κ) (v : ν) : (m.insert k v).get? k = some v :=
  (get?_insert ..).trans (if_pos rfl)

theorem get?_insert_of_ne {k k' : κ} (different : k' ≠ k) (m : OrderedMap κ ν) (v : ν) :
    (m.insert k v).get? k' = m.get? k' := (get?_insert ..).trans (if_neg different)

/-- A new key goes to the end; a present one stays where it is. -/
theorem keys_insert (m : OrderedMap κ ν) (k : κ) (v : ν) :
    (m.insert k v).keys = if k ∈ m.keys then m.keys else m.keys ++ [k] := by
  rw [keys, toList_insert]
  split
  · exact keys_replaceValue ..
  · simp [keys]

@[simp] theorem keys_update (m : OrderedMap κ ν) (k : κ) (change : ν → ν) : (m.update k change).keys = m.keys := by
  unfold update
  split
  · rfl
  · rename_i v found
    have present : k ∈ m.keys := Decidable.byContradiction fun h => by simp [get?_eq_none_iff.2 h] at found
    rw [keys_insert, if_pos present]

/-- **What a map reads after the value under a key is changed.** -/
theorem get?_update (m : OrderedMap κ ν) (k k' : κ) (change : ν → ν) :
    (m.update k change).get? k' = if k' = k then (m.get? k).map change else m.get? k' := by
  unfold update
  split
  · rename_i missing
    split
    · rename_i same; rw [same, missing]; rfl
    · rfl
  · rename_i v found
    rw [get?_insert, found]; rfl

/-- **Two maps with the same keys in the same order, and the same values under them, are one map.** -/
theorem ext_get? {m n : OrderedMap κ ν} (keys : m.keys = n.keys) (values : ∀ k, m.get? k = n.get? k) : m = n := by
  refine ext (List.ext_getElem? fun i => ?_)
  have same : (m.toList.map Prod.fst)[i]? = (n.toList.map Prod.fst)[i]? := congrArg (·[i]?) keys
  rw [List.getElem?_map, List.getElem?_map] at same
  match hm : m.toList[i]?, hn : n.toList[i]? with
  | none, none => rfl
  | some a, none => simp [hm, hn] at same
  | none, some b => simp [hm, hn] at same
  | some (k, v), some (k', w) =>
    obtain rfl : k = k' := by simpa [hm, hn] using same
    have left : m.get? k = some v := get?_eq_some_iff.2 (List.mem_of_getElem? hm)
    have right : n.get? k = some w := get?_eq_some_iff.2 (List.mem_of_getElem? hn)
    rw [values k, right] at left
    rw [Option.some.inj left]

theorem insert_insert (m : OrderedMap κ ν) (k : κ) (v w : ν) : (m.insert k v).insert k w = m.insert k w := by
  refine ext_get? ?_ fun k' => ?_
  · have present : k ∈ (m.insert k v).keys := by rw [keys_insert]; split <;> simp [*]
    rw [keys_insert, if_pos present, keys_insert, keys_insert]
  · rw [get?_insert, get?_insert, get?_insert]
    split <;> rfl

theorem update_of_get? {m : OrderedMap κ ν} {k : κ} {v : ν} (found : m.get? k = some v) (change : ν → ν) :
    m.update k change = m.insert k (change v) := by
  unfold update
  rw [found]

theorem update_insert (m : OrderedMap κ ν) (k : κ) (v : ν) (change : ν → ν) :
    (m.insert k v).update k change = m.insert k (change v) := by
  rw [update_of_get? (get?_insert_self m k v), insert_insert]

theorem mem_values_iff {m : OrderedMap κ ν} {v : ν} : v ∈ m.values ↔ ∃ k, m.get? k = some v := by
  simp [values, get?_eq_some_iff]

theorem mem_keys_foldl_insert {entries : List (κ × ν)} {m : OrderedMap κ ν} {k : κ} :
    k ∈ (entries.foldl (fun m entry => m.insert entry.1 entry.2) m).keys ↔ k ∈ m.keys ∨ k ∈ entries.map Prod.fst := by
  induction entries generalizing m with
  | nil => simp
  | cons entry rest ih =>
    rw [List.foldl_cons, ih, keys_insert, List.map_cons, List.mem_cons]
    split
    · rename_i present
      exact ⟨fun h => h.imp_right Or.inr, fun h => h.elim Or.inl fun h => h.elim (fun e => Or.inl (e ▸ present)) Or.inr⟩
    · rw [List.mem_append, List.mem_singleton, or_assoc]

@[simp] theorem mem_keys_ofList {entries : List (κ × ν)} {k : κ} :
    k ∈ (ofList entries).keys ↔ k ∈ entries.map Prod.fst := by
  rw [ofList, mem_keys_foldl_insert]; simp [keys]

theorem toList_ofList_eq_nil_iff {entries : List (κ × ν)} : (ofList entries).toList = [] ↔ entries = [] := by
  have keys : (ofList entries).keys = [] ↔ entries.map Prod.fst = [] := by
    simp only [List.eq_nil_iff_forall_not_mem, mem_keys_ofList]
  rw [← List.map_eq_nil_iff (l := entries) (f := Prod.fst), ← keys, OrderedMap.keys, List.map_eq_nil_iff]

/-- Entries under new keys that do not repeat are appended as they stand. -/
theorem toList_foldl_insert {entries : List (κ × ν)} {m : OrderedMap κ ν}
    (distinct : (m.keys ++ entries.map Prod.fst).Nodup) :
    (entries.foldl (fun m entry => m.insert entry.1 entry.2) m).toList = m.toList ++ entries := by
  induction entries generalizing m with
  | nil => simp
  | cons entry rest ih =>
    rw [List.map_cons] at distinct
    have fresh : entry.1 ∉ m.keys := fun present =>
      (List.nodup_append.1 distinct).2.2 _ present _ (List.mem_cons_self ..) rfl
    have keys : (m.insert entry.1 entry.2).keys = m.keys ++ [entry.1] := by rw [keys_insert, if_neg fresh]
    rw [List.foldl_cons, ih (by rw [keys, List.append_assoc, List.singleton_append]; exact distinct), toList_insert,
      if_neg fresh, List.append_assoc, List.singleton_append]

/-- **A list of entries whose keys do not repeat is its own map.** -/
theorem toList_ofList {entries : List (κ × ν)} (distinct : (entries.map Prod.fst).Nodup) :
    (ofList entries).toList = entries := toList_foldl_insert (m := empty) distinct

@[simp] theorem ofList_toList (m : OrderedMap κ ν) : ofList m.toList = m := ext (toList_ofList m.keys_nodup)

/-- **What a map reads after a key is dropped.** -/
theorem get?_erase (m : OrderedMap κ ν) (k k' : κ) :
    (m.erase k).get? k' = if k' = k then none else m.get? k' := by
  obtain ⟨entries, nodup⟩ := m
  simp only [get?, erase]
  clear nodup
  induction entries with
  | nil => simp
  | cons entry rest ih =>
    obtain ⟨a, b⟩ := entry
    by_cases ha : a = k
    · subst ha
      by_cases hk : k' = a
      · simpa [hk] using ih
      · simpa [List.lookup_cons, beq_false_of_ne hk, hk] using ih
    · by_cases hka : k' = a
      · subst hka; simp [ha]
      · simpa [ha, List.lookup_cons, beq_false_of_ne hka] using ih

theorem keys_erase (m : OrderedMap κ ν) (k : κ) : (m.erase k).keys = m.keys.filter fun k' => k' != k := by
  rw [keys, keys, erase, List.filter_map]
  rfl

@[simp] theorem get?_erase_self (m : OrderedMap κ ν) (k : κ) : (m.erase k).get? k = none :=
  (get?_erase ..).trans (if_pos rfl)

theorem get?_erase_of_ne {k k' : κ} (different : k' ≠ k) (m : OrderedMap κ ν) : (m.erase k).get? k' = m.get? k' :=
  (get?_erase ..).trans (if_neg different)

end

end OrderedMap
end ServiceStability
