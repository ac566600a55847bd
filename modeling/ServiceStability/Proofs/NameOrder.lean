import ServiceStability.Text.Bytes
import ServiceStability.Proofs.CanonicalForms
/-!
# Proofs.NameOrder — names in a strict total order

Names are compared by their canonical forms, and equal segments are looked for first.  A canonical form determines its
name, so the two ways of comparing never disagree: what is left is the order of the canonical texts, byte by byte.  A
sorted set that relies on this order keeps every name once.

- `ServiceName.cmp_eq_compare_bytes`: the order is that of the bytes.
- `NameSet.count_ofList`, `NameSet.ofList_eq_ofList_iff`: a sorted set drops nothing and holds nothing twice.
-/
namespace ServiceStability
namespace ServiceName

variable {a b c : ServiceName}

instance : Std.TransCmp cmp where
  eq_swap := (cmp_swap _ _).symm
  isLE_trans ab bc := by
    rw [cmp_eq_compare] at *
    exact Std.TransCmp.isLE_trans ab bc

instance : Std.LawfulEqCmp cmp where
  compare_self := cmp_self _
  eq_of_compare := cmp_eq_eq_iff.1

/-- **Names are ordered as the bytes of their canonical forms are.** -/
theorem cmp_eq_compare_bytes (a b : ServiceName) :
    a.cmp b = compare (Text.bytes a.canonical) (Text.bytes b.canonical) := by
  rw [Text.compare_bytes, cmp_eq_compare]

theorem canonical_inj : a.canonical = b.canonical ↔ a = b := ⟨canonical_injective, congrArg canonical⟩

theorem segments_inj : a.segments = b.segments ↔ a = b := by
  cases a
  cases b
  rw [mk.injEq]

end ServiceName

namespace NameSet

variable {names others : List ServiceName} {s t : NameSet}

theorem nodup (s : NameSet) : s.toList.Nodup := by
  refine s.ascending.imp fun less same => ?_
  rw [same, ServiceName.cmp_self] at less
  cases less

theorem count_ofList (names : List ServiceName) (name : ServiceName) :
    (ofList names).toList.count name = if name ∈ names then 1 else 0 := by
  rw [(ofList names).nodup.count]
  simp only [mem_ofList]

theorem ascending_bytes (s : NameSet) :
    s.toList.Pairwise fun a b => compare (Text.bytes a.canonical) (Text.bytes b.canonical) = .lt :=
  s.ascending.imp fun {a b} less => (ServiceName.cmp_eq_compare_bytes a b).symm.trans less

/-- **A sorted set is its members.** -/
theorem ext_mem (same : ∀ name, name ∈ s.toList ↔ name ∈ t.toList) : s = t := by
  have perm : s.toList.Perm t.toList := (List.perm_ext_iff_of_nodup s.nodup t.nodup).2 same
  refine ext (perm.eq_of_pairwise (fun a b _ _ less greater => ?_) s.ascending t.ascending)
  rw [← ServiceName.cmp_swap, less] at greater
  cases greater

theorem ofList_eq_ofList_iff : ofList names = ofList others ↔ ∀ name, name ∈ names ↔ name ∈ others := by
  constructor
  · intro same name
    rw [← mem_ofList, same, mem_ofList]
  · intro same
    refine ext_mem fun name => ?_
    rw [mem_ofList, mem_ofList, same]

end NameSet

namespace ServiceName

/-- **Names are in a strict total order, that of the bytes of their canonical forms.**  For all names, those without a
segment included:

- they compare as equal exactly if they have the same segments, which is exactly if they have one canonical form;
- the comparison the other way round is the reverse, and two names neither of which is above the other are one;
- what is below, or not above, goes through a third name;
- the comparison is that of the canonical forms, byte by byte.

So a sorted set holds each name that was put into it once and nothing else, whatever the order, and lists them with
their canonical forms strictly ascending. -/
theorem order_is_that_of_bytes :
    (∀ a b : ServiceName, (a.cmp b = .eq ↔ a.segments = b.segments) ∧
      (a.canonical = b.canonical ↔ a.segments = b.segments) ∧ a.cmp b = (b.cmp a).swap ∧
      ((a.cmp b).isLE → (b.cmp a).isLE → a = b) ∧
      a.cmp b = compare (Text.bytes a.canonical) (Text.bytes b.canonical)) ∧
    (∀ a b c : ServiceName, (a.cmp b = .lt → b.cmp c = .lt → a.cmp c = .lt) ∧
      ((a.cmp b).isLE → (b.cmp c).isLE → (a.cmp c).isLE)) ∧
    ∀ names others : List ServiceName,
      (∀ name, (NameSet.ofList names).toList.count name = if name ∈ names then 1 else 0) ∧
      (NameSet.ofList names = NameSet.ofList others ↔ ∀ name, name ∈ names ↔ name ∈ others) ∧
      (NameSet.ofList names).toList.Pairwise fun a b =>
        compare (Text.bytes a.canonical) (Text.bytes b.canonical) = .lt := by
  refine ⟨fun a b => ⟨?_, ?_, ?_, ?_, ?_⟩, fun a b c => ⟨?_, ?_⟩, fun names others => ⟨?_, ?_, ?_⟩⟩
  · rw [cmp_eq_eq_iff, segments_inj]
  · rw [canonical_inj, segments_inj]
  · exact (cmp_swap b a).symm
  · intro below above
    exact cmp_eq_eq_iff.1 (Std.OrientedCmp.isLE_antisymm below above)
  · exact cmp_eq_compare_bytes a b
  · exact cmp_lt_trans
  · exact Std.TransCmp.isLE_trans
  · exact NameSet.count_ofList names
  · exact NameSet.ofList_eq_ofList_iff
  · exact (NameSet.ofList names).ascending_bytes

/-- No segment, an empty one, and one that needs no quotes: nothing, a quote, a letter. -/
theorem ascending_from_nothing :
    cmp ⟨[]⟩ ⟨[[]]⟩ = .lt ∧ cmp ⟨[[]]⟩ ⟨["é".toList]⟩ = .lt ∧ cmp ⟨[]⟩ ⟨["é".toList]⟩ = .lt ∧
    (cmp ⟨[]⟩ ⟨[]⟩).isLE ∧ (⟨[]⟩ : ServiceName) = ⟨[]⟩ ∧ (cmp ⟨[]⟩ ⟨["é".toList]⟩).isLE := by
  have first : cmp ⟨[]⟩ ⟨[[]]⟩ = .lt := by decide
  have second : cmp ⟨[[]]⟩ ⟨["é".toList]⟩ = .lt := by decide
  have equal : (cmp ⟨[]⟩ ⟨[]⟩).isLE := by decide
  obtain ⟨pairs, triples, -⟩ := order_is_that_of_bytes
  obtain ⟨strict, weak⟩ := triples ⟨[]⟩ ⟨[[]]⟩ ⟨["é".toList]⟩
  obtain ⟨-, -, -, antisymmetric, -⟩ := pairs ⟨[]⟩ ⟨[]⟩
  exact ⟨first, second, strict first second, equal, antisymmetric equal equal, weak (by rw [first]; rfl)
    (by rw [second]; rfl)⟩

end ServiceName
end ServiceStability
