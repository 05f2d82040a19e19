/-
  Indexes of a store: for each value of a field, the keys of the records that have it.
-/
import NovaLabs.Lib.Store

namespace Lib

/-- The index lists the key of each record once, under the value of its field, and nothing else. -/
structure IndexedBy {K V I : Type} [DecidableEq K] (records : Store K V) (field : V → I)
    (index : I → List K) : Prop where
  nodup : ∀ i, (index i).Nodup
  mem : ∀ i k, k ∈ index i ↔ ∃ v, records.lookup k = some v ∧ field v = i

namespace IndexedBy
variable {K V I : Type} [DecidableEq K] {records : Store K V} {field : V → I} {index : I → List K}
  {k : K} {v v' : V}

theorem empty (h : ∀ i, index i = []) : IndexedBy (∅ : Store K V) field index where
  nodup i := h i ▸ List.nodup_nil
  mem i k := by
    rw [h, Finmap.lookup_empty]
    exact iff_of_false List.not_mem_nil nofun

theorem listed (h : IndexedBy records field index) (hv : records.lookup k = some v) :
    k ∈ index (field v) := (h.mem (field v) k).2 ⟨v, hv, rfl⟩

/-- A new record, whose key is put at the end of its list. -/
theorem insert_new [DecidableEq I] {index' : I → List K} (h : IndexedBy records field index)
    (hk : records.lookup k = none)
    (hindex : ∀ i, index' i = if i = field v then index i ++ [k] else index i) :
    IndexedBy (records.insert k v) field index' := by
  have hnew (i : I) : k ∉ index i := by
    intro hmem
    obtain ⟨v', hv', -⟩ := (h.mem i k).1 hmem
    cases hk.symm.trans hv'
  refine ⟨fun i => ?_, fun i k' => ?_⟩
  · rw [hindex]
    split_ifs
    · refine (h.nodup i).append (List.nodup_singleton k) fun k' hk' hmem => ?_
      exact hnew i (List.mem_singleton.1 hmem ▸ hk')
    · exact h.nodup i
  · have hmem : k' ∈ index' i ↔ k' ∈ index i ∨ i = field v ∧ k' = k := by
      rw [hindex]
      split_ifs with hi
      · rw [List.mem_append, List.mem_singleton, and_iff_right hi]
      · rw [or_iff_left fun hk' => hi hk'.1]
    rw [hmem, h.mem, Store.lookup_insert_ite]
    split_ifs with hk'
    · subst hk'
      rw [hk]
      constructor
      · rintro (⟨_, ⟨⟩, -⟩ | ⟨rfl, -⟩)
        exact ⟨v, rfl, rfl⟩
      · rintro ⟨_, ⟨⟩, rfl⟩
        exact Or.inr ⟨rfl, rfl⟩
    · exact or_iff_left fun hk'' => hk' hk''.2

/-- A record that is replaced keeps its field. -/
theorem insert_old (h : IndexedBy records field index) (hk : records.lookup k = some v)
    (hfield : field v' = field v) : IndexedBy (records.insert k v') field index := by
  refine ⟨h.nodup, fun i k' => ?_⟩
  rw [h.mem, Store.lookup_insert_ite]
  split_ifs with hk'
  · subst hk'
    rw [hk]
    constructor
    · rintro ⟨_, ⟨⟩, hi⟩
      exact ⟨v', rfl, hfield.trans hi⟩
    · rintro ⟨_, ⟨⟩, hi⟩
      exact ⟨v, rfl, hfield.symm.trans hi⟩
  · rfl

end IndexedBy

end Lib
