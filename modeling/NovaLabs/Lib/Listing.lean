/-
  Records that are kept by key, next to a list of their keys in the order in which they were made.
-/
import Mathlib.Data.List.Nodup

namespace Lib

variable {K V : Type}

/-- The list of keys and the records by key stand for the list `l` of records. -/
structure Lists (key : V → K) (get : K → Option V) (keys : List K) (l : List V) : Prop where
  keys_eq : l.map key = keys
  nodup : keys.Nodup
  get_iff : ∀ k v, get k = some v ↔ v ∈ l ∧ key v = k

namespace Lists
variable {key : V → K} {get get' : K → Option V} {keys : List K} {l : List V} {k : K} {v : V}

theorem nil (h : ∀ k, get k = none) : Lists key get [] [] where
  keys_eq := rfl
  nodup := List.nodup_nil
  get_iff k v := by simp [h]

theorem congr (h : Lists key get keys l) (hg : ∀ k, get' k = get k) : Lists key get' keys l where
  keys_eq := h.keys_eq
  nodup := h.nodup
  get_iff k v := by rw [hg, h.get_iff]

theorem get_key (h : Lists key get keys l) (hv : v ∈ l) : get (key v) = some v :=
  (h.get_iff _ _).2 ⟨hv, rfl⟩

theorem mem_keys (h : Lists key get keys l) : k ∈ keys ↔ (get k).isSome := by
  rw [← h.keys_eq, List.mem_map, Option.isSome_iff_exists]
  exact exists_congr fun v => (h.get_iff k v).symm

/-- The records are read by way of the list of keys. -/
theorem filterMap (h : Lists key get keys l) : keys.filterMap get = l := by
  have hget : ∀ v ∈ l, (get ∘ key) v = some v := fun _ => h.get_key
  rw [← h.keys_eq, List.filterMap_map, List.filterMap_congr hget, List.filterMap_some]

/-- A record with a new key is appended. -/
theorem append [DecidableEq K] (h : Lists key get keys l) (hnew : get (key v) = none)
    (hg : ∀ k, get' k = if k = key v then some v else get k) :
    Lists key get' (keys ++ [key v]) (l ++ [v]) where
  keys_eq := by rw [List.map_append, h.keys_eq, List.map_singleton]
  nodup := by
    refine h.nodup.append (List.nodup_singleton _) (List.disjoint_singleton.2 ?_)
    rw [h.mem_keys, hnew]
    exact Bool.false_ne_true
  get_iff k v' := by
    rw [hg, List.mem_append, List.mem_singleton]
    split_ifs with he
    · subst he
      constructor
      · rintro ⟨⟩
        exact ⟨Or.inr rfl, rfl⟩
      · rintro ⟨hv' | rfl, hk⟩
        · rw [← hk, h.get_key hv'] at hnew
          cases hnew
        · rfl
    · rw [h.get_iff]
      constructor
      · rintro ⟨hv', hk⟩
        exact ⟨Or.inl hv', hk⟩
      · rintro ⟨hv' | rfl, hk⟩
        · exact ⟨hv', hk⟩
        · exact absurd hk.symm he

/-- The record of a key is changed in its place. -/
theorem modify [DecidableEq K] {f : V → V} (h : Lists key get keys l) (hf : ∀ v, key (f v) = key v)
    (hg : ∀ k', get' k' = if k' = k then (get k').map f else get k') :
    Lists key get' keys (l.map fun v => if key v = k then f v else v) where
  keys_eq := by
    rw [← h.keys_eq, List.map_map]
    refine List.map_congr_left fun v _ => ?_
    simp only [Function.comp]
    split_ifs
    · exact hf v
    · rfl
  nodup := h.nodup
  get_iff k' v' := by
    rw [hg, List.mem_map]
    split_ifs with he
    · subst he
      rw [Option.map_eq_some_iff]
      constructor
      · rintro ⟨v, hv, rfl⟩
        obtain ⟨hmem, hk⟩ := (h.get_iff _ _).1 hv
        exact ⟨⟨v, hmem, if_pos hk⟩, (hf v).trans hk⟩
      · rintro ⟨⟨v, hmem, rfl⟩, hk⟩
        split_ifs at hk ⊢ with hv
        · exact ⟨v, (h.get_iff _ _).2 ⟨hmem, hv⟩, rfl⟩
        · exact absurd hk hv
    · rw [h.get_iff]
      constructor
      · rintro ⟨hmem, hk⟩
        exact ⟨⟨v', hmem, if_neg fun hv => he (hk.symm.trans hv)⟩, hk⟩
      · rintro ⟨⟨v, hmem, rfl⟩, hk⟩
        split_ifs at hk ⊢ with hv
        · exact absurd (hk.symm.trans ((hf v).trans hv)) he
        · exact ⟨hmem, hk⟩

end Lists

end Lib
