/-
  Finite keyed stores, the storages whose values all have one type, and sums over their entries.
-/
import NovaLabs.Lib.Storage
import Mathlib.Algebra.Order.BigOperators.Group.Finset

namespace Lib

/-- A finite store of values by key. -/
abbrev Store (K V : Type) := Finmap fun _ : K => V

namespace Store
variable {K V M : Type} [DecidableEq K]

theorem lookup_insert_ite (s : Store K V) (k k' : K) (v : V) :
    (s.insert k v).lookup k' = if k' = k then some v else s.lookup k' := by
  by_cases h : k' = k
  · subst h; simp
  · rw [if_neg h, Finmap.lookup_insert_of_ne s h]

theorem lookup_erase_ite (s : Store K V) (k k' : K) :
    (s.erase k).lookup k' = if k' = k then none else s.lookup k' := by
  by_cases h : k' = k
  · subst h; simp
  · rw [if_neg h, Finmap.lookup_erase_ne h]

theorem insert_eq_self {s : Store K V} {k : K} {v : V} :
    s.insert k v = s ↔ s.lookup k = some v := by
  constructor
  · intro h; rw [← h, Finmap.lookup_insert]
  · intro h
    refine Finmap.ext_lookup fun k' => ?_
    rw [lookup_insert_ite]
    split_ifs with hk
    · rw [hk, h]
    · rfl

/-! ## Sums over the entries -/

section
variable [AddCommMonoid M]

/-- The sum of `f` over the entries of a store. -/
def total (s : Store K V) (f : K → V → M) : M := ∑ k ∈ s.keys, (s.lookup k).elim 0 (f k)

@[simp] theorem total_empty (f : K → V → M) : total (∅ : Store K V) f = 0 :=
  Storage.total_empty f

/-- Writing an entry exchanges the value that its key had, if any, for the new one. -/
theorem total_insert (s : Store K V) (k : K) (v : V) (f : K → V → M) :
    total (s.insert k v) f + (s.lookup k).elim 0 (f k) = total s f + f k v :=
  Storage.total_insert s k v f

/-- A new entry adds its own value. -/
theorem total_insert_new {s : Store K V} {k : K} (h : s.lookup k = none) (v : V)
    (f : K → V → M) : total (s.insert k v) f = f k v + total s f := by
  have ht := total_insert s k v f
  rwa [h, Option.elim_none, add_zero, add_comm] at ht

/-- Replacing an entry exchanges the old value for the new one. -/
theorem total_insert_old {s : Store K V} {k : K} {v₀ : V} (h : s.lookup k = some v₀) (v : V)
    (f : K → V → M) : total (s.insert k v) f + f k v₀ = total s f + f k v := by
  have ht := total_insert s k v f
  rwa [h, Option.elim_some] at ht

/-- Removing an entry takes its value away. -/
theorem total_erase {s : Store K V} {k : K} {v : V} (h : s.lookup k = some v) (f : K → V → M) :
    total (s.erase k) f + f k v = total s f := by
  have ht : total (s.erase k) f + (s.lookup k).elim 0 (f k) = total s f :=
    Storage.total_erase s k f
  rwa [h, Option.elim_some] at ht

/-- The sum over a store, computed along a list of keys that has each relevant key once. -/
theorem total_eq_list (s : Store K V) (f : K → V → M) {l : List K} (hl : l.Nodup)
    (h : ∀ k v, s.lookup k = some v → f k v ≠ 0 → k ∈ l) :
    total s f = (l.map fun k => (s.lookup k).elim 0 (f k)).sum := by
  rw [← List.sum_toFinset _ hl]
  refine Finset.sum_congr_of_eq_on_inter (fun k _ hkl => ?_) (fun k _ hk => ?_) fun _ _ _ => rfl
  · cases hs : s.lookup k with
    | none => rfl
    | some v =>
      by_contra hne
      exact hkl (List.mem_toFinset.2 (h k v hs hne))
  · rw [Finmap.lookup_eq_none.2 fun hm => hk (Finmap.mem_keys.2 hm)]; rfl

end

theorem total_le_total {s : Store K V} {f g : K → V → ℕ}
    (h : ∀ k v, s.lookup k = some v → f k v ≤ g k v) : total s f ≤ total s g := by
  refine Finset.sum_le_sum fun k _ => ?_
  cases hk : s.lookup k with
  | none => exact le_rfl
  | some v => exact h k v hk

/-- An entry is at most the sum of entries that are not negative. -/
theorem le_total [AddCommMonoid M] [PartialOrder M] [IsOrderedAddMonoid M] {s : Store K V}
    {f : K → V → M} (h : ∀ k v, s.lookup k = some v → 0 ≤ f k v) {k : K} {v : V}
    (hk : s.lookup k = some v) : f k v ≤ total s f := by
  have hterm : f k v = (s.lookup k).elim 0 (f k) := by rw [hk, Option.elim_some]
  rw [hterm]
  refine Finset.single_le_sum (f := fun k => (s.lookup k).elim 0 (f k)) (fun k' _ => ?_)
    (Finmap.mem_keys.2 (Finmap.mem_of_lookup_eq_some hk))
  cases hk' : s.lookup k' with
  | none => exact le_rfl
  | some v' => exact h k' v' hk'

/-- An entry is at most the sum. -/
theorem elim_le_total (s : Store K V) (k : K) (f : K → V → ℕ) :
    (s.lookup k).elim 0 (f k) ≤ total s f := by
  cases h : s.lookup k with
  | none => exact Nat.zero_le _
  | some v => exact Nat.le.intro ((add_comm _ _).trans (total_erase h f))

end Store

end Lib
