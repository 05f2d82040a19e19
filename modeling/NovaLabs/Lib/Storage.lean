/-
  Typed storages: finitely many keys, each with a value of its own type, and sums over them.
-/
import Mathlib.Data.Finmap
import Mathlib.Algebra.BigOperators.Group.Finset.Basic

namespace Lib

/-- A finite store in which the key `k` has a value of type `V k`. -/
abbrev Storage {K : Type} (V : K → Type) := Finmap V

namespace Storage
variable {K M : Type} {V : K → Type} [DecidableEq K]

theorem lookup_insert_of_ne (s : Storage V) {k k' : K} (v : V k) (h : k' ≠ k) :
    (s.insert k v).lookup k' = s.lookup k' := Finmap.lookup_insert_of_ne s h

theorem lookup_erase_of_ne (s : Storage V) {k k' : K} (h : k' ≠ k) :
    (s.erase k).lookup k' = s.lookup k' := Finmap.lookup_erase_ne h

/-! ## Sums over the entries -/

section
variable [AddCommMonoid M]

/-- The sum of `f` over the entries. -/
def total (s : Storage V) (f : ∀ k, V k → M) : M := ∑ k ∈ s.keys, (s.lookup k).elim 0 (f k)

@[simp] theorem total_empty (f : ∀ k, V k → M) : total (∅ : Storage V) f = 0 := by simp [total]

/-- The sum, over any keys that include those of the entries. -/
theorem total_eq_sum (s : Storage V) (f : ∀ k, V k → M) {t : Finset K} (h : s.keys ⊆ t) :
    total s f = ∑ k ∈ t, (s.lookup k).elim 0 (f k) :=
  Finset.sum_subset h fun k _ hk => by
    rw [Finmap.lookup_eq_none.2 fun hm => hk (Finmap.mem_keys.2 hm), Option.elim_none]

/-- Where only the part of one key changes, the sum changes by as much. -/
theorem total_update (s s' : Storage V) (f f' : ∀ k, V k → M) (k : K)
    (h : ∀ k' ≠ k, (s'.lookup k').elim 0 (f' k') = (s.lookup k').elim 0 (f k')) :
    total s' f' + (s.lookup k).elim 0 (f k) = total s f + (s'.lookup k).elim 0 (f' k) := by
  have ht : s.keys ⊆ insert k (s.keys ∪ s'.keys) :=
    Finset.subset_union_left.trans (Finset.subset_insert _ _)
  have ht' : s'.keys ⊆ insert k (s.keys ∪ s'.keys) :=
    Finset.subset_union_right.trans (Finset.subset_insert _ _)
  have hk := Finset.mem_insert_self k (s.keys ∪ s'.keys)
  rw [total_eq_sum s f ht, total_eq_sum s' f' ht',
    ← Finset.add_sum_erase _ (fun k => (s.lookup k).elim 0 (f k)) hk,
    ← Finset.add_sum_erase _ (fun k => (s'.lookup k).elim 0 (f' k)) hk,
    Finset.sum_congr rfl fun k' hk' => h k' (Finset.ne_of_mem_erase hk')]
  rw [add_right_comm, add_comm ((s'.lookup k).elim 0 (f' k)), add_right_comm]

/-- Where no part changes, neither does the sum. -/
theorem total_congr {s s' : Storage V} {f f' : ∀ k, V k → M}
    (h : ∀ k, (s'.lookup k).elim 0 (f' k) = (s.lookup k).elim 0 (f k)) :
    total s' f' = total s f := by
  rw [total_eq_sum s f Finset.subset_union_left, total_eq_sum s' f' Finset.subset_union_right]
  exact Finset.sum_congr rfl fun k _ => h k

/-- Writing an entry exchanges the value that its key had, if any, for the new one. -/
theorem total_insert (s : Storage V) (k : K) (v : V k) (f : ∀ k, V k → M) :
    total (s.insert k v) f + (s.lookup k).elim 0 (f k) = total s f + f k v := by
  rw [total_update s _ f f k fun k' hk' => by rw [lookup_insert_of_ne s v hk'], Finmap.lookup_insert,
    Option.elim_some]

/-- Removing an entry takes its value away. -/
theorem total_erase (s : Storage V) (k : K) (f : ∀ k, V k → M) :
    total (s.erase k) f + (s.lookup k).elim 0 (f k) = total s f := by
  rw [total_update s _ f f k fun k' hk' => by rw [lookup_erase_of_ne s hk'], Finmap.lookup_erase,
    Option.elim_none, add_zero]

end

end Storage

end Lib
