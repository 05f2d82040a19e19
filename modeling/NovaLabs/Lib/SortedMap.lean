/-
  Maps as their entries in ascending order of keys, and sums of their values.
-/
import Mathlib.Algebra.BigOperators.Group.List.Basic
import Mathlib.Algebra.Order.BigOperators.Group.List
import Mathlib.Order.Lattice
import Mathlib.Tactic.Abel

namespace Lib

/-- A finite map: its entries, in strictly ascending order of keys. -/
@[ext] structure SortedMap (K V : Type) [LinearOrder K] where
  entries : List (K × V)
  sorted : entries.Pairwise fun a b => a.1 < b.1
  deriving DecidableEq

namespace SortedMap
variable {K V : Type} [LinearOrder K]

instance : EmptyCollection (SortedMap K V) := ⟨⟨[], .nil⟩⟩

/-- The keys, in ascending order. -/
def keys (m : SortedMap K V) : List K := m.entries.map Prod.fst

def len (m : SortedMap K V) : ℕ := m.entries.length

def get (m : SortedMap K V) (k : K) : Option V :=
  (m.entries.find? fun e => e.1 = k).map Prod.snd

/-- The entries with `v` at `k`. -/
def setEntries (k : K) (v : V) : List (K × V) → List (K × V)
  | [] => [(k, v)]
  | (k', v') :: l =>
    if k < k' then (k, v) :: (k', v') :: l
    else if k = k' then (k, v) :: l
    else (k', v') :: setEntries k v l

theorem mem_setEntries {k : K} {v : V} {e : K × V} {l : List (K × V)}
    (h : e ∈ setEntries k v l) : e.1 = k ∨ e ∈ l := by
  induction l with
  | nil => exact Or.inl (congrArg Prod.fst (List.mem_singleton.1 h))
  | cons e' l ih =>
    unfold setEntries at h
    split_ifs at h with hlt heq
    · rcases List.mem_cons.1 h with rfl | h
      · exact Or.inl rfl
      · exact Or.inr h
    · rcases List.mem_cons.1 h with rfl | h
      · exact Or.inl rfl
      · exact Or.inr (List.mem_cons_of_mem _ h)
    · rcases List.mem_cons.1 h with rfl | h
      · exact Or.inr (List.mem_cons_self ..)
      · exact (ih h).imp_right (List.mem_cons_of_mem _)

theorem sorted_setEntries {l : List (K × V)} (k : K) (v : V)
    (h : l.Pairwise fun a b => a.1 < b.1) : (setEntries k v l).Pairwise fun a b => a.1 < b.1 := by
  induction l with
  | nil => exact List.pairwise_singleton _ _
  | cons e l ih =>
    obtain ⟨hd, ht⟩ := List.pairwise_cons.1 h
    unfold setEntries
    split_ifs with hlt heq
    · refine List.pairwise_cons.2 ⟨fun e' he' => ?_, h⟩
      rcases List.mem_cons.1 he' with rfl | he'
      · exact hlt
      · exact lt_trans hlt (hd e' he')
    · exact List.pairwise_cons.2 ⟨fun e' he' => heq ▸ hd e' he', ht⟩
    · refine List.pairwise_cons.2 ⟨fun e' he' => ?_, ih ht⟩
      rcases mem_setEntries he' with hk | he'
      · exact hk ▸ lt_of_le_of_ne (not_lt.1 hlt) (Ne.symm heq)
      · exact hd e' he'

/-- The map with `v` at `k`. -/
def set (m : SortedMap K V) (k : K) (v : V) : SortedMap K V :=
  ⟨setEntries k v m.entries, sorted_setEntries k v m.sorted⟩

theorem length_setEntries_le (k : K) (v : V) (l : List (K × V)) :
    (setEntries k v l).length ≤ l.length + 1 := by
  induction l with
  | nil => exact le_rfl
  | cons e l ih =>
    unfold setEntries
    split_ifs
    · exact le_rfl
    · exact Nat.le_succ _
    · exact Nat.succ_le_succ ih

theorem len_set_le (m : SortedMap K V) (k : K) (v : V) : (m.set k v).len ≤ m.len + 1 :=
  length_setEntries_le k v m.entries

/-- The map without `k`. -/
def remove (m : SortedMap K V) (k : K) : SortedMap K V :=
  ⟨m.entries.filter fun e => e.1 ≠ k, m.sorted.filter _⟩

/-! ## Entries -/

section
variable {m : SortedMap K V} {k k' : K} {v v' : V}

theorem find?_of_mem {l : List (K × V)} (hl : l.Pairwise fun a b => a.1 < b.1)
    (h : (k, v) ∈ l) : (l.find? fun e => e.1 = k) = some (k, v) := by
  induction l with
  | nil => exact absurd h List.not_mem_nil
  | cons e l ih =>
    obtain ⟨hd, ht⟩ := List.pairwise_cons.1 hl
    rcases List.mem_cons.1 h with rfl | h
    · exact List.find?_cons_of_pos (by simp)
    · rw [List.find?_cons_of_neg (by simpa using (hd _ h).ne), ih ht h]

theorem get_eq_some : m.get k = some v ↔ (k, v) ∈ m.entries := by
  unfold get
  constructor
  · intro h
    obtain ⟨⟨k', v'⟩, hf, rfl⟩ := Option.map_eq_some_iff.1 h
    have hk : k' = k := by simpa using List.find?_some hf
    exact hk ▸ List.mem_of_find?_eq_some hf
  · intro h
    rw [find?_of_mem m.sorted h, Option.map_some]

theorem mem_setEntries_iff {e : K × V} {l : List (K × V)}
    (hl : l.Pairwise fun a b => a.1 < b.1) :
    e ∈ setEntries k v l ↔ e = (k, v) ∨ (e.1 ≠ k ∧ e ∈ l) := by
  induction l with
  | nil => simp [setEntries]
  | cons a l ih =>
    obtain ⟨hd, ht⟩ := List.pairwise_cons.1 hl
    unfold setEntries
    split_ifs with hlt heq
    · have hne : e ∈ a :: l → e.1 ≠ k := fun he => by
        rcases List.mem_cons.1 he with rfl | he
        · exact hlt.ne'
        · exact (hlt.trans (hd e he)).ne'
      rw [List.mem_cons, and_iff_right_of_imp hne]
    · have hne : e ∈ l → e.1 ≠ k := fun he => heq ▸ (hd e he).ne'
      have hn : ¬ (e.1 ≠ k ∧ e = a) := fun h => h.1 (h.2 ▸ heq.symm)
      rw [List.mem_cons, List.mem_cons, and_or_left, and_iff_right_of_imp hne, or_iff_right hn]
    · have hne : e = a → e.1 ≠ k := fun he => he ▸ Ne.symm heq
      rw [List.mem_cons, List.mem_cons, ih ht, and_or_left, and_iff_right_of_imp hne,
        or_left_comm]

@[simp] theorem get_empty : (∅ : SortedMap K V).get k = none := rfl

theorem get_set : (m.set k v).get k' = if k' = k then some v else m.get k' := by
  refine Option.ext fun v' => ?_
  rw [get_eq_some]
  change (k', v') ∈ setEntries k v m.entries ↔ _
  rw [mem_setEntries_iff m.sorted, Prod.mk.injEq]
  split_ifs with h
  · simp [h, eq_comm]
  · simp [h, get_eq_some]

theorem get_remove : (m.remove k).get k' = if k' = k then none else m.get k' := by
  refine Option.ext fun v' => ?_
  rw [get_eq_some]
  change (k', v') ∈ m.entries.filter _ ↔ _
  rw [List.mem_filter]
  split_ifs with h
  · simp [h]
  · simp [h, get_eq_some]

theorem nodup_keys (m : SortedMap K V) : m.keys.Nodup :=
  List.pairwise_map.2 (m.sorted.imp fun h => h.ne)

theorem mem_keys : k ∈ m.keys ↔ ∃ v, m.get k = some v := by
  simp only [keys, List.mem_map, get_eq_some, Prod.exists, exists_and_right, exists_eq_right]

end

/-! ## Sums -/

section
variable [AddCommMonoid V] {m : SortedMap K V} {k : K} {v : V}

/-- The sum of the values. -/
def sum (m : SortedMap K V) : V := (m.entries.map Prod.snd).sum

/-- Writing an entry exchanges the value that its key had, if any, for the new one. -/
theorem sum_set : (m.set k v).sum + (m.get k).getD 0 = m.sum + v := by
  obtain ⟨l, hl⟩ := m
  change ((setEntries k v l).map Prod.snd).sum + ((l.find? fun e => e.1 = k).map Prod.snd).getD 0 =
    (l.map Prod.snd).sum + v
  induction l with
  | nil => simp [setEntries]
  | cons e l ih =>
    obtain ⟨hd, ht⟩ := List.pairwise_cons.1 hl
    unfold setEntries
    split_ifs with hlt heq
    · have hn : ((e :: l).find? fun e => e.1 = k) = none := by
        refine List.find?_eq_none.2 fun e' he' => ?_
        rcases List.mem_cons.1 he' with rfl | he'
        · simpa using hlt.ne'
        · simpa using (hlt.trans (hd e' he')).ne'
      rw [hn, List.map_cons, List.sum_cons, Option.map_none, Option.getD_none, add_zero, add_comm]
    · rw [List.find?_cons_of_pos (by simp [heq]), List.map_cons, List.sum_cons, List.map_cons,
        List.sum_cons, Option.map_some, Option.getD_some]
      abel
    · rw [List.find?_cons_of_neg (by simpa using Ne.symm heq), List.map_cons, List.sum_cons,
        List.map_cons, List.sum_cons, add_assoc, ih ht, add_assoc]

/-- Removing an entry takes its value away. -/
theorem sum_remove : (m.remove k).sum + (m.get k).getD 0 = m.sum := by
  obtain ⟨l, hl⟩ := m
  change ((l.filter fun e => e.1 ≠ k).map Prod.snd).sum +
    ((l.find? fun e => e.1 = k).map Prod.snd).getD 0 = (l.map Prod.snd).sum
  induction l with
  | nil => simp
  | cons e l ih =>
    obtain ⟨hd, ht⟩ := List.pairwise_cons.1 hl
    by_cases h : e.1 = k
    · have hf : (l.filter fun e => e.1 ≠ k) = l :=
        List.filter_eq_self.2 fun e' he' => by simpa using (h ▸ hd e' he').ne'
      rw [List.filter_cons_of_neg (by simpa using h), hf, List.find?_cons_of_pos (by simp [h]),
        Option.map_some, Option.getD_some, List.map_cons, List.sum_cons, add_comm]
    · rw [List.filter_cons_of_pos (by simpa using h), List.find?_cons_of_neg (by simpa using h),
        List.map_cons, List.sum_cons, List.map_cons, List.sum_cons, add_assoc, ih ht]

/-- The sum, along the keys. -/
theorem sum_eq_keys (m : SortedMap K V) : m.sum = (m.keys.map fun k => (m.get k).getD 0).sum := by
  unfold sum keys
  rw [List.map_map]
  congr 1
  refine List.map_congr_left fun e he => ?_
  rw [Function.comp_apply, get_eq_some.2 he, Option.getD_some]

/-- The map with `n` more at `k`. -/
def credit (m : SortedMap K V) (k : K) (n : V) : SortedMap K V := m.set k ((m.get k).getD 0 + n)

theorem get_credit {k' : K} {n : V} :
    (m.credit k n).get k' = if k' = k then some ((m.get k).getD 0 + n) else m.get k' := get_set

end

theorem sum_credit [AddCommGroup V] {m : SortedMap K V} {k : K} {n : V} :
    (m.credit k n).sum = m.sum + n := by
  have h := sum_set (m := m) (k := k) (v := (m.get k).getD 0 + n)
  rw [add_comm ((m.get k).getD 0), ← add_assoc] at h
  rw [credit, add_comm ((m.get k).getD 0)]
  exact add_right_cancel h

theorem sum_nonneg [AddCommMonoid V] [Preorder V] [AddLeftMono V] {m : SortedMap K V}
    (h : ∀ k v, m.get k = some v → 0 ≤ v) : 0 ≤ m.sum := by
  refine List.sum_nonneg fun v hv => ?_
  obtain ⟨e, he, rfl⟩ := List.mem_map.1 hv
  exact h e.1 e.2 (get_eq_some.2 he)

/-- Where no value is negative, the values at two keys are no more than the sum. -/
theorem add_le_sum [AddCommMonoid V] [Preorder V] [AddLeftMono V] {m : SortedMap K V} {k k' : K}
    {v v' : V} (h : ∀ k v, m.get k = some v → 0 ≤ v) (hk : m.get k = some v)
    (hk' : m.get k' = some v') (hne : k' ≠ k) : v' + v ≤ m.sum := by
  have hget {k'' : K} {v'' : V} (hv : ((m.remove k).remove k').get k'' = some v'') :
      m.get k'' = some v'' := by
    rw [get_remove, get_remove] at hv
    split_ifs at hv
    exact hv
  have hr : (m.remove k).get k' = some v' := by rw [get_remove, if_neg hne, hk']
  have h₁ := sum_remove (m := m) (k := k)
  have h₂ := sum_remove (m := m.remove k) (k := k')
  rw [hk, Option.getD_some] at h₁
  rw [hr, Option.getD_some] at h₂
  rw [← h₁, ← h₂, add_assoc]
  exact le_add_of_nonneg_left (sum_nonneg fun _ _ hv => h _ _ (hget hv))

end SortedMap

end Lib
