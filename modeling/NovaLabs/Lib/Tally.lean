/-
  Tallies: how often each key occurs in a list, and the shares of the counts in percent.
-/
import NovaLabs.Lib.Store
import Mathlib.Algebra.BigOperators.Intervals

namespace Lib

variable {α K : Type} [DecidableEq K]

/-- One more occurrence of a key. -/
def Store.bump (counts : Store K ℕ) (k : K) : Store K ℕ :=
  counts.insert k ((counts.lookup k).getD 0 + 1)

/-- How often each key occurs. -/
def tally (f : α → K) (l : List α) : Store K ℕ := l.foldl (fun counts a => counts.bump (f a)) ∅

/-- The number of elements with a key. -/
def occurrences (f : α → K) (l : List α) (k : K) : ℕ := l.countP fun a => f a = k

variable {f : α → K} {l : List α} {k : K}

@[simp] theorem occurrences_nil : occurrences f [] k = 0 := rfl

theorem occurrences_cons {a : α} :
    occurrences f (a :: l) k = occurrences f l k + if f a = k then 1 else 0 := by
  simp [occurrences, List.countP_cons]

theorem occurrences_pos : 0 < occurrences f l k ↔ ∃ a ∈ l, f a = k := by
  simp [occurrences, List.countP_pos_iff]

/-! ## Counts -/

section
variable {counts : Store K ℕ}

theorem lookup_bump_getD {k' : K} : ((counts.bump k).lookup k').getD 0 =
    (counts.lookup k').getD 0 + if k = k' then 1 else 0 := by
  rw [Store.bump, Store.lookup_insert_ite]
  by_cases h : k' = k
  · subst h; simp
  · rw [if_neg h, if_neg fun he => h he.symm, add_zero]

theorem lookup_foldl_bump : ((l.foldl (fun counts a => counts.bump (f a)) counts).lookup k).getD 0 =
    (counts.lookup k).getD 0 + occurrences f l k := by
  induction l generalizing counts with
  | nil => simp
  | cons a l ih => rw [List.foldl_cons, ih, lookup_bump_getD, occurrences_cons]; omega

theorem foldl_bump_pos (h : ∀ k n, counts.lookup k = some n → 0 < n) {n : ℕ}
    (hn : (l.foldl (fun counts a => counts.bump (f a)) counts).lookup k = some n) : 0 < n := by
  induction l generalizing counts with
  | nil => exact h k n hn
  | cons a l ih =>
    refine ih (fun k n hk => ?_) hn
    simp only [Store.bump, Store.lookup_insert_ite] at hk
    split_ifs at hk
    · obtain rfl := Option.some.inj hk
      exact Nat.succ_pos _
    · exact h k n hk

/-- A tally has the keys that occur, each with the number of its occurrences. -/
theorem lookup_tally : (tally f l).lookup k =
    if 0 < occurrences f l k then some (occurrences f l k) else none := by
  have hsum : ((tally f l).lookup k).getD 0 = occurrences f l k := by
    rw [tally, lookup_foldl_bump, Finmap.lookup_empty, Option.getD_none, zero_add]
  cases h : (tally f l).lookup k with
  | none =>
    rw [h, Option.getD_none] at hsum
    rw [← hsum, if_neg (lt_irrefl 0)]
  | some n =>
    have hpos : 0 < n := foldl_bump_pos (fun _ _ h => by simp at h) h
    rw [h, Option.getD_some] at hsum
    rw [← hsum, if_pos hpos]

end

/-! ## Sums of counts -/

section
variable {f : α → ℕ} {n : ℕ}

/-- The numbers of occurrences of all keys add up to the number of elements. -/
theorem sum_occurrences (h : ∀ a ∈ l, f a < n) :
    ∑ k ∈ Finset.range n, occurrences f l k = l.length := by
  induction l with
  | nil => simp
  | cons a l ih =>
    obtain ⟨ha, hl⟩ := List.forall_mem_cons.1 h
    simp only [occurrences_cons, Finset.sum_add_distrib, ih hl, Finset.sum_ite_eq,
      Finset.mem_range, if_pos ha, List.length_cons]

/-- The keys that occur, in ascending order. -/
def occurring (f : α → ℕ) (l : List α) (n : ℕ) : List ℕ :=
  (List.range n).filter fun k => 0 < occurrences f l k

theorem mem_occurring {k : ℕ} : k ∈ occurring f l n ↔ k < n ∧ ∃ a ∈ l, f a = k := by
  rw [occurring, List.mem_filter, List.mem_range, decide_eq_true_eq, occurrences_pos]

theorem occurring_sorted : (occurring f l n).Pairwise (· < ·) := List.pairwise_lt_range.filter _

theorem sum_map_filter_pos (g : ℕ → ℕ) (ks : List ℕ) :
    ((ks.filter fun k => 0 < g k).map g).sum = (ks.map g).sum := by
  induction ks with
  | nil => rfl
  | cons k ks ih =>
    by_cases hk : 0 < g k
    · rw [List.filter_cons_of_pos (by simpa using hk), List.map_cons, List.sum_cons, ih,
        List.map_cons, List.sum_cons]
    · rw [List.filter_cons_of_neg (by simpa using hk), ih, List.map_cons, List.sum_cons,
        Nat.eq_zero_of_not_pos hk, zero_add]

/-- So do those of the keys that occur. -/
theorem sum_occurring (h : ∀ a ∈ l, f a < n) :
    ((occurring f l n).map (occurrences f l)).sum = l.length := by
  rw [occurring, sum_map_filter_pos, ← sum_occurrences h, ← List.sum_toFinset _ List.nodup_range,
    List.toFinset_range]

end

/-! ## Shares -/

/-- The shares of counts in a total, each rounded down to percent. -/
def shares (total : ℕ) (counts : List ℕ) : List ℕ := counts.map fun c => c * 100 / total

section
variable {total : ℕ} {counts : List ℕ}

theorem sum_shares_mul_le : (shares total counts).sum * total ≤ counts.sum * 100 := by
  induction counts with
  | nil => simp [shares]
  | cons c counts ih =>
    have hc : c * 100 / total * total ≤ c * 100 := Nat.div_mul_le_self _ _
    simp only [shares, List.map_cons, List.sum_cons, add_mul] at ih ⊢
    omega

theorem lt_sum_shares_mul (ht : 0 < total) (hc : counts ≠ []) :
    counts.sum * 100 < ((shares total counts).sum + counts.length) * total := by
  induction counts with
  | nil => exact absurd rfl hc
  | cons c counts ih =>
    have hlt : c * 100 < (c * 100 / total + 1) * total := Nat.lt_mul_of_div_lt (Nat.lt_succ_self _) ht
    simp only [shares, List.map_cons, List.sum_cons, List.length_cons, add_mul, one_mul] at ih hlt ⊢
    cases counts with
    | nil => simpa using hlt
    | cons c' counts =>
      have hl := ih (List.cons_ne_nil _ _)
      omega

/-- The shares of counts that make up the total fall short of a hundred percent by less than one
    percent each. -/
theorem sum_shares (ht : 0 < total) (hsum : counts.sum = total) :
    (shares total counts).sum ≤ 100 ∧ 100 < (shares total counts).sum + counts.length := by
  have hc : counts ≠ [] := by
    rintro rfl
    exact absurd hsum.symm ht.ne'
  constructor
  · refine Nat.le_of_mul_le_mul_right ?_ ht
    calc (shares total counts).sum * total ≤ counts.sum * 100 := sum_shares_mul_le
      _ = 100 * total := by rw [hsum, mul_comm]
  · refine Nat.lt_of_mul_lt_mul_right (a := total) ?_
    calc 100 * total = counts.sum * 100 := by rw [hsum, mul_comm]
      _ < _ := lt_sum_shares_mul ht hc

end

end Lib
