/-
  Truncated division: how far a rate of whole units, paid for whole periods, is from the exact
  amount, and that parts which are rounded down do not add up to more than the whole.
-/
import Mathlib.Algebra.BigOperators.Group.List.Basic
import Mathlib.Algebra.Order.Field.Basic
import Mathlib.Data.Rat.Cast.Order
import Mathlib.Tactic.FieldSimp
import Mathlib.Tactic.Linarith
import Mathlib.Tactic.Ring

namespace Lib

/-- A truncated quotient is within 1 of the exact one. -/
theorem abs_tdiv_sub_div_le (p : ℤ) {n : ℕ} (hn : 0 < n) :
    |((p.tdiv n : ℤ) : ℚ) - p / n| ≤ 1 := by
  have hn' : (0 : ℚ) < n := by exact_mod_cast hn
  have hp : (p : ℚ) = n * (p.tdiv n : ℤ) + (p.tmod n : ℤ) := by
    exact_mod_cast (Int.mul_tdiv_add_tmod p n).symm
  have hlt : ((p.tmod n : ℤ) : ℚ) < n := by
    exact_mod_cast Int.tmod_lt_of_pos p (by exact_mod_cast hn : (0 : ℤ) < n)
  have hgt : -(n : ℚ) < (p.tmod n : ℤ) := by
    exact_mod_cast Int.lt_tmod_of_pos p (by exact_mod_cast hn : (0 : ℤ) < n)
  rw [abs_le, hp, add_div, mul_div_cancel_left₀ _ hn'.ne']
  have h₁ := (div_lt_one hn').2 hlt
  have h₂ := (lt_div_iff₀ hn').2 (by linarith : (-1 : ℚ) * n < (p.tmod n : ℤ))
  constructor <;> linarith

/-- Whole periods are within 1 of the exact number. -/
theorem abs_natDiv_sub_div_le (r : ℕ) {k : ℕ} (hk : 0 < k) :
    |((r / k : ℕ) : ℚ) - r / k| ≤ 1 := by
  have h := abs_tdiv_sub_div_le (r : ℤ) hk
  rwa [Int.tdiv_eq_ediv_of_nonneg (Int.natCast_nonneg r), ← Int.natCast_ediv, Int.cast_natCast,
    Int.cast_natCast] at h

/-- The difference of two truncated rates per `k` of the `n * k` units of a cycle, paid for the whole
    `k`s in `r` units: its error comes from the two rates, and from the units that are left over. -/
theorem abs_rates_sub_le (p q : ℤ) (r : ℕ) {n k : ℕ} (hn : 0 < n) (hk : 0 < k) :
    |((p.tdiv n * (r / k : ℕ) - q.tdiv n * (r / k : ℕ) : ℤ) : ℚ) - (p - q : ℤ) * r / (n * k : ℕ)|
      ≤ |((p - q : ℤ) : ℚ)| / n + 2 * (r / k : ℕ) := by
  have hn' : (0 : ℚ) < n := by exact_mod_cast hn
  have hk' : (0 : ℚ) < k := by exact_mod_cast hk
  have hr := abs_natDiv_sub_div_le r hk
  generalize r / k = d at hr ⊢
  have hd : (0 : ℚ) ≤ d := by exact_mod_cast Nat.zero_le d
  have hp := mul_le_mul_of_nonneg_right (abs_tdiv_sub_div_le p hn) hd
  have hq := mul_le_mul_of_nonneg_right (abs_tdiv_sub_div_le q hn) hd
  have hc := mul_le_mul_of_nonneg_left hr (div_nonneg (abs_nonneg ((p - q : ℤ) : ℚ)) hn'.le)
  -- the errors of the two rates, and that of the number of periods
  have hsplit : ((p.tdiv n * d - q.tdiv n * d : ℤ) : ℚ) - (p - q : ℤ) * r / (n * k : ℕ) =
      ((p.tdiv n : ℤ) - (p : ℚ) / n) * d - ((q.tdiv n : ℤ) - (q : ℚ) / n) * d +
        (p - q : ℤ) / n * (d - (r : ℚ) / k) := by
    push_cast
    field_simp
    ring
  have hsub := abs_sub (((p.tdiv n : ℤ) - (p : ℚ) / n) * d) (((q.tdiv n : ℤ) - (q : ℚ) / n) * d)
  rw [abs_mul, abs_mul, abs_of_nonneg hd] at hsub
  rw [hsplit]
  refine (abs_add_le _ _).trans ?_
  rw [abs_mul (((p - q : ℤ) : ℚ) / n), abs_div, abs_of_pos hn']
  linarith

/-- Quotients that are rounded down do not add up to more than the quotient of the sum. -/
theorem sum_ediv_mul_le {α : Type} (f : α → ℤ) {n : ℤ} (hn : n ≠ 0) (l : List α) :
    (l.map fun a => f a / n).sum * n ≤ (l.map f).sum := by
  induction l with
  | nil => simp
  | cons a l ih =>
    rw [List.map_cons, List.sum_cons, List.map_cons, List.sum_cons, add_mul]
    exact add_le_add (Int.ediv_mul_le (f a) hn) ih

end Lib
