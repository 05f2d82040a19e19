/-
  Saturating addition of unsigned integers, and sums added up with it.
-/
import Mathlib.Algebra.BigOperators.Group.List.Basic
import Mathlib.Algebra.GroupWithZero.Nat

namespace Lib

/-- `a.saturating_add(b)` on `w` bits. -/
def saturatingAdd (w a b : ℕ) : ℕ := min (a + b) (2 ^ w - 1)

theorem saturatingAdd_min (w a b : ℕ) :
    saturatingAdd w (min a (2 ^ w - 1)) b = min (a + b) (2 ^ w - 1) := by
  unfold saturatingAdd; omega

/-- A sum added up step by step under a cap is the exact sum, capped once. -/
theorem foldl_capped {α : Type} {m : ℕ} {step : ℕ → α → ℕ} {f : α → ℕ}
    (h : ∀ a x, step (min a m) x = min (a + f x) m) (l : List α) (a : ℕ) :
    l.foldl step (min a m) = min (a + (l.map f).sum) m := by
  induction l generalizing a with
  | nil => simp
  | cons x l ih => rw [List.foldl_cons, h, ih, List.map_cons, List.sum_cons, Nat.add_assoc]

/-- A capped sum that stays within a bound below the cap is the exact sum. -/
theorem le_of_saturatingAdd_le {w a b c : ℕ} (h : saturatingAdd w (min a (2 ^ w - 1)) b ≤ c)
    (hc : c < 2 ^ w - 1 ∨ a + b ≤ 2 ^ w - 1) : a + b ≤ c := by
  rw [saturatingAdd_min] at h
  omega

end Lib
