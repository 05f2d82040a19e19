/-
  Code that does not look at the storage: it answers the same on every storage, and leaves it.
-/
import NovaLabs.Soroban.Code
import Mathlib.Tactic.SplitIfs

namespace Soroban

variable {S E α β : Type}

/-- What code answers on a storage: the value that it returns, or why it stops. -/
def answer (x : Code S E α) (s : S) : Except (Stop E) α := (exec x s).1

/-- The code gives one answer on all storages. -/
class Stateless (x : Code S E α) : Prop where
  same : ∃ r, ∀ s, exec x s = (r, s)

section
variable {x y : Code S E α} {f : α → Code S E β} {s s' : S}

theorem answer_stateless [h : Stateless x] : answer x s = answer x s' := by
  obtain ⟨r, hr⟩ := h.same
  rw [answer, answer, hr, hr]

instance {a : α} : Stateless (pure a : Code S E α) := ⟨⟨.ok a, fun _ => rfl⟩⟩

instance {e : Stop E} : Stateless (throw e : Code S E α) := ⟨⟨.error e, fun _ => rfl⟩⟩

instance [hx : Stateless x] [hf : ∀ a, Stateless (f a)] : Stateless (x >>= f) where
  same := by
    obtain ⟨r, hr⟩ := hx.same
    cases r with
    | error e => exact ⟨.error e, fun s => by rw [exec_bind, hr]⟩
    | ok a =>
      obtain ⟨r', hr'⟩ := (hf a).same
      exact ⟨r', fun s => by rw [exec_bind, hr]; exact hr' s⟩

instance {p : Prop} [Decidable p] [hx : Stateless x] [hy : Stateless y] :
    Stateless (if p then x else y) := by
  split_ifs
  · exact hx
  · exact hy

instance {p : Prop} [Decidable p] {e : E} : Stateless (failIf p e : Code S E Unit) := by
  unfold failIf; infer_instance

instance {w n : ℕ} : Stateless (checked w n : Code S E ℕ) := by
  unfold checked; infer_instance

instance {n m : ℕ} : Stateless (checkedSub n m : Code S E ℕ) := by
  unfold checkedSub; infer_instance

instance {l : List α} {b : β} {g : β → α → Code S E β} [h : ∀ b a, Stateless (g b a)] :
    Stateless (l.foldlM g b) := by
  induction l generalizing b with
  | nil => exact ⟨⟨.ok b, fun _ => rfl⟩⟩
  | cons a l ih =>
    rw [List.foldlM_cons]
    infer_instance

/-- A check that fails answers with its error, whatever follows. -/
theorem failIf_bind_of_pos {p : Prop} [Decidable p] {e : E} {g : Unit → Code S E α} (h : p) :
    failIf p e >>= g = throw (.err e) := by
  rw [failIf, if_pos h]
  rfl

theorem failIf_bind_of_neg {p : Prop} [Decidable p] {e : E} {g : Unit → Code S E α} (h : ¬ p) :
    failIf p e >>= g = g () := by
  rw [failIf, if_neg h, pure_bind]

end

end Soroban
