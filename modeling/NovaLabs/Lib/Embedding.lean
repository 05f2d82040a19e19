/-
  Programs as parts of programs that make further queries, over a larger state.
-/
import NovaLabs.Lib.Alone

namespace Lib

variable {Op Op' : Type} {Answer : Op' → Type} {ε α : Type}

/-- The program, with its queries as queries of a larger kind. -/
def Process.embed (f : Op → Op') : Process (fun op => Answer (f op)) ε α → Process Answer ε α
  | done r => done r
  | ask op next => ask (f op) fun a => (next a).embed f

theorem Process.Only.embed {f : Op → Op'} {queries : Op → Bool} {queries' : Op' → Bool}
    {x : Process (fun op => Answer (f op)) ε α} (h : x.Only queries)
    (hq : ∀ op, queries op → queries' (f op)) : (x.embed f).Only queries' := by
  induction x with
  | done r => trivial
  | ask op next ih => exact ⟨hq op h.1, fun a => ih a (h.2 a)⟩

/-- A part of a larger state. -/
structure Part (σ σ' : Type) where
  get : σ' → σ
  put : σ' → σ → σ'
  get_put : ∀ s' s, get (put s' s) = s
  put_get : ∀ s', put s' (get s') = s'
  put_put : ∀ s' s₁ s₂, put (put s' s₁) s₂ = put s' s₂

/-- Run alone, an embedded program runs alone on its part of the state, and changes nothing else. -/
theorem Alone.embed {σ σ' World World' : Type} {f : Op → Op'} (P : Part σ σ') {g : World' → World}
    {exec : World → σ → (op : Op) → Option (Answer (f op) × σ)}
    {exec' : World' → σ' → (op : Op') → Option (Answer op × σ')} {W : World' → Prop}
    (hexec : ∀ w s' op, exec' w s' (f op) =
      (exec (g w) (P.get s') op).map fun (a, s) => (a, P.put s' s))
    {s' s'' : σ'} {x : Process (fun op => Answer (f op)) ε α} {r : Except ε α}
    (h : Alone exec' W s' (x.embed f) r s'') :
    ∃ s, Alone exec (fun w => ∃ w', W w' ∧ g w' = w) (P.get s') x r s ∧ s'' = P.put s' s := by
  induction x generalizing s' with
  | done r =>
    cases h
    exact ⟨_, .done, (P.put_get _).symm⟩
  | ask op next ih =>
    obtain _ | ⟨hw, ha, h⟩ := h
    rw [hexec] at ha
    obtain ⟨⟨a, s⟩, hpart, heq⟩ := Option.map_eq_some_iff.1 ha
    cases heq
    obtain ⟨s₁, h₁, rfl⟩ := ih _ h
    rw [P.get_put] at h₁
    exact ⟨s₁, .ask ⟨_, hw, rfl⟩ hpart h₁, P.put_put ..⟩

end Lib
