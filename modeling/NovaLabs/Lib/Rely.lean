/-
  How one session of a system ends, while the others change the store between its queries.

  `Ensures` follows a program from a state: others may change the state as they are allowed, then
  the program makes its next query.  In a run whose steps are of these kinds, a program that ends
  has ended as `Ensures` says (`System.ensures`).
-/
import NovaLabs.Lib.Process

namespace Lib

open Process

/-- What a program's own queries do to a state, and what others may do in between. -/
structure Rely {Op : Type} (Answer : Op → Type) (σ : Type) where
  own : (op : Op) → σ → Answer op → σ → Prop
  others : σ → σ → Prop
  refl : ∀ s, others s s
  trans : ∀ {s s' s''}, others s s' → others s' s'' → others s s''

section
variable {Op : Type} {Answer : Op → Type} {σ ε α β : Type} {G : Rely Answer σ}

/-- What others leave true. -/
def Rely.Stable (G : Rely Answer σ) (A : σ → Prop) : Prop := ∀ s s', G.others s s' → A s → A s'

theorem Rely.Stable.and {A B : σ → Prop} (hA : G.Stable A) (hB : G.Stable B) :
    G.Stable fun s => A s ∧ B s := fun s s' hs h => ⟨hA s s' hs h.1, hB s s' hs h.2⟩

theorem Rely.Stable.or {A B : σ → Prop} (hA : G.Stable A) (hB : G.Stable B) :
    G.Stable fun s => A s ∨ B s := fun s s' hs => Or.imp (hA s s' hs) (hB s s' hs)

/-- If the program ends, it ends as `post` says, and this stays so. -/
def Ensures (G : Rely Answer σ) (post : Except ε α → σ → Prop) : Process Answer ε α → σ → Prop
  | done r, s => ∀ s', G.others s s' → post r s'
  | ask op next, s =>
    ∀ s₁ a s₂, G.others s s₁ → G.own op s₁ a s₂ → Ensures G post (next a) s₂

namespace Ensures
variable {x : Process Answer ε α} {post post' : Except ε α → σ → Prop} {s s' : σ} {A : σ → Prop}

theorem others (h : Ensures G post x s) (hs : G.others s s') : Ensures G post x s' := by
  cases x with
  | done r => exact fun s'' hs' => h s'' (G.trans hs hs')
  | ask op next => exact fun s₁ a s₂ hs' => h s₁ a s₂ (G.trans hs hs')

theorem mono (h : Ensures G post x s) (hpost : ∀ r s, post r s → post' r s) :
    Ensures G post' x s := by
  induction x generalizing s with
  | done r => exact fun s' hs => hpost r s' (h s' hs)
  | ask op next ih => exact fun s₁ a s₂ hs hown => ih a (h s₁ a s₂ hs hown)

/-! ### Rules, by the form of the program -/

theorem stop (hA : G.Stable A) (h : A s) {r : Except ε α} (hpost : ∀ s, A s → post r s) :
    Ensures G post (.done r) s :=
  fun s' hs => hpost s' (hA s s' hs h)

theorem seq {f : α → Process Answer ε β} {post : Except ε β → σ → Prop}
    {mid : Except ε α → σ → Prop} (h : Ensures G mid x s)
    (hok : ∀ a s, mid (.ok a) s → Ensures G post (f a) s)
    (herr : ∀ e s, mid (.error e) s → post (.error e) s) : Ensures G post (x >>= f) s := by
  induction x generalizing s with
  | done r =>
    cases r with
    | ok a => exact hok a s (h s (G.refl s))
    | error e => exact fun s' hs => herr e s' (h s' hs)
  | ask op next ih => exact fun s₁ a s₂ hs hown => ih a (h s₁ a s₂ hs hown)

theorem attempt {f : Except ε α → Process Answer ε β} {post : Except ε β → σ → Prop}
    {mid : Except ε α → σ → Prop} (h : Ensures G mid x s)
    (hend : ∀ r s, mid r s → Ensures G post (f r) s) : Ensures G post (x.attempt >>= f) s := by
  induction x generalizing s with
  | done r => exact hend r s (h s (G.refl s))
  | ask op next ih => exact fun s₁ a s₂ hs hown => ih a (h s₁ a s₂ hs hown)

theorem query {op : Op} {f : Answer op → Process Answer ε β} {post : Except ε β → σ → Prop}
    (hA : G.Stable A) (h : A s)
    (hown : ∀ s a s', A s → G.own op s a s' → Ensures G post (f a) s') :
    Ensures G post (Process.query op >>= f) s :=
  fun s₁ a s₂ hs ho => hown s₁ a s₂ (hA s s₁ hs h) ho

theorem failIf {c : Prop} [Decidable c] {e : ε} {f : Unit → Process Answer ε β}
    {post : Except ε β → σ → Prop} (hfail : c → Ensures G post (.done (.error e)) s)
    (h : ¬ c → Ensures G post (f ()) s) : Ensures G post (Process.failIf c e >>= f) s := by
  unfold Process.failIf
  split_ifs with hc
  · exact hfail hc
  · exact h hc

theorem ite {c : Prop} [Decidable c] {y : Process Answer ε α} (ht : c → Ensures G post x s)
    (hf : ¬ c → Ensures G post y s) : Ensures G post (if c then x else y) s := by
  split_ifs with hc
  · exact ht hc
  · exact hf hc

/-- A program whose queries all keep a property that others leave true. -/
theorem only {queries : Op → Bool} (hx : x.Only queries) (hA : G.Stable A)
    (hkeep : ∀ op s a s', queries op → A s → G.own op s a s' → A s') (h : A s) :
    Ensures G (fun _ => A) x s := by
  induction x generalizing s with
  | done r => exact fun s' hs => hA s s' hs h
  | ask op next ih =>
    exact fun s₁ a s₂ hs ho => ih a (hx.2 a) (hkeep op s₁ a s₂ hx.1 (hA s s₁ hs h) ho)

end Ensures

end

/-! ## Sessions in a system -/

section
variable {Op : Type} {Answer : Op → Type} {σ σ' Req World ε α : Type}
  {S : System Answer σ Req World ε α} {p p' : Pool Answer σ ε α} {t : ℕ} {r r' : Req}
  {tr : List (Event (Pool Answer σ ε α) (Turn Req World))}

/-- Sessions that are started stay so, and are not started again. -/
theorem System.started (h : Run S.Steps p tr p') (hp : (p.procs t).isSome) :
    (p'.procs t).isSome ∧ ∀ r, ¬ Called tr t r := by
  induction h with
  | nil => exact ⟨hp, fun r ⟨_, he, _⟩ => absurd he List.not_mem_nil⟩
  | @snoc tr p₁ i p₂ _ hst ih =>
    obtain ⟨hp₁, hno⟩ := ih
    rcases hst.cases with ⟨t', r, rfl, hnone, -, hp₂⟩ | ⟨t', w, op, next, a, rfl, -, -, hp₂⟩
    · have ht : t ≠ t' := by
        rintro rfl
        rw [hnone] at hp₁
        cases hp₁
      rw [hp₂, Function.update_of_ne ht]
      refine ⟨hp₁, fun r' hr' => (called_snoc.1 hr').elim (hno r') ?_⟩
      rintro ⟨⟩
      exact ht rfl
    · refine ⟨?_, fun r' hr' => (called_snoc.1 hr').elim (hno r') nofun⟩
      rw [hp₂]
      by_cases ht : t = t'
      · rw [ht, Function.update_self]
        rfl
      · rwa [Function.update_of_ne ht]

theorem System.started_of_called (h : Run S.Steps p tr p') (hr : Called tr t r) :
    p.procs t = none ∧ (p'.procs t).isSome := by
  have hnone : p.procs t = none := by
    rw [← Option.not_isSome_iff_eq_none]
    exact fun hp => (System.started h hp).2 r hr
  obtain ⟨e, he, hinp⟩ := hr
  obtain ⟨tr₁, tr₂, rfl⟩ := List.append_of_mem he
  obtain ⟨-, hst, h₂⟩ := h.split
  rcases hst.cases with ⟨t', r', heq, -, -, hpost⟩ | ⟨_, _, _, _, _, heq, -⟩
  · cases hinp.symm.trans heq
    have hsome : (e.post.procs t).isSome := by
      rw [hpost, Function.update_self]
      rfl
    exact ⟨hnone, (System.started h₂ hsome).1⟩
  · cases hinp.symm.trans heq

theorem System.called_unique (h : Run S.Steps p tr p') (hr : Called tr t r)
    (hr' : Called tr t r') : r' = r := by
  induction h with
  | nil =>
    obtain ⟨_, he, -⟩ := hr
    cases he
  | @snoc tr p₁ i p₂ h hst ih =>
    have hnew {r : Req} (hcalled : Called tr t r) (r' : Req) : i ≠ .call t r' := by
      rintro rfl
      rcases hst.cases with ⟨t', _, heq, hfree, -⟩ | ⟨_, _, _, _, _, heq, -⟩
      · cases heq
        have hsome := (System.started_of_called h hcalled).2
        rw [hfree] at hsome
        cases hsome
      · cases heq
    rcases called_snoc.1 hr with hr | hr
    · exact ih hr ((called_snoc.1 hr').resolve_right (hnew hr r'))
    · rcases called_snoc.1 hr' with hr' | hr'
      · exact absurd hr (hnew hr' r)
      · cases hr.symm.trans hr'
        rfl

/-- **Where the steps of a run are as a program and the others make them, the program ends as it
    ensures.**  `view` is what the reasoning follows: the store, and what it keeps of the
    history. -/
theorem System.ensures {G : Rely Answer σ'} {post : Except ε α → σ' → Prop} {A : σ' → Prop}
    {view : List (Event (Pool Answer σ ε α) (Turn Req World)) → σ → σ'}
    (h : Run S.Steps p tr p')
    (hothers : Along (fun tr e => (∀ w, e.inp ≠ .step t w) →
      G.others (view tr e.pre.shared) (view (tr ++ [e]) e.post.shared)) tr)
    (hown : Along (fun tr e => ∀ w op a, e.inp = .step t w → e.pre.Asks t op →
      S.exec t w e.pre.shared op = some (a, e.post.shared) →
        G.own op (view tr e.pre.shared) a (view (tr ++ [e]) e.post.shared)) tr)
    (hA : G.Stable A) (h₀ : A (view [] p.shared)) (hr : Called tr t r)
    (hprogram : ∀ s, A s → Ensures G post (S.program r) s) :
    ∃ x, p'.procs t = some x ∧ Ensures G post x (view tr p'.shared) := by
  obtain ⟨hnone, hsome⟩ := System.started_of_called h hr
  have honce : ∀ r', Called tr t r' → r' = r := fun r' => System.called_unique h hr
  have hinv : (p'.procs t = none ∧ A (view tr p'.shared)) ∨
      ∃ x, p'.procs t = some x ∧ Ensures G post x (view tr p'.shared) := by
    clear hr hsome
    induction h with
    | nil => exact Or.inl ⟨hnone, h₀⟩
    | @snoc tr p₁ i p₂ _ hst ih =>
      obtain ⟨htr₁, ho⟩ := along_snoc.1 hothers
      obtain ⟨htr₂, hw⟩ := along_snoc.1 hown
      have hbefore := ih htr₁ htr₂ fun r' hr' => honce r' (called_snoc.2 (Or.inl hr'))
      rcases hst.cases with ⟨t', r', rfl, hfree, -, hp₂⟩ | ⟨t', w, op, next, a, rfl, hp, hexec, hp₂⟩
      · have hstep := ho fun w => nofun
        by_cases ht : t' = t
        · subst ht
          obtain rfl := honce r' (called_snoc.2 (Or.inr rfl))
          rcases hbefore with ⟨-, hA₁⟩ | ⟨x, hx, -⟩
          · exact Or.inr ⟨_, hp₂ ▸ Function.update_self .., hprogram _ (hA _ _ hstep hA₁)⟩
          · cases hfree.symm.trans hx
        · rw [hp₂, Function.update_of_ne (Ne.symm ht)]
          exact hbefore.imp (And.imp_right (hA _ _ hstep))
            (Exists.imp fun x => And.imp_right (Ensures.others · hstep))
      · by_cases ht : t' = t
        · subst ht
          rcases hbefore with ⟨hfree, -⟩ | ⟨x, hx, hens⟩
          · cases hfree.symm.trans hp
          · cases hx.symm.trans hp
            exact Or.inr ⟨_, hp₂ ▸ Function.update_self ..,
              hens _ _ _ (G.refl _) (hw w op a rfl ⟨next, hp⟩ hexec)⟩
        · have hstep := ho fun w' heq => ht (by cases heq; rfl)
          rw [hp₂, Function.update_of_ne (Ne.symm ht)]
          exact hbefore.imp (And.imp_right (hA _ _ hstep))
            (Exists.imp fun x => And.imp_right (Ensures.others · hstep))
  refine hinv.resolve_left fun hno => ?_
  rw [hno.1] at hsome
  cases hsome

end

end Lib
