/-
  Programs that run alone: their queries are answered one after the other, and nothing else happens
  in between.
-/
import NovaLabs.Lib.Process

namespace Lib

open Process

section
variable {Op : Type} {Answer : Op → Type} {σ World ε α β : Type}

/-- Run alone from `s`, in worlds of `W`, the program ends with `r` and leaves `s'`. -/
inductive Alone (exec : World → σ → (op : Op) → Option (Answer op × σ)) (W : World → Prop) :
    σ → Process Answer ε α → Except ε α → σ → Prop
  | done {s r} : Alone exec W s (.done r) r s
  | ask {s s₁ s' op next w a r} : W w → exec w s op = some (a, s₁) →
      Alone exec W s₁ (next a) r s' → Alone exec W s (.ask op next) r s'

variable {exec : World → σ → (op : Op) → Option (Answer op × σ)} {W : World → Prop} {s s' : σ}

namespace Alone

theorem mono {W' : World → Prop} {x : Process Answer ε α} {r : Except ε α}
    (h : Alone exec W s x r s') (hW : ∀ w, W w → W' w) : Alone exec W' s x r s' := by
  induction h with
  | done => exact .done
  | ask hw hexec _ ih => exact .ask (hW _ hw) hexec ih

theorem bind_iff {x : Process Answer ε α} {f : α → Process Answer ε β} {r : Except ε β} :
    Alone exec W s (x >>= f) r s' ↔
      (∃ a s₁, Alone exec W s x (.ok a) s₁ ∧ Alone exec W s₁ (f a) r s') ∨
      ∃ e, r = .error e ∧ Alone exec W s x (.error e) s' := by
  induction x generalizing s with
  | done r₀ =>
    cases r₀ with
    | ok a =>
      refine ⟨fun h => Or.inl ⟨a, s, .done, h⟩, ?_⟩
      rintro (⟨_, _, ⟨⟩, h⟩ | ⟨_, -, ⟨⟩⟩)
      exact h
    | error e =>
      constructor
      · rintro ⟨⟩
        exact Or.inr ⟨e, rfl, .done⟩
      · rintro (⟨_, _, ⟨⟩, -⟩ | ⟨_, rfl, ⟨⟩⟩)
        exact .done
  | ask op next ih =>
    constructor
    · rintro (_ | ⟨hw, hexec, h⟩)
      rcases (ih _).1 h with ⟨a, s₁, h₁, h₂⟩ | ⟨e, rfl, h₁⟩
      · exact Or.inl ⟨a, s₁, .ask hw hexec h₁, h₂⟩
      · exact Or.inr ⟨e, rfl, .ask hw hexec h₁⟩
    · rintro (⟨a, s₁, _ | ⟨hw, hexec, h₁⟩, h₂⟩ | ⟨e, rfl, _ | ⟨hw, hexec, h₁⟩⟩)
      · exact .ask hw hexec ((ih _).2 (Or.inl ⟨a, s₁, h₁, h₂⟩))
      · exact .ask hw hexec ((ih _).2 (Or.inr ⟨e, rfl, h₁⟩))

/-! ### What a run alone comes from, by the form of the program -/

theorem value {a : α} {r : Except ε α} (h : Alone exec W s (pure a : Process Answer ε α) r s') :
    r = .ok a ∧ s' = s := by
  cases h
  exact ⟨rfl, rfl⟩

theorem error {e : ε} {r : Except ε α} (h : Alone exec W s (throw e : Process Answer ε α) r s') :
    r = .error e ∧ s' = s := by
  cases h
  exact ⟨rfl, rfl⟩

theorem seq {x : Process Answer ε α} {f : α → Process Answer ε β} {r : Except ε β}
    (h : Alone exec W s (x >>= f) r s') :
    (∃ a s₁, Alone exec W s x (.ok a) s₁ ∧ Alone exec W s₁ (f a) r s') ∨
      ∃ e, r = .error e ∧ Alone exec W s x (.error e) s' := bind_iff.1 h

theorem seq_ok {x : Process Answer ε α} {f : α → Process Answer ε β} {b : β}
    (h : Alone exec W s (x >>= f) (.ok b) s') :
    ∃ a s₁, Alone exec W s x (.ok a) s₁ ∧ Alone exec W s₁ (f a) (.ok b) s' := by
  rcases h.seq with h | ⟨e, he, -⟩
  · exact h
  · cases he

theorem map {x : Process Answer ε α} {f : α → β} {r : Except ε β}
    (h : Alone exec W s (x >>= fun a => pure (f a)) r s') :
    ∃ r', Alone exec W s x r' s' ∧ r = r'.map f := by
  rcases h.seq with ⟨a, s₁, hx, hend⟩ | ⟨e, rfl, hx⟩
  · obtain ⟨rfl, rfl⟩ := hend.value
    exact ⟨.ok a, hx, rfl⟩
  · exact ⟨.error e, hx, rfl⟩

theorem query {op : Op} {f : Answer op → Process Answer ε β} {r : Except ε β}
    (h : Alone exec W s (Process.query op >>= f) r s') :
    ∃ w a s₁, W w ∧ exec w s op = some (a, s₁) ∧ Alone exec W s₁ (f a) r s' := by
  obtain _ | ⟨hw, hexec, h⟩ := h
  exact ⟨_, _, _, hw, hexec, h⟩

theorem failIf {c : Prop} [Decidable c] {e : ε} {f : Unit → Process Answer ε β} {r : Except ε β}
    (h : Alone exec W s (Process.failIf c e >>= f) r s') :
    (c ∧ r = .error e ∧ s' = s) ∨ (¬ c ∧ Alone exec W s (f ()) r s') := by
  unfold Process.failIf at h
  split_ifs at h with hc
  · cases h
    exact Or.inl ⟨hc, rfl, rfl⟩
  · exact Or.inr ⟨hc, h⟩

theorem okOr {o : Option α} {e : ε} {f : α → Process Answer ε β} {r : Except ε β}
    (h : Alone exec W s (Process.okOr o e >>= f) r s') :
    (o = none ∧ r = .error e ∧ s' = s) ∨ ∃ a, o = some a ∧ Alone exec W s (f a) r s' := by
  cases o with
  | none =>
    cases h
    exact Or.inl ⟨rfl, rfl, rfl⟩
  | some a => exact Or.inr ⟨a, rfl, h⟩

theorem attempt_iff {x : Process Answer ε α} {f : Except ε α → Process Answer ε β}
    {r : Except ε β} : Alone exec W s (x.attempt >>= f) r s' ↔
      ∃ r₁ s₁, Alone exec W s x r₁ s₁ ∧ Alone exec W s₁ (f r₁) r s' := by
  induction x generalizing s with
  | done r₀ =>
    constructor
    · intro h
      exact ⟨r₀, s, .done, h⟩
    · rintro ⟨_, _, ⟨⟩, h⟩
      exact h
  | ask op next ih =>
    constructor
    · rintro (_ | ⟨hw, hexec, h⟩)
      obtain ⟨r₁, s₁, h₁, h₂⟩ := (ih _).1 h
      exact ⟨r₁, s₁, .ask hw hexec h₁, h₂⟩
    · rintro ⟨r₁, s₁, _ | ⟨hw, hexec, h₁⟩, h₂⟩
      exact .ask hw hexec ((ih _).2 ⟨r₁, s₁, h₁, h₂⟩)

/-- A loop whose steps leave the state leaves it, and gathers what the steps return. -/
theorem mapM {γ : Type} {f : γ → Process Answer ε α} {R : γ → α → Prop} {l : List γ}
    {g : List α → Process Answer ε β} {r : Except ε β}
    (hf : ∀ c ∈ l, ∀ {s r s'}, Alone exec W s (f c) r s' → s' = s ∧ ∀ a, r = .ok a → R c a)
    (h : Alone exec W s (l.mapM f >>= g) r s') :
    ((∃ e, r = .error e) ∧ s' = s) ∨ ∃ as, List.Forall₂ R l as ∧ Alone exec W s (g as) r s' := by
  induction l generalizing g with
  | nil =>
    rw [List.mapM_nil, pure_bind] at h
    exact Or.inr ⟨[], .nil, h⟩
  | cons c l ih =>
    rw [List.mapM_cons, bind_assoc] at h
    rcases h.seq with ⟨a, s₁, hc, hrest⟩ | ⟨e, rfl, hc⟩
    · obtain ⟨rfl, hR⟩ := hf c (.head l) hc
      rw [bind_assoc] at hrest
      rcases ih (fun c hc => hf c (.tail _ hc)) hrest with herr | ⟨as, has, hend⟩
      · exact Or.inl herr
      · exact Or.inr ⟨a :: as, .cons (hR a rfl) has, hend⟩
    · exact Or.inl ⟨⟨e, rfl⟩, (hf c (.head l) hc).1⟩

/-- A loop whose steps leave the state and do not fail, returns what the steps return. -/
theorem mapM_ok {γ : Type} {f : γ → Process Answer ε α} {R : γ → α → Prop} {l : List γ}
    {r : Except ε (List α)}
    (hf : ∀ c ∈ l, ∀ {r s'}, Alone exec W s (f c) r s' → s' = s ∧ ∃ a, r = .ok a ∧ R c a)
    (h : Alone exec W s (l.mapM f) r s') :
    s' = s ∧ ∃ as, r = .ok as ∧ (∀ c ∈ l, ∃ a ∈ as, R c a) ∧ ∀ a ∈ as, ∃ c ∈ l, R c a := by
  induction l generalizing r with
  | nil =>
    obtain ⟨rfl, rfl⟩ := h.value
    exact ⟨rfl, [], rfl, nofun, nofun⟩
  | cons c l ih =>
    rw [List.mapM_cons] at h
    rcases h.seq with ⟨a, s₁, hc, hrest⟩ | ⟨e, -, hc⟩
    · obtain ⟨rfl, _, heq, hR⟩ := hf c (.head l) hc
      cases heq
      obtain ⟨r', hl, rfl⟩ := hrest.map
      obtain ⟨rfl, as, rfl, hto, hof⟩ := ih (fun c hc => hf c (.tail _ hc)) hl
      refine ⟨rfl, a :: as, rfl, fun c' hc' => ?_, fun a' ha' => ?_⟩
      · rcases List.mem_cons.1 hc' with rfl | hc'
        · exact ⟨a, .head as, hR⟩
        · obtain ⟨a', ha', hR'⟩ := hto c' hc'
          exact ⟨a', .tail a ha', hR'⟩
      · rcases List.mem_cons.1 ha' with rfl | ha'
        · exact ⟨c, .head l, hR⟩
        · obtain ⟨c', hc', hR'⟩ := hof a' ha'
          exact ⟨c', .tail c hc', hR'⟩
    · obtain ⟨-, a, heq, -⟩ := hf c (.head l) hc
      cases heq

/-- From related states that answer its queries alike, a program does the same. -/
theorem simulate {R : σ → σ → Prop} {queries : Op → Bool} {x : Process Answer ε α} {r : Except ε α}
    {t : σ} (hx : x.Only queries)
    (hexec : ∀ s t w op a s', queries op → R s t → W w → exec w s op = some (a, s') →
      ∃ w' t', W w' ∧ exec w' t op = some (a, t') ∧ R s' t')
    (hR : R s t) (h : Alone exec W s x r s') : ∃ t', Alone exec W t x r t' ∧ R s' t' := by
  induction h generalizing t with
  | done => exact ⟨t, .done, hR⟩
  | ask hw ha _ ih =>
    obtain ⟨w', t₁, hw', ha', hR'⟩ := hexec _ _ _ _ _ _ hx.1 hR hw ha
    obtain ⟨t', h', hend⟩ := ih (hx.2 _) hR'
    exact ⟨t', .ask hw' ha' h', hend⟩

/-! ### Runs alone that there are -/

theorem then_ok {x : Process Answer ε α} {f : α → Process Answer ε β} {a : α} {s₁ : σ}
    {r : Except ε β} (hx : Alone exec W s x (.ok a) s₁) (hf : Alone exec W s₁ (f a) r s') :
    Alone exec W s (x >>= f) r s' := bind_iff.2 (Or.inl ⟨a, s₁, hx, hf⟩)

theorem of_query {op : Op} {w : World} {a : Answer op} {s₁ : σ} {f : Answer op → Process Answer ε β}
    {r : Except ε β} (hw : W w) (hexec : exec w s op = some (a, s₁))
    (hf : Alone exec W s₁ (f a) r s') : Alone exec W s (Process.query op >>= f) r s' :=
  .ask hw hexec hf

theorem of_okOr {o : Option α} {e : ε} {f : α → Process Answer ε β} {a : α} {r : Except ε β}
    (ho : o = some a) (hf : Alone exec W s (f a) r s') :
    Alone exec W s (Process.okOr o e >>= f) r s' := by
  rw [ho]
  exact hf

theorem of_failIf {c : Prop} [Decidable c] {e : ε} {f : Unit → Process Answer ε β}
    {r : Except ε β} (hc : ¬ c) (hf : Alone exec W s (f ()) r s') :
    Alone exec W s (Process.failIf c e >>= f) r s' := by
  unfold Process.failIf
  rw [if_neg hc]
  exact hf

end Alone

/-- Run a program alone, in the given worlds. -/
def aloneIn (exec : World → σ → (op : Op) → Option (Answer op × σ)) :
    Process Answer ε α → List World → σ → Option (Except ε α × σ)
  | .done r, [], s => some (r, s)
  | .ask op next, w :: ws, s => (exec w s op).bind fun (a, s') => aloneIn exec (next a) ws s'
  | .done _, _ :: _, _ | .ask _ _, [], _ => none

theorem alone_of_aloneIn {x : Process Answer ε α} {ws : List World} {r : Except ε α}
    (h : aloneIn exec x ws s = some (r, s')) (hW : ∀ w ∈ ws, W w) : Alone exec W s x r s' := by
  induction x generalizing ws s with
  | done r₀ =>
    cases ws with
    | nil =>
      cases h
      exact .done
    | cons => cases h
  | ask op next ih =>
    cases ws with
    | nil => cases h
    | cons w ws =>
      obtain ⟨⟨a, s₁⟩, hexec, h⟩ := Option.bind_eq_some_iff.1 h
      exact .ask (hW w (.head _)) hexec (ih a h fun w' hw' => hW w' (.tail _ hw'))

/-- Where each query can be answered, each program ends. -/
theorem exists_alone (hexec : ∀ s op, ∃ w a s', W w ∧ exec w s op = some (a, s'))
    (x : Process Answer ε α) (s : σ) : ∃ r s', Alone exec W s x r s' := by
  induction x generalizing s with
  | done r => exact ⟨r, s, .done⟩
  | ask op next ih =>
    obtain ⟨w, a, s₁, hw, ha⟩ := hexec s op
    obtain ⟨r, s', h⟩ := ih a s₁
    exact ⟨r, s', .ask hw ha h⟩

end

end Lib
