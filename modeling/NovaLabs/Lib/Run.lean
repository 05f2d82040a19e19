/-
  Runs of a step relation, with their history.
-/
import Mathlib.Data.List.Basic
import Mathlib.Data.List.Induction

namespace Lib

variable {σ ι : Type}

/-- One step of a run: the state before, the input, the state after. -/
structure Event (σ ι : Type) where
  pre : σ
  inp : ι
  post : σ

/-- `Run step s tr s'`: the events `tr`, oldest first, lead from `s` to `s'`. -/
inductive Run (step : σ → ι → σ → Prop) (s : σ) : List (Event σ ι) → σ → Prop
  | nil : Run step s [] s
  | snoc {tr s₁ i s₂} : Run step s tr s₁ → step s₁ i s₂ → Run step s (tr ++ [⟨s₁, i, s₂⟩]) s₂

/-- Where a list that ends in `e` is cut at an element, that is `e`, or `e` comes after it. -/
theorem snoc_eq_append_cons {α : Type} {l l₁ l₂ : List α} {e e₁ : α}
    (h : l ++ [e] = l₁ ++ e₁ :: l₂) :
    (l₂ = [] ∧ l₁ = l ∧ e₁ = e) ∨ ∃ l', l₂ = l' ++ [e] ∧ l = l₁ ++ e₁ :: l' := by
  rcases List.eq_nil_or_concat l₂ with rfl | ⟨l', e', rfl⟩
  · obtain ⟨rfl, hl⟩ := List.append_inj' h rfl
    exact Or.inl ⟨rfl, rfl, (List.singleton_inj.1 hl).symm⟩
  · have hl : l ++ [e] = (l₁ ++ e₁ :: l') ++ [e'] := by simpa using h
    obtain ⟨rfl, he⟩ := List.append_inj' hl rfl
    rw [List.singleton_inj.1 he]
    exact Or.inr ⟨l', by simp, rfl⟩

/-- The last element with `P` of a list is at one place. -/
theorem append_cons_last_unique {α : Type} {P : α → Prop} {l l₁ l₂ l₁' l₂' : List α} {e e' : α}
    (h : l = l₁ ++ e :: l₂) (h' : l = l₁' ++ e' :: l₂') (he : P e) (he' : P e')
    (hl : ∀ x ∈ l₂, ¬ P x) (hl' : ∀ x ∈ l₂', ¬ P x) : l₁ = l₁' ∧ e = e' ∧ l₂ = l₂' := by
  rcases List.append_eq_append_iff.1 (h.symm.trans h') with ⟨a, rfl, ha⟩ | ⟨a, rfl, ha⟩
  · cases a with
    | nil =>
      obtain ⟨rfl, rfl⟩ := List.cons.inj ha
      exact ⟨(List.append_nil _).symm, rfl, rfl⟩
    | cons x a =>
      obtain ⟨rfl, rfl⟩ := List.cons.inj ha
      exact absurd he' (hl e' (by simp))
  · cases a with
    | nil =>
      obtain ⟨rfl, rfl⟩ := List.cons.inj ha
      exact ⟨List.append_nil _, rfl, rfl⟩
    | cons x a =>
      obtain ⟨rfl, rfl⟩ := List.cons.inj ha
      exact absurd he (hl' e (by simp))

namespace Run
variable {step : σ → ι → σ → Prop} {s s' s'' : σ} {tr tr' : List (Event σ ι)}

theorem append (h : Run step s tr s') (h' : Run step s' tr' s'') : Run step s (tr ++ tr') s'' := by
  induction h' with
  | nil => simpa using h
  | snoc _ hs ih => rw [← List.append_assoc]; exact .snoc ih hs

theorem cons {i : ι} (hs : step s i s') (h : Run step s' tr s'') :
    Run step s (⟨s, i, s'⟩ :: tr) s'' :=
  (Run.snoc .nil hs).append h

/-- A run, cut at one of its events. -/
theorem split {e : Event σ ι} (h : Run step s (tr ++ e :: tr') s') :
    Run step s tr e.pre ∧ step e.pre e.inp e.post ∧ Run step e.post tr' s' := by
  generalize htr : tr ++ e :: tr' = l at h
  induction h generalizing tr' with
  | nil => simp at htr
  | @snoc tr₀ s₁ i s₂ h₀ hs ih =>
    rcases snoc_eq_append_cons htr.symm with ⟨rfl, rfl, rfl⟩ | ⟨tr'', rfl, hl⟩
    · exact ⟨h₀, hs, .nil⟩
    · obtain ⟨h1, h2, h3⟩ := ih hl.symm
      exact ⟨h1, h2, h3.snoc hs⟩

/-- A run, up to one of its events. -/
theorem upTo {e : Event σ ι} (h : Run step s (tr ++ e :: tr') s') :
    Run step s (tr ++ [e]) e.post := h.split.1.snoc h.split.2.1

theorem step_of_mem (h : Run step s tr s') {e : Event σ ι} (he : e ∈ tr) :
    step e.pre e.inp e.post := by
  obtain ⟨tr₁, tr₂, rfl⟩ := List.append_of_mem he
  exact h.split.2.1

/-- What every step that meets `C` preserves holds at the end of a run whose steps all do. -/
theorem invariant {P : σ → Prop} {C : Event σ ι → Prop}
    (hstep : ∀ e, P e.pre → step e.pre e.inp e.post → C e → P e.post)
    (h : Run step s tr s') (h₀ : P s) (hC : ∀ e ∈ tr, C e) : P s' := by
  induction h with
  | nil => exact h₀
  | @snoc tr₀ s₁ i s₂ _ hs ih =>
    exact hstep ⟨s₁, i, s₂⟩ (ih fun e he => hC e (by simp [he])) hs (hC _ (by simp))

/-- What every step preserves holds at the end of a run. -/
theorem invariant' {P : σ → Prop} (hstep : ∀ s i s', P s → step s i s' → P s')
    (h : Run step s tr s') (h₀ : P s) : P s' :=
  h.invariant (C := fun _ => True) (fun _ hp hs _ => hstep _ _ _ hp hs) h₀ fun _ _ => trivial

/-- What every step preserves, of the history and the state, holds at the end of a run. -/
theorem history {P : List (Event σ ι) → σ → Prop}
    (hstep : ∀ tr s i s', P tr s → step s i s' → P (tr ++ [⟨s, i, s'⟩]) s')
    (h : Run step s tr s') (h₀ : P [] s) : P tr s' := by
  induction h with
  | nil => exact h₀
  | snoc _ hs ih => exact hstep _ _ _ _ ih hs

end Run

/-! ## Conditions on the events of a run -/

/-- `C` holds of each event, with the events before it. -/
def Along (C : List (Event σ ι) → Event σ ι → Prop) (tr : List (Event σ ι)) : Prop :=
  ∀ tr₁ e tr₂, tr = tr₁ ++ e :: tr₂ → C tr₁ e

theorem along_nil (C : List (Event σ ι) → Event σ ι → Prop) : Along C [] := by
  intro tr₁ e tr₂ h
  simp at h

theorem along_snoc {C : List (Event σ ι) → Event σ ι → Prop} {tr : List (Event σ ι)}
    {e : Event σ ι} : Along C (tr ++ [e]) ↔ Along C tr ∧ C tr e := by
  constructor
  · intro h
    exact ⟨fun tr₁ e₁ tr₂ he => h tr₁ e₁ (tr₂ ++ [e]) (by simp [he]), h tr e [] rfl⟩
  · rintro ⟨h, hC⟩ tr₁ e₁ tr₂ he
    rcases snoc_eq_append_cons he with ⟨-, rfl, rfl⟩ | ⟨tr₂, -, hl⟩
    · exact hC
    · exact h tr₁ e₁ tr₂ hl

theorem along_cons {C : List (Event σ ι) → Event σ ι → Prop} {tr : List (Event σ ι)}
    {e : Event σ ι} : Along C (e :: tr) ↔ C [] e ∧ Along (fun tr' => C (e :: tr')) tr := by
  constructor
  · intro h
    refine ⟨h [] e tr rfl, ?_⟩
    rintro tr₁ e₁ tr₂ rfl
    exact h (e :: tr₁) e₁ tr₂ rfl
  · rintro ⟨he, h⟩ tr₁ e₁ tr₂ heq
    cases tr₁ with
    | nil =>
      cases heq
      exact he
    | cons e₀ tr₁ =>
      cases heq
      exact h tr₁ e₁ tr₂ rfl

instance decidableAlong : ∀ (tr : List (Event σ ι)) (C : List (Event σ ι) → Event σ ι → Prop)
    [∀ tr e, Decidable (C tr e)], Decidable (Along C tr)
  | [], C, _ => isTrue (along_nil C)
  | e :: tr, C, _ =>
    have := decidableAlong tr fun tr' => C (e :: tr')
    decidable_of_iff _ along_cons.symm

theorem along_iff_forall {C : Event σ ι → Prop} {tr : List (Event σ ι)} :
    Along (fun _ e => C e) tr ↔ ∀ e ∈ tr, C e := by
  constructor
  · intro h e he
    obtain ⟨tr₁, tr₂, rfl⟩ := List.append_of_mem he
    exact h tr₁ e tr₂ rfl
  · rintro h tr₁ e tr₂ rfl
    exact h e (by simp)

theorem along_of_pairwise {R : Event σ ι → Event σ ι → Prop} {tr : List (Event σ ι)}
    (h : tr.Pairwise R) : Along (fun tr e => ∀ e' ∈ tr, R e' e) tr := by
  rintro tr₁ e tr₂ rfl e' he'
  exact (List.pairwise_append.1 h).2.2 e' he' e (.head _)

theorem Along.mono {C D : List (Event σ ι) → Event σ ι → Prop} {tr : List (Event σ ι)}
    (h : Along C tr) (hCD : ∀ tr e, C tr e → D tr e) : Along D tr :=
  fun tr₁ e tr₂ he => hCD _ _ (h tr₁ e tr₂ he)

/-- Where a step from a state with `P` leads to one exactly if it meets `C`, all states of a run
    have `P` exactly if all its steps meet `C`. -/
theorem Run.always_iff {step : σ → ι → σ → Prop} {s s' : σ} {tr : List (Event σ ι)}
    {P : List (Event σ ι) → σ → Prop} {C : List (Event σ ι) → Event σ ι → Prop}
    (hstep : ∀ tr e, Run step s tr e.pre → step e.pre e.inp e.post → P tr e.pre →
      (P (tr ++ [e]) e.post ↔ C tr e))
    (h : Run step s tr s') (h₀ : P [] s) :
    (P tr s' ∧ Along (fun tr e => P tr e.pre) tr) ↔ Along C tr := by
  induction h with
  | nil => exact ⟨fun _ => along_nil _, fun _ => ⟨h₀, along_nil _⟩⟩
  | @snoc tr s₁ i s₂ hr hs ih =>
    rw [along_snoc, along_snoc]
    constructor
    · rintro ⟨h₂, hpre, h₁⟩
      exact ⟨ih.1 ⟨h₁, hpre⟩, (hstep tr ⟨s₁, i, s₂⟩ hr hs h₁).1 h₂⟩
    · rintro ⟨htr, hC⟩
      obtain ⟨h₁, hpre⟩ := ih.2 htr
      exact ⟨(hstep tr ⟨s₁, i, s₂⟩ hr hs h₁).2 hC, hpre, h₁⟩

/-- `A` holds of an event, and `B` of all events since. -/
def Since (A B : Event σ ι → Prop) (tr : List (Event σ ι)) : Prop :=
  ∃ tr₁ e tr₂, tr = tr₁ ++ e :: tr₂ ∧ A e ∧ ∀ e' ∈ tr₂, B e'

theorem not_since_nil {A B : Event σ ι → Prop} : ¬ Since A B [] := by
  rintro ⟨tr₁, e, tr₂, h, -⟩
  simp at h

theorem since_snoc {A B : Event σ ι → Prop} {tr : List (Event σ ι)} {e : Event σ ι} :
    Since A B (tr ++ [e]) ↔ A e ∨ (Since A B tr ∧ B e) := by
  constructor
  · rintro ⟨tr₁, e₁, tr₂, h, hA, hB⟩
    rcases snoc_eq_append_cons h with ⟨-, -, rfl⟩ | ⟨tr₂, rfl, rfl⟩
    · exact Or.inl hA
    · exact Or.inr ⟨⟨tr₁, e₁, tr₂, rfl, hA, fun e' he => hB e' (by simp [he])⟩, hB e (by simp)⟩
  · rintro (hA | ⟨⟨tr₁, e₁, tr₂, rfl, hA, hB⟩, he⟩)
    · exact ⟨tr, e, [], rfl, hA, fun e' he => absurd he List.not_mem_nil⟩
    · refine ⟨tr₁, e₁, tr₂ ++ [e], by simp, hA, fun e' he' => ?_⟩
      rcases List.mem_append.1 he' with he' | he'
      · exact hB e' he'
      · rwa [List.mem_singleton.1 he']

theorem since_cons {A B : Event σ ι → Prop} {tr : List (Event σ ι)} {e : Event σ ι} :
    Since A B (e :: tr) ↔ (A e ∧ ∀ e' ∈ tr, B e') ∨ Since A B tr := by
  constructor
  · rintro ⟨tr₁, e₁, tr₂, h, hA, hB⟩
    cases tr₁ with
    | nil =>
      cases h
      exact Or.inl ⟨hA, hB⟩
    | cons e₀ tr₁ =>
      cases h
      exact Or.inr ⟨tr₁, e₁, tr₂, rfl, hA, hB⟩
  · rintro (⟨hA, hB⟩ | ⟨tr₁, e₁, tr₂, rfl, hA, hB⟩)
    · exact ⟨[], e, tr, rfl, hA, hB⟩
    · exact ⟨e :: tr₁, e₁, tr₂, rfl, hA, hB⟩

instance decidableSince (A B : Event σ ι → Prop) [DecidablePred A] [DecidablePred B] :
    ∀ tr : List (Event σ ι), Decidable (Since A B tr)
  | [] => isFalse not_since_nil
  | _ :: tr =>
    have := decidableSince A B tr
    decidable_of_iff _ since_cons.symm

theorem Since.mono {A B A' B' : Event σ ι → Prop} {tr : List (Event σ ι)} (h : Since A B tr)
    (hA : ∀ e, A e → A' e) (hB : ∀ e, B e → B' e) : Since A' B' tr := by
  obtain ⟨tr₁, e, tr₂, rfl, he, hB'⟩ := h
  exact ⟨tr₁, e, tr₂, rfl, hA e he, fun e' he' => hB e' (hB' e' he')⟩

/-- Where `B` excludes `A'`, the event of `A` is not before that of `A'`. -/
theorem Since.inter {A B A' B' : Event σ ι → Prop} {tr : List (Event σ ι)} (h : Since A B tr)
    (h' : Since A' B' tr) (hBA : ∀ e, B e → ¬ A' e) : Since A (fun e => B e ∧ B' e) tr := by
  induction tr using List.reverseRecOn with
  | nil => exact absurd h not_since_nil
  | append_singleton tr e ih =>
    rw [since_snoc] at h h' ⊢
    rcases h with hA | ⟨h, hB⟩
    · exact Or.inl hA
    · obtain ⟨h', hB'⟩ := h'.resolve_left (hBA e hB)
      exact Or.inr ⟨ih h h', hB, hB'⟩

/-! ## Replaying a list of inputs -/

/-- The events of a deterministic system on a list of inputs. -/
def eventsFrom (next : σ → ι → σ) : σ → List ι → List (Event σ ι)
  | _, [] => []
  | s, i :: is => ⟨s, i, next s i⟩ :: eventsFrom next (next s i) is

theorem run_foldl (next : σ → ι → σ) :
    ∀ (is : List ι) (s : σ),
      Run (fun s i s' => s' = next s i) s (eventsFrom next s is) (is.foldl next s)
  | [], _ => .nil
  | i :: is, s => .cons rfl (run_foldl next is (next s i))

theorem eventsFrom_append (next : σ → ι → σ) (is is' : List ι) (s : σ) :
    eventsFrom next s (is ++ is') =
      eventsFrom next s is ++ eventsFrom next (is.foldl next s) is' := by
  induction is generalizing s with
  | nil => rfl
  | cons i is ih => rw [List.cons_append, eventsFrom, eventsFrom, ih, List.cons_append]; rfl

theorem map_inp_eventsFrom (next : σ → ι → σ) (is : List ι) (s : σ) :
    (eventsFrom next s is).map Event.inp = is := by
  induction is generalizing s with
  | nil => rfl
  | cons i is ih => rw [eventsFrom, List.map_cons, ih]

theorem inp_mem_of_eventsFrom {next : σ → ι → σ} {e : Event σ ι} {is : List ι} {s : σ}
    (h : e ∈ eventsFrom next s is) : e.inp ∈ is := by
  rw [← map_inp_eventsFrom next is s]
  exact List.mem_map_of_mem h

end Lib
