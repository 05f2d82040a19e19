/-
  Separate calls, one after the other, and single calls that do the same.

  A loop over some items goes through exactly if the separate calls of all items do, and has their
  effect: `AllOrNothing`.  A loop that goes on where an item fails has the effect of the separate
  calls, of which some may fail: `BestEffort`.
-/
import NovaLabs.Soroban.Code
import Mathlib.Data.List.Basic

namespace Soroban

variable {S E α β ι : Type}

/-- What a call of `x` returns, if it does. -/
def outcome (x : Code S E α) (s : S) : Option α := (exec x s).1.toOption

/-- Separate calls of all items in order: what each returns, and the storage after them. -/
def callEach (f : ι → Code S E α) : List ι → S → List (Option α) × S
  | [], s => ([], s)
  | i :: is, s =>
    (outcome (f i) s :: (callEach f is (commit (f i) s)).1, (callEach f is (commit (f i) s)).2)

/-- The call goes through exactly if the separate calls all do, and then has their effect. -/
structure AllOrNothing (x : Code S E Unit) (f : ι → Code S E Unit) (l : List ι) (s : S) : Prop where
  goes_through : (outcome x s).isSome ↔ ∀ o ∈ (callEach f l s).1, o.isSome
  all : (∀ o ∈ (callEach f l s).1, o.isSome) → commit x s = (callEach f l s).2
  nothing : (¬ ∀ o ∈ (callEach f l s).1, o.isSome) → commit x s = s

/-- The call has the effect of the separate calls, and returns what they do; where it fails, all of
    them do. -/
structure BestEffort (x : Code S E β) (f : ι → Code S E α) (report : List (Option α) → β)
    (l : List ι) (s : S) : Prop where
  effect : commit x s = (callEach f l s).2
  reported : ∀ b, outcome x s = some b → b = report (callEach f l s).1
  failed : outcome x s = none → ∀ o ∈ (callEach f l s).1, o = none

/-! ## Outcomes -/

section
variable {x y : Code S E α} {s s' : S} {a : α}

theorem returns_iff_outcome : Returns x s a s' ↔ outcome x s = some a ∧ s' = commit x s := by
  unfold Returns outcome commit
  rcases exec x s with ⟨_ | b, t⟩
  · simp [Except.toOption]
  · simp [Except.toOption, eq_comm]

theorem Returns.outcome_eq (h : Returns x s a s') : outcome x s = some a :=
  (returns_iff_outcome.1 h).1

theorem outcome_eq_some : outcome x s = some a ↔ ∃ s', Returns x s a s' := by
  simp only [returns_iff_outcome, exists_and_left, exists_eq, and_true]

theorem outcome_eq_none : outcome x s = none ↔ ∀ a s', ¬ Returns x s a s' := by
  simp only [Option.eq_none_iff_forall_ne_some, ne_eq, outcome_eq_some, not_exists]

theorem commit_of_outcome_eq_none (h : outcome x s = none) : commit x s = s :=
  commit_eq_self (outcome_eq_none.1 h)

/-- What code keeps where it returns, a call of it keeps. -/
theorem commit_keeps {P : S → Prop} (hP : P s) (h : ∀ a s', Returns x s a s' → P s') :
    P (commit x s) := by
  rcases commit_cases x s with ⟨a, hr⟩ | ⟨-, he⟩
  · exact h a _ hr
  · rwa [he]

/-- Calls that return the same do the same. -/
theorem call_congr (h : ∀ a s', Returns x s a s' ↔ Returns y s a s') :
    outcome x s = outcome y s ∧ commit x s = commit y s := by
  cases hy : outcome y s with
  | none =>
    have hx : outcome x s = none :=
      outcome_eq_none.2 fun a s' hr => outcome_eq_none.1 hy a s' ((h a s').1 hr)
    exact ⟨hx, (commit_of_outcome_eq_none hx).trans (commit_of_outcome_eq_none hy).symm⟩
  | some a =>
    obtain ⟨s', hr⟩ := outcome_eq_some.1 hy
    have hx := (h a s').2 hr
    exact ⟨hx.outcome_eq, hx.commit_eq.trans hr.commit_eq.symm⟩

end

/-! ## Separate calls -/

section
variable {f g : ι → Code S E α} {l : List ι} {s : S} {P : S → Prop}

/-- Where `P` holds, and is kept, and the calls return the same, they do the same in turn. -/
theorem callEach_congr (hP : P s) (hk : ∀ i s a s', P s → Returns (f i) s a s' → P s')
    (hfg : ∀ i s a s', P s → (Returns (g i) s a s' ↔ Returns (f i) s a s')) :
    callEach g l s = callEach f l s := by
  induction l generalizing s with
  | nil => rfl
  | cons i l ih =>
    obtain ⟨ho, hc⟩ := call_congr (hfg i s · · hP)
    have hP' : P (commit (f i) s) := commit_keeps hP fun a s' => hk i s a s' hP
    rw [callEach, callEach, ho, hc, ih hP']

/-- Calls that all fail change nothing. -/
theorem callEach_of_fails (h : ∀ i a s', ¬ Returns (f i) s a s') :
    callEach f l s = (l.map fun _ => none, s) := by
  induction l with
  | nil => rfl
  | cons i l ih =>
    have ho := outcome_eq_none.2 (h i)
    rw [callEach, commit_of_outcome_eq_none ho, ih, ho, List.map_cons]

end

/-! ## Loops -/

section
variable {f g : ι → Code S E Unit} {x : Code S E Unit} {l : List ι} {s s' : S} {u : Unit}
  {P : S → Prop}

/-- A loop returns exactly if the separate calls of the items do. -/
theorem returns_forM_iff : Returns (l.forM f) s u s' ↔
    (∀ o ∈ (callEach f l s).1, o.isSome) ∧ s' = (callEach f l s).2 := by
  induction l generalizing s with
  | nil => simp [callEach]
  | cons i l ih =>
    rw [returns_forM_cons, callEach, List.forall_mem_cons, and_assoc]
    constructor
    · rintro ⟨s₁, h₁, h⟩
      rw [h₁.outcome_eq, h₁.commit_eq]
      exact ⟨rfl, ih.1 h⟩
    · rintro ⟨hi, h⟩
      obtain ⟨⟨⟩, ho⟩ := Option.isSome_iff_exists.1 hi
      exact ⟨commit (f i) s, returns_iff_outcome.2 ⟨ho, rfl⟩, ih.2 h⟩

/-- **A loop behind a guard does what the separate calls do that have the guard each, all or
    nothing**: the guard lets pass where `P` holds, and the calls keep `P`. -/
theorem allOrNothing_of_guard (hx : ∀ s', Returns x s () s' ↔ P s ∧ Returns (l.forM f) s () s')
    (hg : ∀ i s u s', Returns (g i) s u s' ↔ P s ∧ Returns (f i) s u s')
    (hk : ∀ i s s', P s → Returns (f i) s () s' → P s') (hl : l ≠ []) :
    AllOrNothing x g l s := by
  have key : ∀ s', Returns x s () s' ↔
      (∀ o ∈ (callEach g l s).1, o.isSome) ∧ s' = (callEach g l s).2 := by
    intro s'
    rw [hx]
    by_cases hP : P s
    · have heq : callEach g l s = callEach f l s :=
        callEach_congr hP (fun i s _ s' => hk i s s') fun i s u s' hP => by
          rw [hg, and_iff_right hP]
      rw [heq, and_iff_right hP, returns_forM_iff]
    · obtain ⟨i, l, rfl⟩ := List.exists_cons_of_ne_nil hl
      have hi : outcome (g i) s = none := outcome_eq_none.2 fun u s' h => hP ((hg i s u s').1 h).1
      rw [callEach, List.forall_mem_cons, hi]
      exact iff_of_false (fun h => hP h.1) fun h => by cases h.1.1
  have hsome : (outcome x s).isSome ↔ ∀ o ∈ (callEach g l s).1, o.isSome := by
    rw [Option.isSome_iff_exists]
    constructor
    · rintro ⟨⟨⟩, ho⟩
      obtain ⟨s', h⟩ := outcome_eq_some.1 ho
      exact ((key s').1 h).1
    · exact fun h => ⟨(), outcome_eq_some.2 ⟨_, (key _).2 ⟨h, rfl⟩⟩⟩
  refine ⟨hsome, fun h => ((key _).2 ⟨h, rfl⟩).commit_eq, fun h => ?_⟩
  exact commit_of_outcome_eq_none (Option.not_isSome_iff_eq_none.1 (hsome.not.2 h))

end

section
variable {f : ι → Code S E α} {l : List ι} {s s' : S} {P : S → Prop} {ρ : Type}
  {report : ι → Option α → ρ} {g : List ρ → ι → Code S E (List ρ)} {b b' : List ρ}

/-- **A loop that reports what each item's call would return, and has its effect, does what the
    separate calls do.** -/
theorem returns_foldlM_iff (hP : P s) (hk : ∀ i s a s', P s → Returns (f i) s a s' → P s')
    (hg : ∀ b i s b' s', P s → (Returns (g b i) s b' s' ↔
      b' = b ++ [report i (outcome (f i) s)] ∧ s' = commit (f i) s)) :
    Returns (l.foldlM g b) s b' s' ↔
      b' = b ++ l.zipWith report (callEach f l s).1 ∧ s' = (callEach f l s).2 := by
  induction l generalizing s b with
  | nil => simp [callEach]
  | cons i l ih =>
    have hP' : P (commit (f i) s) := commit_keeps hP fun a s' => hk i s a s' hP
    have hcons : b ++ [report i (outcome (f i) s)] ++
        l.zipWith report (callEach f l (commit (f i) s)).1 =
          b ++ (i :: l).zipWith report (callEach f (i :: l) s).1 := by
      rw [callEach, List.zipWith_cons_cons, List.append_assoc, List.singleton_append]
    rw [List.foldlM_cons, returns_bind, ← hcons]
    constructor
    · rintro ⟨b₁, s₁, h₁, h⟩
      obtain ⟨rfl, rfl⟩ := (hg b i s b₁ s₁ hP).1 h₁
      exact (ih hP').1 h
    · exact fun h => ⟨_, _, (hg b i s _ _ hP).2 ⟨rfl, rfl⟩, (ih hP').2 h⟩

end

end Soroban
