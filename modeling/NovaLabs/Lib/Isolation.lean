/-
  What an observer of a system can tell: nothing of what the requests of others do.

  Some states are alike for the observer.  The observer's programs go on in the same way from states
  that are alike (`Follows`), and the queries of the others leave a state like the ones it was like.
  Then the sessions of the observer end as they do in a run without the others (`System.isolated`).
-/
import NovaLabs.Lib.Process

namespace Lib

open Process

variable {Op : Type} {Answer : Op → Type} {σ Req World ε α β : Type}

/-! ## Programs -/

theorem Process.Only.value {queries : Op → Bool} (a : α) :
    (pure a : Process Answer ε α).Only queries := trivial

theorem Process.Only.map {queries : Op → Bool} {x : Process Answer ε α} (h : x.Only queries)
    (f : α → β) : (f <$> x).Only queries := by
  rw [← bind_pure_comp]
  exact h.bind fun a => value (f a)

section
variable (exec : ℕ → World → σ → (op : Op) → Option (Answer op × σ)) (Fair : World → σ → Op → Prop)
  (Alike : σ → σ → Prop)

/-- The second program follows the first: where the first is answered, the second can be answered in
    any state alike, the states stay alike, and the programs end with the same result. -/
def Follows : Process Answer ε α → Process Answer ε α → Prop
  | .done r, y => y = .done r
  | .ask op next, y => ∃ op' next', y = .ask op' next' ∧ ∀ t w s s' a s₁, Fair w s op → Alike s s' →
    exec t w s op = some (a, s₁) → ∃ w' a' s₁', exec t w' s' op' = some (a', s₁') ∧ Alike s₁ s₁' ∧
      Follows (next a) (next' a')

end

namespace Follows
variable {exec : ℕ → World → σ → (op : Op) → Option (Answer op × σ)} {Fair : World → σ → Op → Prop}
  {Alike : σ → σ → Prop} {x y : Process Answer ε α}

theorem value (a : α) : Follows exec Fair Alike (pure a : Process Answer ε α) (pure a) := rfl

theorem error (e : ε) :
    Follows exec Fair Alike (throw e : Process Answer ε α) (throw e) := rfl

theorem seq {f g : α → Process Answer ε β} (h : Follows exec Fair Alike x y)
    (hf : ∀ a, Follows exec Fair Alike (f a) (g a)) :
    Follows exec Fair Alike (x >>= f) (y >>= g) := by
  induction x generalizing y with
  | done r =>
    obtain rfl : y = .done r := h
    cases r with
    | error e => exact rfl
    | ok a => exact hf a
  | ask op next ih =>
    obtain ⟨op', next', rfl, hstep⟩ := h
    refine ⟨op', fun a => next' a >>= g, rfl, fun t w s s' a s₁ hfair hs hexec => ?_⟩
    obtain ⟨w', a', s₁', hexec', hs₁, hnext⟩ := hstep t w s s' a s₁ hfair hs hexec
    exact ⟨w', a', s₁', hexec', hs₁, ih a hnext⟩

theorem map (f : α → β) (h : Follows exec Fair Alike x y) :
    Follows exec Fair Alike (f <$> x) (f <$> y) := by
  rw [← bind_pure_comp, ← bind_pure_comp]
  exact h.seq fun a => value (f a)

/-- A query that has the same answers in states alike. -/
theorem query {op : Op} (h : ∀ t w s s' a s₁, Fair w s op → Alike s s' →
      exec t w s op = some (a, s₁) → ∃ w' s₁', exec t w' s' op = some (a, s₁') ∧ Alike s₁ s₁') :
    Follows exec Fair Alike (Process.query op : Process Answer ε (Answer op)) (Process.query op) := by
  refine ⟨op, _, rfl, fun t w s s' a s₁ hfair hs hexec => ?_⟩
  obtain ⟨w', s₁', hexec', hs₁⟩ := h t w s s' a s₁ hfair hs hexec
  exact ⟨w', a, s₁', hexec', hs₁, rfl⟩

/-- A query whose answers, where they differ, lead to the same end. -/
theorem ask {op : Op} {f : Answer op → Process Answer ε α} (h : ∀ t w s s' a s₁, Fair w s op →
      Alike s s' → exec t w s op = some (a, s₁) → ∃ w' a' s₁', exec t w' s' op = some (a', s₁') ∧
        Alike s₁ s₁' ∧ Follows exec Fair Alike (f a) (f a')) :
    Follows exec Fair Alike (Process.query op >>= f) (Process.query op >>= f) :=
  ⟨op, f, rfl, h⟩

theorem failIf {c : Prop} [Decidable c] {e : ε} :
    Follows exec Fair Alike (Process.failIf c e : Process Answer ε Unit) (Process.failIf c e) := by
  unfold Process.failIf
  split_ifs
  · exact error e
  · exact value ()

theorem okOr {o : Option α} {e : ε} :
    Follows exec Fair Alike (Process.okOr o e : Process Answer ε α) (Process.okOr o e) := by
  cases o with
  | none => exact error e
  | some a => exact value a

end Follows

/-! ## Runs -/

variable {S : System Answer σ Req World ε α} {Fair : World → σ → Op → Prop} {Alike : σ → σ → Prop}
  {quiet : Op → Bool} {mine : Req → Bool} {s s' : σ} {p p₀ : Pool Answer σ ε α}
  {tr : List (Event (Pool Answer σ ε α) (Turn Req World))}

/-- The requests that a run takes up, in this order, with their sessions. -/
def requests (tr : List (Event (Pool Answer σ ε α) (Turn Req World))) : List (ℕ × Req) :=
  tr.filterMap fun e => match e.inp with
    | .call t r => some (t, r)
    | .step _ _ => none

theorem requests_call {p' : Pool Answer σ ε α} {t : ℕ} {r : Req} :
    requests (tr ++ [⟨p, .call t r, p'⟩]) = requests tr ++ [(t, r)] := by
  rw [requests, List.filterMap_append]
  rfl

theorem requests_step {p' : Pool Answer σ ε α} {t : ℕ} {w : World} :
    requests (tr ++ [⟨p, .step t w, p'⟩]) = requests tr := by
  rw [requests, List.filterMap_append]
  exact List.append_nil _

/-- What is left of a session in a run, and in one without the others. -/
inductive Parted (exec : ℕ → World → σ → (op : Op) → Option (Answer op × σ))
    (Fair : World → σ → Op → Prop) (Alike : σ → σ → Prop) (quiet : Op → Bool) (mine : Req → Bool)
    (requests : List (ℕ × Req)) (t : ℕ) :
    Option (Process Answer ε α) → Option (Process Answer ε α) → Prop
  | idle : (∀ r, (t, r) ∉ requests) → Parted exec Fair Alike quiet mine requests t none none
  | own {x y} : Follows exec Fair Alike x y → (∀ r, (t, r) ∈ requests → mine r) →
    Parted exec Fair Alike quiet mine requests t (some x) (some y)
  | other {x} : x.Only quiet → (∀ r, (t, r) ∈ requests → mine r = false) →
    Parted exec Fair Alike quiet mine requests t (some x) none

section
variable {exec : ℕ → World → σ → (op : Op) → Option (Answer op × σ)} {rs rs' : List (ℕ × Req)} {t : ℕ}

theorem Parted.congr {x y : Option (Process Answer ε α)}
    (h : Parted exec Fair Alike quiet mine rs t x y) (hr : ∀ r, (t, r) ∈ rs' ↔ (t, r) ∈ rs) :
    Parted exec Fair Alike quiet mine rs' t x y := by
  cases h with
  | idle hi => exact .idle fun r hr' => hi r ((hr r).1 hr')
  | own hf hm => exact .own hf fun r hr' => hm r ((hr r).1 hr')
  | other ho hm => exact .other ho fun r hr' => hm r ((hr r).1 hr')

/-- One session goes on. -/
theorem Parted.update {xs ys : ℕ → Option (Process Answer ε α)} {x y : Option (Process Answer ε α)}
    (h : ∀ t, Parted exec Fair Alike quiet mine rs t (xs t) (ys t))
    (hr : ∀ t' ≠ t, ∀ r, (t', r) ∈ rs' ↔ (t', r) ∈ rs)
    (ht : Parted exec Fair Alike quiet mine rs' t x y) (t' : ℕ) :
    Parted exec Fair Alike quiet mine rs' t' (Function.update xs t x t')
      (Function.update ys t y t') := by
  by_cases hne : t' = t
  · subst hne
    rwa [Function.update_self, Function.update_self]
  · rw [Function.update_of_ne hne, Function.update_of_ne hne]
    exact (h t').congr (hr t' hne)

end

/-- What holds of a run, and of one without the others. -/
structure Beside (S : System Answer σ Req World ε α) (Fair : World → σ → Op → Prop)
    (Alike : σ → σ → Prop) (quiet : Op → Bool) (mine : Req → Bool)
    (tr tr' : List (Event (Pool Answer σ ε α) (Turn Req World))) (p p' : Pool Answer σ ε α) :
    Prop where
  requests_eq : requests tr' = (requests tr).filter fun r => mine r.2
  alike : Alike p.shared p'.shared
  parted : ∀ t, Parted S.exec Fair Alike quiet mine (requests tr) t (p.procs t) (p'.procs t)

section
variable {p' p₁ : Pool Answer σ ε α}
  {tr' : List (Event (Pool Answer σ ε α) (Turn Req World))} {t : ℕ} {r : Req} {w : World}

theorem System.Steps.call_eq (h : S.Steps p (.call t r) p₁) : p.procs t = none ∧
    p₁ = { shared := p.shared, procs := Function.update p.procs t (some (S.program r)) } := by
  simp only [System.Steps, System.next, Option.ite_none_right_eq_some, Option.isNone_iff_eq_none,
    Option.some.injEq] at h
  exact ⟨h.1, h.2.symm⟩

theorem System.Steps.step_eq (h : S.Steps p (.step t w) p₁) : ∃ op next a s₁,
    p.procs t = some (.ask op next) ∧ S.exec t w p.shared op = some (a, s₁) ∧
      p₁ = { shared := s₁, procs := Function.update p.procs t (some (next a)) } := by
  rcases h.cases with ⟨_, _, hinp, -⟩ | ⟨_, _, op, next, a, hinp, hask, hexec, hprocs⟩
  · cases hinp
  · cases hinp
    exact ⟨op, next, a, p₁.shared, hask, hexec, by rw [← hprocs]⟩

/-- A request is taken up, in both runs or in the one. -/
theorem Beside.call (h : Beside S Fair Alike quiet mine tr tr' p p') (hrun : Run S.Steps p₀ tr' p')
    (hmine : mine r → Follows S.exec Fair Alike (S.program r) (S.program r))
    (hothers : mine r = false → (S.program r).Only quiet) (hstep : S.Steps p (.call t r) p₁) :
    ∃ tr'' p'', Run S.Steps p₀ tr'' p'' ∧
      Beside S Fair Alike quiet mine (tr ++ [⟨p, .call t r, p₁⟩]) tr'' p₁ p'' := by
  obtain ⟨hnone, rfl⟩ := hstep.call_eq
  have ht := h.parted t
  rw [hnone] at ht
  generalize hy : p'.procs t = y at ht
  obtain ⟨hidle⟩ := ht
  have hsame (t' : ℕ) (hne : t' ≠ t) (r' : Req) :
      (t', r') ∈ requests tr ++ [(t, r)] ↔ (t', r') ∈ requests tr := by
    simp [hne]
  have hnew (r' : Req) (hmem : (t, r') ∈ requests tr ++ [(t, r)]) : r' = r := by
    rcases List.mem_append.1 hmem with hmem | hmem
    · exact absurd hmem (hidle r')
    · simpa using hmem
  cases hm : mine r with
  | true =>
    refine ⟨_, { p' with procs := Function.update p'.procs t (some (S.program r)) },
      hrun.snoc (i := .call t r) ?_, ?_, h.alike, ?_⟩
    · simp only [System.Steps, System.next, hy, Option.isNone_none, if_true]
    · rw [requests_call, requests_call, h.requests_eq, List.filter_append,
        List.filter_cons_of_pos (by exact hm), List.filter_nil]
    · rw [requests_call]
      exact Parted.update h.parted hsame (.own (hmine hm) fun r' hr' => hnew r' hr' ▸ hm)
  | false =>
    refine ⟨tr', p', hrun, ?_, h.alike, ?_⟩
    · rw [requests_call, h.requests_eq, List.filter_append,
        List.filter_cons_of_neg (by simp [hm]), List.filter_nil, List.append_nil]
    · rw [requests_call]
      have hparted := Parted.update h.parted hsame
        (.other (hothers hm) fun r' hr' => hnew r' hr' ▸ hm)
      rwa [← hy, Function.update_eq_self] at hparted

/-- A query is answered, in both runs or in the one. -/
theorem Beside.step (h : Beside S Fair Alike quiet mine tr tr' p p') (hrun : Run S.Steps p₀ tr' p')
    (hquiet : ∀ t w s s' op a s₁, quiet op → Fair w s op → Alike s s' →
      S.exec t w s op = some (a, s₁) → Alike s₁ s')
    (hfair : ∀ op, p.Asks t op → Fair w p.shared op) (hstep : S.Steps p (.step t w) p₁) :
    ∃ tr'' p'', Run S.Steps p₀ tr'' p'' ∧
      Beside S Fair Alike quiet mine (tr ++ [⟨p, .step t w, p₁⟩]) tr'' p₁ p'' := by
  obtain ⟨op, next, a, s₁, hask, hexec, rfl⟩ := hstep.step_eq
  have hf := hfair op ⟨next, hask⟩
  have ht := h.parted t
  rw [hask] at ht
  generalize hy : p'.procs t = y at ht
  cases ht with
  | own hfollows hm =>
    obtain ⟨op', next', rfl, hstep'⟩ := hfollows
    obtain ⟨w', a', s₁', hexec', hs₁, hnext⟩ := hstep' t w _ _ a _ hf h.alike hexec
    refine ⟨_, ⟨s₁', Function.update p'.procs t (some (next' a'))⟩,
      hrun.snoc (i := .step t w') ?_, ?_, hs₁, ?_⟩
    · simp only [System.Steps, System.next, hy, hexec', Option.map_some]
    · rw [requests_step, requests_step, h.requests_eq]
    · rw [requests_step]
      exact Parted.update h.parted (fun _ _ _ => Iff.rfl) (.own hnext hm)
  | other honly hm =>
    refine ⟨tr', p', hrun, ?_, hquiet t w _ _ op a _ honly.1 hf h.alike hexec, ?_⟩
    · rw [requests_step, h.requests_eq]
    · rw [requests_step]
      have hparted := Parted.update h.parted (fun _ _ _ => Iff.rfl) (.other (honly.2 a) hm)
      rwa [← hy, Function.update_eq_self] at hparted

end

/-- **Sessions of the observer end as they do in a run without the others.** -/
theorem System.isolated
    (hmine : ∀ r, mine r → Follows S.exec Fair Alike (S.program r) (S.program r))
    (hothers : ∀ r, mine r = false → (S.program r).Only quiet)
    (hquiet : ∀ t w s s' op a s₁, quiet op → Fair w s op → Alike s s' →
      S.exec t w s op = some (a, s₁) → Alike s₁ s')
    (h : Run S.Steps { shared := s } tr p)
    (hfair : ∀ e ∈ tr, OnQuery (fun _ w op => Fair w e.pre.shared op) e) (hs : Alike s s') :
    ∃ tr' p', Run S.Steps { shared := s' } tr' p' ∧
      requests tr' = (requests tr).filter (fun r => mine r.2) ∧ Alike p.shared p'.shared ∧
      ∀ t r x, (t, r) ∈ requests tr → mine r → p.Ended t x → p'.Ended t x := by
  have hbeside : ∃ tr' p', Run S.Steps { shared := s' } tr' p' ∧
      Beside S Fair Alike quiet mine tr tr' p p' := by
    induction h with
    | nil => exact ⟨[], _, .nil, rfl, hs, fun t => .idle fun _ => List.not_mem_nil⟩
    | @snoc tr p i p₁ hr hstep ih =>
      obtain ⟨tr', p', hrun, hb⟩ := ih fun e he => hfair e (List.mem_append_left _ he)
      cases i with
      | call t r => exact hb.call hrun (hmine r) (hothers r) hstep
      | step t w =>
        exact hb.step hrun hquiet
          (fun op hop => hfair ⟨p, .step t w, p₁⟩ (by simp) t w op rfl hop) hstep
  obtain ⟨tr', p', hrun, hb⟩ := hbeside
  refine ⟨tr', p', hrun, hb.requests_eq, hb.alike, fun t r x hr hm hx => ?_⟩
  have ht := hb.parted t
  rw [show p.procs t = _ from hx] at ht
  unfold Pool.Ended
  generalize p'.procs t = y at ht
  cases ht with
  | own hf => exact congrArg some hf
  | other _ hno =>
    rw [hno r hr] at hm
    cases hm

end Lib
