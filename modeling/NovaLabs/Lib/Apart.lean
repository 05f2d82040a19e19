/-
  Sessions that do not overlap.

  Where a request with some key starts only after those with the key have ended, one session at
  most with the key is live at any time.
-/
import NovaLabs.Lib.Process

namespace Lib

section
variable {Op K : Type} {Answer : Op → Type} {σ Req World ε α : Type}
  {S : System Answer σ Req World ε α} {p p' : Pool Answer σ ε α}
  {tr : List (Event (Pool Answer σ ε α) (Turn Req World))} {key : Req → K}

/-- A session has been called that has not ended. -/
def Live (tr : List (Event (Pool Answer σ ε α) (Turn Req World))) (p : Pool Answer σ ε α)
    (t : ℕ) (r : Req) : Prop := Called tr t r ∧ ∀ x, ¬ p.Ended t x

/-- A request starts only where the sessions with its key have ended. -/
def StartsApart (key : Req → K) (tr : List (Event (Pool Answer σ ε α) (Turn Req World)))
    (e : Event (Pool Answer σ ε α) (Turn Req World)) : Prop :=
  ∀ t r, e.inp = .call t r → ∀ t' r', Called tr t' r' → key r' = key r → ∃ x, e.pre.Ended t' x

section
variable [DecidableEq K] (key : Req → K) (tr : List (Event (Pool Answer σ ε α) (Turn Req World)))
  (e : Event (Pool Answer σ ε α) (Turn Req World))

/-- The session is there, and has ended. -/
def Pool.hasEnded (p : Pool Answer σ ε α) (t : ℕ) : Bool :=
  match p.procs t with
  | some (.done _) => true
  | _ => false

theorem Pool.hasEnded_iff {t : ℕ} : p.hasEnded t ↔ ∃ x, p.Ended t x := by
  unfold Pool.hasEnded
  split
  · next x hx => exact ⟨fun _ => ⟨x, hx⟩, fun _ => rfl⟩
  · next hne => exact ⟨nofun, fun ⟨x, hx⟩ => (hne x hx).elim⟩

/-- Find the request that the turn starts, and test the sessions before. -/
def startsApart : Bool :=
  match e.inp with
  | .step _ _ => true
  | .call _ r => tr.all fun e' => match e'.inp with
    | .step _ _ => true
    | .call t' r' => decide (key r' = key r → e.pre.hasEnded t')

theorem startsApart_iff : startsApart key tr e ↔ StartsApart key tr e := by
  obtain ⟨pre, inp, post⟩ := e
  cases inp with
  | step t w => exact ⟨fun _ => nofun, fun _ => rfl⟩
  | call t r =>
    simp only [startsApart, List.all_eq_true]
    constructor
    · rintro h _ _ ⟨⟩ t' r' ⟨e', he', hinp'⟩ hkey
      have he := h e' he'
      rw [hinp'] at he
      exact Pool.hasEnded_iff.1 (of_decide_eq_true he hkey)
    · intro h e' he'
      split
      · rfl
      · next t' r' hinp' =>
        exact decide_eq_true fun hkey => Pool.hasEnded_iff.2 (h t r rfl t' r' ⟨e', he', hinp'⟩ hkey)

instance : Decidable (StartsApart key tr e) := decidable_of_iff _ (startsApart_iff key tr e)

end

/-- The live sessions have different keys. -/
def Solo (key : Req → K) (tr : List (Event (Pool Answer σ ε α) (Turn Req World)))
    (p : Pool Answer σ ε α) : Prop :=
  ∀ t t' r r', Live tr p t r → Live tr p t' r' → key r = key r' → t = t'

/-- A session that is live after a step has been live, or is called by it. -/
theorem System.Steps.live {e : Event (Pool Answer σ ε α) (Turn Req World)}
    (h : S.Steps e.pre e.inp e.post) {t : ℕ} {r : Req} (hlive : Live (tr ++ [e]) e.post t r) :
    Live tr e.pre t r ∨ e.inp = .call t r := by
  obtain ⟨hcalled, hend⟩ := hlive
  refine (called_snoc.1 hcalled).imp_left fun hcalled => ⟨hcalled, fun x hx => ?_⟩
  rcases h.cases with ⟨t₀, r₀, -, hnone, -, hprocs⟩ | ⟨t₀, w, op, next, a, -, hask, -, hprocs⟩
  · have hne : t ≠ t₀ := by
      rintro rfl
      cases hnone.symm.trans hx
    refine hend x ?_
    rw [Pool.Ended, hprocs, Function.update_of_ne hne]
    exact hx
  · have hne : t ≠ t₀ := by
      rintro rfl
      cases hask.symm.trans hx
    refine hend x ?_
    rw [Pool.Ended, hprocs, Function.update_of_ne hne]
    exact hx

/-- **Where requests start apart, the live sessions have different keys, before and after each
    event.** -/
theorem System.solo_of_apart {s : σ} (h : Run S.Steps { shared := s } tr p)
    (hapart : Along (StartsApart key) tr) :
    Solo key tr p ∧ Along (fun tr e => Solo key tr e.pre) tr := by
  induction h with
  | nil =>
    refine ⟨?_, along_nil _⟩
    rintro _ _ _ _ ⟨⟨_, he, -⟩, -⟩
    cases he
  | @snoc tr p i p' hrun hst ih =>
    obtain ⟨hapart, hlast⟩ := along_snoc.1 hapart
    obtain ⟨hsolo, halong⟩ := ih hapart
    refine ⟨?_, along_snoc.2 ⟨halong, hsolo⟩⟩
    -- the new session meets no live one with its key
    have hnew {t t' : ℕ} {r r' : Req} (hinp : i = .call t r) (hlive : Live tr p t' r')
        (hkey : key r' = key r) : False := by
      obtain ⟨x, hx⟩ := hlast t r hinp t' r' hlive.1 hkey
      exact hlive.2 x hx
    intro t t' r r' hlive hlive' hkey
    rcases hst.live (e := ⟨p, i, p'⟩) hlive with hold | hinp
    · rcases hst.live (e := ⟨p, i, p'⟩) hlive' with hold' | hinp'
      · exact hsolo t t' r r' hold hold' hkey
      · exact (hnew hinp' hold hkey).elim
    · rcases hst.live (e := ⟨p, i, p'⟩) hlive' with hold' | hinp'
      · exact (hnew hinp hold' hkey.symm).elim
      · cases hinp.symm.trans hinp'
        rfl

end

end Lib
