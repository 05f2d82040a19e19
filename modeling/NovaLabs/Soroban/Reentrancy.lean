/-
  Call trees: callees that call back.

  While a request of an entry point is in flight, the callee may call any entry point of the same
  contract, to any depth.  A configuration is the storage, the requests that have been carried out,
  and the stack of calls in flight; a call that fails takes back everything since it began,
  nested calls included.
-/
import NovaLabs.Soroban.CallOut
import NovaLabs.Lib.Run

namespace Soroban

open Lib

variable {C S Q E : Type}

/-- A call in flight: its label, the storage and the history when it began, its request, and how
    it goes on when the request has returned. -/
structure Frame (C S Q E : Type) where
  label : C
  st : S
  sent : List (C × Q)
  req : Q
  resume : S → Act S Q E Unit

/-- The storage, the requests carried out so far with the calls that made them, and the calls in
    flight, innermost first. -/
structure Conf (C S Q E : Type) where
  st : S
  sent : List (C × Q) := []
  stack : List (Frame C S Q E) := []

/-- A move of the environment: a call of an entry point (from outside or by the callee in
    control), the return of the innermost request, or its failure. -/
inductive Move (C : Type) where
  | enter (c : C)
  | ret
  | fail

namespace Conf
variable (ep : C → Entry S Q E Unit)

/-- The configuration after a move. -/
def step (σ : Conf C S Q E) : Move C → Conf C S Q E
  | .enter c =>
    match ep c σ.st with
    | .done (.ok _) s => { σ with st := s }
    | .done (.error _) _ => σ
    | .call q s k => { σ with st := s, stack := ⟨c, σ.st, σ.sent, q, k⟩ :: σ.stack }
  | .ret =>
    match σ.stack with
    | [] => σ
    | f :: fs =>
      match f.resume σ.st with
      | .done (.ok _) s => ⟨s, σ.sent ++ [(f.label, f.req)], fs⟩
      | .done (.error _) _ => ⟨f.st, f.sent, fs⟩
      | .call q s k =>
        ⟨s, σ.sent ++ [(f.label, f.req)], { f with req := q, resume := k } :: fs⟩
  | .fail =>
    match σ.stack with
    | [] => σ
    | f :: fs => ⟨f.st, f.sent, fs⟩

/-- The moves as a step relation. -/
def Steps (σ : Conf C S Q E) (m : Move C) (σ' : Conf C S Q E) : Prop := σ' = σ.step ep m

/-- The run of a list of moves. -/
theorem run_moves (σ : Conf C S Q E) (ms : List (Move C)) :
    Run (Steps ep) σ (eventsFrom (step ep) σ ms) (ms.foldl (step ep) σ) := run_foldl _ ms σ

/-- `I` holds of the configuration, and of the one each call in flight would be taken back to. -/
def Holds (I : S → List (C × Q) → List (Frame C S Q E) → Prop) :
    S → List (C × Q) → List (Frame C S Q E) → Prop
  | s, h, [] => I s h []
  | s, h, f :: fs => I s h (f :: fs) ∧ Holds I f.st f.sent fs

variable {ep}

theorem Holds.here {I : S → List (C × Q) → List (Frame C S Q E) → Prop} {s : S}
    {h : List (C × Q)} : ∀ {fs : List (Frame C S Q E)}, Holds I s h fs → I s h fs
  | [], hi => hi
  | _ :: _, hi => hi.1

theorem Holds.replace {I : S → List (C × Q) → List (Frame C S Q E) → Prop} {s s' : S}
    {h h' : List (C × Q)} : ∀ {fs : List (Frame C S Q E)}, Holds I s h fs → I s' h' fs →
      Holds I s' h' fs
  | [], _, hi => hi
  | _ :: _, h, hi => ⟨hi, h.2⟩

/-- What keeps `I` along call trees whose calls meet `P`: one condition for each kind of move. -/
structure Keeps (ep : C → Entry S Q E Unit) (P : Conf C S Q E → C → Prop)
    (I : S → List (C × Q) → List (Frame C S Q E) → Prop) : Prop where
  finish : ∀ {s h fs c s'}, I s h fs → P ⟨s, h, fs⟩ c → Finishes (ep c) s () s' → I s' h fs
  callOut : ∀ {s h fs c q s' k}, I s h fs → P ⟨s, h, fs⟩ c → CallsOut (ep c) s q s' k →
    I s' h (⟨c, s, h, q, k⟩ :: fs)
  ret : ∀ {s h f fs s'}, I s h (f :: fs) → I f.st f.sent fs →
    f.resume s = .done (.ok ()) s' → I s' (h ++ [(f.label, f.req)]) fs
  again : ∀ {s h f fs q s' k}, I s h (f :: fs) → I f.st f.sent fs →
    f.resume s = .call q s' k →
      I s' (h ++ [(f.label, f.req)]) ({ f with req := q, resume := k } :: fs)

theorem Keeps.step {P : Conf C S Q E → C → Prop}
    {I : S → List (C × Q) → List (Frame C S Q E) → Prop} (hI : Keeps ep P I)
    {σ : Conf C S Q E} {m : Move C} (h : Holds I σ.st σ.sent σ.stack)
    (hP : ∀ c, m = .enter c → P σ c) :
    Holds I (σ.step ep m).st (σ.step ep m).sent (σ.step ep m).stack := by
  obtain ⟨s, hist, fs⟩ := σ
  cases m with
  | enter c =>
    have hc := hP c rfl
    simp only [Conf.step]
    rcases he : ep c s with ⟨e | u, s'⟩ | ⟨q, s', k⟩
    · exact h
    · exact h.replace (hI.finish h.here hc he)
    · exact ⟨hI.callOut h.here hc he, h⟩
  | ret =>
    cases fs with
    | nil => exact h
    | cons f fs =>
      simp only [Conf.step]
      rcases hr : f.resume s with ⟨e | u, s'⟩ | ⟨q, s', k⟩
      · exact h.2
      · exact h.2.replace (hI.ret h.1 h.2.here hr)
      · exact ⟨hI.again h.1 h.2.here hr, h.2⟩
  | fail =>
    cases fs with
    | nil => exact h
    | cons f fs => exact h.2

/-- **Call trees keep `I`.** -/
theorem Keeps.run {P : Conf C S Q E → C → Prop}
    {I : S → List (C × Q) → List (Frame C S Q E) → Prop} (hI : Keeps ep P I)
    {σ σ' : Conf C S Q E} {tr : List (Event (Conf C S Q E) (Move C))}
    (r : Run (Steps ep) σ tr σ') (h : Holds I σ.st σ.sent σ.stack)
    (hP : ∀ e ∈ tr, ∀ c, e.inp = .enter c → P e.pre c) : I σ'.st σ'.sent σ'.stack := by
  refine (r.invariant (P := fun σ => Holds I σ.st σ.sent σ.stack)
    (C := fun e => ∀ c, e.inp = .enter c → P e.pre c) (fun e he hs hC => ?_) h hP).here
  have hs : e.post = e.pre.step ep e.inp := hs
  rw [hs]; exact hI.step he hC

/-! ## Calls without nested calls -/

section
variable {W : Type} {callee : Q → W → Option W} {s s' : S} {w w' : W} {u : Unit} {c : C}

theorem exists_rets {t : Act S Q E Unit} (h : t.run callee w = some (u, s', w'))
    (sent : List (C × Q)) (fs : List (Frame C S Q E)) (f : Frame C S Q E)
    (hf : f.resume s = t) :
    ∃ (ms : List (Move C)) (sent' : List (C × Q)),
      ms.foldl (step ep) ⟨s, sent, f :: fs⟩ = ⟨s', sent', fs⟩ := by
  induction t generalizing s w sent f with
  | done r s₁ =>
    cases r with
    | error e => cases h
    | ok a =>
      cases h
      refine ⟨[.ret], sent ++ [(f.label, f.req)], ?_⟩
      rw [List.foldl_cons, List.foldl_nil, step]
      dsimp only
      rw [hf]
  | call q s₁ k ih =>
    obtain ⟨w₁, -, h⟩ := Option.bind_eq_some_iff.1 h
    obtain ⟨ms, sent', hms⟩ := ih s₁ h (sent ++ [(f.label, f.req)]) { f with req := q, resume := k }
      rfl
    refine ⟨.ret :: ms, sent', ?_⟩
    rw [List.foldl_cons, step]
    dsimp only
    rw [hf]
    exact hms

/-- What a call leaves when its callee does not call back, moves lead to as well. -/
theorem exists_moves (h : Completes callee (ep c) s w u s' w') (sent : List (C × Q)) :
    ∃ (ms : List (Move C)) (sent' : List (C × Q)),
      ms.foldl (step ep) ⟨s, sent, []⟩ = ⟨s', sent', []⟩ := by
  rcases h.cases with ⟨hf, -⟩ | ⟨q, s₁, k, w₁, hcall, -, hrun⟩
  · refine ⟨[.enter c], sent, ?_⟩
    rw [List.foldl_cons, List.foldl_nil, step, hf]
  · obtain ⟨ms, sent', hms⟩ := exists_rets hrun sent [] ⟨c, s, sent, q, k⟩ rfl
    refine ⟨.enter c :: ms, sent', ?_⟩
    rw [List.foldl_cons, step, hcall]
    exact hms

end
end Conf

end Soroban
