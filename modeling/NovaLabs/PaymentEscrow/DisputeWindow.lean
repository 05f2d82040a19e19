/-
  The dispute window of an escrow.

  `raise_dispute` compares the ledger time with `created_at + dispute_window`, a `u64` sum under
  overflow checks.  Where the sum fits, the window is the exact one; where it does not, every
  dispute panics, at any time.
-/
import NovaLabs.PaymentEscrow.Reentrancy

namespace PaymentEscrow

open Lib Soroban

variable {me : Address} {env : Env me} {s s' : State} {id : String} {e : Escrow}

/-! ## One call -/

/-- A dispute of a pending escrow by its depositor is let through to the deadline. -/
theorem raiseDispute_returns (h : s.escrows.lookup id = some e) (hp : e.status = .pending)
    (hw : e.disputeWindow ≠ 0) (ha : e.depositor ∈ env.auths) {u : Unit} :
    Returns (raiseDispute env e.depositor id) s u s' ↔
      (e.createdAt + e.disputeWindow < 2 ^ 64 ∧ env.now ≤ e.createdAt + e.disputeWindow) ∧
        s' = s.put (e.dispute env.now) := by
  simp only [raiseDispute, returns_requireAuth_bind, loadEscrow, bind_assoc, returns_get_bind,
    returns_okOr_bind, returns_failIf_bind, returns_checked_bind, saveEscrow, returns_modify, h, ha,
    Option.some.injEq, exists_eq_left', true_and, ne_eq, not_true, not_false_iff, hp, hw, gt_iff_lt,
    not_lt, and_assoc]
  rfl

/-- How such a dispute stops. -/
theorem raiseDispute_stops (h : s.escrows.lookup id = some e) (hp : e.status = .pending)
    (hw : e.disputeWindow ≠ 0) (ha : e.depositor ∈ env.auths) {err : Stop Error} :
    Stops (raiseDispute env e.depositor id) s err s' ↔
      ((2 ^ 64 ≤ e.createdAt + e.disputeWindow ∧ err = .panic) ∨
        (e.createdAt + e.disputeWindow < 2 ^ 64 ∧ e.createdAt + e.disputeWindow < env.now ∧
          err = .err .disputeWindowClosed)) ∧ s' = s := by
  simp only [raiseDispute, stops_requireAuth_bind, loadEscrow, bind_assoc, stops_get_bind,
    stops_okOr_bind, stops_failIf_bind, stops_checked_bind, saveEscrow, not_stops_modify, h, ha,
    Option.some.injEq, exists_eq_left', true_and, ne_eq, not_true, not_false_iff, hp, hw, gt_iff_lt,
    not_lt, false_and, false_or, reduceCtorEq, and_false, or_false]
  tauto

/-! ## The window -/

/-- What the dispute of the escrow `e`, stored at `id`, does at a ledger time. -/
structure DisputesInWindow (env : Env me) (s : State) (id : String) (e : Escrow) : Prop where
  opens : env.now ≤ e.createdAt + e.disputeWindow →
    ∃ s', Returns (raiseDispute env e.depositor id) s () s' ∧
      s'.escrows.lookup id = some (e.dispute env.now)
  closes : e.createdAt + e.disputeWindow < env.now →
    Stops (raiseDispute env e.depositor id) s (.err .disputeWindowClosed) s
  noAbort : ∀ s', ¬ Stops (raiseDispute env e.depositor id) s .panic s'
  unchanged : (∀ s', ¬ Returns (raiseDispute env e.depositor id) s () s') →
    (commit (raiseDispute env e.depositor id) s).escrows.lookup id = some e

/-- Records are stored under their own ids. -/
def Keyed (s : State) : Prop := ∀ id e, s.escrows.lookup id = some e → e.id = id

theorem Keyed.put (h : Keyed s) (e : Escrow) : Keyed (s.put e) := by
  intro id e' hs
  rw [put_escrows, Store.lookup_insert_ite] at hs
  split_ifs at hs with hid
  · exact Option.some.inj hs ▸ hid.symm
  · exact h id e' hs

theorem keyed_keeps : Conf.Keeps (interface me) (fun _ _ => True)
    (fun s _ fs => Keyed s ∧ ∀ f ∈ fs, InFlight f) where
  finish {s h fs c s'} hi _ hf := by
    obtain ⟨env, c⟩ := c
    cases finishes_cases hf with
    | config _ he _ => exact ⟨fun id e hs => hi.1 id e (he ▸ hs), hi.2⟩
    | dispute _ _ => exact ⟨hi.1.put _, hi.2⟩
  callOut {s h fs c q s' k} hi _ hc := by
    rcases callsOut_cases hc with ⟨e, he⟩ | ⟨id, p, e, he⟩
    · exact ⟨he.locked ▸ hi.1, List.forall_mem_cons.2 ⟨Or.inl ⟨e, s', he⟩, hi.2⟩⟩
    · exact ⟨he.locked ▸ hi.1, List.forall_mem_cons.2 ⟨Or.inr ⟨id, p, e, s', he⟩, hi.2⟩⟩
  ret {s h f fs s'} hi _ hr := by
    refine ⟨?_, (List.forall_mem_cons.1 hi.2).2⟩
    rcases hi.2 f (by simp) with ⟨e, _, he⟩ | ⟨id, p, e, _, he⟩ <;> rw [he.rest] at hr <;> cases hr
    · exact hi.1.put e
    · exact hi.1.put _
  again {s h f fs q s' k} hi _ hr := by
    rcases hi.2 f (by simp) with ⟨e, _, he⟩ | ⟨id, p, e, _, he⟩ <;> rw [he.rest] at hr <;> cases hr

theorem keyed_callTree {tr : List (Event (Config me) (Move (Env me × Call)))} {σ : Config me}
    (h : CallTree me ⟨{}, [], []⟩ tr σ) : Keyed σ.st :=
  (keyed_keeps.run h ⟨fun _ _ hs => by simp at hs, fun _ hf => by cases hf⟩
    fun _ _ _ _ => trivial).1

/-- **The dispute window.** A dispute is decided by the exact window just where the deadline fits
    the time of the ledger. -/
theorem dispute_window {tr : List (Event (Config me) (Move (Env me × Call)))} {σ : Config me}
    (h : CallTree me ⟨{}, [], []⟩ tr σ) (hs : σ.st.escrows.lookup id = some e)
    (hp : e.status = .pending) (hw : 0 < e.disputeWindow) (ha : e.depositor ∈ env.auths) :
    DisputesInWindow env σ.st id e ↔ e.createdAt + e.disputeWindow < 2 ^ 64 := by
  have hw' := hw.ne'
  constructor
  · intro hd
    by_contra hover
    exact hd.noAbort _ ((raiseDispute_stops hs hp hw' ha).2 ⟨Or.inl ⟨Nat.not_lt.1 hover, rfl⟩, rfl⟩)
  · intro hfits
    refine ⟨fun hin => ?_, fun hout => ?_, fun s' hstop => ?_, fun hno => ?_⟩
    · refine ⟨_, (raiseDispute_returns hs hp hw' ha).2 ⟨⟨hfits, hin⟩, rfl⟩, ?_⟩
      have hid : (e.dispute env.now).id = id := keyed_callTree h id e hs
      rw [put_escrows, hid, Finmap.lookup_insert]
    · exact (raiseDispute_stops hs hp hw' ha).2 ⟨Or.inr ⟨hfits, hout, rfl⟩, rfl⟩
    · obtain ⟨⟨hover, -⟩ | ⟨-, -, herr⟩, -⟩ := (raiseDispute_stops hs hp hw' ha).1 hstop
      · exact Nat.not_lt.2 hover hfits
      · cases herr
    · rw [commit_eq_self fun _ s' => hno s']
      exact hs

/-- The contract is set up with a dispute window, and an escrow is created at the time 1. -/
def oneEscrow (window : ℕ) : List (Move (Env ⟨0⟩ × Call)) :=
  [.enter (sampleEnv 0, .initializeContract ⟨1⟩ ⟨2⟩ window),
    .enter (sampleEnv 1, .createEscrow ⟨3⟩ "deposit" ⟨4⟩ 40 "desk" 0), .ret]

/-- The escrow of that run. -/
def deposited (window : ℕ) : Escrow :=
  ⟨"deposit", ⟨3⟩, ⟨4⟩, 40, ⟨2⟩, .pending, "desk", 1, 0, window, none, none⟩

/-- The contract after these moves. -/
def afterDeposit (window : ℕ) : Config ⟨0⟩ :=
  (oneEscrow window).foldl (Conf.step (interface ⟨0⟩)) ⟨{}, [], []⟩

theorem afterDeposit_lookup (window : ℕ) :
    (afterDeposit window).st.escrows.lookup "deposit" = some (deposited window) := by
  rfl

/-- A dispute window of a minute, at the time 61. -/
theorem dispute_window_minute :
    DisputesInWindow (sampleEnv 61) (afterDeposit 60).st "deposit" (deposited 60) ↔
      1 + 60 < 2 ^ 64 :=
  dispute_window (Conf.run_moves (interface ⟨0⟩) _ (oneEscrow 60)) (afterDeposit_lookup 60) rfl
    (by decide) (by decide)

/-- **A dispute in the largest window panics.** -/
theorem dispute_aborts : ¬ ∀ (me : Address) (tr : List (Event (Config me) (Move (Env me × Call))))
    (σ : Config me), CallTree me ⟨{}, [], []⟩ tr σ → ∀ id e, σ.st.escrows.lookup id = some e →
      e.status = .pending → 0 < e.disputeWindow → e.disputeWindow < 2 ^ 64 →
        ∀ env : Env me, e.depositor ∈ env.auths → e.createdAt ≤ env.now → env.now < 2 ^ 64 →
          DisputesInWindow env σ.st id e := by
  intro hall
  have hd := hall ⟨0⟩ _ _ (Conf.run_moves (interface ⟨0⟩) _ (oneEscrow (2 ^ 64 - 1))) "deposit" _
    (afterDeposit_lookup _) rfl (by decide) (by decide) (sampleEnv 2) (by decide) (by decide)
    (by decide)
  exact hd.noAbort _ ((raiseDispute_stops (afterDeposit_lookup _) rfl (by decide) (by decide)).2
    ⟨Or.inl ⟨by decide, rfl⟩, rfl⟩)

end PaymentEscrow
