/-
  Whether an approved proposal can be carried out.

  Proposals execute only at the end of the call that creates or approves them.  So when a proposal
  has its signatures and its time-lock has passed, it still takes an admin who has not voted on it
  (`execution_possible`), and the admins may all have approved before the time-lock ended.
-/
import NovaLabs.AccessControl.Quorum

namespace AccessControl

open Lib Soroban

variable {env : CallEnv} {s s' : State} {c : Call} {tr : List Ev} {id : ℕ} {p : PendingProposal}
  {a : Address}

/-! ## The counters have room -/

/-- The number of stored proposals that are not executed. -/
def State.unexecuted (s : State) : ℕ :=
  Store.total s.proposals fun _ p => if p.executed then 0 else 1

/-- Executions and stored proposals are at most as many as the ids in use. -/
structure Counted (s : State) : Prop where
  ids : s.proposalStats.totalExecuted + s.unexecuted ≤ s.proposalCounter
  bound : s.proposalCounter < 2 ^ 64

theorem put_counted {p' : PendingProposal} (hs : Counted s) (h : s.proposals.lookup id = some p)
    (he : p'.executed = p.executed) : Counted (s.put id p') := by
  have ht := Store.total_insert_old h p' fun _ p => if p.executed then 0 else 1
  simp only [he] at ht
  refine ⟨?_, hs.bound⟩
  rw [State.unexecuted, put_proposals, Nat.add_right_cancel ht]
  exact hs.ids

theorem unexecuted_erase_le {t : State} (h : s.proposals.lookup id = some p)
    (ht : t.proposals = s.proposals.erase id) : t.unexecuted ≤ s.unexecuted := by
  rw [State.unexecuted, ht, State.unexecuted, ← Store.total_erase h]
  exact Nat.le_add_right _ _

theorem Vote.counted (h : Vote env s c id p s') (hn : Numbered s) (hs : Counted s) :
    Counted s' := by
  cases h with
  | create _ _ _ hroom hp =>
    have hid : p.id = s.proposalCounter := by rw [hp]; rfl
    have he : p.executed = false := by rw [hp]; rfl
    have ht := Store.total_insert_new (hid ▸ hn.fresh) p fun _ p => if p.executed then 0 else 1
    simp only [he, Bool.false_eq_true, if_false] at ht
    refine ⟨?_, hroom⟩
    have hids : s.proposalStats.totalExecuted + s.unexecuted ≤ s.proposalCounter := hs.ids
    change s.proposalStats.totalExecuted + (s.add p).unexecuted ≤ s.proposalCounter + 1
    rw [State.unexecuted, add_proposals, ht]
    rw [State.unexecuted] at hids
    omega
  | @approve a _ p hv => exact put_counted hs hv.stored rfl

theorem execute_counted (hs : Counted s) (hp : s.proposals.lookup id = some p)
    (he : p.executed = false) : Counted (s.execute id p) := by
  have ht := Store.total_insert_old hp { p with executed := true }
    fun _ p => if p.executed then 0 else 1
  simp only [he, Bool.false_eq_true, if_false, if_true] at ht
  refine ⟨?_, by rw [execute_counter]; exact hs.bound⟩
  have hids := hs.ids
  rw [execute_totalExecuted, execute_counter, State.unexecuted, execute_proposals]
  rw [State.unexecuted] at hids
  omega

theorem Expired.counted (h : Expired env s s') (hs : Counted s) : Counted s' := by
  induction h with
  | refl => exact hs
  | next _ hp _ _ ih =>
    exact ⟨(Nat.add_le_add_left (unexecuted_erase_le hp rfl) _).trans ih.ids, ih.bound⟩

theorem Counted.step {i : Input} (hc : Counted s) (hs : Sound s) (h : Steps s i s') :
    Counted s' := by
  rcases hs.toMultisigState.step (step_effect h) with ⟨m, rfl⟩ | hd | hp
  · exact ⟨hc.ids, hc.bound⟩
  · obtain ⟨-, -, hprop, hcount, hstats⟩ := hd.frame
    refine ⟨?_, by rw [hcount]; exact hc.bound⟩
    rw [hcount, hstats, State.unexecuted, hprop]
    exact hc.ids
  · generalize i.call = c at hp
    cases hp with
    | vote hv => exact hv.counted hs.numbered hc
    | execute hv _ => exact execute_counted (hv.counted hs.numbered hc) hv.stored hv.pending
    | @reject a _ p _ hv => exact put_counted hc hv.stored rfl
    | cancel hp =>
      exact ⟨(Nat.add_le_add_left (unexecuted_erase_le hp rfl) _).trans hc.ids, hc.bound⟩
    | cleanup hx => exact hx.counted hc

theorem MultisigRun.counted (h : MultisigRun tr s) : Counted s :=
  (h.induct (P := fun _ s => Counted s)
    (fun c _ => ⟨by simp [State.unexecuted, State.startMultisig], by simp [State.startMultisig]⟩)
    fun _ _ _ _ hs hc hst => hc.step hs hst).2

/-- Where a proposal is still to be executed, the count of executions has room. -/
theorem Counted.room (h : Counted s) (hp : s.proposals.lookup id = some p)
    (he : p.executed = false) : s.proposalStats.totalExecuted + 1 < 2 ^ 64 := by
  have ht := Store.total_erase hp fun _ p => if p.executed then 0 else 1
  simp only [he, Bool.false_eq_true, if_false] at ht
  have hids := h.ids
  have hbound := h.bound
  rw [State.unexecuted] at hids
  omega

/-! ## Approved proposals -/

/-- The proposal `p` at `id` has its signatures, its time-lock has passed, it has not expired, and
    its action passes the checks of its own. -/
structure Ready (env : CallEnv) (s : State) (id : ℕ) (p : PendingProposal) : Prop where
  stored : s.proposals.lookup id = some p
  pending : p.executed = false
  signed : p.requiredSignatures ≤ p.approvals.length
  unlocked : timeLockPassed env.now p = true
  inTime : env.now ≤ p.expiry
  passes : ActionPasses env s p.action

/-- Some call executes the proposal. -/
def CanExecute (env : CallEnv) (s : State) (id : ℕ) : Prop :=
  ∃ c p, Executes ⟨s, ⟨env, c⟩, next s ⟨env, c⟩⟩ id p

/-- A stored proposal is executed by someone's first vote on it. -/
theorem CanExecute.voter (h : CanExecute env s id) (hn : Numbered s)
    (hp : s.proposals.lookup id = some p) :
    p.action.HasBranch ∧ ∃ a, s.IsAdmin a ∧ a ∉ p.approvals ∧ a ∉ p.rejections := by
  obtain ⟨c, q, hx⟩ := h
  obtain ⟨p₁, s₁, hv, hexec, -, -⟩ := hx.cases rfl
  cases hv with
  | create => rw [hn.fresh] at hp; cases hp
  | @approve a _ p₀ hcan =>
    have hp₀ := hcan.stored
    change s.proposals.lookup id = some p₀ at hp₀
    rw [hp] at hp₀
    cases hp₀
    exact ⟨hexec.branch, a, hcan.admin, hcan.notApproved, hcan.notRejected⟩

/-- **An approved proposal can be carried out exactly where its action has a branch and some admin
    has not voted on it.** -/
theorem execution_possible (h : MultisigRun tr s) (hr : Ready env s id p) :
    CanExecute env s id ↔
      p.action.HasBranch ∧ ∃ a, s.IsAdmin a ∧ a ∉ p.approvals ∧ a ∉ p.rejections := by
  constructor
  · exact fun hx => hx.voter h.sound.numbered hr.stored
  · rintro ⟨hb, a, ha, hna, hnr⟩
    have hcan : CanVote env s a id p := ⟨ha, hr.stored, hr.pending, hr.inTime, hna, hnr⟩
    have hexec : Executable env (s.put id (p.approve a)) (p.approve a) := {
      pending := hr.pending
      inTime := hr.inTime
      unlocked := hr.unlocked
      signed := hr.signed.trans (by simp [PendingProposal.approve])
      branch := hb
      passes := actionPasses_put.2 hr.passes
      room := h.counted.room hr.stored hr.pending }
    have hret : Returns (Call.run env (.approveProposal a id)) s () _ :=
      approveProposal_returns.2 ⟨p, hcan, Or.inr ⟨hexec, rfl⟩⟩
    refine ⟨.approveProposal a id, { p.approve a with executed := true }, ?_⟩
    rw [show next s ⟨env, .approveProposal a id⟩ = _ from hret.commit_eq]
    exact executes_execute (i := ⟨env, .approveProposal a id⟩) h.sound.numbered (.approve hcan)

/-- Three admins, of whom two have to approve a pause. -/
def threeAdmins : MultiSigConfig := ⟨[⟨1⟩, ⟨2⟩, ⟨3⟩], 1, 2, 3, 86400, 50, 604800⟩

/-- The first proposes a pause, and the approvers approve it at once. -/
def pauseCalls (approvers : List Address) : List Input :=
  callsAt ((0, .createProposal ⟨1⟩ .pause) :: approvers.map fun a => (0, .approveProposal a 0))

def pauseApproved (approvers : List Address) : State :=
  (pauseCalls approvers).foldl next (multisigStart [⟨1⟩, ⟨2⟩, ⟨3⟩] 1)

def pauseProposal (approvals : List Address) : PendingProposal :=
  { id := 0, proposer := ⟨1⟩, action := .pause, proposalType := .critical, approvals,
    rejections := [], executed := false, createdAt := 0, expiry := 604800,
    timeLockUntil := some 86400, requiredSignatures := 2 }

/-- The end of the time-lock. -/
def unlockEnv : CallEnv := ⟨86400, ∅, fun _ _ => none⟩

theorem execution_possible_third : CanExecute unlockEnv (pauseApproved [⟨2⟩]) 0 := by
  have hready : Ready unlockEnv (pauseApproved [⟨2⟩]) 0 (pauseProposal [⟨1⟩, ⟨2⟩]) :=
    ⟨by decide, rfl, by decide, by decide, by decide, trivial⟩
  have hthird : (pauseApproved [⟨2⟩]).IsAdmin ⟨3⟩ := (isAdmin_iff rfl).2 (by decide)
  exact (execution_possible (multisigRun_calls (by decide) _) hready).2
    ⟨trivial, ⟨3⟩, hthird, by decide, by decide⟩

/-- **When all three have approved before the time-lock ends, no call executes the pause.** -/
theorem all_approved_too_early : ¬ ∀ tr s env id p, MultisigRun tr s → Ready env s id p →
    CanExecute env s id := by
  intro hall
  have hinit : (multisigStart [⟨1⟩, ⟨2⟩, ⟨3⟩] 1).initialized = true := by decide
  have h := multisigRun_calls hinit (pauseCalls [⟨2⟩, ⟨3⟩])
  have hready : Ready unlockEnv (pauseApproved [⟨2⟩, ⟨3⟩]) 0 (pauseProposal [⟨1⟩, ⟨2⟩, ⟨3⟩]) :=
    ⟨by decide, rfl, by decide, by decide, by decide, trivial⟩
  obtain ⟨-, a, ha, hna, -⟩ :=
    (hall _ _ unlockEnv 0 _ h hready).voter h.sound.numbered hready.stored
  have hcfg : (pauseApproved [⟨2⟩, ⟨3⟩]).multiSigConfig = some threeAdmins := rfl
  exact hna ((isAdmin_iff hcfg).1 ha)

end AccessControl
