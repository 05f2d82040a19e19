/-
  Who stands behind an execution at the moment it happens.

  Approvals are counted by length, and stay when an approver is removed from the admins.  So an
  execution has as many distinct approvers as it needs, admins when they approved
  (`executed_by_quorum`), but those who are still admins may be fewer (`current_admins_no_quorum`).
-/
import NovaLabs.AccessControl.History

namespace AccessControl

open Lib Soroban

/-- The admins of the multisig configuration. -/
def State.admins (s : State) : List Address := s.multiSigConfig.elim [] (·.admins)

/-- The action takes the address off the admins. -/
def ProposalAction.Removes (a : Address) : ProposalAction → Prop
  | .removeAdmin b => b = a
  | .updateMultisigConfig c => a ∉ c.admins
  | _ => False

variable {s s' : State} {tr tr₁ tr₂ : List Ev} {id id' : ℕ} {p p' : PendingProposal} {e : Ev}
  {a : Address}

theorem reconfigure_removes {action : ProposalAction} {c : MultiSigConfig} (h : a ∈ c.admins)
    (h' : a ∉ (action.reconfigure c).admins) : action.Removes a := by
  cases action with
  | addAdmin b => exact absurd (List.mem_append_left _ h) h'
  | removeAdmin b =>
    by_contra hne
    exact h' (List.mem_filter.2 ⟨h, decide_eq_true (Ne.symm hne)⟩)
  | updateMultisigConfig c' => exact h'
  | _ => exact absurd h h'

/-- Only an execution takes an address off the admins. -/
theorem removed_step (hs : Sound s) {i : Input} (h : Steps s i s') (ha : a ∈ s.admins)
    (ha' : a ∉ s'.admins) : ∃ id p, Executes ⟨s, i, s'⟩ id p ∧ p.action.Removes a := by
  have hne : s'.settings ≠ s.settings := by
    intro heq
    simp only [State.settings, Prod.mk.injEq] at heq
    exact ha' (by rw [State.admins, heq.2.2.1]; exact ha)
  obtain ⟨id, p, hx⟩ := settings_change hs.toMultisigState hs.numbered h hne
  have hset : s'.settings = (s.apply p.action).settings := hx.settings h
  simp only [State.settings, Prod.mk.injEq] at hset
  obtain ⟨c, hc⟩ := hs.enabled
  rw [State.admins, hc] at ha
  rw [State.admins, hset.2.2.1, apply_multiSigConfig hc] at ha'
  exact ⟨id, p, hx, reconfigure_removes ha ha'⟩

/-- Along a run, who is no longer an admin was taken off by an execution. -/
theorem removed_run (h : Run Steps s tr s') (hs : Sound s) (ha : a ∈ s.admins) :
    a ∈ s'.admins ∨ ∃ e ∈ tr, ∃ id p, Executes e id p ∧ p.action.Removes a := by
  induction h with
  | nil => exact Or.inl ha
  | @snoc tr s₁ i s₂ hr hst ih =>
    rcases ih with ha₁ | ⟨e, he, hx⟩
    · by_cases ha₂ : a ∈ s₂.admins
      · exact Or.inl ha₂
      · exact Or.inr ⟨_, List.mem_concat_self, removed_step (hs.run hr) hst ha₁ ha₂⟩
    · exact Or.inr ⟨e, List.mem_append_left _ he, hx⟩

/-- A call that executes a proposal records approvals of that proposal only. -/
theorem Executes.approves (hx : Executes e id' p') (h : Steps e.pre e.inp e.post)
    (ha : Approves e id a) : id' = id := by
  obtain ⟨p₁, s₁, hv, -, -, hpost⟩ := hx.cases h
  obtain ⟨q, hq, hmem⟩ := ha.after
  by_contra hne
  rw [hpost, execute_proposals, hv.proposals, Store.lookup_insert_ite, if_neg (Ne.symm hne),
    Store.lookup_insert_ite, if_neg (Ne.symm hne)] at hq
  exact ha.before q hq hmem

/-- The approvals behind the execution `e`, after the history `tr`: enough of them, distinct, and
    each by an admin, who is still one or was taken off by an execution since. -/
structure Quorum (tr : List Ev) (e : Ev) (id : ℕ) (p : PendingProposal) : Prop where
  enough : p.requiredSignatures ≤ p.approvals.length
  nodup : p.approvals.Nodup
  approved : ∀ a ∈ p.approvals, Approves e id a ∨ ∃ tr₁ e₁ tr₂, tr = tr₁ ++ e₁ :: tr₂ ∧
    Approves e₁ id a ∧
      (a ∈ e.pre.admins ∨ ∃ e₂ ∈ tr₂, ∃ id₂ p₂, Executes e₂ id₂ p₂ ∧ p₂.action.Removes a)

/-- **The quorum of an execution.** -/
theorem executed_by_quorum (h : MultisigRun (tr₁ ++ e :: tr₂) s) (hx : Executes e id p) :
    Quorum tr₁ e id p := by
  have hsan := hx.sanctioned h
  obtain ⟨p₁, s₁, -, hexec, rfl, -⟩ := hx.cases h.split.2.1
  refine ⟨hexec.signed, hsan.nodup, fun a ha => ?_⟩
  obtain ⟨e₁, he₁, happ⟩ := hsan.approved a ha
  rcases List.mem_append.1 he₁ with he₁ | he₁
  · refine Or.inr ?_
    obtain ⟨l₁, l₂, rfl⟩ := List.append_of_mem he₁
    refine ⟨l₁, e₁, l₂, rfl, happ, ?_⟩
    have hpre := h.split.1
    obtain ⟨hpre₁, hst₁, hr⟩ := hpre.split
    obtain ⟨cfg, hcfg, hmem⟩ := happ.member
    have hadm : a ∈ e₁.pre.admins := by rw [State.admins, hcfg]; exact hmem
    -- the approving call executes nothing, since `e` executes the proposal it approves
    have hpost : a ∈ e₁.post.admins := by
      by_contra hne
      obtain ⟨id₁, q, hx₁, -⟩ := removed_step hpre₁.sound hst₁ hadm hne
      obtain rfl := Executes.approves hx₁ hst₁ happ
      rw [List.append_assoc, List.cons_append] at h
      exact executes_once h hx₁ e (by simp) _ hx
    exact removed_run hr hpre.head.sound hpost
  · rw [List.mem_singleton.1 he₁] at happ
    exact Or.inl happ

/-- Five admins, of whom two have to approve.  The fifth proposes to unpause, three others remove
    the fifth, and then the first approves. -/
def removedApprover : State :=
  (callsAt [(0, .createProposal ⟨5⟩ .unpause), (0, .createProposal ⟨1⟩ (.removeAdmin ⟨5⟩)),
    (0, .approveProposal ⟨2⟩ 1), (86400, .approveProposal ⟨3⟩ 1)]).foldl next
      (multisigStart [⟨1⟩, ⟨2⟩, ⟨3⟩, ⟨4⟩, ⟨5⟩] 2)

def lastApproval : Ev :=
  let i : Input := ⟨⟨86401, ∅, fun _ _ => none⟩, .approveProposal ⟨1⟩ 0⟩
  ⟨removedApprover, i, next removedApprover i⟩

/-- The proposal to unpause, when it has executed. -/
def unpauseExecuted : PendingProposal :=
  { id := 0, proposer := ⟨5⟩, action := .unpause, proposalType := .standard,
    approvals := [⟨5⟩, ⟨1⟩], rejections := [], executed := true, createdAt := 0, expiry := 604800,
    timeLockUntil := none, requiredSignatures := 2 }

theorem lastApproval_run : ∃ tr, MultisigRun (tr ++ [lastApproval]) lastApproval.post :=
  ⟨_, (multisigRun_calls (by decide) _).snoc _⟩

theorem lastApproval_executes : Executes lastApproval 0 unpauseExecuted := by decide

theorem executed_by_quorum_removedApprover : ∃ tr, Quorum tr lastApproval 0 unpauseExecuted := by
  obtain ⟨tr, h⟩ := lastApproval_run
  exact ⟨tr, executed_by_quorum h lastApproval_executes⟩

/-- **An execution may lack a quorum of current admins.** -/
theorem current_admins_no_quorum : ¬ ∀ tr₁ e tr₂ s id p, MultisigRun (tr₁ ++ e :: tr₂) s →
    Executes e id p → p.requiredSignatures ≤ (p.approvals.filter (· ∈ e.pre.admins)).length := by
  intro hall
  obtain ⟨tr, h⟩ := lastApproval_run
  exact absurd (hall tr lastApproval [] _ 0 _ h lastApproval_executes) (by decide)

end AccessControl
