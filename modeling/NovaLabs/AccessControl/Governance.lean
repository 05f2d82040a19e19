/-
  Whether the admins keep a configuration that they can act under.

  Adding and removing admins keep it valid and free of duplicates.  An update of the whole
  configuration is checked with `validate` only, which looks neither for duplicates nor at the
  time-lock against the expiry; it keeps the contract governed exactly where the new configuration
  passes these two checks as well (`governance_kept`).
-/
import NovaLabs.AccessControl.Multisig

namespace AccessControl

open Lib Soroban

variable {env : CallEnv} {s s' : State} {c cfg : MultiSigConfig} {a : Address} {tr : List Ev}
  {i : Input} {id : ℕ} {p : PendingProposal} {action : ProposalAction}

/-! ## Configurations -/

theorem validate_iff : c.validate = true ↔ c.admins ≠ [] ∧ 0 < c.requiredSignatures ∧
    c.requiredSignatures ≤ c.admins.length ∧ c.requiredSignatures ≤ c.criticalThreshold ∧
    c.criticalThreshold ≤ c.emergencyThreshold ∧ c.emergencyThreshold ≤ c.admins.length ∧
    0 < c.timeLockDuration ∧ 0 < c.maxPendingProposals ∧ 0 < c.proposalExpiryDuration := by
  simp only [MultiSigConfig.validate, decide_eq_true_eq, gt_iff_lt, ge_iff_le]

/-- Other admins keep a configuration valid while they are as many as the highest threshold. -/
theorem validate_admins (h : c.validate = true) {admins : List Address}
    (hl : c.emergencyThreshold ≤ admins.length) : { c with admins }.validate = true := by
  rw [validate_iff] at h ⊢
  obtain ⟨-, hreq, -, hcrit, hemrg, -, hrest⟩ := h
  have hpos : 0 < admins.length := by omega
  exact ⟨List.length_pos_iff.1 hpos, hreq, (hcrit.trans hemrg).trans hl, hcrit, hemrg, hl, hrest⟩

namespace MultiSigConfig.Sustainable

theorem emergency_le (h : c.Sustainable) : c.emergencyThreshold ≤ c.admins.length :=
  (validate_iff.1 h.valid).2.2.2.2.2.1

theorem addAdmin (h : c.Sustainable) (ha : a ∉ c.admins) :
    (ProposalAction.reconfigure c (.addAdmin a)).Sustainable where
  valid := validate_admins h.valid (by
    rw [List.length_append]; exact h.emergency_le.trans (Nat.le_add_right _ _))
  nodup := h.nodup.append (List.nodup_singleton a) (by simpa using ha)
  timely := h.timely

theorem removeAdmin (h : c.Sustainable) (hl : c.emergencyThreshold < c.admins.length) :
    (ProposalAction.reconfigure c (.removeAdmin a)).Sustainable where
  valid := validate_admins h.valid (by
    -- without duplicates, at most one entry goes
    have he : c.admins.filter (· ≠ a) = c.admins.erase a := by
      rw [h.nodup.erase_eq_filter]
      exact List.filter_congr fun b _ => by simp [bne, beq_eq_decide]
    have hle := List.le_length_erase (a := a) (l := c.admins)
    rw [he]; omega)
  nodup := h.nodup.filter _
  timely := h.timely

/-- As many distinct addresses as the highest threshold can sign. -/
theorem signers (h : c.Sustainable) : c.emergencyThreshold ≤ c.admins.toFinset.card := by
  rw [List.toFinset_card_of_nodup h.nodup]
  exact h.emergency_le

end MultiSigConfig.Sustainable

/-- What `validate` does not check. -/
def MultiSigConfig.Durable (c : MultiSigConfig) : Prop :=
  c.admins.Nodup ∧ c.timeLockDuration ≤ c.proposalExpiryDuration

theorem reconfigure_sustainable (h : c.Sustainable) (hc : s.multiSigConfig = some c)
    (hp : ActionPasses env s action)
    (hu : ∀ cfg, action = .updateMultisigConfig cfg → cfg.Durable) :
    (action.reconfigure c).Sustainable := by
  cases action with
  | addAdmin a => exact h.addAdmin (hp c hc)
  | removeAdmin a => exact h.removeAdmin (hp c hc)
  | updateMultisigConfig cfg => exact ⟨hp, (hu cfg rfl).1, (hu cfg rfl).2⟩
  | _ => exact h

/-! ## States -/

/-- The admins can act: the configuration is sustainable, as many distinct addresses can sign as it
    asks for, and no stored proposal expires before its time-lock ends. -/
structure Governed (s : State) : Prop where
  config : ∃ c, s.multiSigConfig = some c ∧ c.Sustainable ∧
    c.emergencyThreshold ≤ c.admins.toFinset.card
  timely : ∀ id p, s.proposals.lookup id = some p → ∀ t, p.timeLockUntil = some t → t ≤ p.expiry

/-- If the call is the approval that executes an update of the configuration, then the new one
    passes the checks that `validate` leaves out. -/
def ChecksUpdate (s : State) (i : Input) : Prop :=
  ∀ a id p cfg, i.call = .approveProposal a id → CanVote i.env s a id p →
    p.action = .updateMultisigConfig cfg →
    Executable i.env (s.put id (p.approve a)) (p.approve a) → cfg.Durable

variable {call : Call}

/-- A vote leaves a record that can still execute. -/
theorem Vote.timely (hv : Vote env s call id p s') (hg : Governed s) :
    ∀ t, p.timeLockUntil = some t → t ≤ p.expiry := by
  intro t ht
  cases hv with
  | create _ hc _ _ hp =>
    obtain ⟨c', hc', hs, -⟩ := hg.config
    rw [hc] at hc'; cases hc'
    subst hp
    simp only [newProposal] at ht ⊢
    split_ifs at ht
    cases ht
    exact Nat.add_le_add_left hs.timely _
  | approve hcan => exact hg.timely _ _ hcan.stored t ht

/-- A proposal to update the configuration does not execute in the call that creates it. -/
theorem Executable.update_locked {proposer : Address} (hc : c.validate = true)
    (h : Executable env s' (newProposal env.now id c proposer (.updateMultisigConfig cfg))) :
    False := by
  have hlock := h.unlocked
  have hpos := (validate_iff.1 hc).2.2.2.2.2.2.1
  simp [timeLockPassed, newProposal, ProposalAction.classifyType,
    ProposalType.requiresTimeLock] at hlock
  omega

theorem Vote.update_checked (hv : Vote i.env s i.call id p s') (he : Executable i.env s' p)
    (hg : Governed s) (hu : ChecksUpdate s i) :
    ∀ cfg, p.action = .updateMultisigConfig cfg → cfg.Durable := by
  intro cfg hcfg
  generalize hcall : i.call = call at hv
  cases hv with
  | create _ hc _ _ hp =>
    obtain ⟨c', hc', hs, -⟩ := hg.config
    rw [hc] at hc'; cases hc'
    subst hp
    simp only [newProposal] at hcfg
    subst hcfg
    exact (he.update_locked hs.valid).elim
  | approve hcan => exact hu _ _ _ cfg hcall hcan hcfg he

theorem Governed.sustained (hg : Governed s) (hs : Sound s) (h : Steps s i s')
    (hu : ChecksUpdate s i) : ∃ c, s'.multiSigConfig = some c ∧ c.Sustainable := by
  obtain ⟨c, hc, hsus, -⟩ := hg.config
  by_cases hset : s'.settings = s.settings
  · simp only [State.settings, Prod.mk.injEq] at hset
    exact ⟨c, hset.2.2.1.trans hc, hsus⟩
  · obtain ⟨id, p, hx⟩ := settings_change hs.toMultisigState hs.numbered h hset
    obtain ⟨p₁, s₁, hv, he, rfl, hpost⟩ := hx.cases h
    have hframe := hv.frame.1
    simp only [State.settings, Prod.mk.injEq] at hframe
    have hc₁ : s₁.multiSigConfig = some c := hframe.2.2.1.trans hc
    rw [show s' = s₁.execute id p₁ from hpost]
    exact ⟨_, apply_multiSigConfig (s := s₁.put id { p₁ with executed := true }) hc₁ p₁.action,
      reconfigure_sustainable hsus hc₁ he.passes (hv.update_checked he hg hu)⟩

theorem Governed.step (hg : Governed s) (hs : Sound s) (h : Steps s i s')
    (hu : ChecksUpdate s i) : Governed s' where
  config := by
    obtain ⟨c, hc, hsus⟩ := hg.sustained hs h hu
    exact ⟨c, hc, hsus, hsus.signers⟩
  timely id p hp := by
    have hrec := step_record h id
    rw [hp] at hrec
    generalize ho : some p = o at hrec
    cases hrec with
    | same => exact hg.timely id p ho.symm
    | vote hv => cases ho; exact hv.timely hg
    | execute hv => cases ho; exact hv.timely hg
    | reject hv => cases ho; have hle := hg.timely id _ hv.stored; exact hle
    | remove => cases ho

/-- A call that leaves the contract governed has checked its update. -/
theorem Governed.checks (hg : Governed s') (h : Steps s i s') : ChecksUpdate s i := by
  intro a id p cfg hcall hcan haction hexec
  have hret : Returns (i.call.run i.env) s ()
      ((s.put id (p.approve a)).execute id (p.approve a)) := by
    rw [hcall]; exact approveProposal_returns.2 ⟨p, hcan, Or.inr ⟨hexec, rfl⟩⟩
  obtain ⟨c, hc, hs, -⟩ := hg.config
  rw [h, next, hret.commit_eq] at hc
  have hcfg : ((s.put id (p.approve a)).execute id (p.approve a)).multiSigConfig = some cfg := by
    change (State.apply _ p.action).multiSigConfig = _
    rw [haction]; rfl
  rw [hcfg] at hc; cases hc
  exact ⟨hs.nodup, hs.timely⟩

/-! ## Runs -/

theorem governed_run {s₀ : State} (h : Run Steps s₀ tr s) (hs : Sound s₀) (hg : Governed s₀) :
    (Governed s ∧ ∀ e ∈ tr, Governed e.pre) ↔ ∀ e ∈ tr, ChecksUpdate e.pre e.inp := by
  rw [← along_iff_forall, ← along_iff_forall]
  exact Run.always_iff (P := fun _ s => Governed s) (C := fun _ e => ChecksUpdate e.pre e.inp)
    (fun _ _ hr hst hg₁ => ⟨fun hg₂ => hg₂.checks hst, fun hu => hg₁.step (hs.run hr) hst hu⟩) h hg

/-- **The contract stays governed exactly where updates pass the checks that `validate` leaves
    out.** -/
theorem governance_kept (h : MultisigRun tr s) :
    (Governed s ∧ ∀ e ∈ tr, Governed e.pre) ↔ ∀ e ∈ tr, ChecksUpdate e.pre e.inp := by
  obtain ⟨env, admins, required, s₀, h₀, hr⟩ := h
  obtain ⟨c, hc, rfl, hs⟩ := sound_start h₀
  exact governed_run hr hs
    ⟨⟨c, rfl, hc, hc.signers⟩, fun id p hp => by simp [State.startMultisig] at hp⟩

/-- Two admins put the configuration `cfg` in place. -/
def reconfiguration (cfg : MultiSigConfig) : List Input :=
  callsAt [(0, .createProposal ⟨1⟩ (.updateMultisigConfig cfg)), (86400, .approveProposal ⟨2⟩ 0)]

/-- The second admin gives way to another one. -/
def thirdAdmin : MultiSigConfig := ⟨[⟨1⟩, ⟨3⟩], 1, 1, 2, 60, 50, 3600⟩

theorem thirdAdmin_checks : ∀ e ∈ eventsFrom next (multisigStart [⟨1⟩, ⟨2⟩] 1)
    (reconfiguration thirdAdmin), ChecksUpdate e.pre e.inp := by
  rintro e (_ | ⟨_, _ | ⟨_, he⟩⟩) a id p cfg hcall hcan haction -
  · cases hcall
  · cases hcall
    have hp := hcan.stored.symm.trans (by decide : _ = some (newProposal 0 0
      ⟨[⟨1⟩, ⟨2⟩], 1, 2, 2, 86400, 50, 604800⟩ ⟨1⟩ (.updateMultisigConfig thirdAdmin)))
    cases hp
    cases haction
    exact ⟨by decide, by decide⟩
  · cases he

theorem governance_kept_third : ∃ tr s, Governed s ∧ s.multiSigConfig = some thirdAdmin ∧
    Run Steps (multisigStart [⟨1⟩, ⟨2⟩] 1) tr s :=
  let calls := reconfiguration thirdAdmin
  ⟨_, _, ((governance_kept (multisigRun_calls (by decide) calls)).2 thirdAdmin_checks).1,
    by decide, run_calls _ calls⟩

/-- One admin, listed twice, where two have to sign. -/
def doubledAdmin : MultiSigConfig := ⟨[⟨1⟩, ⟨1⟩], 2, 2, 2, 86400, 50, 604800⟩

/-- **Two admins can leave a contract that no one can govern.** -/
theorem governance_lost : ¬ ∀ tr s, MultisigRun tr s → Governed s := by
  intro hall
  have hinit : (multisigStart [⟨1⟩, ⟨2⟩] 1).initialized = true := by decide
  have h := hall _ _ (multisigRun_calls hinit (reconfiguration doubledAdmin))
  obtain ⟨c, hc, hs, -⟩ := h.config
  have hcfg : ((reconfiguration doubledAdmin).foldl next
      (multisigStart [⟨1⟩, ⟨2⟩] 1)).multiSigConfig = some doubledAdmin := by decide
  rw [hcfg] at hc; cases hc
  exact absurd hs.nodup (by decide)

end AccessControl
