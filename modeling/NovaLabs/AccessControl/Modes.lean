/-
  The modes of the contract: not yet initialised, with a stored admin, with a multisig
  configuration.

  Every state that calls reach from an empty storage is in one of them (`Mode.run`), and emergency
  mode is a matter of the last one.
-/
import NovaLabs.AccessControl.SingleAdmin

namespace AccessControl

open Lib Soroban

variable {env : CallEnv} {s s' : State} {c : Call} {tr : List Ev} {i : Input} {a : Address}

/-- Before `initialize` and `initialize_multisig`, nobody is an admin. -/
structure Blank (s : State) : Prop where
  uninitialized : s.initialized = false
  disabled : s.multiSigConfig = none
  noProposals : ∀ id, s.proposals.lookup id = none
  noTransfer : s.pendingAdminTransfer = none
  noAdmin : ∀ a, ¬ s.IsAdmin a

/-- What a reachable state looks like. -/
inductive Mode (s : State) : Prop
  | blank : Blank s → s.emergencyMode = false → Mode s
  | single : SingleState s → s.emergencyMode = false → Mode s
  | multisig : MultisigState s → Mode s

theorem blank_empty : Blank {} := by
  refine ⟨rfl, rfl, fun id => by simp, rfl, fun a ha => ?_⟩
  simp [State.IsAdmin, isAdmin, getRole] at ha

/-! ## Emergency mode starts in multisig mode -/

theorem ConfigCall.calm (hc : ConfigCall a c) (h : Returns (c.run env) s () s')
    (hs : s.emergencyMode = false) : s'.emergencyMode = false := by
  cases hc <;>
    simp only [Call.run, AccessControl.updateConfig, AccessControl.pause, AccessControl.unpause,
      AccessControl.deactivateEmergencyMode, returns_bind, requireNoMultisig_returns,
      requireAdmin_returns, returns_modify] at h <;>
    obtain ⟨_, _, ⟨-, rfl⟩, _, _, ⟨-, rfl⟩, rfl⟩ := h
  · exact hs
  · exact hs
  · exact hs
  · rfl

theorem calm_step (hm : s.multiSigConfig = none) (hp : ∀ id, s.proposals.lookup id = none)
    (hs : s.emergencyMode = false) (h : Steps s i s') : s'.emergencyMode = false := by
  rcases commit_cases (i.call.run i.env) s with ⟨_, hret⟩ | ⟨-, hsame⟩
  · rw [show commit (i.call.run i.env) s = s' from h.symm] at hret
    have heff := returns_effect hret
    generalize i.call = c at heff hret
    cases heff with
    | log h => obtain ⟨_, rfl⟩ := h; exact hs
    | direct h =>
      have hset := h.frame.1
      simp only [State.settings, Prod.mk.injEq] at hset
      exact hset.2.2.2.trans hs
    | config _ _ _ hc => exact hc.calm hret hs
    | proposal h => obtain rfl := no_proposal hm hp h; exact hs
    | start | startMultisig | proposeTransfer | acceptTransfer | cancelTransfer => exact hs
  · rw [show s' = s from h.trans hsame]
    exact hs

/-! ## Steps and runs -/

theorem Blank.step (hs : Blank s) (h : Effect env s c s') :
    Blank s' ∨ SingleState s' ∨ MultisigState s' := by
  cases h with
  | log h =>
    obtain ⟨_, rfl⟩ := h
    obtain ⟨hi, hm, hp, ht, ha⟩ := hs
    exact Or.inl ⟨hi, hm, hp, ht, ha⟩
  | start => exact Or.inr (Or.inl ⟨rfl, hs.disabled, hs.noProposals⟩)
  | startMultisig => exact Or.inr (Or.inr ⟨rfl, ⟨_, rfl⟩, hs.noTransfer⟩)
  | direct h =>
    obtain ⟨a, -, ha⟩ := h.entitled
    cases h <;> exact (hs.noAdmin a ha).elim
  | config _ _ _ _ _ ha => exact (hs.noAdmin _ ha).elim
  | proposeTransfer _ _ ha => exact (hs.noAdmin _ ha).elim
  | acceptTransfer _ ht => rw [hs.noTransfer] at ht; cases ht
  | cancelTransfer _ ha => exact (hs.noAdmin _ ha).elim
  | proposal h =>
    obtain rfl := no_proposal hs.disabled hs.noProposals h
    exact Or.inl hs

theorem Mode.step (hs : Mode s) (h : Steps s i s') : Mode s' := by
  cases hs with
  | blank hb hcalm =>
    have hcalm' := calm_step hb.disabled hb.noProposals hcalm h
    rcases hb.step (step_effect h) with hb | hs | hm
    · exact .blank hb hcalm'
    · exact .single hs hcalm'
    · exact .multisig hm
  | single hs hcalm =>
    exact .single (hs.step h).1 (calm_step hs.disabled hs.noProposals hcalm h)
  | multisig hm => exact .multisig (hm.next (step_effect h))

/-- **Every reachable state is in one of the modes.** -/
theorem Mode.run (h : Run Steps {} tr s) : Mode s :=
  h.invariant' (fun _ _ _ hs hst => hs.step hst) (.blank blank_empty rfl)

theorem Mode.multisig_of_enabled (hs : Mode s) (hm : s.multiSigConfig ≠ none) :
    MultisigState s := by
  cases hs with
  | blank hb => exact absurd hb.disabled hm
  | single hs => exact absurd hs.disabled hm
  | multisig hm => exact hm

end AccessControl
