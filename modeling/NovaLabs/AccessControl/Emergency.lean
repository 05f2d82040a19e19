/-
  Leaving emergency mode.

  The action EmergencyPause starts it, in multisig mode.  `deactivate_emergency_mode` would end it,
  but is disabled in multisig mode, which never ends, and no action stands in for it: once started,
  emergency mode stays on whatever anyone calls (`emergency_mode_stuck`).
-/
import NovaLabs.AccessControl.Modes

namespace AccessControl

open Lib Soroban

variable {s s' : State} {tr : List Ev} {i : Input}

/-- Some calls end emergency mode, at whatever times and whoever authorises them. -/
def Recoverable (s : State) : Prop := ∃ tr s', Run Steps s tr s' ∧ s'.emergencyMode = false

/-- No action ends emergency mode. -/
theorem apply_emergency (h : s.emergencyMode = true) (a : ProposalAction) :
    (s.apply a).emergencyMode = true := by
  cases a with
  | addAdmin | removeAdmin => unfold State.apply; cases s.multiSigConfig <;> exact h
  | emergencyPause => rfl
  | _ => exact h

theorem emergency_congr (h : s.emergencyMode = true) (hset : s'.settings = s.settings) :
    s'.emergencyMode = true := by
  simp only [State.settings, Prod.mk.injEq] at hset
  exact hset.2.2.2.trans h

theorem MultisigState.emergency_step (hs : MultisigState s) (h : s.emergencyMode = true)
    (hst : Steps s i s') : s'.emergencyMode = true := by
  rcases hs.step (step_effect hst) with ⟨_, rfl⟩ | hd | hp
  · exact h
  · exact emergency_congr h hd.frame.1
  · rcases hp.frame with ⟨hset, -⟩ | ⟨id, p, s₁, hv, -, rfl⟩
    · exact emergency_congr h hset
    · have h₁ : s₁.emergencyMode = true := emergency_congr h hv.frame.1
      exact apply_emergency (s := s₁.put id { p with executed := true }) h₁ p.action

/-- Emergency mode and multisig mode are on, and stay so. -/
theorem MultisigState.emergency_run (hs : MultisigState s) (h : s.emergencyMode = true)
    (hr : Run Steps s tr s') : s'.emergencyMode = true := by
  have hkept : MultisigState s' ∧ s'.emergencyMode = true :=
    hr.invariant' (P := fun s => MultisigState s ∧ s.emergencyMode = true)
      (fun _ _ _ ⟨hs, h⟩ hst => ⟨hs.next (step_effect hst), hs.emergency_step h hst⟩) ⟨hs, h⟩
  exact hkept.2

theorem Mode.of_emergency (hs : Mode s) (h : s.emergencyMode = true) : MultisigState s := by
  cases hs with
  | blank _ hcalm | single _ hcalm => rw [h] at hcalm; cases hcalm
  | multisig hm => exact hm

theorem MultisigState.not_recoverable (hs : MultisigState s) (h : s.emergencyMode = true) :
    ¬ Recoverable s := by
  rintro ⟨tr, s', hr, hoff⟩
  rw [hs.emergency_run h hr] at hoff
  cases hoff

/-- **No call ever ends emergency mode.** -/
theorem emergency_mode_stuck (h : Run Steps {} tr s) (he : s.emergencyMode = true) :
    ¬ Recoverable s :=
  ((Mode.run h).of_emergency he).not_recoverable he

/-- Two admins pause the contract in an emergency. -/
def emergency : List Input :=
  callsAt [(0, .initializeMultisig [⟨1⟩, ⟨2⟩] 1), (1, .createProposal ⟨1⟩ (.emergencyPause "")),
    (2, .approveProposal ⟨2⟩ 0)]

theorem emergency_mode_stuck_approved : ¬ Recoverable (emergency.foldl next {}) :=
  emergency_mode_stuck (run_calls {} emergency) (by decide)

/-- **The admins who started emergency mode cannot end it.** -/
theorem emergency_unrecoverable :
    ¬ ∀ tr s, Run Steps {} tr s → s.emergencyMode = true → Recoverable s := by
  intro hall
  have hr := run_calls {} emergency
  have he : (emergency.foldl next {}).emergencyMode = true := by decide
  exact ((Mode.run hr).of_emergency he).not_recoverable he (hall _ _ hr he)

end AccessControl
