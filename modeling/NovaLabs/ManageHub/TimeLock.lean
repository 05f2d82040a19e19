/-
  The time lock of the emergency pause over whole runs.

  Only `emergency_pause` and `emergency_unpause` write the record of the pause.  The second checks
  the time lock that is recorded; the first records a new one, and a new automatic end, whatever
  the record was.
-/
import NovaLabs.ManageHub.Interface

namespace ManageHub

open Lib Soroban

variable {me : Address}

/-! ## What the pauses do -/

section
variable {env : HubEnv me} {s s' : State} {u : Unit} {admin : Address} {reason : Option String}
  {autoUnpauseAfter timeLockDuration : Option ℕ}

theorem emergencyPause_returns
    (h : Returns (emergencyPause env admin reason autoUnpauseAfter timeLockDuration) s u s') :
    (s.get .admin = some admin ∧ admin ∈ env.auths) ∧
      ∃ state : EmergencyPauseState, s' = s.put .emergencyPauseState state ∧
        state.isPaused = true ∧ state.autoUnpauseAt = autoUnpauseAfter.bind (checkedAdd64 env.now) := by
  simp only [emergencyPause, getPauseState, returns_bind_of_checks fun _ _ => requireAdmin_returns,
    bind_assoc, pure_bind, returns_load_bind, returns_store] at h
  exact ⟨h.1, _, h.2, rfl, rfl⟩

theorem emergencyPause_passes (reason : Option String)
    (autoUnpauseAfter timeLockDuration : Option ℕ) (ha : s.get .admin = some admin)
    (hauth : admin ∈ env.auths) :
    ∃ s', Returns (emergencyPause env admin reason autoUnpauseAfter timeLockDuration) s () s' := by
  simp only [emergencyPause, getPauseState, returns_bind_of_checks fun _ _ => requireAdmin_returns,
    bind_assoc, pure_bind, returns_load_bind, returns_store]
  exact ⟨_, ⟨ha, hauth⟩, rfl⟩

theorem emergencyUnpause_returns :
    Returns (emergencyUnpause env admin) s u s' ↔
      (s.get .admin = some admin ∧ admin ∈ env.auths) ∧ timeLockActive s env.now = false ∧
        s' = s.put .emergencyPauseState
          { isPaused := false, pausedAt := none, pausedBy := none, reason := none
            autoUnpauseAt := none, timeLockUntil := none
            pauseCount := ((s.get .emergencyPauseState).elim 0 (·.pauseCount)) } := by
  simp only [emergencyUnpause, getPauseState, bind_assoc, pure_bind,
    returns_bind_of_checks fun _ _ => requireAdmin_returns,
    returns_bind_of_checks fun _ _ => requireTimelockExpired_returns, returns_load_bind,
    returns_store]
  cases s.get .emergencyPauseState <;> rfl

end

/-! ## The window of a pause -/

/-- The event is a successful `emergency_pause` at time `t`, with a time lock of `d` seconds and no
    automatic end. -/
structure Locks (ev : Ev me) (t d : ℕ) : Prop where
  call : ∃ admin reason, ev.inp.call = .emergencyPause admin reason none (some d)
  time : ev.inp.env.now = t
  done : Succeeds ev.inp ev.pre ev.post

/-- Up to the deadline, the contract is paused, whatever time it is. -/
def PausedUntil (w : World) (deadline : ℕ) : Prop :=
  ∀ u, w.now ≤ u → u < deadline → isContractPaused w.state u = true

/-- The admin does not undo a pause that is to last up to the deadline. -/
structure KeepsPause (deadline : ℕ) (ev : Ev me) : Prop where
  /-- where the admin unpauses before the deadline, the recorded time lock is active -/
  unpause : ∀ admin, ev.inp.call = .emergencyUnpause admin → ev.inp.env.now < deadline →
    ev.pre.state.get .admin = some admin → admin ∈ ev.inp.env.auths →
    timeLockActive ev.pre.state ev.inp.env.now = true
  /-- where the admin pauses again before the deadline, the new automatic end is not before it -/
  pause : ∀ admin reason autoUnpauseAfter timeLockDuration,
    ev.inp.call = .emergencyPause admin reason autoUnpauseAfter timeLockDuration →
    ev.inp.env.now < deadline → ev.pre.state.get .admin = some admin → admin ∈ ev.inp.env.auths →
    ∀ t ∈ autoUnpauseAfter.bind (checkedAdd64 ev.inp.env.now), deadline ≤ t

theorem isContractPaused_put {s : State} {state : EmergencyPauseState} {u : ℕ} :
    isContractPaused (s.put .emergencyPauseState state) u = state.inEffect u := by
  unfold isContractPaused
  rw [get_put_self]

theorem isContractPaused_congr {s s' : State} {u : ℕ}
    (h : s'.get .emergencyPauseState = s.get .emergencyPauseState) :
    isContractPaused s' u = isContractPaused s u := by
  unfold isContractPaused
  rw [h]

/-- A step after the deadline keeps the pause up to it. -/
theorem pausedUntil_of_le {w : World} {deadline : ℕ} (h : deadline ≤ w.now) :
    PausedUntil w deadline := fun _ hu hd => absurd (hu.trans_lt hd) (not_lt.2 h)

/-- The pause lasts where the record stays. -/
theorem PausedUntil.congr {w w' : World} {deadline : ℕ} (h : PausedUntil w deadline)
    (hn : w.now ≤ w'.now) (he : w'.state.get .emergencyPauseState = w.state.get .emergencyPauseState) :
    PausedUntil w' deadline := fun u hu hd => by
  rw [isContractPaused_congr he]
  exact h u (hn.trans hu) hd

/-- A pause that is on lasts up to the deadline if its automatic end is not before it. -/
theorem inEffect_iff {state : EmergencyPauseState} {now deadline : ℕ} (hp : state.isPaused = true)
    (hn : now < deadline) :
    (∀ u, now ≤ u → u < deadline → state.inEffect u = true) ↔
      ∀ t ∈ state.autoUnpauseAt, deadline ≤ t := by
  simp only [EmergencyPauseState.inEffect, hp, Bool.true_and, Bool.not_eq_true',
    Option.any_eq_false, decide_eq_false_iff_not]
  constructor
  · intro h t ht
    by_contra hlt
    exact h (max now t) (le_max_left _ _) (max_lt hn (not_le.1 hlt)) t ht (le_max_right _ _)
  · intro h u _ hu t ht htu
    exact absurd (h t ht) (not_le.2 (htu.trans_lt hu))

/-! ## Steps -/

section
variable {w w' : World} {i : Input me} {deadline : ℕ}

/-- A step after which the record is as before. -/
theorem Step.pausedUntil_same (h : Step w i w') (hp : PausedUntil w deadline)
    (he : w'.state.get .emergencyPauseState = w.state.get .emergencyPauseState) :
    PausedUntil w' deadline := hp.congr (h.now_eq ▸ h.clock) he

theorem Step.pausedUntil_pause (h : Step w i w') (hp : PausedUntil w deadline)
    (hd : i.env.now < deadline) {admin : Address} {reason : Option String}
    {autoUnpauseAfter timeLockDuration : Option ℕ}
    (hc : i.call = .emergencyPause admin reason autoUnpauseAfter timeLockDuration) :
    PausedUntil w' deadline ↔ KeepsPause deadline ⟨w, i, w'⟩ := by
  have hs := h.state_eq (by rw [hc]; rfl)
  by_cases ha : w.state.get .admin = some admin ∧ admin ∈ i.env.auths
  · obtain ⟨s', hr⟩ :=
      emergencyPause_passes reason autoUnpauseAfter timeLockDuration ha.1 ha.2
    obtain ⟨-, state, rfl, hon, hauto⟩ := emergencyPause_returns hr
    rw [hr.commit_eq] at hs
    have hiff : PausedUntil w' deadline ↔
        ∀ t ∈ autoUnpauseAfter.bind (checkedAdd64 i.env.now), deadline ≤ t := by
      unfold PausedUntil
      simp only [hs, isContractPaused_put, h.now_eq]
      rw [inEffect_iff hon hd, hauto]
    rw [hiff]
    constructor
    · intro hle
      refine ⟨fun _ hc' => ?_, fun _ _ _ _ hc' _ _ _ => ?_⟩ <;> rw [hc] at hc' <;> cases hc'
      exact hle
    · intro hk
      exact hk.pause _ _ _ _ hc hd ha.1 ha.2
  · rw [commit_eq_self fun u s' hr => ha (emergencyPause_returns hr).1] at hs
    refine ⟨fun _ => ⟨fun _ hc' => ?_, fun _ _ _ _ hc' _ hadm hauth => ?_⟩,
      fun _ => h.pausedUntil_same hp (by rw [hs])⟩ <;> rw [hc] at hc' <;> cases hc'
    exact absurd ⟨hadm, hauth⟩ ha

theorem Step.pausedUntil_unpause (h : Step w i w') (hp : PausedUntil w deadline)
    (hd : i.env.now < deadline) {admin : Address} (hc : i.call = .emergencyUnpause admin) :
    PausedUntil w' deadline ↔ KeepsPause deadline ⟨w, i, w'⟩ := by
  have hs := h.state_eq (by rw [hc]; rfl)
  by_cases ha : (w.state.get .admin = some admin ∧ admin ∈ i.env.auths) ∧
      timeLockActive w.state i.env.now = false
  · rw [Returns.commit_eq (a := ()) (emergencyUnpause_returns.2 ⟨ha.1, ha.2, rfl⟩)] at hs
    constructor
    · intro hp'
      have hoff := hp' _ le_rfl (h.now_eq ▸ hd)
      rw [hs, isContractPaused_put] at hoff
      cases hoff
    · intro hk
      have hlock := hk.unpause _ hc hd ha.1.1 ha.1.2
      rw [ha.2] at hlock
      cases hlock
  · rw [commit_eq_self fun u s' hr => ?_] at hs
    · refine ⟨fun _ => ⟨fun _ hc' _ hadm hauth => ?_, fun _ _ _ _ hc' => ?_⟩,
        fun _ => h.pausedUntil_same hp (by rw [hs])⟩ <;> rw [hc] at hc' <;> cases hc'
      exact by_contra fun hl => ha ⟨⟨hadm, hauth⟩, Bool.eq_false_of_not_eq_true hl⟩
    · obtain ⟨hadm, hlock, -⟩ := emergencyUnpause_returns.1 hr
      exact ha ⟨hadm, hlock⟩

/-- The step lemma: a step keeps a pause up to the deadline exactly if the admin does not undo it. -/
theorem Step.pausedUntil_iff (h : Step w i w') (hp : PausedUntil w deadline) :
    PausedUntil w' deadline ↔ KeepsPause deadline ⟨w, i, w'⟩ := by
  rcases le_or_gt deadline i.env.now with hd | hd
  · exact ⟨fun _ => ⟨fun _ _ hlt => absurd hlt (not_lt.2 hd),
      fun _ _ _ _ _ hlt => absurd hlt (not_lt.2 hd)⟩, fun _ => pausedUntil_of_le (h.now_eq ▸ hd)⟩
  · by_cases hk : Kind.emergencyPauseState ∈ i.call.writes
    · rcases call_of_writes_pause hk with ⟨_, _, _, _, hc⟩ | ⟨_, hc⟩
      · exact h.pausedUntil_pause hp hd hc
      · exact h.pausedUntil_unpause hp hd hc
    · refine ⟨fun _ => ⟨fun _ hc => ?_, fun _ _ _ _ hc => ?_⟩,
        fun _ => h.pausedUntil_same hp (h.frame hk)⟩ <;>
        exact absurd (by change i.call = _ at hc; rw [hc]; exact .head _) hk

end

/-! ## Runs -/

theorem Locks.pausedUntil {ev : Ev me} {t d deadline : ℕ} (h : Locks ev t d) :
    PausedUntil ev.post deadline := by
  obtain ⟨admin, reason, hc⟩ := h.call
  have hr := h.done
  rw [Succeeds, hc] at hr
  obtain ⟨-, state, hs, hon, hauto⟩ := emergencyPause_returns (completes_lift.1 hr).1
  intro u _ _
  rw [hs, isContractPaused_put, EmergencyPauseState.inEffect, hon, hauto]
  rfl

/-- **A pause with a time lock lasts through its window exactly if each unpausing call of the admin
    in the window finds the recorded time lock active, and each pausing call sets no automatic end
    within the window.** -/
theorem timeLock_iff {w₀ w : World} {tr₀ tr : List (Ev me)} {ev : Ev me} {t d : ℕ}
    (h : Run Step w₀ (tr₀ ++ ev :: tr) w) (hl : Locks ev t d) :
    (PausedUntil w (t + d) ∧ ∀ e ∈ tr, PausedUntil e.pre (t + d)) ↔
      ∀ e ∈ tr, KeepsPause (t + d) e := by
  rw [← along_iff_forall, ← along_iff_forall]
  exact Run.always_iff (P := fun _ w => PausedUntil w (t + d))
    (C := fun _ e => KeepsPause (t + d) e) (fun _ _ _ hs hp => hs.pausedUntil_iff hp)
    h.split.2.2 hl.pausedUntil

/-- An admin who tries to unpause within the window is refused. -/
theorem timeLock_iff_refused :
    PausedUntil (next (next (next start (hubCall 1 (.setAdmin ⟨1⟩)))
      (hubCall 100 (.emergencyPause ⟨1⟩ none none (some 1000))))
      (hubCall 200 (.emergencyUnpause ⟨1⟩))) 1100 := by
  have hrun : Run Step start ([_] ++ _ :: [_]) _ :=
    run_calls [hubCall 1 (.setAdmin ⟨1⟩), hubCall 100 (.emergencyPause ⟨1⟩ none none (some 1000)),
      hubCall 200 (.emergencyUnpause ⟨1⟩)] (by decide)
  refine ((timeLock_iff hrun (t := 100) (d := 1000)
    ⟨⟨⟨1⟩, none, rfl⟩, rfl, succeeds_next (by decide)⟩).2 fun e he => ?_).1
  rw [List.mem_singleton.1 he]
  exact ⟨fun _ hc _ _ _ => by cases hc; decide, fun _ _ _ _ hc => by cases hc⟩

/-- The admin gets rid of the time lock by a second pause without one. -/
theorem timeLock_evaded : ¬ ∀ (tr₀ tr : List (Ev ⟨0⟩)) (ev : Ev ⟨0⟩) (w : World) (t d : ℕ),
    Run Step start (tr₀ ++ ev :: tr) w → Locks ev t d → PausedUntil w (t + d) := by
  intro h
  have hrun : Run Step start ([_] ++ _ :: [_, _]) _ :=
    run_calls [hubCall 1 (.setAdmin ⟨1⟩), hubCall 100 (.emergencyPause ⟨1⟩ none none (some 1000)),
      hubCall 101 (.emergencyPause ⟨1⟩ none none none), hubCall 102 (.emergencyUnpause ⟨1⟩)]
      (by decide)
  have hp := h _ _ _ _ 100 1000 hrun ⟨⟨⟨1⟩, none, rfl⟩, rfl, succeeds_next (by decide)⟩ 102
    (by decide) (by decide)
  exact absurd hp (by decide)

end ManageHub
