/-
  The pause history of a subscription as a ledger, over whole runs: its count of pauses, its time
  paused and its expiry are what the entries add up to.
-/
import NovaLabs.ManageHub.SubscriptionChanges

namespace ManageHub

open Lib Soroban

variable {me : Address}

/-! ## Sums over a history -/

/-- The entries for pauses. -/
def pauses (history : List PauseHistoryEntry) : ℕ := history.countP (·.action = .pause)

/-- The entries for pauses by the user. -/
def userPauses (history : List PauseHistoryEntry) : ℕ :=
  history.countP fun entry => entry.action = .pause ∧ entry.isAdmin = false

/-- The time paused, over the entries for resumptions. -/
def timePaused (history : List PauseHistoryEntry) : ℕ :=
  ((history.filter (·.action = .resume)).map fun entry => entry.pausedDuration.getD 0).sum

/-- The extensions of the expiry, over the entries for resumptions. -/
def extensions (history : List PauseHistoryEntry) : ℕ :=
  ((history.filter (·.action = .resume)).map fun entry => entry.appliedExtension.getD 0).sum

section
variable {history history' : List PauseHistoryEntry}

theorem userPauses_le : userPauses history ≤ pauses history :=
  List.countP_mono_left fun entry _ h => by simp_all

@[simp] theorem pauses_append : pauses (history ++ history') = pauses history + pauses history' :=
  List.countP_append

@[simp] theorem userPauses_append :
    userPauses (history ++ history') = userPauses history + userPauses history' :=
  List.countP_append

@[simp] theorem timePaused_append :
    timePaused (history ++ history') = timePaused history + timePaused history' := by
  simp [timePaused]

@[simp] theorem extensions_append :
    extensions (history ++ history') = extensions history + extensions history' := by
  simp [extensions]

end

/-! ## The law -/

/-- The record adds up to its history: it has a time of pause exactly while it is paused, and counts
    its pauses, up to `u32::MAX`, and its time paused. -/
structure Subscription.Balanced (subscription : Subscription) : Prop where
  paused : subscription.status = .paused ↔ subscription.pausedAt.isSome = true
  count : subscription.pauseCount = min (pauses subscription.pauseHistory) (2 ^ 32 - 1)
  time : subscription.totalPausedDuration = timePaused subscription.pauseHistory

/-- The limits on pauses have not been changed while the subscription was stored. -/
def PauseConfigKept (id : String) (tr : List (Ev me)) : Prop :=
  ∀ ev ∈ tr, (ev.pre.state.get (.subscription id)).isSome →
    ev.post.state.pauseConfig = ev.pre.state.pauseConfig

/-- The last call that set the expiry of the subscription left it as `subscription`. -/
def LastSetAs (id : String) (subscription : Subscription) (tr : List (Ev me)) : Prop :=
  Since (fun ev => SetsExpiry id ev ∧ ev.post.state.get (.subscription id) = some subscription)
    (fun ev => ¬ SetsExpiry id ev) tr

/-- The expiry is the one that was set last, extended by the resumptions since. -/
def ExpiryAccounted (id : String) (tr : List (Ev me)) (subscription : Subscription) : Prop :=
  ∃ subscription₀ history, LastSetAs id subscription₀ tr ∧
    subscription.pauseHistory = subscription₀.pauseHistory ++ history ∧
    subscription.expiresAt = subscription₀.expiresAt + extensions history

/-! ## Steps -/

section
variable {env : HubEnv me} {s : State} {id : String} {sets : Prop}
  {o : Option Subscription} {subscription subscription' : Subscription} {w w' : World}
  {i : Input me} {tr : List (Ev me)}

theorem SubscriptionChange.balanced (h : SubscriptionChange env s id sets o (some subscription'))
    (hb : ∀ subscription, o = some subscription → subscription.Balanced) :
    subscription'.Balanced := by
  generalize ho : some subscription' = o' at h
  cases h with
  | same => exact hb _ ho.symm
  | create =>
    cases ho
    exact ⟨by simp [newSubscription], rfl, rfl⟩
  | @renew subscription expiresAt amount _ hs =>
    cases ho
    obtain ⟨hp, hc, ht⟩ := hb subscription rfl
    have hn : subscription.pausedAt.isSome = false := by
      rw [← Bool.not_eq_true, ← hp]
      exact hs
    exact ⟨by simp [hn], hc, ht⟩
  | @cancel subscription =>
    cases ho
    obtain ⟨-, hc, ht⟩ := hb subscription rfl
    exact ⟨by simp, hc, ht⟩
  | @pause subscription =>
    cases ho
    obtain ⟨-, hc, ht⟩ := hb subscription rfl
    refine ⟨by simp [Subscription.pausedBy], ?_, ?_⟩
    · rw [Subscription.pausedBy, hc, saturatingAdd_min, pauses_append]
      rfl
    · rw [Subscription.pausedBy, ht, timePaused_append]
      rfl
  | @resume subscription _ duration extension _ _ _ _ hr =>
    cases ho
    obtain ⟨-, hc, ht⟩ := hb subscription rfl
    refine ⟨by simp [Subscription.resumedBy], ?_, ?_⟩
    · rw [Subscription.resumedBy, hc, pauses_append]
      rfl
    · rw [Subscription.resumedBy, timePaused_append, ← ht]
      exact (checkedAdd64_eq_some.1 hr.sum).2
  | @changeTier subscription =>
    cases ho
    obtain ⟨hp, hc, ht⟩ := hb subscription rfl
    exact ⟨hp, hc, ht⟩

/-- A pause by the user needs room under the limit, which is a `u32`. -/
theorem Pausable.userPauses_lt {now : ℕ} (h : Pausable s subscription now false)
    (hb : subscription.Balanced) (hm : s.pauseConfig.maxPauseCount < 2 ^ 32) :
    userPauses subscription.pauseHistory < s.pauseConfig.maxPauseCount := by
  have hlt := (h.limits rfl).1
  have hle := @userPauses_le subscription.pauseHistory
  rw [hb.count] at hlt
  omega

theorem SubscriptionChange.userPauses_le
    (h : SubscriptionChange env s id sets o (some subscription'))
    (hb : ∀ subscription, o = some subscription → subscription.Balanced)
    (hm : s.pauseConfig.maxPauseCount < 2 ^ 32)
    (hle : ∀ subscription, o = some subscription →
      userPauses subscription.pauseHistory ≤ s.pauseConfig.maxPauseCount) :
    userPauses subscription'.pauseHistory ≤ s.pauseConfig.maxPauseCount := by
  generalize ho : some subscription' = o' at h
  cases h with
  | same => exact hle _ ho.symm
  | create =>
    cases ho
    exact Nat.zero_le _
  | @pause subscription isAdmin _ _ _ hp =>
    cases ho
    rw [Subscription.pausedBy, userPauses_append]
    cases isAdmin with
    | false => exact hp.userPauses_lt (hb subscription rfl) hm
    | true => exact hle subscription rfl
  | @resume subscription =>
    cases ho
    rw [Subscription.resumedBy, userPauses_append]
    exact hle subscription rfl
  | @renew subscription | @cancel subscription | @changeTier subscription =>
    cases ho
    exact hle subscription rfl

/-- The expiry and the history after a call that does not set the expiry. -/
theorem SubscriptionChange.extends
    (h : SubscriptionChange env s id sets (some subscription) (some subscription'))
    (hn : ¬ sets) : ∃ history,
      subscription'.pauseHistory = subscription.pauseHistory ++ history ∧
        subscription'.expiresAt = subscription.expiresAt + extensions history := by
  generalize ho : some subscription = o at h
  generalize ho' : some subscription' = o' at h
  cases h with
  | same =>
    cases ho
    cases ho'
    exact ⟨[], (List.append_nil _).symm, rfl⟩
  | create => cases ho
  | renew _ _ hsets => exact absurd hsets hn
  | cancel =>
    cases ho
    cases ho'
    exact ⟨[], (List.append_nil _).symm, rfl⟩
  | pause =>
    cases ho
    cases ho'
    exact ⟨_, rfl, rfl⟩
  | resume _ _ hr =>
    cases ho
    cases ho'
    exact ⟨_, rfl, (checkedAdd64_eq_some.1 hr.expiry).2⟩
  | changeTier =>
    cases ho
    cases ho'
    exact ⟨[], (List.append_nil _).symm, rfl⟩

theorem Step.expiryAccounted (h : Step w i w')
    (hs' : w'.state.get (.subscription id) = some subscription')
    (ha : ∀ subscription, w.state.get (.subscription id) = some subscription →
      ExpiryAccounted id tr subscription) :
    ExpiryAccounted id (tr ++ [⟨w, i, w'⟩]) subscription' := by
  by_cases hsets : SetsExpiry id ⟨w, i, w'⟩
  · exact ⟨subscription', [], since_snoc.2 (Or.inl ⟨hsets, hs'⟩), (List.append_nil _).symm, rfl⟩
  · have hch := h.subscriptionChange id
    rw [hs'] at hch
    cases hs : w.state.get (.subscription id) with
    | none =>
      rw [hs] at hch
      cases hch with
      | create hset => exact absurd hset hsets
    | some subscription =>
      rw [hs] at hch
      obtain ⟨history₂, hh₂, he₂⟩ := hch.extends hsets
      obtain ⟨subscription₀, history₁, hset, hh₁, he₁⟩ := ha subscription hs
      refine ⟨subscription₀, history₁ ++ history₂, since_snoc.2 (Or.inr ⟨hset, hsets⟩), ?_, ?_⟩
      · rw [hh₂, hh₁, List.append_assoc]
      · rw [he₂, he₁, extensions_append, Nat.add_assoc]

end

/-! ## Runs -/

section
variable {w₀ w : World} {tr : List (Ev me)} {id : String} {subscription : Subscription}

theorem balanced_of_run (h : Run Step w₀ tr w) (h₀ : w₀.state = ∅)
    (hs : w.state.get (.subscription id) = some subscription) : subscription.Balanced := by
  refine h.invariant' (P := fun w => ∀ subscription,
    w.state.get (.subscription id) = some subscription → subscription.Balanced)
    (fun w i w' hb hstep subscription' hs' => ?_) (fun _ hs => ?_) subscription hs
  · have hch := hstep.subscriptionChange id
    rw [hs'] at hch
    exact hch.balanced hb
  · rw [h₀] at hs
    cases hs

theorem userPauses_of_run (h : Run Step w₀ tr w) (h₀ : w₀.state = ∅)
    (hs : w.state.get (.subscription id) = some subscription) (hk : PauseConfigKept id tr)
    (hm : w.state.pauseConfig.maxPauseCount < 2 ^ 32) :
    userPauses subscription.pauseHistory ≤ w.state.pauseConfig.maxPauseCount := by
  induction h generalizing subscription with
  | nil =>
    rw [h₀] at hs
    cases hs
  | @snoc tr w₁ i w₂ hr hstep ih =>
    have hch := hstep.subscriptionChange id
    rw [hs] at hch
    cases hs₁ : w₁.state.get (.subscription id) with
    | none =>
      rw [hs₁] at hch
      cases hch
      exact Nat.zero_le _
    | some subscription₁ =>
      have hsame : w₂.state.pauseConfig = w₁.state.pauseConfig :=
        hk ⟨w₁, i, w₂⟩ (by simp) (by rw [hs₁]; rfl)
      rw [hsame] at hm ⊢
      refine hch.userPauses_le (fun subscription h₁ => balanced_of_run hr h₀ h₁) hm fun _ h₁ => ?_
      exact ih h₁ (fun ev hev => hk ev (by simp [hev])) hm

theorem expiryAccounted_of_run (h : Run Step w₀ tr w) (h₀ : w₀.state = ∅)
    (hs : w.state.get (.subscription id) = some subscription) :
    ExpiryAccounted id tr subscription := by
  refine h.history (P := fun tr w => ∀ subscription,
    w.state.get (.subscription id) = some subscription → ExpiryAccounted id tr subscription)
    (fun tr w i w' ha hstep subscription' hs' => hstep.expiryAccounted hs' ha) (fun _ hs => ?_)
    subscription hs
  rw [h₀] at hs
  cases hs

/-- **Subscriptions add up to their pause histories: the status, the counts of pauses, the time
    paused, the limit on pauses by the user while it is not changed, and the expiry.** -/
theorem pause_ledger (h : Run Step w₀ tr w) (h₀ : w₀.state = ∅)
    (hs : w.state.get (.subscription id) = some subscription) :
    subscription.Balanced ∧
      (PauseConfigKept id tr → w.state.pauseConfig.maxPauseCount < 2 ^ 32 →
        userPauses subscription.pauseHistory ≤ w.state.pauseConfig.maxPauseCount) ∧
      ExpiryAccounted id tr subscription :=
  ⟨balanced_of_run h h₀ hs, userPauses_of_run h h₀ hs, expiryAccounted_of_run h h₀ hs⟩

end

/-- `⟨2⟩` pauses a subscription after 2 days, and resumes it. -/
def resumeCalls : List (Input ⟨0⟩) :=
  [hubCall 1 (.setUsdcContract ⟨1⟩ ⟨9⟩), hubCall 2 (.createSubscription "a" ⟨2⟩ ⟨9⟩ 100 1000000),
    hubCall 172800 (.pauseSubscription "a" none), hubCall 180000 (.resumeSubscription "a")]

/-- The subscription after the resumption, with one pause by its user. -/
theorem pause_ledger_resumed :
    ∃ subscription : Subscription,
      (resumeCalls.foldl next start).state.get (.subscription "a") = some subscription ∧
      subscription.Balanced ∧ userPauses subscription.pauseHistory ≤ 3 ∧
      ExpiryAccounted "a" (eventsFrom next start resumeCalls) subscription := by
  obtain ⟨subscription, hs⟩ := Option.isSome_iff_exists.1
    (show ((resumeCalls.foldl next start).state.get (.subscription "a")).isSome by decide)
  obtain ⟨hb, hu, he⟩ := pause_ledger (run_calls resumeCalls (by decide)) rfl hs
  exact ⟨subscription, hs, hb, hu (by unfold PauseConfigKept; decide) (by decide), he⟩

end ManageHub
