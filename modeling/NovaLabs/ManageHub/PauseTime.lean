/-
  The time that subscribers have, over whole runs: a pause does not add to the time that remains,
  and the time spent active is at most the time that was bought.
-/
import NovaLabs.ManageHub.PauseLedger

namespace ManageHub

open Lib Soroban

variable {me : Address}

/-! ## One pause -/

/-- The subscription that the call pauses. -/
def Call.pauses : Call → Option String
  | .pauseSubscription id _ | .pauseSubscriptionAdmin id _ _ => some id
  | _ => none

/-- The subscription that the call resumes, and whether as the admin. -/
def Call.resumes : Call → Option (String × Bool)
  | .resumeSubscription id => some (id, false)
  | .resumeSubscriptionAdmin id _ => some (id, true)
  | _ => none

/-- The call goes through, and pauses the subscription. -/
def Pauses (id : String) (ev : Ev me) : Prop :=
  ev.inp.ok ev.pre = true ∧ ev.inp.call.pauses = some id

/-- The call goes through, and resumes the subscription. -/
def Resumes (id : String) (isAdmin : Bool) (ev : Ev me) : Prop :=
  ev.inp.ok ev.pre = true ∧ ev.inp.call.resumes = some (id, isAdmin)

/-- The subscription is paused, since a time, with an expiry. -/
def State.PausedSince (s : State) (id : String) (pausedAt expiresAt : ℕ) : Prop :=
  ∃ subscription, s.get (.subscription id) = some subscription ∧
    subscription.status = .paused ∧ subscription.pausedAt = some pausedAt ∧
      subscription.expiresAt = expiresAt

section
variable {s : State} {id : String} {isAdmin : Bool} {subscription : Subscription} {w w' : World}
  {i : Input me} {pausedAt expiresAt : ℕ}

theorem Step.pauses (h : Step w i w') (hp : Pauses id ⟨w, i, w'⟩) :
    ∃ subscription, w.state.get (.subscription id) = some subscription ∧
      w'.state.PausedSince id i.env.now subscription.expiresAt := by
  obtain ⟨hok, hc⟩ := hp
  have hstore (subscription : Subscription) (actor : Address) (isAdmin : Bool)
      (reason : Option String)
      (hr : Returns (pauseSubscriptionInternal i.env id subscription actor isAdmin reason) w.state ()
        w'.state) : w'.state.PausedSince id i.env.now subscription.expiresAt := by
    obtain ⟨-, hp⟩ := pauseSubscriptionInternal_returns.1 hr
    exact ⟨subscription.pausedBy i.env.now actor isAdmin reason,
      by rw [hp, logged_get (by simp) (by simp), get_put_self], rfl, rfl, rfl⟩
  cases hcall : i.call with
  | pauseSubscription id' reason =>
    rw [hcall] at hc
    cases hc
    obtain ⟨subscription, ⟨hs, -⟩, hr⟩ :=
      pauseSubscription_returns.1 ((h.ok_iff_returns (by rw [hcall]; rfl)).1 hok)
    exact ⟨subscription, hs, hstore _ _ _ _ hr⟩
  | pauseSubscriptionAdmin id' admin reason =>
    rw [hcall] at hc
    cases hc
    obtain ⟨-, subscription, hs, hr⟩ :=
      pauseSubscriptionAdmin_returns.1 ((h.ok_iff_returns (by rw [hcall]; rfl)).1 hok)
    exact ⟨subscription, hs, hstore _ _ _ _ hr⟩
  | _ =>
    rw [hcall] at hc
    cases hc

/-- A resumption moves the expiry by the length of the pause; for users, up to the maximum. -/
theorem Step.resumes (h : Step w i w') (hr : Resumes id isAdmin ⟨w, i, w'⟩)
    (hp : w.state.PausedSince id pausedAt expiresAt) : pausedAt ≤ i.env.now ∧
      ∃ subscription, w'.state.get (.subscription id) = some subscription ∧
        subscription.status = .active ∧
        subscription.expiresAt = expiresAt + if isAdmin then i.env.now - pausedAt
          else min (i.env.now - pausedAt) w.state.pauseConfig.maxPauseDuration := by
  obtain ⟨hok, hc⟩ := hr
  obtain ⟨paused, hs, -, hat, rfl⟩ := hp
  have hstore (actor : Address) (isAdmin : Bool)
      (hr : Returns (resumeSubscriptionInternal i.env id paused actor isAdmin) w.state ()
        w'.state) : pausedAt ≤ i.env.now ∧
      ∃ subscription, w'.state.get (.subscription id) = some subscription ∧
        subscription.status = .active ∧
        subscription.expiresAt = paused.expiresAt + if isAdmin then i.env.now - pausedAt
          else min (i.env.now - pausedAt) w.state.pauseConfig.maxPauseDuration := by
    obtain ⟨duration, extension, expiresAt, total, hres, hp⟩ :=
      resumeSubscriptionInternal_returns.1 hr
    obtain ⟨pausedAt', hat', hd⟩ := hres.since
    rw [hat] at hat'
    cases hat'
    obtain ⟨hle, hd⟩ : pausedAt ≤ i.env.now ∧ i.env.now - pausedAt = duration := by
      unfold checkedSubNat at hd
      split_ifs at hd with hle
      exact ⟨hle, Option.some.inj hd⟩
    refine ⟨hle, _, by rw [hp, logged_get (by simp) (by simp), get_put_self], rfl, ?_⟩
    rw [hd, ← hres.capped]
    exact (checkedAdd64_eq_some.1 hres.expiry).2
  cases hcall : i.call with
  | resumeSubscription id' =>
    rw [hcall] at hc
    cases hc
    obtain ⟨subscription, ⟨hs', -⟩, hr⟩ :=
      resumeSubscription_returns.1 ((h.ok_iff_returns (by rw [hcall]; rfl)).1 hok)
    rw [hs] at hs'
    cases hs'
    exact hstore _ _ hr
  | resumeSubscriptionAdmin id' admin =>
    rw [hcall] at hc
    cases hc
    obtain ⟨-, subscription, hs', hr⟩ :=
      resumeSubscriptionAdmin_returns.1 ((h.ok_iff_returns (by rw [hcall]; rfl)).1 hok)
    rw [hs] at hs'
    cases hs'
    exact hstore _ _ hr
  | _ =>
    rw [hcall] at hc
    cases hc

/-- A subscription that stays paused keeps the time of the pause and its expiry. -/
theorem SubscriptionChange.pausedSince {env : HubEnv me} {sets : Prop}
    {o o' : Option Subscription} (h : SubscriptionChange env s id sets o o')
    (hp : ∃ subscription, o = some subscription ∧ subscription.status = .paused ∧
      subscription.pausedAt = some pausedAt ∧ subscription.expiresAt = expiresAt)
    (hp' : ∃ subscription, o' = some subscription ∧ subscription.status = .paused) :
    ∃ subscription, o' = some subscription ∧ subscription.status = .paused ∧
      subscription.pausedAt = some pausedAt ∧ subscription.expiresAt = expiresAt := by
  obtain ⟨subscription, rfl, hst, hat, he⟩ := hp
  obtain ⟨subscription', rfl, hst'⟩ := hp'
  generalize ho : some subscription = o at h
  generalize ho' : some subscription' = o' at h
  cases h with
  | same =>
    cases ho
    cases ho'
    exact ⟨subscription, rfl, hst, hat, he⟩
  | create => cases ho
  | renew | cancel | resume =>
    cases ho'
    cases hst'
  | pause _ _ _ hpa =>
    cases ho
    rw [hpa.active.1] at hst
    cases hst
  | changeTier =>
    cases ho
    cases ho'
    exact ⟨_, rfl, hst, hat, he⟩

/-- While a subscription stays paused, the time of the pause and its expiry stay as they are. -/
theorem pausedSince_of_run {tr : List (Ev me)} (h : Run Step w tr w')
    (hp : w.state.PausedSince id pausedAt expiresAt)
    (hall : ∀ ev ∈ tr, ∃ subscription, ev.post.state.get (.subscription id) = some subscription ∧
      subscription.status = .paused) :
    w'.state.PausedSince id pausedAt expiresAt :=
  h.invariant (P := fun w => w.state.PausedSince id pausedAt expiresAt)
    (fun _ hp hs hpaused => (hs.subscriptionChange id).pausedSince hp hpaused) hp hall

end

/-- The time that remains at the resumption `er` of the pause `ep` is at most what remained at the
    pause, and the same if the admin resumes or the pause is within the limit. -/
def RemainsAtMost (id : String) (isAdmin : Bool) (ep er : Ev me) : Prop :=
  ∃ paused resumed : Subscription, ep.pre.state.get (.subscription id) = some paused ∧
    er.post.state.get (.subscription id) = some resumed ∧
    (resumed.expiresAt - er.inp.env.now : ℤ) ≤ paused.expiresAt - ep.inp.env.now ∧
    (isAdmin = true ∨
        er.inp.env.now - ep.inp.env.now ≤ er.pre.state.pauseConfig.maxPauseDuration →
      (resumed.expiresAt - er.inp.env.now : ℤ) = paused.expiresAt - ep.inp.env.now)

theorem remainsAtMost_of_run {w w' : World} {tr : List (Ev me)} {ep er : Ev me} {id : String}
    {isAdmin : Bool} (h : Run Step w (ep :: tr ++ [er]) w') (hp : Pauses id ep)
    (hr : Resumes id isAdmin er)
    (hall : ∀ ev ∈ tr, ∃ subscription, ev.post.state.get (.subscription id) = some subscription ∧
      subscription.status = .paused) : RemainsAtMost id isAdmin ep er := by
  have hcut : Run Step w ([] ++ ep :: (tr ++ [er])) w' := h
  obtain ⟨-, hstep, hrest⟩ := hcut.split
  obtain ⟨hrun, hstep', -⟩ := hrest.split
  obtain ⟨paused, hs, hsince⟩ := hstep.pauses hp
  obtain ⟨hle, resumed, hs', -, he⟩ := hstep'.resumes hr (pausedSince_of_run hrun hsince hall)
  refine ⟨paused, resumed, hs, hs', ?_, fun hcond => ?_⟩
  · rw [he]
    split_ifs <;> omega
  · rw [he]
    split_ifs with hadmin
    · omega
    · have hlimit := hcond.resolve_left hadmin
      omega

/-! ## The time spent active -/

/-- The time between `now` and `t` in which the subscription is active and has not expired. -/
def Subscription.activeFor (subscription : Subscription) (now t : ℕ) : ℕ :=
  if subscription.status = .active then min t subscription.expiresAt - now else 0

/-- The time from the world's until `t` in which the subscription is active and has not expired. -/
def activeBetween (id : String) (w : World) (t : ℕ) : ℕ :=
  (w.state.get (.subscription id)).elim 0 (·.activeFor w.now t)

/-- The time in which the subscription is active and has not expired, over the calls of a run. -/
def activeTime (id : String) (tr : List (Ev me)) : ℕ :=
  (tr.map fun ev => activeBetween id ev.pre ev.inp.env.now).sum

/-- The time that the subscription may yet be active, without a renewal. -/
def Subscription.timeLeft (subscription : Subscription) (now : ℕ) : ℕ :=
  if subscription.status = .active then subscription.expiresAt - now
  else if subscription.status = .paused then
    subscription.pausedAt.elim 0 (subscription.expiresAt - ·)
  else 0

def timeLeft (id : String) (w : World) : ℕ :=
  (w.state.get (.subscription id)).elim 0 (·.timeLeft w.now)

/-- The subscription that the call creates, and the time that is bought. -/
def Call.purchases : Call → Option (String × ℕ)
  | .createSubscription id _ _ _ duration => some (id, duration)
  | .createSubscriptionWithTier id _ _ _ cycle _ => some (id, cycle.duration)
  | _ => none

/-- The call goes through, and creates the subscription for the time. -/
def Purchases (id : String) (duration : ℕ) (ev : Ev me) : Prop :=
  ev.inp.ok ev.pre = true ∧ ev.inp.call.purchases = some (id, duration)

section
variable {id : String} {w w' : World} {i : Input me} {tr : List (Ev me)}

/-- Time that passes is taken off the time left while the subscription is active. -/
theorem Subscription.activeFor_add_le (subscription : Subscription) {now t : ℕ} (h : now ≤ t) :
    subscription.activeFor now t + subscription.timeLeft t ≤ subscription.timeLeft now := by
  unfold Subscription.activeFor Subscription.timeLeft
  split_ifs <;> omega

theorem activeBetween_le (t : ℕ) : activeBetween id w t ≤ timeLeft id w := by
  unfold activeBetween timeLeft
  cases w.state.get (.subscription id) with
  | none => exact Nat.zero_le _
  | some subscription =>
    rw [Option.elim_some, Option.elim_some, Subscription.activeFor, Subscription.timeLeft]
    split_ifs <;> omega

/-- No call that leaves the expiry to the pauses adds to the time left, and the time spent active is
    taken off it. -/
theorem SubscriptionChange.spends {env : HubEnv me} {s : State} {sets : Prop} {now : ℕ}
    {o o' : Option Subscription} (h : SubscriptionChange env s id sets o o') (hn : ¬ sets)
    (hnow : now ≤ env.now) :
    o.elim 0 (·.activeFor now env.now) + o'.elim 0 (·.timeLeft env.now) ≤
      o.elim 0 (·.timeLeft now) := by
  cases h with
  | @same o =>
    cases o with
    | none => exact Nat.zero_le _
    | some subscription => exact subscription.activeFor_add_le hnow
  | create hsets => exact absurd hsets hn
  | renew _ _ hsets => exact absurd hsets hn
  | @cancel subscription =>
    exact (Nat.le_add_right _ _).trans (subscription.activeFor_add_le hnow)
  | @pause subscription _ _ _ _ hp =>
    -- the time of the pause is now
    have hle := subscription.activeFor_add_le hnow
    rw [Subscription.timeLeft, if_pos hp.active.1] at hle
    exact hle
  | @resume subscription isAdmin duration extension expiresAt total _ _ hr =>
    obtain ⟨pausedAt, hat, hd⟩ := hr.since
    obtain ⟨-, rfl⟩ := checkedAdd64_eq_some.1 hr.expiry
    have hne : subscription.status ≠ .active := by rw [hr.paused]; decide
    have hle : extension ≤ duration := by
      rw [hr.capped]
      split_ifs
      · exact le_rfl
      · exact min_le_left _ _
    have hsub : pausedAt ≤ env.now ∧ env.now - pausedAt = duration := by
      unfold checkedSubNat at hd
      split_ifs at hd with hge
      exact ⟨hge, Option.some.inj hd⟩
    rw [Option.elim_some, Option.elim_some, Option.elim_some, Subscription.activeFor,
      Subscription.timeLeft, Subscription.timeLeft, if_neg hne, if_neg hne, if_pos hr.paused, hat]
    simp only [Subscription.resumedBy, if_true, Option.elim_some]
    omega
  | @changeTier subscription => exact subscription.activeFor_add_le hnow

theorem activeTime_le (h : Run Step w tr w') (hn : ∀ ev ∈ tr, ¬ SetsExpiry id ev) :
    activeTime id tr + timeLeft id w' ≤ timeLeft id w := by
  induction h with
  | nil => exact (Nat.zero_add _).le
  | @snoc tr w₁ i w₂ _ hs ih =>
    have hstep := (hs.subscriptionChange id).spends (hn ⟨w₁, i, w₂⟩ (by simp)) hs.clock
    rw [← hs.now_eq] at hstep
    have hle := ih fun ev hev => hn ev (by simp [hev])
    have hsum : activeTime id (tr ++ [⟨w₁, i, w₂⟩]) =
        activeTime id tr + activeBetween id w₁ i.env.now := by simp [activeTime]
    rw [hsum, ← hs.now_eq]
    exact (Nat.add_assoc _ _ _).le.trans ((Nat.add_le_add_left hstep _).trans hle)

theorem newSubscription_timeLeft {env : HubEnv me} {user paymentToken : Address} {amount : ℤ}
    {duration : ℕ} {tierId : String} {cycle : BillingCycle} :
    (newSubscription env id user paymentToken amount (env.now + duration) tierId cycle).timeLeft
      env.now = duration := by
  rw [Subscription.timeLeft, newSubscription, if_pos rfl, Nat.add_sub_cancel_left]

/-- A subscription that is created may be active for the time that is bought. -/
theorem Step.purchases {duration : ℕ} (h : Step w i w') (hp : Purchases id duration ⟨w, i, w'⟩) :
    ManageHub.timeLeft id w' = duration := by
  obtain ⟨hok, hc⟩ := hp
  rw [ManageHub.timeLeft, h.now_eq]
  cases hcall : i.call with
  | createSubscription id' user paymentToken amount duration' =>
    rw [hcall] at hc
    cases hc
    obtain ⟨expiresAt, hcr, hp⟩ :=
      createSubscription_returns.1 ((h.ok_iff_returns (by rw [hcall]; rfl)).1 hok)
    have he := (checkedAdd64_eq_some.1 hcr.expiry).2
    rw [hp, logged_get (by simp) (by simp), get_put_self, he]
    exact newSubscription_timeLeft
  | createSubscriptionWithTier id' user paymentToken tierId cycle promoCode =>
    rw [hcall] at hc
    cases hc
    obtain ⟨s₁, tier, price, expiresAt, hcr, hp⟩ :=
      createSubscriptionWithTier_returns.1 ((h.ok_iff_returns (by rw [hcall]; rfl)).1 hok)
    have he := (checkedAdd64_eq_some.1 hcr.expiry).2
    rw [hp, logged_get (by simp) (by simp), State.subscribed, get_put_ne (by simp), get_put_self, he]
    exact newSubscription_timeLeft
  | _ =>
    rw [hcall] at hc
    cases hc

end

/-! ## The law -/

/-- **A pause does not add to the time that remains, and takes none off if the admin resumes, or
    within the limit; and a subscription that is not renewed is active for at most the time that was
    bought.** -/
theorem pausing_creates_no_time {w₀ w : World} {tr : List (Ev me)} (h : Run Step w₀ tr w) :
    (∀ tr₁ ep tr₂ er tr₃ id isAdmin, tr = tr₁ ++ ep :: tr₂ ++ er :: tr₃ → Pauses id ep →
      Resumes id isAdmin er →
      (∀ ev ∈ tr₂, ∃ subscription, ev.post.state.get (.subscription id) = some subscription ∧
        subscription.status = .paused) → RemainsAtMost id isAdmin ep er) ∧
    ∀ tr₁ ec tr₂ id duration t, tr = tr₁ ++ ec :: tr₂ → Purchases id duration ec →
      (∀ ev ∈ tr₂, ¬ SetsExpiry id ev) →
      activeTime id tr₂ + activeBetween id w t ≤ duration := by
  constructor
  · rintro tr₁ ep tr₂ er tr₃ id isAdmin rfl hp hr hall
    have hcut : tr₁ ++ ep :: tr₂ ++ er :: tr₃ = tr₁ ++ ep :: (tr₂ ++ er :: tr₃) := by simp
    rw [hcut] at h
    obtain ⟨-, hstep, hrest⟩ := h.split
    exact remainsAtMost_of_run (.cons hstep hrest.upTo) hp hr hall
  · rintro tr₁ ec tr₂ id duration t rfl hp hn
    obtain ⟨-, hstep, hrest⟩ := h.split
    have hle := activeTime_le hrest hn
    rw [hstep.purchases hp] at hle
    exact (Nat.add_le_add_left (activeBetween_le t) _).trans hle

/-- The pause of `resumeCalls`, and the subscription that it is bought for 1000000 seconds. -/
theorem pausing_creates_no_time_resumed :
    RemainsAtMost "a" false
      ⟨(resumeCalls.take 2).foldl next start, hubCall 172800 (.pauseSubscription "a" none),
        (resumeCalls.take 3).foldl next start⟩
      ⟨(resumeCalls.take 3).foldl next start, hubCall 180000 (.resumeSubscription "a"),
        resumeCalls.foldl next start⟩ ∧
    activeTime "a" ((eventsFrom next start resumeCalls).drop 2) +
      activeBetween "a" (resumeCalls.foldl next start) 2000000 ≤ 1000000 := by
  have hlaw := pausing_creates_no_time (run_calls (w := start) resumeCalls (by decide))
  exact ⟨hlaw.1 ((eventsFrom next start resumeCalls).take 2) _ [] _ [] "a" false rfl
      ⟨by decide, rfl⟩ ⟨by decide, rfl⟩ (by rintro _ ⟨⟩),
    hlaw.2 ((eventsFrom next start resumeCalls).take 1) _ _ "a" 1000000 2000000 rfl
      ⟨by decide, rfl⟩ (by unfold SetsExpiry; decide)⟩

end ManageHub
