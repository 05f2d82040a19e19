/-
  What the subscription calls do: what they check, and the storage they leave.
-/
import NovaLabs.ManageHub.Interface

namespace ManageHub

open Lib Soroban

variable {me : Address}

/-! ## Attendance -/

/-- The log is kept under its id, and at the end of its user's list. -/
def State.logged (s : State) (log : AttendanceLog) : State :=
  (s.put (.attendanceLog log.id) log).put (.attendanceLogsByUser log.userId)
    ((s.get (.attendanceLogsByUser log.userId)).getD [] ++ [log])

/-- The log of an event of a subscription. -/
def eventLog (env : HubEnv me) (user : Address) (action subscriptionId : String) : AttendanceLog :=
  { id := generateEventId subscriptionId, userId := user
    action := if action = "subscription_created" then .clockIn else .clockOut
    timestamp := env.now, details := eventDetails action subscriptionId }

section
variable {env : HubEnv me} {s s' : State} {u : Unit} {id : TokenId} {user : Address}
  {action : AttendanceAction} {details : SortedMap String String}

theorem logged_get {log : AttendanceLog} {k : DataKey}
    (h : k ≠ .attendanceLog log.id) (h' : k ≠ .attendanceLogsByUser log.userId) :
    (s.logged log).get k = s.get k := by
  rw [State.logged, get_put_ne h', get_put_ne h]

theorem logAttendanceInternal_returns :
    Returns (logAttendanceInternal env id user action details) s u s' ↔
      details.len ≤ 50 ∧ s' = s.logged ⟨id, user, action, env.now, details⟩ := by
  simp only [logAttendanceInternal, returns_failIf_bind, returns_store_bind, returns_load_bind,
    returns_store, not_lt, gt_iff_lt, State.logged]
  rw [get_put_ne (by simp)]

theorem logAttendance_returns :
    Returns (logAttendance env id user action details) s u s' ↔
      user ∈ env.auths ∧ details.len ≤ 50 ∧ s' = s.logged ⟨id, user, action, env.now, details⟩ := by
  rw [logAttendance, returns_requireAuth_bind, logAttendanceInternal_returns]

theorem eventDetails_len (a b : String) : (eventDetails a b).len ≤ 50 := by
  have h₁ := SortedMap.len_set_le (∅ : SortedMap String String) "action" a
  have h₂ := SortedMap.len_set_le (SortedMap.set ∅ "action" a) "subscription_id" b
  have h₃ := SortedMap.len_set_le ((SortedMap.set ∅ "action" a).set "subscription_id" b) "amount"
    "amount_logged"
  have h₄ := SortedMap.len_set_le (((SortedMap.set ∅ "action" a).set "subscription_id" b).set
    "amount" "amount_logged") "timestamp" "event_time"
  have h₀ : (∅ : SortedMap String String).len = 0 := rfl
  unfold eventDetails
  omega

/-- Events of subscriptions are always logged. -/
theorem logSubscriptionEvent_returns {action subscriptionId : String} :
    Returns (logSubscriptionEvent env user action subscriptionId) s u s' ↔
      s' = s.logged (eventLog env user action subscriptionId) := by
  rw [logSubscriptionEvent, returns_mapErr, logAttendanceInternal_returns,
    and_iff_right (eventDetails_len _ _), eventLog]

end

/-! ## Payments and analytics -/

/-- The payment is accepted: it is positive, and in the configured token. -/
def ValidPayment (s : State) (paymentToken : Address) (amount : ℤ) : Prop :=
  0 < amount ∧ s.get .usdcContract = some paymentToken

/-- The analytics of a tier, from scratch where there are none. -/
def State.analyticsOf (s : State) (tierId : String) (now : ℕ) : TierAnalytics :=
  (s.get (.tierAnalytics tierId)).getD
    { tierId, activeSubscribers := 0, totalRevenue := 0, upgradesCount := 0, downgradesCount := 0
      churnRate := 0, updatedAt := now }

/-- One more subscriber, and the revenue, fit into the analytics. -/
def FitsAnalytics (s : State) (tierId : String) (amount : ℤ) (now : ℕ) : Prop :=
  (s.analyticsOf tierId now).activeSubscribers + 1 < 2 ^ 32 ∧
    -2 ^ 127 ≤ (s.analyticsOf tierId now).totalRevenue + amount ∧
    (s.analyticsOf tierId now).totalRevenue + amount < 2 ^ 127

/-- The analytics with one more subscriber. -/
def State.subscribed (s : State) (tierId : String) (amount : ℤ) (now : ℕ) : State :=
  s.put (.tierAnalytics tierId)
    { s.analyticsOf tierId now with
      activeSubscribers := (s.analyticsOf tierId now).activeSubscribers + 1
      totalRevenue := (s.analyticsOf tierId now).totalRevenue + amount
      updatedAt := now }

section
variable {env : HubEnv me} {s s' : State} {u : Unit} {paymentToken : Address} {amount : ℤ}
  {tierId : String}

theorem validatePayment_returns :
    Returns (validatePayment paymentToken amount) s u s' ↔
      ValidPayment s paymentToken amount ∧ s' = s := by
  simp only [validatePayment, getUsdcContractAddress, bind_assoc, returns_failIf_bind,
    returns_load_bind, returns_okOr_bind, returns_failIf, not_le, not_not, ValidPayment]
  constructor
  · rintro ⟨ha, token, ht, rfl, rfl⟩
    exact ⟨⟨ha, ht⟩, rfl⟩
  · rintro ⟨⟨ha, ht⟩, rfl⟩
    exact ⟨ha, paymentToken, ht, rfl, rfl⟩

theorem updateTierAnalyticsOnSubscribe_returns :
    Returns (updateTierAnalyticsOnSubscribe env tierId amount) s u s' ↔
      FitsAnalytics s tierId amount env.now ∧ s' = s.subscribed tierId amount env.now := by
  simp only [updateTierAnalyticsOnSubscribe, returns_load_bind, returns_checked_bind,
    returns_exactI128_bind, returns_store, FitsAnalytics, and_assoc]
  rfl

end

/-! ## Creation, cancellation and renewal -/

/-- A subscription without a tier may be created. -/
structure Creatable (env : HubEnv me) (s : State) (id : String) (user paymentToken : Address)
    (amount : ℤ) (duration expiresAt : ℕ) : Prop where
  authorised : user ∈ env.auths
  fresh : s.get (.subscription id) = none
  payment : ValidPayment s paymentToken amount
  expiry : checkedAdd64 env.now duration = some expiresAt

/-- A subscription with a tier may be created, at a price; a promotion is redeemed by `s₁`. -/
structure TierCreatable (env : HubEnv me) (s s₁ : State) (id : String)
    (user paymentToken : Address) (tierId : String) (cycle : BillingCycle)
    (promoCode : Option String) (tier : SubscriptionTier) (price : ℤ) (expiresAt : ℕ) : Prop where
  authorised : user ∈ env.auths
  fresh : s.get (.subscription id) = none
  onSale : s.get (.tier tierId) = some (.subscription tier) ∧ tier.isActive = true
  priced : Returns (promoCode.elim (pure (tier.priceOf cycle))
    (applyPromotion env tierId · (tier.priceOf cycle))) s price s₁
  payment : ValidPayment s₁ paymentToken price
  expiry : checkedAdd64 env.now cycle.duration = some expiresAt
  analytics : FitsAnalytics s₁ tierId price env.now

/-- A subscription that is not paused may be renewed. -/
structure Renewable (env : HubEnv me) (s : State) (id : String) (paymentToken : Address)
    (amount : ℤ) (duration : ℕ) (subscription : Subscription) (expiresAt : ℕ) : Prop where
  stored : s.get (.subscription id) = some subscription
  authorised : subscription.user ∈ env.auths
  running : subscription.status ≠ .paused
  payment : ValidPayment s paymentToken amount
  expiry : checkedAdd64 (max subscription.expiresAt env.now) duration = some expiresAt
  analytics : subscription.tierId ≠ "" → FitsAnalytics s subscription.tierId amount env.now

/-- The analytics with one more subscriber, of a tier with a name. -/
def State.renewed (s : State) (tierId : String) (amount : ℤ) (now : ℕ) : State :=
  if tierId = "" then s else s.subscribed tierId amount now

section
variable {env : HubEnv me} {s s' : State} {u : Unit} {id tierId : String}
  {user paymentToken : Address} {amount : ℤ} {duration : ℕ}

theorem getSubscription_returns {subscription : Subscription} :
    Returns (getSubscription id) s subscription s' ↔
      s.get (.subscription id) = some subscription ∧ s' = s := by
  simp only [getSubscription, returns_load_bind, returns_okOr]

theorem fitsAnalytics_congr {now : ℕ}
    (h : s'.get (.tierAnalytics tierId) = s.get (.tierAnalytics tierId)) :
    FitsAnalytics s' tierId amount now ↔ FitsAnalytics s tierId amount now := by
  rw [FitsAnalytics, State.analyticsOf, h, FitsAnalytics, State.analyticsOf]

theorem createSubscription_returns :
    Returns (createSubscription env id user paymentToken amount duration) s u s' ↔
      ∃ expiresAt, Creatable env s id user paymentToken amount duration expiresAt ∧
        s' = (s.put (.subscription id)
          (newSubscription env id user paymentToken amount expiresAt "" .monthly)).logged
            (eventLog env user "subscription_created" id) := by
  simp only [createSubscription, returns_requireAuth_bind, returns_load_bind, returns_failIf_bind,
    returns_bind_of_checks fun _ _ => validatePayment_returns, returns_okOr_bind,
    returns_store_bind, logSubscriptionEvent_returns, Option.not_isSome_iff_eq_none]
  constructor
  · rintro ⟨hauth, hn, hp, expiresAt, he, rfl⟩
    exact ⟨expiresAt, ⟨hauth, hn, hp, he⟩, rfl⟩
  · rintro ⟨expiresAt, ⟨hauth, hn, hp, he⟩, rfl⟩
    exact ⟨hauth, hn, hp, expiresAt, he, rfl⟩

theorem createSubscriptionWithTier_returns {cycle : BillingCycle} {promoCode : Option String} :
    Returns (createSubscriptionWithTier env id user paymentToken tierId cycle promoCode) s u s' ↔
      ∃ s₁ tier price expiresAt,
        TierCreatable env s s₁ id user paymentToken tierId cycle promoCode tier price expiresAt ∧
          s' = ((s₁.put (.subscription id)
            (newSubscription env id user paymentToken price expiresAt tierId cycle)).subscribed
              tierId price env.now).logged (eventLog env user "subscription_created" id) := by
  have hfit (t : State) (sub : Subscription) (price : ℤ) :
      FitsAnalytics (t.put (.subscription id) sub) tierId price env.now ↔
        FitsAnalytics t tierId price env.now := fitsAnalytics_congr (get_put_ne (by simp))
  have hlog {t t' : State} {v : Unit} (price : ℤ) :
      Returns (updateTierAnalyticsOnSubscribe env tierId price >>= fun _ =>
        logSubscriptionEvent env user "subscription_created" id) t v t' ↔
      FitsAnalytics t tierId price env.now ∧ t' = (t.subscribed tierId price env.now).logged
        (eventLog env user "subscription_created" id) := by
    simp only [returns_bind, updateTierAnalyticsOnSubscribe_returns, logSubscriptionEvent_returns]
    constructor
    · rintro ⟨_, _, ⟨hf, rfl⟩, rfl⟩
      exact ⟨hf, rfl⟩
    · rintro ⟨hf, rfl⟩
      exact ⟨(), _, ⟨hf, rfl⟩, rfl⟩
  simp only [createSubscriptionWithTier, returns_requireAuth_bind, returns_load_bind,
    returns_failIf_bind, returns_bind_of_reads fun _ _ => getTier_returns,
    Option.not_isSome_iff_eq_none, not_not]
  constructor
  · rintro ⟨hauth, hn, tier, ht, hact, h⟩
    obtain ⟨price, s₁, hpr, h⟩ := returns_bind.1 h
    simp only [returns_bind_of_checks fun _ _ => validatePayment_returns, returns_okOr_bind,
      returns_store_bind, hlog, hfit] at h
    obtain ⟨hp, expiresAt, he, hf, rfl⟩ := h
    exact ⟨s₁, tier, price, expiresAt, ⟨hauth, hn, ⟨ht, hact⟩, hpr, hp, he, hf⟩, rfl⟩
  · rintro ⟨s₁, tier, price, expiresAt, ⟨hauth, hn, ⟨ht, hact⟩, hpr, hp, he, hf⟩, rfl⟩
    refine ⟨hauth, hn, tier, ht, hact, returns_bind.2 ⟨price, s₁, hpr, ?_⟩⟩
    simp only [returns_bind_of_checks fun _ _ => validatePayment_returns, returns_okOr_bind,
      returns_store_bind, hlog, hfit]
    exact ⟨hp, expiresAt, he, hf, rfl⟩

theorem cancelSubscription_returns :
    Returns (cancelSubscription env id) s u s' ↔ ∃ subscription,
      (s.get (.subscription id) = some subscription ∧ subscription.user ∈ env.auths) ∧
        s' = s.put (.subscription id)
          { subscription with
            status := .inactive
            pausedAt := none } := by
  simp only [cancelSubscription, returns_bind_of_reads fun _ _ => getSubscription_returns,
    returns_requireAuth_bind, returns_store, and_assoc]

theorem renewSubscription_returns :
    Returns (renewSubscription env id paymentToken amount duration) s u s' ↔
      ∃ subscription expiresAt,
        Renewable env s id paymentToken amount duration subscription expiresAt ∧
          s' = ((s.put (.subscription id)
            { subscription with
              expiresAt
              status := .active
              amount }).renewed subscription.tierId amount env.now).logged
                (eventLog env subscription.user "subscription_renewed" id) := by
  have hrenew {t t' : State} {v : Unit} (subscription : Subscription) :
      Returns (runIf (subscription.tierId ≠ "")
          (updateTierAnalyticsOnSubscribe env subscription.tierId amount) >>= fun _ =>
        logSubscriptionEvent env subscription.user "subscription_renewed" id) t v t' ↔
      (subscription.tierId ≠ "" → FitsAnalytics t subscription.tierId amount env.now) ∧
        t' = (t.renewed subscription.tierId amount env.now).logged
          (eventLog env subscription.user "subscription_renewed" id) := by
    simp only [returns_bind, returns_runIf, updateTierAnalyticsOnSubscribe_returns,
      logSubscriptionEvent_returns, State.renewed]
    by_cases he : subscription.tierId = "" <;> simp [he]
  have hfit (subscription : Subscription) (t : String) :
      FitsAnalytics (s.put (.subscription id) subscription) t amount env.now ↔
        FitsAnalytics s t amount env.now := fitsAnalytics_congr (get_put_ne (by simp))
  simp only [renewSubscription, returns_bind_of_reads fun _ _ => getSubscription_returns,
    returns_requireAuth_bind, returns_failIf_bind,
    returns_bind_of_checks fun _ _ => validatePayment_returns, returns_okOr_bind,
    returns_store_bind, hrenew, hfit]
  constructor
  · rintro ⟨subscription, hs, hauth, hr, hp, expiresAt, he, hf, rfl⟩
    exact ⟨subscription, expiresAt, ⟨hs, hauth, hr, hp, he, hf⟩, rfl⟩
  · rintro ⟨subscription, expiresAt, ⟨hs, hauth, hr, hp, he, hf⟩, rfl⟩
    exact ⟨subscription, hs, hauth, hr, hp, expiresAt, he, hf, rfl⟩

end

/-! ## Pauses -/

def Subscription.pausedBy (subscription : Subscription) (now : ℕ) (actor : Address)
    (isAdmin : Bool) (reason : Option String) : Subscription :=
  { subscription with
    status := .paused
    pausedAt := some now
    pauseCount := saturatingAdd 32 subscription.pauseCount 1
    pauseHistory := subscription.pauseHistory ++
      [{ action := .pause, timestamp := now, actor, isAdmin, reason, pausedDuration := none
         appliedExtension := none }] }

def Subscription.resumedBy (subscription : Subscription) (now : ℕ) (actor : Address)
    (isAdmin : Bool) (expiresAt totalPausedDuration pausedDuration appliedExtension : ℕ) :
    Subscription :=
  { subscription with
    expiresAt
    status := .active
    pausedAt := none
    lastResumedAt := now
    totalPausedDuration
    pauseHistory := subscription.pauseHistory ++
      [{ action := .resume, timestamp := now, actor, isAdmin, reason := none
         pausedDuration := some pausedDuration, appliedExtension := some appliedExtension }] }

/-- The limits on pauses. -/
def State.pauseConfig (s : State) : PauseConfig :=
  (s.get .pauseConfig).getD
    { maxPauseDuration := 2592000, maxPauseCount := 3, minActiveTime := 86400 }

/-- An active subscription may be paused, by its user within the limits. -/
structure Pausable (s : State) (subscription : Subscription) (now : ℕ) (isAdmin : Bool) :
    Prop where
  active : subscription.status = .active ∧ now < subscription.expiresAt
  limits : isAdmin = false → subscription.pauseCount < s.pauseConfig.maxPauseCount ∧
    s.pauseConfig.minActiveTime ≤ now - subscription.lastResumedAt

/-- A paused subscription may be resumed, after `duration`; the expiry moves by `extension`. -/
structure Resumable (s : State) (subscription : Subscription) (now : ℕ) (isAdmin : Bool)
    (duration extension expiresAt total : ℕ) : Prop where
  paused : subscription.status = .paused
  since : ∃ pausedAt, subscription.pausedAt = some pausedAt ∧
    checkedSubNat now pausedAt = some duration
  capped : extension = if isAdmin then duration else min duration s.pauseConfig.maxPauseDuration
  expiry : checkedAdd64 subscription.expiresAt extension = some expiresAt
  sum : checkedAdd64 subscription.totalPausedDuration duration = some total

section
variable {env : HubEnv me} {s s' : State} {u : Unit} {id : String} {admin actor : Address}
  {reason : Option String} {isAdmin : Bool} {subscription : Subscription}

theorem getPauseConfig_returns {config : PauseConfig} :
    Returns getPauseConfig s config s' ↔ config = s.pauseConfig ∧ s' = s := by
  simp only [getPauseConfig, returns_load_bind, returns_pure, State.pauseConfig]

theorem pauseSubscriptionInternal_returns :
    Returns (pauseSubscriptionInternal env id subscription actor isAdmin reason) s u s' ↔
      Pausable s subscription env.now isAdmin ∧
        s' = (s.put (.subscription id) (subscription.pausedBy env.now actor isAdmin reason)).logged
          (eventLog env subscription.user "subscription_paused" id) := by
  simp only [pauseSubscriptionInternal, returns_failIf_bind,
    returns_bind_of_reads fun _ _ => getPauseConfig_returns, exists_eq_left, returns_store_bind,
    logSubscriptionEvent_returns, not_not, not_le, not_and, not_lt, Bool.not_eq_true]
  constructor
  · rintro ⟨-, ha, he, hc, ht, rfl⟩
    exact ⟨⟨⟨ha, he⟩, fun h => ⟨hc h, ht h⟩⟩, rfl⟩
  · rintro ⟨⟨⟨ha, he⟩, hl⟩, rfl⟩
    exact ⟨by rw [ha]; decide, ha, he, fun h => (hl h).1, fun h => (hl h).2, rfl⟩

theorem resumeSubscriptionInternal_returns :
    Returns (resumeSubscriptionInternal env id subscription actor isAdmin) s u s' ↔
      ∃ duration extension expiresAt total,
        Resumable s subscription env.now isAdmin duration extension expiresAt total ∧
          s' = (s.put (.subscription id) (subscription.resumedBy env.now actor isAdmin expiresAt
            total duration extension)).logged
              (eventLog env subscription.user "subscription_resumed" id) := by
  simp only [resumeSubscriptionInternal, returns_failIf_bind, returns_okOr_bind,
    returns_bind_of_reads fun _ _ => getPauseConfig_returns, exists_eq_left, returns_store_bind,
    logSubscriptionEvent_returns, not_not]
  constructor
  · rintro ⟨hp, pausedAt, hat, duration, hd, expiresAt, he, total, ht, rfl⟩
    exact ⟨duration, _, expiresAt, total, ⟨hp, ⟨pausedAt, hat, hd⟩, rfl, he, ht⟩, rfl⟩
  · rintro ⟨duration, _, expiresAt, total, ⟨hp, ⟨pausedAt, hat, hd⟩, rfl, he, ht⟩, rfl⟩
    exact ⟨hp, pausedAt, hat, duration, hd, expiresAt, he, total, ht, rfl⟩

theorem pauseSubscription_returns :
    Returns (pauseSubscription env id reason) s u s' ↔ ∃ subscription,
      (s.get (.subscription id) = some subscription ∧ subscription.user ∈ env.auths) ∧
        Returns (pauseSubscriptionInternal env id subscription subscription.user false reason)
          s u s' := by
  simp only [pauseSubscription, returns_bind_of_reads fun _ _ => getSubscription_returns,
    returns_requireAuth_bind, and_assoc]

theorem resumeSubscription_returns :
    Returns (resumeSubscription env id) s u s' ↔ ∃ subscription,
      (s.get (.subscription id) = some subscription ∧ subscription.user ∈ env.auths) ∧
        Returns (resumeSubscriptionInternal env id subscription subscription.user false)
          s u s' := by
  simp only [resumeSubscription, returns_bind_of_reads fun _ _ => getSubscription_returns,
    returns_requireAuth_bind, and_assoc]

theorem pauseSubscriptionAdmin_returns :
    Returns (pauseSubscriptionAdmin env id admin reason) s u s' ↔
      (s.get .admin = some admin ∧ admin ∈ env.auths) ∧ ∃ subscription,
        s.get (.subscription id) = some subscription ∧
          Returns (pauseSubscriptionInternal env id subscription admin true reason) s u s' := by
  simp only [pauseSubscriptionAdmin, returns_bind_of_checks fun _ _ => requireAdmin_returns,
    returns_bind_of_reads fun _ _ => getSubscription_returns]

theorem resumeSubscriptionAdmin_returns :
    Returns (resumeSubscriptionAdmin env id admin) s u s' ↔
      (s.get .admin = some admin ∧ admin ∈ env.auths) ∧ ∃ subscription,
        s.get (.subscription id) = some subscription ∧
          Returns (resumeSubscriptionInternal env id subscription admin true) s u s' := by
  simp only [resumeSubscriptionAdmin, returns_bind_of_checks fun _ _ => requireAdmin_returns,
    returns_bind_of_reads fun _ _ => getSubscription_returns]

end

/-- The subscription that the call pauses or resumes, by its user or the admin, and the action that is
    logged. -/
def Call.suspends : Call → Option (String × String)
  | .pauseSubscription id _ | .pauseSubscriptionAdmin id .. => some (id, "subscription_paused")
  | .resumeSubscription id | .resumeSubscriptionAdmin id .. => some (id, "subscription_resumed")
  | _ => none

/-- The subscription is written again, with its user and tier, and the action is logged. -/
structure Suspends (env : HubEnv me) (s s' : State) (id action : String)
    (subscription subscription' : Subscription) : Prop where
  stored : s.get (.subscription id) = some subscription
  status : subscription.status ≠ .inactive ∧ subscription'.status ≠ .inactive
  user : subscription'.user = subscription.user
  tier : subscription'.tierId = subscription.tierId
  post : s' = (s.put (.subscription id) subscription').logged
    (eventLog env subscription.user action id)

section
variable {env : HubEnv me} {s s' : State} {u : Unit} {id : String} {actor : Address}
  {reason : Option String} {isAdmin : Bool} {subscription : Subscription} {w w' : World}
  {i : Input me}

theorem pauseSubscriptionInternal_suspends (hs : s.get (.subscription id) = some subscription)
    (h : Returns (pauseSubscriptionInternal env id subscription actor isAdmin reason) s u s') :
    ∃ subscription', Suspends env s s' id "subscription_paused" subscription subscription' := by
  obtain ⟨hp, hs'⟩ := pauseSubscriptionInternal_returns.1 h
  have hne : subscription.status ≠ .inactive := by
    rw [hp.active.1]
    decide
  exact ⟨subscription.pausedBy env.now actor isAdmin reason, hs, ⟨hne, nofun⟩, rfl, rfl, hs'⟩

theorem resumeSubscriptionInternal_suspends (hs : s.get (.subscription id) = some subscription)
    (h : Returns (resumeSubscriptionInternal env id subscription actor isAdmin) s u s') :
    ∃ subscription', Suspends env s s' id "subscription_resumed" subscription subscription' := by
  obtain ⟨duration, extension, expiresAt, total, hr, hs'⟩ :=
    resumeSubscriptionInternal_returns.1 h
  have hne : subscription.status ≠ .inactive := by
    rw [hr.paused]
    decide
  exact ⟨subscription.resumedBy env.now actor isAdmin expiresAt total duration extension, hs,
    ⟨hne, nofun⟩, rfl, rfl, hs'⟩

/-- Pauses and resumptions, whoever calls. -/
theorem Step.suspends (h : Step w i w') (hok : i.ok w = true) {action : String}
    (hc : i.call.suspends = some (id, action)) :
    ∃ subscription subscription',
      Suspends i.env w.state w'.state id action subscription subscription' := by
  cases hcall : i.call with
  | pauseSubscription id' reason =>
    obtain ⟨subscription, ⟨hs, -⟩, hr⟩ :=
      pauseSubscription_returns.1 ((h.ok_iff_returns (by rw [hcall]; rfl)).1 hok)
    rw [hcall] at hc
    cases hc
    exact ⟨subscription, pauseSubscriptionInternal_suspends hs hr⟩
  | pauseSubscriptionAdmin id' admin reason =>
    obtain ⟨-, subscription, hs, hr⟩ :=
      pauseSubscriptionAdmin_returns.1 ((h.ok_iff_returns (by rw [hcall]; rfl)).1 hok)
    rw [hcall] at hc
    cases hc
    exact ⟨subscription, pauseSubscriptionInternal_suspends hs hr⟩
  | resumeSubscription id' =>
    obtain ⟨subscription, ⟨hs, -⟩, hr⟩ :=
      resumeSubscription_returns.1 ((h.ok_iff_returns (by rw [hcall]; rfl)).1 hok)
    rw [hcall] at hc
    cases hc
    exact ⟨subscription, resumeSubscriptionInternal_suspends hs hr⟩
  | resumeSubscriptionAdmin id' admin =>
    obtain ⟨-, subscription, hs, hr⟩ :=
      resumeSubscriptionAdmin_returns.1 ((h.ok_iff_returns (by rw [hcall]; rfl)).1 hok)
    rw [hcall] at hc
    cases hc
    exact ⟨subscription, resumeSubscriptionInternal_suspends hs hr⟩
  | _ =>
    rw [hcall] at hc
    cases hc

end

end ManageHub
