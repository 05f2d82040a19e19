/-
  What the calls on tier changes do: their requests, and the analytics of the two tiers.
-/
import NovaLabs.ManageHub.SubscriptionCalls

namespace ManageHub

open Lib Soroban

variable {me : Address}

/-! ## Analytics of a change -/

/-- One subscriber less; the count does not go below 0. -/
def TierAnalytics.left (analytics : TierAnalytics) (changeType : TierChangeType) (now : ℕ) :
    TierAnalytics :=
  { analytics with
    activeSubscribers := analytics.activeSubscribers - 1
    downgradesCount := analytics.downgradesCount + if changeType = .downgrade then 1 else 0
    updatedAt := now }

/-- One subscriber more. -/
def TierAnalytics.joined (analytics : TierAnalytics) (changeType : TierChangeType) (now : ℕ) :
    TierAnalytics :=
  { analytics with
    activeSubscribers := analytics.activeSubscribers + 1
    upgradesCount := analytics.upgradesCount + if changeType = .upgrade then 1 else 0
    updatedAt := now }

/-- The analytics of one tier, if there are any, are changed by `f`. -/
def State.modifyAnalytics (s : State) (tierId : String) (f : TierAnalytics → TierAnalytics) :
    State :=
  (s.get (.tierAnalytics tierId)).elim s fun analytics =>
    s.put (.tierAnalytics tierId) (f analytics)

/-- The analytics of both tiers after a change. -/
def State.changedTier (s : State) (fromTier toTier : String) (changeType : TierChangeType)
    (now : ℕ) : State :=
  (s.modifyAnalytics fromTier (·.left changeType now)).modifyAnalytics toTier
    (·.joined changeType now)

/-- The counts of the analytics that a change of tier goes through stay in range. -/
structure FitsChange (s : State) (fromTier toTier : String) (changeType : TierChangeType)
    (now : ℕ) : Prop where
  leave : ∀ analytics, s.get (.tierAnalytics fromTier) = some analytics →
    (analytics.left changeType now).downgradesCount < 2 ^ 32 ∨ changeType ≠ .downgrade
  join : ∀ analytics, (s.modifyAnalytics fromTier (·.left changeType now)).get
    (.tierAnalytics toTier) = some analytics → analytics.activeSubscribers + 1 < 2 ^ 32 ∧
      ((analytics.joined changeType now).upgradesCount < 2 ^ 32 ∨ changeType ≠ .upgrade)

section
variable {env : HubEnv me} {s s' : State} {u : Unit} {tierId tierId' fromTier toTier : String}
  {changeType : TierChangeType} {f : TierAnalytics → TierAnalytics} {analytics : TierAnalytics}

theorem modifyAnalytics_get {k : DataKey} (h : k.kind ≠ .tierAnalytics) :
    (s.modifyAnalytics tierId f).get k = s.get k := by
  unfold State.modifyAnalytics
  cases s.get (.tierAnalytics tierId) with
  | none => rfl
  | some analytics => exact get_put_ne fun he => h (he ▸ rfl)

theorem modifyAnalytics_get_analytics :
    (s.modifyAnalytics tierId f).get (.tierAnalytics tierId') =
      if tierId' = tierId then (s.get (.tierAnalytics tierId)).map f
      else s.get (.tierAnalytics tierId') := by
  unfold State.modifyAnalytics
  split_ifs with he
  · subst he
    cases hs : s.get (.tierAnalytics tierId') with
    | none => exact hs
    | some analytics => exact get_put_self
  · cases s.get (.tierAnalytics tierId) with
    | none => rfl
    | some analytics => exact get_put_ne (by simpa using he)

theorem changedTier_get {now : ℕ} {k : DataKey} (h : k.kind ≠ .tierAnalytics) :
    (s.changedTier fromTier toTier changeType now).get k = s.get k := by
  rw [State.changedTier, modifyAnalytics_get h, modifyAnalytics_get h]

theorem leaveTierAnalytics_returns :
    Returns (leaveTierAnalytics env tierId changeType analytics) s u s' ↔
      ((analytics.left changeType env.now).downgradesCount < 2 ^ 32 ∨ changeType ≠ .downgrade) ∧
        s' = s.put (.tierAnalytics tierId) (analytics.left changeType env.now) := by
  by_cases hc : changeType = .downgrade
  · simp [leaveTierAnalytics, TierAnalytics.left, hc]
  · simp [leaveTierAnalytics, TierAnalytics.left, hc]

theorem joinTierAnalytics_returns :
    Returns (joinTierAnalytics env tierId changeType analytics) s u s' ↔
      (analytics.activeSubscribers + 1 < 2 ^ 32 ∧
        ((analytics.joined changeType env.now).upgradesCount < 2 ^ 32 ∨ changeType ≠ .upgrade)) ∧
        s' = s.put (.tierAnalytics tierId) (analytics.joined changeType env.now) := by
  by_cases hc : changeType = .upgrade
  · simp [joinTierAnalytics, TierAnalytics.joined, hc, and_assoc]
  · simp [joinTierAnalytics, TierAnalytics.joined, hc]

/-- Analytics that exist are changed by code with the effect `f`, if they have `p`. -/
theorem returns_elim_analytics {p : TierAnalytics → Prop} {g : TierAnalytics → Fn Unit}
    (hg : ∀ analytics (s s' : State) (u : Unit), Returns (g analytics) s u s' ↔
      p analytics ∧ s' = s.put (.tierAnalytics tierId) (f analytics)) :
    Returns ((s.get (.tierAnalytics tierId)).elim (pure ()) g) s u s' ↔
      (∀ analytics, s.get (.tierAnalytics tierId) = some analytics → p analytics) ∧
        s' = s.modifyAnalytics tierId f := by
  unfold State.modifyAnalytics
  cases s.get (.tierAnalytics tierId) with
  | none => simp
  | some analytics => simp [hg]

theorem updateTierAnalyticsOnChange_returns :
    Returns (updateTierAnalyticsOnChange env fromTier toTier changeType) s u s' ↔
      FitsChange s fromTier toTier changeType env.now ∧
        s' = s.changedTier fromTier toTier changeType env.now := by
  simp only [updateTierAnalyticsOnChange, returns_load_bind]
  constructor
  · intro h
    obtain ⟨_, s₁, h₁, h₂⟩ := returns_bind.1 h
    obtain ⟨hl, rfl⟩ := (returns_elim_analytics fun _ _ _ _ => leaveTierAnalytics_returns).1 h₁
    obtain ⟨hj, rfl⟩ := (returns_elim_analytics fun _ _ _ _ => joinTierAnalytics_returns).1
      (returns_load_bind.1 h₂)
    exact ⟨⟨hl, hj⟩, rfl⟩
  · rintro ⟨⟨hl, hj⟩, rfl⟩
    exact returns_bind.2 ⟨(), _,
      (returns_elim_analytics fun _ _ _ _ => leaveTierAnalytics_returns).2 ⟨hl, rfl⟩,
      returns_load_bind.2
        ((returns_elim_analytics fun _ _ _ _ => joinTierAnalytics_returns).2 ⟨hj, rfl⟩)⟩

theorem fitsChange_congr {now : ℕ}
    (h : ∀ t, s'.get (.tierAnalytics t) = s.get (.tierAnalytics t)) :
    FitsChange s' fromTier toTier changeType now ↔ FitsChange s fromTier toTier changeType now := by
  constructor
  · rintro ⟨hl, hj⟩
    simp only [modifyAnalytics_get_analytics, h] at hl hj
    exact ⟨hl, by simpa only [modifyAnalytics_get_analytics] using hj⟩
  · rintro ⟨hl, hj⟩
    simp only [modifyAnalytics_get_analytics] at hj
    exact ⟨by simpa only [h] using hl, by simpa only [modifyAnalytics_get_analytics, h] using hj⟩

end

/-! ## Requests -/

/-- A change of the user's subscription to a tier may be requested, at a prorated amount. -/
structure Requestable (env : HubEnv me) (s : State) (user : Address)
    (subscriptionId newTierId : String) (subscription : Subscription)
    (currentTier newTier : SubscriptionTier) (amount : ℤ) : Prop where
  authorised : user ∈ env.auths
  stored : s.get (.subscription subscriptionId) = some subscription
  owned : subscription.user = user
  leaves : s.get (.tier subscription.tierId) = some (.subscription currentTier)
  joins : s.get (.tier newTierId) = some (.subscription newTier) ∧ newTier.isActive = true
  priced : Returns (calculateProration env subscription currentTier newTier) s amount s

/-- The request for a change of a subscription from one tier to another. -/
def newChangeRequest (env : HubEnv me) (user : Address) (newTierId : String)
    (subscription : Subscription) (currentTier newTier : SubscriptionTier) (amount : ℤ) :
    TierChangeRequest :=
  { user, fromTier := subscription.tierId, toTier := newTierId
    changeType := determineChangeType currentTier.level newTier.level
    proratedAmount := amount, effectiveDate := env.now, status := .pending, createdAt := env.now }

/-- A pending request may be processed on a stored subscription, whoever owns it. -/
structure Processable (env : HubEnv me) (s : State) (caller : Address)
    (changeRequestId subscriptionId : String) (paymentToken : Address)
    (changeRequest : TierChangeRequest) (subscription : Subscription) (tier : SubscriptionTier) :
    Prop where
  authorised : caller ∈ env.auths
  request : s.get (.tierChangeRequest changeRequestId) = some changeRequest
  pending : changeRequest.status = .pending
  admin : caller ≠ changeRequest.user → s.get .admin = some caller
  stored : s.get (.subscription subscriptionId) = some subscription
  payment : 0 < changeRequest.proratedAmount →
    ValidPayment s paymentToken changeRequest.proratedAmount
  joins : s.get (.tier changeRequest.toTier) = some (.subscription tier)
  analytics :
    FitsChange s subscription.tierId changeRequest.toTier changeRequest.changeType env.now

/-- A pending request may be cancelled by its user. -/
structure Cancellable (env : HubEnv me) (s : State) (user : Address) (changeRequestId : String)
    (changeRequest : TierChangeRequest) : Prop where
  authorised : user ∈ env.auths
  request : s.get (.tierChangeRequest changeRequestId) = some changeRequest
  owned : changeRequest.user = user
  pending : changeRequest.status = .pending

section
variable {env : HubEnv me} {s s' : State} {u : Unit} {user caller paymentToken : Address}
  {id subscriptionId newTierId changeRequestId : String}

theorem requestTierChange_returns :
    Returns (requestTierChange env user subscriptionId newTierId) s id s' ↔
      ∃ subscription currentTier newTier amount,
        Requestable env s user subscriptionId newTierId subscription currentTier newTier amount ∧
          id = generateChangeRequestId env.now ∧
          s' = (s.put (.tierChangeRequest id)
            (newChangeRequest env user newTierId subscription currentTier newTier amount)).put
              (.userTierChangeHistory user)
              ((s.get (.userTierChangeHistory user)).getD [] ++ [id]) := by
  have hhist (r : TierChangeRequest) :
      (s.put (.tierChangeRequest (generateChangeRequestId env.now)) r).get
        (.userTierChangeHistory user) = s.get (.userTierChangeHistory user) :=
    get_put_ne (by simp)
  simp only [requestTierChange, returns_requireAuth_bind,
    returns_bind_of_reads fun _ _ => getSubscription_returns, returns_failIf_bind,
    returns_bind_of_reads fun _ _ => getTier_returns, not_not]
  constructor
  · rintro ⟨hauth, subscription, hs, ho, currentTier, hl, newTier, hj, hact, h⟩
    obtain ⟨amount, hp, h⟩ := returns_reads_bind.1 h
    simp only [returns_store_bind, returns_load_bind, returns_pure, hhist] at h
    obtain ⟨rfl, rfl⟩ := h
    exact ⟨subscription, currentTier, newTier, amount, ⟨hauth, hs, ho, hl, ⟨hj, hact⟩, hp⟩, rfl, rfl⟩
  · rintro ⟨subscription, currentTier, newTier, amount, ⟨hauth, hs, ho, hl, ⟨hj, hact⟩, hp⟩, rfl,
      rfl⟩
    refine ⟨hauth, subscription, hs, ho, currentTier, hl, newTier, hj, hact,
      returns_reads_bind.2 ⟨amount, hp, ?_⟩⟩
    simp only [returns_store_bind, returns_load_bind, returns_pure, hhist]
    exact ⟨trivial, rfl⟩

theorem processTierChange_returns :
    Returns (processTierChange env caller changeRequestId subscriptionId paymentToken) s u s' ↔
      ∃ changeRequest subscription tier,
        Processable env s caller changeRequestId subscriptionId paymentToken changeRequest
          subscription tier ∧
        s' = ((s.put (.subscription subscriptionId)
          { subscription with
            tierId := changeRequest.toTier
            amount := tier.price }).put (.tierChangeRequest changeRequestId)
              { changeRequest with status := .completed }).changedTier subscription.tierId
                changeRequest.toTier changeRequest.changeType env.now := by
  have hfit (changeRequest : TierChangeRequest) (subscription : Subscription)
      (r : TierChangeRequest) (sub : Subscription) :
      FitsChange ((s.put (.subscription subscriptionId) sub).put
          (.tierChangeRequest changeRequestId) r) subscription.tierId changeRequest.toTier
          changeRequest.changeType env.now ↔
        FitsChange s subscription.tierId changeRequest.toTier changeRequest.changeType env.now :=
    fitsChange_congr fun t => by rw [get_put_ne (by simp), get_put_ne (by simp)]
  simp only [processTierChange, returns_requireAuth_bind, returns_load_bind, returns_okOr_bind,
    returns_failIf_bind, not_not, returns_runIf_bind_of_checks fun _ _ => requireAdmin_returns,
    returns_bind_of_reads fun _ _ => getSubscription_returns,
    returns_runIf_bind_of_checks fun _ _ => validatePayment_returns,
    returns_bind_of_reads fun _ _ => getTier_returns, returns_store_bind,
    updateTierAnalyticsOnChange_returns, hfit]
  constructor
  · rintro ⟨hauth, changeRequest, hr, hp, ha, subscription, hs, hv, tier, ht, hf, rfl⟩
    exact ⟨changeRequest, subscription, tier,
      ⟨hauth, hr, hp, fun hne => (ha hne).1, hs, hv, ht, hf⟩, rfl⟩
  · rintro ⟨changeRequest, subscription, tier, ⟨hauth, hr, hp, ha, hs, hv, ht, hf⟩, rfl⟩
    exact ⟨hauth, changeRequest, hr, hp, fun hne => ⟨ha hne, hauth⟩, subscription, hs, hv, tier, ht,
      hf, rfl⟩

theorem cancelTierChange_returns :
    Returns (cancelTierChange env user changeRequestId) s u s' ↔ ∃ changeRequest,
      Cancellable env s user changeRequestId changeRequest ∧
        s' = s.put (.tierChangeRequest changeRequestId)
          { changeRequest with status := .cancelled } := by
  simp only [cancelTierChange, returns_requireAuth_bind, returns_load_bind, returns_okOr_bind,
    returns_failIf_bind, not_not, returns_store]
  constructor
  · rintro ⟨hauth, changeRequest, hr, ho, hp, rfl⟩
    exact ⟨changeRequest, ⟨hauth, hr, ho, hp⟩, rfl⟩
  · rintro ⟨changeRequest, ⟨hauth, hr, ho, hp⟩, rfl⟩
    exact ⟨hauth, changeRequest, hr, ho, hp, rfl⟩

end

end ManageHub
