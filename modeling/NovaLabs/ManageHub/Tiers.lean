/-
  Subscription tiers of manage_hub, their promotions and analytics, and the payment token
  (subscription.rs).
-/
import NovaLabs.ManageHub.Guards

namespace ManageHub

open Lib Soroban

section
variable {me : Address} (env : HubEnv me)

/-! ## The payment token -/

/-- The address passed as the admin authorises; the stored admin is not looked up. -/
def setUsdcContract (admin usdcAddress : Address) : Fn Unit := do
  requireAuth env.toEnv admin
  store .usdcContract usdcAddress

def getUsdcContractAddress : Fn Address := do
  okOr (← load .usdcContract) .usdcContractNotSet

/-- No balance is looked up, and nothing is transferred. -/
def validatePayment (paymentToken : Address) (amount : ℤ) : Fn Unit := do
  failIf (amount ≤ 0) .invalidPaymentAmount
  let usdcContract ← getUsdcContractAddress
  failIf (paymentToken ≠ usdcContract) .invalidPaymentToken

/-! ## Tiers -/

/-- The subscription tier in a record: the host traps on a value of another type. -/
def subscriptionTierOf : Option TierRecord → Fn SubscriptionTier
  | none => throw (.err .tierNotFound)
  | some (.subscription tier) => pure tier
  | some (.staking _) => throw .panic

def getTier (id : String) : Fn SubscriptionTier := do
  subscriptionTierOf (← load (.tier id))

def createTier (admin : Address) (params : CreateTierParams) : Fn Unit := do
  requireAuth env.toEnv admin
  failIf (params.price < 0) .invalidTierPrice
  failIf (params.annualPrice < 0) .invalidTierPrice
  failIf (← load (.tier params.id)).isSome .tierAlreadyExists
  store (.tier params.id) (.subscription
    { id := params.id, name := params.name, level := params.level, price := params.price
      annualPrice := params.annualPrice, features := params.features, maxUsers := params.maxUsers
      maxStorage := params.maxStorage, isActive := true, createdAt := env.now
      updatedAt := env.now })
  let tierList := (← load .tierList).getD []
  store .tierList (tierList ++ [params.id])
  store (.tierAnalytics params.id)
    { tierId := params.id, activeSubscribers := 0, totalRevenue := 0, upgradesCount := 0
      downgradesCount := 0, churnRate := 0, updatedAt := env.now }

/-- The tier with the fields that are given. -/
def SubscriptionTier.update (tier : SubscriptionTier) (params : UpdateTierParams) (now : ℕ) :
    SubscriptionTier :=
  { tier with
    name := params.name.getD tier.name
    price := params.price.getD tier.price
    annualPrice := params.annualPrice.getD tier.annualPrice
    features := params.features.getD tier.features
    maxUsers := params.maxUsers.getD tier.maxUsers
    maxStorage := params.maxStorage.getD tier.maxStorage
    isActive := params.isActive.getD tier.isActive
    updatedAt := now }

def updateTier (admin : Address) (params : UpdateTierParams) : Fn Unit := do
  requireAuth env.toEnv admin
  let tier ← getTier params.id
  failIf (params.price.any (· < 0)) .invalidTierPrice
  failIf (params.annualPrice.any (· < 0)) .invalidTierPrice
  store (.tier params.id) (.subscription (tier.update params env.now))

def deactivateTier (admin : Address) (id : String) : Fn Unit := do
  requireAuth env.toEnv admin
  let tier ← getTier id
  store (.tier id) (.subscription
    { tier with
      isActive := false
      updatedAt := env.now })

/-! ## Promotions -/

def createPromotion (admin : Address) (params : CreatePromotionParams) : Fn Unit := do
  requireAuth env.toEnv admin
  ignore (getTier params.tierId)
  failIf (params.discountPercent > 100) .invalidDiscountPercent
  failIf (params.endDate ≤ params.startDate) .invalidPromoDateRange
  failIf (← load (.tierPromotion params.promoId)).isSome .promotionAlreadyExists
  store (.tierPromotion params.promoId)
    { tierId := params.tierId, discountPercent := params.discountPercent
      promoPrice := params.promoPrice, startDate := params.startDate, endDate := params.endDate
      promoCode := params.promoCode, maxRedemptions := params.maxRedemptions
      currentRedemptions := 0 }
  let promoList := (← load .tierPromotionList).getD []
  store .tierPromotionList (promoList ++ [params.promoId])

/-- `base_price - (base_price * discount_percent / 100)`. -/
def discountedPrice (basePrice : ℤ) (discountPercent : ℕ) : Fn ℤ := do
  let product ← exactI128 (basePrice * discountPercent)
  exactI128 (basePrice - product.tdiv 100)

/-- The price with the promotion, whose redemptions are counted. -/
def redeemPromotion (promoId : String) (basePrice : ℤ) (promotion : TierPromotion) : Fn ℤ := do
  failIf (env.now < promotion.startDate ∨ promotion.endDate < env.now) .promoCodeExpired
  failIf (promotion.maxRedemptions > 0 ∧ promotion.currentRedemptions ≥ promotion.maxRedemptions)
    .promoCodeMaxRedemptions
  let finalPrice ←
    if promotion.promoPrice > 0 then pure promotion.promoPrice
    else discountedPrice basePrice promotion.discountPercent
  let currentRedemptions ← checked 32 (promotion.currentRedemptions + 1)
  store (.tierPromotion promoId) { promotion with currentRedemptions }
  return finalPrice

/-- The first listed promotion of the tier and code decides. -/
def searchPromotions (tierId promoCode : String) (basePrice : ℤ) : List String → Fn ℤ
  | [] => throw (.err .promoCodeInvalid)
  | promoId :: promoList => do
    let promotion ← load (.tierPromotion promoId)
    (promotion.filter fun p => p.tierId = tierId ∧ p.promoCode = promoCode).elim
      (searchPromotions tierId promoCode basePrice promoList)
      (redeemPromotion env promoId basePrice)

def applyPromotion (tierId promoCode : String) (basePrice : ℤ) : Fn ℤ := do
  let promoList := (← load .tierPromotionList).getD []
  searchPromotions env tierId promoCode basePrice promoList

/-! ## Analytics -/

/-- A new subscription, or a renewed one. -/
def updateTierAnalyticsOnSubscribe (tierId : String) (amount : ℤ) : Fn Unit := do
  let analytics := (← load (.tierAnalytics tierId)).getD
    { tierId, activeSubscribers := 0, totalRevenue := 0, upgradesCount := 0, downgradesCount := 0
      churnRate := 0, updatedAt := env.now }
  let activeSubscribers ← checked 32 (analytics.activeSubscribers + 1)
  let totalRevenue ← exactI128 (analytics.totalRevenue + amount)
  store (.tierAnalytics tierId)
    { analytics with
      activeSubscribers
      totalRevenue
      updatedAt := env.now }

def leaveTierAnalytics (tierId : String) (changeType : TierChangeType) (analytics : TierAnalytics) :
    Fn Unit := do
  let downgradesCount ←
    if changeType = .downgrade then checked 32 (analytics.downgradesCount + 1)
    else pure analytics.downgradesCount
  store (.tierAnalytics tierId)
    { analytics with
      activeSubscribers := analytics.activeSubscribers - 1
      downgradesCount
      updatedAt := env.now }

def joinTierAnalytics (tierId : String) (changeType : TierChangeType) (analytics : TierAnalytics) :
    Fn Unit := do
  let activeSubscribers ← checked 32 (analytics.activeSubscribers + 1)
  let upgradesCount ←
    if changeType = .upgrade then checked 32 (analytics.upgradesCount + 1)
    else pure analytics.upgradesCount
  store (.tierAnalytics tierId)
    { analytics with
      activeSubscribers
      upgradesCount
      updatedAt := env.now }

def updateTierAnalyticsOnChange (fromTierId toTierId : String) (changeType : TierChangeType) :
    Fn Unit := do
  let fromAnalytics ← load (.tierAnalytics fromTierId)
  fromAnalytics.elim (pure ()) (leaveTierAnalytics env fromTierId changeType)
  let toAnalytics ← load (.tierAnalytics toTierId)
  toAnalytics.elim (pure ()) (joinTierAnalytics env toTierId changeType)

end

/-! ## Tiers that are stored -/

theorem getTier_returns {s s' : State} {id : String} {tier : SubscriptionTier} :
    Returns (getTier id) s tier s' ↔ s.get (.tier id) = some (.subscription tier) ∧ s' = s := by
  rw [getTier, returns_load_bind]
  rcases s.get (.tier id) with _ | (tier' | tier')
  · simp [subscriptionTierOf]
  · simp [subscriptionTierOf, eq_comm]
  · simp [subscriptionTierOf]

section
variable {me admin : Address} {env : HubEnv me} {s s' : State} {u : Unit}

/-- A new tier has analytics without subscribers. -/
theorem createTier_writes {params : CreateTierParams}
    (h : Returns (createTier env admin params) s u s') :
    s.get (.tier params.id) = none ∧ ∃ tier tierList analytics,
      analytics.activeSubscribers = 0 ∧
        s' = ((s.put (.tier params.id) (.subscription tier)).put .tierList tierList).put
          (.tierAnalytics params.id) analytics := by
  simp only [createTier, returns_requireAuth_bind, returns_failIf_bind, returns_load_bind,
    returns_store_bind, returns_store, Option.not_isSome_iff_eq_none] at h
  obtain ⟨-, -, -, hn, rfl⟩ := h
  exact ⟨hn, _, _, _, rfl, rfl⟩

theorem updateTier_writes {params : UpdateTierParams}
    (h : Returns (updateTier env admin params) s u s') : ∃ tier tier',
      s.get (.tier params.id) = some (.subscription tier) ∧
        s' = s.put (.tier params.id) (.subscription tier') := by
  simp only [updateTier, returns_requireAuth_bind, returns_failIf_bind, returns_store,
    returns_bind_of_reads fun _ _ => getTier_returns] at h
  obtain ⟨-, tier, ht, -, -, rfl⟩ := h
  exact ⟨tier, _, ht, rfl⟩

theorem deactivateTier_writes {id : String} (h : Returns (deactivateTier env admin id) s u s') :
    ∃ tier tier', s.get (.tier id) = some (.subscription tier) ∧
      s' = s.put (.tier id) (.subscription tier') := by
  simp only [deactivateTier, returns_requireAuth_bind, returns_store,
    returns_bind_of_reads fun _ _ => getTier_returns] at h
  obtain ⟨-, tier, ht, rfl⟩ := h
  exact ⟨tier, _, ht, rfl⟩

end

/-! ## Footprints -/

section
set_option synthInstance.maxSize 1000000

variable {me admin token : Address} {env : HubEnv me} {ks : List Kind} {id code : String} {n : ℤ}
  {changeType : TierChangeType} {analytics : TierAnalytics}

instance [In .usdcContract ks] : Only ks (setUsdcContract env admin token) := by
  unfold setUsdcContract; infer_instance

instance : Only ks getUsdcContractAddress := by unfold getUsdcContractAddress; infer_instance

instance : Only ks (validatePayment token n) := by unfold validatePayment; infer_instance

instance {o : Option TierRecord} : Only ks (subscriptionTierOf o) := by
  unfold subscriptionTierOf; split <;> infer_instance

instance : Only ks (getTier id) := by unfold getTier; infer_instance

instance [In .tier ks] [In .tierList ks] [In .tierAnalytics ks] {params : CreateTierParams} :
    Only ks (createTier env admin params) := by
  unfold createTier; infer_instance

instance [In .tier ks] {params : UpdateTierParams} : Only ks (updateTier env admin params) := by
  unfold updateTier; infer_instance

instance [In .tier ks] : Only ks (deactivateTier env admin id) := by
  unfold deactivateTier; infer_instance

instance [In .tierPromotion ks] [In .tierPromotionList ks] {params : CreatePromotionParams} :
    Only ks (createPromotion env admin params) := by
  unfold createPromotion; infer_instance

instance {discount : ℕ} : Only ks (discountedPrice n discount) := by
  unfold discountedPrice; infer_instance

instance [In .tierPromotion ks] {promotion : TierPromotion} :
    Only ks (redeemPromotion env id n promotion) := by
  unfold redeemPromotion; infer_instance

instance [In .tierPromotion ks] {promoList : List String} :
    Only ks (searchPromotions env id code n promoList) := by
  induction promoList with
  | nil => unfold searchPromotions; infer_instance
  | cons promoId promoList ih => unfold searchPromotions; infer_instance

instance [In .tierPromotion ks] : Only ks (applyPromotion env id code n) := by
  unfold applyPromotion; infer_instance

instance [In .tierAnalytics ks] : Only ks (updateTierAnalyticsOnSubscribe env id n) := by
  unfold updateTierAnalyticsOnSubscribe; infer_instance

instance [In .tierAnalytics ks] : Only ks (leaveTierAnalytics env id changeType analytics) := by
  unfold leaveTierAnalytics; infer_instance

instance [In .tierAnalytics ks] : Only ks (joinTierAnalytics env id changeType analytics) := by
  unfold joinTierAnalytics; infer_instance

instance [In .tierAnalytics ks] {id' : String} :
    Only ks (updateTierAnalyticsOnChange env id id' changeType) := by
  unfold updateTierAnalyticsOnChange; infer_instance

end

end ManageHub
