/-
  When a subscription has expired, as four functions see it: the check of a feature, the query of
  the subscription, the amount of a change of tier, and the pause by the admin.

  At the very second at which it expires, the first two take it for live, and the others for
  expired.
-/
import NovaLabs.ManageHub.Proration

namespace ManageHub

open Lib Soroban

variable {me : Address}

/-! ## Queries -/

/-- Whether the tier of the subscription has the feature. -/
def checkFeatureAccess (env : HubEnv me) (subscriptionId : String) (feature : TierFeature) :
    Fn Bool := do
  let subscription ← getSubscription subscriptionId
  if subscription.status ≠ .active then return false
  else if subscription.expiresAt < env.now then return false
  else
    let tier ← getTier subscription.tierId
    return tier.features.any (· = feature)

structure UserSubscriptionInfo where
  subscription : Subscription
  tierName : String
  tierLevel : TierLevel
  features : List TierFeature
  daysRemaining : ℕ
  isExpired : Bool

def getUserSubscriptionInfo (env : HubEnv me) (subscriptionId : String) :
    Fn UserSubscriptionInfo := do
  let subscription ← getSubscription subscriptionId
  let tier ← getTier subscription.tierId
  let isExpired := decide (subscription.expiresAt < env.now)
  return { subscription, tierName := tier.name, tierLevel := tier.level, features := tier.features
           daysRemaining :=
             if isExpired then 0 else (subscription.expiresAt - env.now) / (24 * 60 * 60)
           isExpired }

/-! ## The four views -/

section
variable (env : HubEnv me) (s : State) (id : String) (subscription : Subscription)
  (tier : SubscriptionTier) (admin : Address) (reason : Option String)

/-- Some feature of the tier is granted. -/
def FeatureGranted : Prop :=
  ∃ feature ∈ tier.features, Returns (checkFeatureAccess env id feature) s true s

/-- The subscription is reported as not expired. -/
def ReportedLive : Prop :=
  ∃ info, Returns (getUserSubscriptionInfo env id) s info s ∧ info.isExpired = false

/-- A change of tier does not always cost the full new price. -/
def Prorated : Prop :=
  ∃ newTier, ¬ Returns (calculateProration env subscription tier newTier) s newTier.price s

/-- A pause by the admin is not refused for a subscription that is not active. -/
def NotRefused : Prop :=
  ¬ Stops (pauseSubscriptionAdmin env id admin reason) s (.err .subscriptionNotActive) s

/-- All four take the subscription for live, or none does. -/
structure ExpiryAgreed : Prop where
  granted_reported : FeatureGranted env s id tier ↔ ReportedLive env s id
  reported_prorated : ReportedLive env s id ↔ Prorated env s subscription tier
  prorated_refused : Prorated env s subscription tier ↔ NotRefused env s id admin reason

end

section
variable {env : HubEnv me} {s : State} {id : String} {subscription : Subscription}
  {tier : SubscriptionTier} {admin : Address} {reason : Option String}

theorem featureGranted_iff (hs : s.get (.subscription id) = some subscription)
    (ha : subscription.status = .active)
    (ht : s.get (.tier subscription.tierId) = some (.subscription tier)) :
    FeatureGranted env s id tier ↔ env.now ≤ subscription.expiresAt ∧ tier.features ≠ [] := by
  have hcheck (feature : TierFeature) : Returns (checkFeatureAccess env id feature) s true s ↔
      env.now ≤ subscription.expiresAt ∧ feature ∈ tier.features := by
    rw [checkFeatureAccess, returns_bind_of_reads fun _ _ => getSubscription_returns, hs]
    by_cases he : subscription.expiresAt < env.now
    · simp [ha, he]
    · simp [ha, he, not_lt.1 he, getTier_returns, ht]
  simp only [FeatureGranted, hcheck]
  constructor
  · rintro ⟨feature, hf, hn, -⟩
    exact ⟨hn, List.ne_nil_of_mem hf⟩
  · rintro ⟨hn, hne⟩
    obtain ⟨feature, hf⟩ := List.exists_mem_of_ne_nil _ hne
    exact ⟨feature, hf, hn, hf⟩

theorem reportedLive_iff (hs : s.get (.subscription id) = some subscription)
    (ht : s.get (.tier subscription.tierId) = some (.subscription tier)) :
    ReportedLive env s id ↔ env.now ≤ subscription.expiresAt := by
  simp [ReportedLive, getUserSubscriptionInfo, getSubscription_returns, getTier_returns, hs, ht]

/-- Tiers of a price of less than 30 cost nothing a day, whatever the price is. -/
theorem prorated_iff : Prorated env s subscription tier ↔ env.now < subscription.expiresAt := by
  constructor
  · rintro ⟨newTier, hn⟩
    by_contra he
    exact hn (calculateProration_returns.2 ⟨by rw [if_pos (not_lt.1 he)], rfl⟩)
  · intro hlive
    by_contra hn
    have hfull (newTier : SubscriptionTier) : newTier.price =
        subscription.worth env.now newTier.price - subscription.worth env.now tier.price := by
      have hr := not_not.1 (not_exists.1 hn newTier)
      obtain ⟨ha, -⟩ := calculateProration_returns.1 hr
      rw [if_neg (not_le.2 hlive)] at ha
      exact ha.2
    have hzero : subscription.worth env.now 1 = 0 ∧ subscription.worth env.now 2 = 0 := by
      unfold Subscription.worth
      cases subscription.billingCycle <;> simp [BillingCycle.days]
    have h₁ := hfull (yearlyFree 1)
    have h₂ := hfull (yearlyFree 2)
    simp only [yearlyFree, hzero] at h₁ h₂
    omega

theorem notRefused_iff (hs : s.get (.subscription id) = some subscription)
    (ha : subscription.status = .active) (hadmin : s.get .admin = some admin)
    (hauth : admin ∈ env.auths) :
    NotRefused env s id admin reason ↔ env.now < subscription.expiresAt := by
  constructor
  · intro hn
    by_contra he
    refine hn (stops_bind.2 (Or.inr ⟨(), s, requireAdmin_returns.2 ⟨⟨hadmin, hauth⟩, rfl⟩,
      stops_bind.2 (Or.inr ⟨subscription, s, getSubscription_returns.2 ⟨hs, rfl⟩, ?_⟩)⟩))
    rw [pauseSubscriptionInternal, stops_failIf_bind, stops_failIf_bind, stops_failIf_bind, ha]
    exact Or.inr ⟨by decide, Or.inr ⟨by decide, Or.inl ⟨not_lt.1 he, rfl, rfl⟩⟩⟩
  · intro hlive
    have hr : Returns (pauseSubscriptionInternal env id subscription admin true reason) s () _ :=
      pauseSubscriptionInternal_returns.2 ⟨⟨⟨ha, hlive⟩, Bool.noConfusion⟩, rfl⟩
    exact (pauseSubscriptionAdmin_returns.2 ⟨⟨hadmin, hauth⟩, subscription, hs, hr⟩).not_stops

/-- **The four functions agree on an active subscription exactly if it expires before now, or after
    now with a tier that has a feature.** -/
theorem expiry_agreed_iff (hs : s.get (.subscription id) = some subscription)
    (ha : subscription.status = .active)
    (ht : s.get (.tier subscription.tierId) = some (.subscription tier))
    (hadmin : s.get .admin = some admin) (hauth : admin ∈ env.auths) :
    ExpiryAgreed env s id subscription tier admin reason ↔
      subscription.expiresAt < env.now ∨
        (env.now < subscription.expiresAt ∧ tier.features ≠ []) := by
  have hgranted : FeatureGranted env s id tier ↔ _ := featureGranted_iff hs ha ht
  have hreported : ReportedLive env s id ↔ _ := reportedLive_iff hs ht
  have hprorated : Prorated env s subscription tier ↔ _ := prorated_iff
  have hrefused : NotRefused env s id admin reason ↔ _ := notRefused_iff hs ha hadmin hauth
  constructor
  · rintro ⟨h₁, h₂, -⟩
    rw [hgranted, hreported] at h₁
    rw [hreported, hprorated] at h₂
    rcases lt_or_ge subscription.expiresAt env.now with hlt | hge
    · exact Or.inl hlt
    · exact Or.inr ⟨h₂.1 hge, (h₁.2 hge).2⟩
  · rintro (hlt | ⟨hlt, hf⟩)
    · have hn := not_le.2 hlt
      exact ⟨by rw [hgranted, hreported]; exact iff_of_false (fun h => hn h.1) hn,
        by rw [hreported, hprorated]; exact iff_of_false hn (not_lt.2 hlt.le),
        by rw [hprorated, hrefused]⟩
    · exact ⟨by rw [hgranted, hreported]; exact iff_of_true ⟨hlt.le, hf⟩ hlt.le,
        by rw [hreported, hprorated]; exact iff_of_true hlt.le hlt,
        by rw [hprorated, hrefused]⟩

end

/-- A subscription to a tier with a feature, that expires at time 2592005. -/
def featureCalls : List (Input ⟨0⟩) :=
  [hubCall 1 (.setAdmin ⟨1⟩), hubCall 2 (.setUsdcContract ⟨1⟩ ⟨9⟩),
    hubCall 3 (.createTier ⟨1⟩ ⟨"basic", "Basic", .basic, 100, 1000, [.basicAccess], 1, 1⟩),
    hubCall 5 (.createSubscriptionWithTier "a" ⟨2⟩ ⟨9⟩ "basic" .monthly none)]

/-- The subscription of `featureCalls`. -/
def featureSubscription : Subscription :=
  newSubscription (hubEnv 5) "a" ⟨2⟩ ⟨9⟩ 100 2592005 "basic" .monthly

/-- The tier of `featureCalls`. -/
def featureTier : SubscriptionTier :=
  ⟨"basic", "Basic", .basic, 100, 1000, [.basicAccess], 1, 1, true, 3, 3⟩

/-- A second before the end, they agree. -/
theorem expiry_agreed_before : ExpiryAgreed (hubEnv 2592004) (featureCalls.foldl next start).state
    "a" featureSubscription featureTier ⟨1⟩ none :=
  (expiry_agreed_iff (by decide) (by decide) (by decide) (by decide) (by decide)).2
    (Or.inr ⟨by decide, by decide⟩)

/-- At the end, a feature is granted, and the change of tier costs the full new price. -/
theorem expiry_disputed : ¬ ∀ (tr : List (Ev ⟨0⟩)) (w : World), Run Step start tr w →
    ∀ (env : HubEnv ⟨0⟩) (id : String) (subscription : Subscription) (tier : SubscriptionTier)
      (admin : Address) (reason : Option String), w.now ≤ env.now →
      w.state.get (.subscription id) = some subscription → subscription.status = .active →
      w.state.get (.tier subscription.tierId) = some (.subscription tier) →
      w.state.get .admin = some admin → admin ∈ env.auths → tier.features ≠ [] →
      ExpiryAgreed env w.state id subscription tier admin reason := by
  intro h
  obtain ⟨hg, hr, -⟩ := h _ _ (run_calls featureCalls (by decide)) (hubEnv 2592005) "a"
    featureSubscription featureTier ⟨1⟩ none (by decide) (by decide) (by decide) (by decide)
    (by decide) (by decide) (by decide)
  have hs : (featureCalls.foldl next start).state.get (.subscription "a") =
      some featureSubscription := by decide
  have hgranted : FeatureGranted (hubEnv 2592005) (featureCalls.foldl next start).state "a"
      featureTier :=
    (featureGranted_iff hs (by decide) (by decide)).2 ⟨by decide, by decide⟩
  exact absurd (prorated_iff.1 (hr.1 (hg.1 hgranted))) (by decide)

end ManageHub
