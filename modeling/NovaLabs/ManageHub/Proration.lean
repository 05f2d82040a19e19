/-
  The amount of a change of tier, for the rest of the subscription.

  It is computed from the monthly prices of both tiers, whatever the billing cycle is.
-/
import NovaLabs.Lib.Truncation
import NovaLabs.ManageHub.Promotions
import Mathlib.Tactic.NormNum

namespace ManageHub

open Lib Soroban

variable {me : Address}

/-! ## What is computed -/

/-- The days of a billing cycle. -/
def BillingCycle.days : BillingCycle → ℕ
  | .monthly => 30
  | .annual => 365

/-- The whole days until the subscription expires. -/
def Subscription.remainingDays (subscription : Subscription) (now : ℕ) : ℕ :=
  (subscription.expiresAt - now) / (24 * 60 * 60)

/-- What a price is worth for the rest of the subscription, at a rate of whole units a day. -/
def Subscription.worth (subscription : Subscription) (now : ℕ) (price : ℤ) : ℤ :=
  price.tdiv subscription.billingCycle.days * subscription.remainingDays now

section
variable {env : HubEnv me} {s s' : State} {subscription : Subscription}
  {currentTier newTier : SubscriptionTier} {amount price : ℤ}

theorem duration_eq (cycle : BillingCycle) : cycle.duration = cycle.days * (24 * 60 * 60) := by
  cases cycle <;> rfl

theorem proratedCost_returns :
    Returns (proratedCost price subscription.billingCycle.duration
      (subscription.expiresAt - env.now)) s amount s' ↔
      (FitsI128 (subscription.worth env.now price) ∧ amount = subscription.worth env.now price) ∧
        s' = s := by
  have hw : price.tdiv ((subscription.billingCycle.duration : ℤ) / (24 * 60 * 60)) *
      (((subscription.expiresAt - env.now : ℕ) : ℤ) / (24 * 60 * 60)) =
      subscription.worth env.now price := by
    rw [Subscription.worth, Subscription.remainingDays, duration_eq]
    push_cast
    rw [Int.mul_ediv_cancel _ (by decide)]
  rw [proratedCost, returns_exactI128, hw, and_assoc]

/-- The change costs the full new price once the subscription has expired. -/
theorem calculateProration_returns :
    Returns (calculateProration env subscription currentTier newTier) s amount s' ↔
      (if subscription.expiresAt ≤ env.now then amount = newTier.price
      else (FitsI128 (subscription.worth env.now currentTier.price) ∧
          FitsI128 (subscription.worth env.now newTier.price) ∧
          FitsI128 (subscription.worth env.now newTier.price -
            subscription.worth env.now currentTier.price)) ∧
        amount = subscription.worth env.now newTier.price -
          subscription.worth env.now currentTier.price) ∧ s' = s := by
  unfold calculateProration
  split_ifs with h
  · rw [returns_pure]
  · simp only [returns_bind_of_reads fun _ _ => proratedCost_returns, returns_exactI128]
    constructor
    · rintro ⟨_, ⟨hc, rfl⟩, _, ⟨hn, rfl⟩, hd, rfl, rfl⟩
      exact ⟨⟨⟨hc, hn, hd⟩, rfl⟩, rfl⟩
    · rintro ⟨⟨⟨hc, hn, hd⟩, rfl⟩, rfl⟩
      exact ⟨_, ⟨hc, rfl⟩, _, ⟨hn, rfl⟩, hd, rfl, rfl⟩

end

/-! ## The law -/

/-- The change of the price for the billing cycle. -/
def Subscription.priceChange (subscription : Subscription) (currentTier newTier : SubscriptionTier) :
    ℤ :=
  newTier.priceOf subscription.billingCycle - currentTier.priceOf subscription.billingCycle

/-- The amount is the change of price, in proportion to the rest of the subscription, but for the
    truncation of the two daily rates and of the days. -/
def Subscription.Proportional (subscription : Subscription) (now : ℕ)
    (currentTier newTier : SubscriptionTier) (amount : ℤ) : Prop :=
  |(amount : ℚ) - subscription.priceChange currentTier newTier *
      (subscription.expiresAt - now : ℕ) / subscription.billingCycle.duration| ≤
    |(subscription.priceChange currentTier newTier : ℚ)| / subscription.billingCycle.days +
      2 * subscription.remainingDays now + 1

section
variable {env : HubEnv me} {s s' : State} {subscription : Subscription}
  {currentTier newTier : SubscriptionTier} {amount : ℤ} {now : ℕ}

/-- The rates of the prices for the cycle lead to an amount in proportion. -/
theorem proportional_of_rates
    (h : amount = subscription.worth now (newTier.priceOf subscription.billingCycle) -
      subscription.worth now (currentTier.priceOf subscription.billingCycle)) :
    subscription.Proportional now currentTier newTier amount := by
  have hdays : 0 < subscription.billingCycle.days := by
    cases subscription.billingCycle <;> decide
  have hle := abs_rates_sub_le (newTier.priceOf subscription.billingCycle)
    (currentTier.priceOf subscription.billingCycle) (subscription.expiresAt - now) hdays
    (k := 24 * 60 * 60) (by decide)
  rw [← duration_eq] at hle
  rw [Subscription.Proportional, h]
  exact hle.trans (le_add_of_nonneg_right zero_le_one)

theorem worth_zero (h : subscription.remainingDays now = 0) (price : ℤ) :
    subscription.worth now price = 0 := by
  rw [Subscription.worth, h, Nat.cast_zero, mul_zero]

/-- A tier that costs nothing for a year. -/
def yearlyFree (price : ℤ) : SubscriptionTier :=
  { id := "", name := "", level := .free, price, annualPrice := 0, features := [], maxUsers := 0
    maxStorage := 0, isActive := true, createdAt := 0, updatedAt := 0 }

/-- With an annual subscription of a day or more, a tier that costs 4 units a day by its monthly price
    and nothing by its annual price is out of proportion. -/
theorem not_proportional (hc : subscription.billingCycle = .annual)
    (hd : 24 * 60 * 60 ≤ subscription.expiresAt - env.now) (hexp : subscription.expiresAt < 2 ^ 64) :
    ∃ amount, Returns (calculateProration env subscription (yearlyFree 0) (yearlyFree 1460)) s
      amount s ∧ ¬ subscription.Proportional env.now (yearlyFree 0) (yearlyFree 1460) amount := by
  have hdays : 1 ≤ subscription.remainingDays env.now := (Nat.one_le_div_iff (by decide)).2 hd
  have hlt : subscription.remainingDays env.now < 2 ^ 64 :=
    (Nat.div_le_self _ _).trans_lt ((Nat.sub_le _ _).trans_lt hexp)
  have hnew : subscription.worth env.now 1460 = 4 * subscription.remainingDays env.now := by
    rw [Subscription.worth, hc]
    rfl
  have hold : subscription.worth env.now 0 = 0 := by
    rw [Subscription.worth, Int.zero_tdiv, zero_mul]
  refine ⟨4 * subscription.remainingDays env.now, calculateProration_returns.2 ⟨?_, rfl⟩, ?_⟩
  · rw [if_neg (by omega), yearlyFree, yearlyFree, hnew, hold]
    unfold FitsI128
    omega
  · have hq : (1 : ℚ) ≤ subscription.remainingDays env.now := by exact_mod_cast hdays
    have hchange : subscription.priceChange (yearlyFree 0) (yearlyFree 1460) = 0 := by
      rw [Subscription.priceChange, hc]
      rfl
    have habs : |(4 : ℚ) * subscription.remainingDays env.now| =
        4 * subscription.remainingDays env.now := abs_of_nonneg (by positivity)
    rw [Subscription.Proportional, hchange]
    push_cast
    rw [zero_mul, zero_div, sub_zero, abs_zero, zero_div, habs]
    linarith

/-- **The amounts of all changes of an unexpired subscription are in proportion to the prices for its
    billing cycle exactly if it is billed monthly, or has less than a day left.** -/
theorem proration_proportional_iff (hlive : env.now < subscription.expiresAt)
    (hexp : subscription.expiresAt < 2 ^ 64) :
    (∀ currentTier newTier amount s',
      Returns (calculateProration env subscription currentTier newTier) s amount s' →
      subscription.Proportional env.now currentTier newTier amount) ↔
    subscription.billingCycle = .monthly ∨
      subscription.expiresAt - env.now < 24 * 60 * 60 := by
  constructor
  · intro hall
    by_contra hne
    obtain ⟨hm, hd⟩ := not_or.1 hne
    have hc : subscription.billingCycle = .annual := by
      cases hcycle : subscription.billingCycle with
      | monthly => exact absurd hcycle hm
      | annual => rfl
    obtain ⟨amount, hr, hn⟩ := not_proportional (s := s) hc (not_lt.1 hd) hexp
    exact hn (hall _ _ amount s hr)
  · intro hcond currentTier newTier amount s' hr
    obtain ⟨ha, -⟩ := calculateProration_returns.1 hr
    rw [if_neg (not_le.2 hlive)] at ha
    refine proportional_of_rates ?_
    rcases hcond with hm | hd
    · rw [hm]
      exact ha.2
    · have hzero : subscription.remainingDays env.now = 0 := Nat.div_eq_of_lt hd
      rw [ha.2]
      simp only [worth_zero hzero]

end

/-- A subscription to the basic tier for a year, next to a better one. -/
def annualCalls : List (Input ⟨0⟩) :=
  [hubCall 1 (.setUsdcContract ⟨1⟩ ⟨9⟩),
    hubCall 2 (.createTier ⟨1⟩ ⟨"basic", "Basic", .basic, 100, 1000, [], 1, 1⟩),
    hubCall 3 (.createTier ⟨1⟩ ⟨"pro", "Pro", .pro, 300, 3000, [], 1, 1⟩),
    hubCall 4 (.createSubscriptionWithTier "a" ⟨2⟩ ⟨9⟩ "basic" .annual none)]

/-- The subscription of `annualCalls`. -/
def annualSubscription : Subscription :=
  newSubscription (hubEnv 4) "a" ⟨2⟩ ⟨9⟩ 1000 31536004 "basic" .annual

/-- A monthly subscription, half a month before its end. -/
theorem proration_proportional_monthly :
    { annualSubscription with billingCycle := .monthly, expiresAt := 2592004 }.Proportional 1296004
      ⟨"basic", "Basic", .basic, 100, 1000, [], 1, 1, true, 2, 2⟩
      ⟨"pro", "Pro", .pro, 300, 3000, [], 1, 1, true, 3, 3⟩ 105 :=
  (@proration_proportional_iff _ (hubEnv 1296004) ∅ _ (by decide) (by decide)).2 (Or.inl rfl) _ _
    105 ∅ (calculateProration_returns.2 ⟨by decide, rfl⟩)

/-- For the whole year, the change from the basic tier (1000 a year) to the better one (3000) costs
    nothing: the rates of both monthly prices over 365 days are 0. -/
theorem proration_annual : ¬ ∀ (tr : List (Ev ⟨0⟩)) (w : World), Run Step start tr w →
    ∀ (env : HubEnv ⟨0⟩) (id newTierId : String) (subscription : Subscription)
      (currentTier newTier : SubscriptionTier) (amount : ℤ) (s' : State), w.now ≤ env.now →
      w.state.get (.subscription id) = some subscription →
      w.state.get (.tier subscription.tierId) = some (.subscription currentTier) →
      w.state.get (.tier newTierId) = some (.subscription newTier) →
      env.now < subscription.expiresAt →
      Returns (calculateProration env subscription currentTier newTier) w.state amount s' →
      subscription.Proportional env.now currentTier newTier amount := by
  intro h
  have hp := h _ _ (run_calls annualCalls (by decide)) (hubEnv 4) "a" "pro" annualSubscription
    ⟨"basic", "Basic", .basic, 100, 1000, [], 1, 1, true, 2, 2⟩
    ⟨"pro", "Pro", .pro, 300, 3000, [], 1, 1, true, 3, 3⟩ 0 _ (by decide) (by decide) (by decide)
    (by decide) (by decide) (calculateProration_returns.2 ⟨by decide, rfl⟩)
  have hchange : annualSubscription.priceChange
      ⟨"basic", "Basic", .basic, 100, 1000, [], 1, 1, true, 2, 2⟩
      ⟨"pro", "Pro", .pro, 300, 3000, [], 1, 1, true, 3, 3⟩ = 2000 := rfl
  have hrest : annualSubscription.expiresAt - (hubEnv 4).now = 31536000 := rfl
  have hcycle : annualSubscription.billingCycle = .annual := rfl
  rw [Subscription.Proportional, Subscription.remainingDays, hchange, hrest, hcycle] at hp
  norm_num [BillingCycle.duration, BillingCycle.days] at hp

end ManageHub
