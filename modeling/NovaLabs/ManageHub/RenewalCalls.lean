/-
  What the renewals of tokens check and write, and the grace periods.
-/
import NovaLabs.ManageHub.Interface

namespace ManageHub

open Lib Soroban

variable {me : Address}

/-! ## Manual renewal -/

/-- The configuration of the renewals. -/
def State.renewalConfig (s : State) : RenewalConfig :=
  (s.get .renewalConfig).getD
    { gracePeriodDuration := 7 * 24 * 60 * 60, autoRenewalNoticeDays := 24 * 60 * 60
      renewalsEnabled := true }

/-- The token, renewed. -/
def MembershipToken.renewed (token : MembershipToken) (now : ℕ) (tierId : String)
    (cycle : BillingCycle) : MembershipToken :=
  { token with
    expiryDate := max token.expiryDate now + cycle.duration
    status := .active
    tierId := some tierId
    gracePeriodEnteredAt := none
    gracePeriodExpiresAt := none
    renewalAttempts := saturatingAdd 32 token.renewalAttempts 1
    lastRenewalAttemptAt := some now }

/-- The user of the token can renew it. -/
structure TokenRenewable (env : HubEnv me) (s : State) (id : TokenId) (paymentToken : Address)
    (tierId : String) (cycle : BillingCycle) (token : MembershipToken) (tier : SubscriptionTier) :
    Prop where
  unpaused : isContractPaused s env.now = false ∧ isTokenPaused s id = false
  enabled : s.renewalConfig.renewalsEnabled = true
  stored : s.get (.token id) = some token
  authorised : token.user ∈ env.auths
  offered : s.get (.tier tierId) = some (.subscription tier)
  payment : s.get .usdcContract = some paymentToken
  price : 0 < tier.priceOf cycle
  expiry : max token.expiryDate env.now + cycle.duration < 2 ^ 64

section
variable {env : HubEnv me} {s s' : State} {u : Unit} {id : TokenId} {paymentToken : Address}
  {tierId : String} {cycle : BillingCycle}

theorem getRenewalConfig_returns {config : RenewalConfig} :
    Returns getRenewalConfig s config s' ↔ config = s.renewalConfig ∧ s' = s := by
  simp only [getRenewalConfig, returns_load_bind, returns_pure, State.renewalConfig]

theorem getUsdcContractAddress_returns {token : Address} :
    Returns getUsdcContractAddress s token s' ↔ s.get .usdcContract = some token ∧ s' = s := by
  simp only [getUsdcContractAddress, returns_load_bind, returns_okOr]

theorem renewToken_returns :
    Returns (renewToken env id paymentToken tierId cycle) s u s' ↔ ∃ token tier,
      TokenRenewable env s id paymentToken tierId cycle token tier ∧
        Returns (recordRenewal id
          { timestamp := env.now, tierId, amount := tier.priceOf cycle, paymentToken
            success := true, trigger := .manual, oldExpiryDate := token.expiryDate
            newExpiryDate := some (max token.expiryDate env.now + cycle.duration), error := none })
          (s.put (.token id) (token.renewed env.now tierId cycle)) u s' := by
  simp only [renewToken, returns_bind_of_checks fun _ _ => requireNotPaused_returns,
    returns_bind_of_checks fun _ _ => requireTokenNotPaused_returns,
    returns_bind_of_reads fun _ _ => getRenewalConfig_returns, returns_failIf_bind,
    returns_bind_of_reads fun _ _ => loadToken_returns, returns_requireAuth_bind,
    returns_bind_of_reads fun _ _ => getTier_returns,
    returns_bind_of_reads fun _ _ => getUsdcContractAddress_returns, returns_okOr_bind,
    returns_store_bind, checkedAdd64_eq_some, not_not, not_le]
  constructor
  · rintro ⟨hc, hp, _, rfl, hen, token, ht, hauth, tier, htier, _, hpay, rfl, hprice, _,
      ⟨hexp, rfl⟩, hr⟩
    exact ⟨token, tier, ⟨⟨hc, hp⟩, hen, ht, hauth, htier, hpay, hprice, hexp⟩, hr⟩
  · rintro ⟨token, tier, ⟨⟨hc, hp⟩, hen, ht, hauth, htier, hpay, hprice, hexp⟩, hr⟩
    exact ⟨hc, hp, _, rfl, hen, token, ht, hauth, tier, htier, _, hpay, rfl, hprice, _,
      ⟨hexp, rfl⟩, hr⟩

end

/-! ## Grace periods -/

/-- The token, in a grace period. -/
def MembershipToken.graced (token : MembershipToken) (now expiresAt : ℕ) : MembershipToken :=
  { token with
    status := .gracePeriod
    gracePeriodEnteredAt := some now
    gracePeriodExpiresAt := some expiresAt }

/-- The token is active, and past its expiry. -/
def MembershipToken.lapsed (token : MembershipToken) (now : ℕ) : Prop :=
  token.status = .active ∧ token.expiryDate < now

/-- The grace period of the token is over. -/
def MembershipToken.graceOver (token : MembershipToken) (now : ℕ) : Prop :=
  token.status = .gracePeriod ∧ token.gracePeriodExpiresAt.any (· < now)

section
variable {env : HubEnv me} {s s' : State} {id : TokenId} {token updated : MembershipToken}

theorem gracePeriodToken_returns :
    Returns (gracePeriodToken env token) s updated s' ↔
      (env.now + s.renewalConfig.gracePeriodDuration < 2 ^ 64 ∧
        updated = token.graced env.now (env.now + s.renewalConfig.gracePeriodDuration)) ∧
      s' = s := by
  simp only [gracePeriodToken, returns_bind_of_reads fun _ _ => getRenewalConfig_returns,
    returns_okOr_bind, checkedAdd64_eq_some, returns_pure]
  constructor
  · rintro ⟨_, rfl, _, ⟨hlt, rfl⟩, rfl, rfl⟩
    exact ⟨⟨hlt, rfl⟩, rfl⟩
  · rintro ⟨⟨hlt, rfl⟩, rfl⟩
    exact ⟨_, rfl, _, ⟨hlt, rfl⟩, rfl, rfl⟩

/-- A lapsed token enters a grace period, any other is left alone. -/
theorem checkAndApplyGracePeriod_returns :
    Returns (checkAndApplyGracePeriod env id) s updated s' ↔ ∃ token,
      s.get (.token id) = some token ∧
        ((token.lapsed env.now ∧
          (env.now + s.renewalConfig.gracePeriodDuration < 2 ^ 64 ∧
            updated = token.graced env.now (env.now + s.renewalConfig.gracePeriodDuration)) ∧
          s' = s.put (.token id)
            (token.graced env.now (env.now + s.renewalConfig.gracePeriodDuration))) ∨
        (¬ token.lapsed env.now ∧ (updated = token ∧ ¬ token.graceOver env.now) ∧ s' = s)) := by
  simp only [checkAndApplyGracePeriod, returns_bind_of_reads fun _ _ => loadToken_returns]
  refine exists_congr fun token => and_congr_right fun _ => ?_
  by_cases h : token.lapsed env.now
  · have hover (n : ℕ) : ¬ (token.graced env.now (env.now + n)).graceOver env.now := by
      rintro ⟨-, hlt⟩
      simp [MembershipToken.graced] at hlt
    simp only [decide_eq_true (show _ ∧ _ from h), if_pos, runIf,
      returns_bind_of_reads fun _ _ => gracePeriodToken_returns, returns_store_bind,
      returns_failIf_bind, returns_pure, h, not_true_eq_false, false_and, or_false, true_and]
    constructor
    · rintro ⟨_, ⟨hlt, rfl⟩, -, rfl, rfl⟩
      exact ⟨⟨hlt, rfl⟩, rfl⟩
    · rintro ⟨⟨hlt, rfl⟩, rfl⟩
      exact ⟨_, ⟨hlt, rfl⟩, hover _, rfl, rfl⟩
  · simp only [decide_eq_false (show ¬ (_ ∧ _) from h), runIf, Bool.false_eq_true, if_false,
      pure_bind, returns_failIf_bind, returns_pure, h, not_false_eq_true, false_and, false_or,
      true_and]
    constructor
    · rintro ⟨hover, rfl, rfl⟩
      exact ⟨⟨rfl, hover⟩, rfl⟩
    · rintro ⟨⟨rfl, hover⟩, rfl⟩
      exact ⟨hover, rfl, rfl⟩

end

/-! ## Automatic renewal -/

/-- The token may be renewed automatically, whoever calls. -/
structure AutoRenewable (env : HubEnv me) (s : State) (id : TokenId) (token : MembershipToken)
    (settings : AutoRenewalSettings) (tierId : String) (tier : SubscriptionTier) : Prop where
  stored : s.get (.token id) = some token
  chosen : s.get (.autoRenewalSettings token.user) = some settings
  enabled : settings.enabled = true ∧ settings.tokenId = id
  eligible : Returns (checkAutoRenewalEligibility env id) s true s
  tier : token.tierId = some tierId ∧ s.get (.tier tierId) = some (.subscription tier)
  payment : s.get .usdcContract = some settings.paymentToken
  expiry : token.expiryDate + 30 * 24 * 60 * 60 < 2 ^ 64

section
variable {env : HubEnv me} {s s' : State} {u : Unit} {id : TokenId}

/-- The time is within the notice before the expiry of the active token. -/
theorem eligible_iff {token : MembershipToken} (ht : s.get (.token id) = some token) :
    Returns (checkAutoRenewalEligibility env id) s true s' ↔
      (s.renewalConfig.autoRenewalNoticeDays ≤ token.expiryDate ∧
        token.expiryDate - s.renewalConfig.autoRenewalNoticeDays ≤ env.now ∧
        env.now < token.expiryDate ∧ token.status = .active) ∧ s' = s := by
  simp only [checkAutoRenewalEligibility, returns_bind_of_reads fun _ _ => loadToken_returns, ht,
    Option.some.injEq, exists_eq_left', returns_bind_of_reads fun _ _ => getRenewalConfig_returns,
    exists_eq_left, returns_okOr_bind, returns_pure, checkedSubNat, Option.ite_none_right_eq_some,
    eq_comm (a := true), Bool.and_eq_true, decide_eq_true_eq]
  constructor
  · rintro ⟨_, ⟨hle, rfl⟩, ⟨⟨hnotice, hexpiry⟩, hactive⟩, rfl⟩
    exact ⟨⟨hle, hnotice, hexpiry, hactive⟩, rfl⟩
  · rintro ⟨⟨hle, hnotice, hexpiry, hactive⟩, rfl⟩
    exact ⟨_, ⟨hle, rfl⟩, ⟨⟨hnotice, hexpiry⟩, hactive⟩, rfl⟩

theorem processAutoRenewal_returns :
    Returns (processAutoRenewal env id) s u s' ↔ ∃ token settings tierId tier,
      AutoRenewable env s id token settings tierId tier ∧
        Returns (recordRenewal id
          { timestamp := env.now, tierId, amount := tier.price
            paymentToken := settings.paymentToken, success := true, trigger := .autoRenewal
            oldExpiryDate := token.expiryDate
            newExpiryDate := some (token.expiryDate + 30 * 24 * 60 * 60), error := none })
          (s.put (.token id)
            { token with
              expiryDate := token.expiryDate + 30 * 24 * 60 * 60
              renewalAttempts := saturatingAdd 32 token.renewalAttempts 1
              lastRenewalAttemptAt := some env.now }) u s' := by
  have hpay (p : Prop) [Decidable p] (x : Fn Unit) (v : Unit) (t : State) :
      Returns (runIf p (x >>= fun _ => throw (.err Error.autoRenewalFailed))) s v t ↔
        ¬ p ∧ t = s := by
    rw [returns_runIf, returns_bind]
    simp
  simp only [processAutoRenewal, returns_bind_of_reads fun _ _ => loadToken_returns,
    returns_load_bind, returns_okOr_bind, returns_failIf_bind,
    returns_reads_bind (x := checkAutoRenewalEligibility env id),
    returns_bind_of_reads fun _ _ => getTier_returns,
    returns_bind_of_reads fun _ _ => getUsdcContractAddress_returns,
    returns_bind_of_checks fun _ _ => hpay _ _ _ _, returns_store_bind, checkedAdd64_eq_some,
    not_or, not_not]
  constructor
  · rintro ⟨token, ht, settings, hs, hen, eligible, hel, rfl, tierId, htid, tier, htier, usdc,
      husdc, rfl, _, ⟨hexp, rfl⟩, hr⟩
    exact ⟨token, settings, tierId, tier, ⟨ht, hs, hen, hel, ⟨htid, htier⟩, husdc, hexp⟩, hr⟩
  · rintro ⟨token, settings, tierId, tier, ⟨ht, hs, hen, hel, ⟨htid, htier⟩, husdc, hexp⟩, hr⟩
    exact ⟨token, ht, settings, hs, hen, _, hel, rfl, tierId, htid, tier, htier, _, husdc, rfl, _,
      ⟨hexp, rfl⟩, hr⟩

instance {entry : RenewalHistory} : Total (recordRenewal id entry) := by
  unfold recordRenewal; infer_instance

theorem processAutoRenewal_passes :
    (∃ s', Returns (processAutoRenewal env id) s () s') ↔
      ∃ token settings tierId tier, AutoRenewable env s id token settings tierId tier := by
  simp only [processAutoRenewal_returns]
  constructor
  · rintro ⟨s', token, settings, tierId, tier, hok, -⟩
    exact ⟨token, settings, tierId, tier, hok⟩
  · rintro ⟨token, settings, tierId, tier, hok⟩
    exact (exists_returns _ _).imp fun s' hr => ⟨token, settings, tierId, tier, hok, hr⟩

end

end ManageHub
