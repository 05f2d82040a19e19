/-
  Renewals of membership tokens, manual and automatic, and grace periods (membership_token.rs).
-/
import NovaLabs.ManageHub.Subscriptions

namespace ManageHub

open Lib Soroban

section
variable {me : Address} (env : HubEnv me)

/-! ## Configuration -/

def setRenewalConfig (gracePeriodDuration autoRenewalNoticeDays : ℕ) (renewalsEnabled : Bool) :
    Fn Unit := do
  ignore (authAdmin env)
  store .renewalConfig { gracePeriodDuration, autoRenewalNoticeDays, renewalsEnabled }

/-- By default, a grace period of 7 days and a notice of one day. -/
def getRenewalConfig : Fn RenewalConfig := do
  return (← load .renewalConfig).getD
    { gracePeriodDuration := 7 * 24 * 60 * 60, autoRenewalNoticeDays := 24 * 60 * 60
      renewalsEnabled := true }

/-! ## Manual renewal -/

def recordRenewal (tokenId : TokenId) (entry : RenewalHistory) : Fn Unit := do
  let history := (← load (.renewalHistory tokenId)).getD []
  store (.renewalHistory tokenId) (history ++ [entry])

/-- From the expiry on, or from now if the token has expired. -/
def renewToken (id : TokenId) (paymentToken : Address) (tierId : String)
    (billingCycle : BillingCycle) : Fn Unit := do
  requireNotPaused env
  requireTokenNotPaused id
  let config ← getRenewalConfig
  failIf (¬ config.renewalsEnabled) .renewalNotAllowed
  let token ← loadToken id
  requireAuth env.toEnv token.user
  let tier ← getTier tierId
  let usdcContract ← getUsdcContractAddress
  failIf (paymentToken ≠ usdcContract) .invalidPaymentToken
  failIf (tier.priceOf billingCycle ≤ 0) .invalidPaymentAmount
  let newExpiry ← okOr (checkedAdd64 (max token.expiryDate env.now) billingCycle.duration)
    .timestampOverflow
  store (.token id)
    { token with
      expiryDate := newExpiry
      status := .active
      tierId := some tierId
      gracePeriodEnteredAt := none
      gracePeriodExpiresAt := none
      renewalAttempts := saturatingAdd 32 token.renewalAttempts 1
      lastRenewalAttemptAt := some env.now }
  recordRenewal id
    { timestamp := env.now, tierId, amount := tier.priceOf billingCycle, paymentToken
      success := true, trigger := .manual, oldExpiryDate := token.expiryDate
      newExpiryDate := some newExpiry, error := none }

/-! ## Grace periods -/

/-- The token in a grace period from now on. -/
def gracePeriodToken (token : MembershipToken) : Fn MembershipToken := do
  let config ← getRenewalConfig
  let graceExpiry ← okOr (checkedAdd64 env.now config.gracePeriodDuration) .timestampOverflow
  return { token with
    status := .gracePeriod
    gracePeriodEnteredAt := some env.now
    gracePeriodExpiresAt := some graceExpiry }

def enterGracePeriodOnAutoRenewalFailure (id : TokenId) (token : MembershipToken) : Fn Unit := do
  let token ← gracePeriodToken env token
  store (.token id) token

/-- Anyone may call it. -/
def checkAndApplyGracePeriod (id : TokenId) : Fn MembershipToken := do
  let token ← loadToken id
  let entered := decide (token.status = .active ∧ token.expiryDate < env.now)
  let token ← if entered then gracePeriodToken env token else pure token
  runIf entered (store (.token id) token)
  failIf (token.status = .gracePeriod ∧ token.gracePeriodExpiresAt.any (· < env.now))
    .gracePeriodExpired
  return token

/-! ## Automatic renewal -/

def setAutoRenewal (tokenId : TokenId) (enabled : Bool) (paymentToken : Address) : Fn Unit := do
  let token ← loadToken tokenId
  requireAuth env.toEnv token.user
  store (.autoRenewalSettings token.user)
    { enabled, tokenId, paymentToken, updatedAt := env.now }

/-- The time is within the notice before the expiry of an active token. -/
def checkAutoRenewalEligibility (id : TokenId) : Fn Bool := do
  let token ← loadToken id
  let config ← getRenewalConfig
  let renewalThreshold ←
    okOr (checkedSubNat token.expiryDate config.autoRenewalNoticeDays) .timestampOverflow
  return renewalThreshold ≤ env.now && env.now < token.expiryDate && token.status = .active

/-- Anyone may call it, and no pause is looked up.  The grace period that is entered on a wrong
    payment token is taken back with the error that follows it. -/
def processAutoRenewal (id : TokenId) : Fn Unit := do
  let token ← loadToken id
  let settings ← okOr (← load (.autoRenewalSettings token.user)) .autoRenewalFailed
  failIf (¬ settings.enabled ∨ settings.tokenId ≠ id) .autoRenewalFailed
  let eligible ← checkAutoRenewalEligibility env id
  failIf (¬ eligible) .renewalNotAllowed
  let tierId ← okOr token.tierId .tierNotFound
  let tier ← getTier tierId
  let usdcContract ← getUsdcContractAddress
  runIf (settings.paymentToken ≠ usdcContract) do
    enterGracePeriodOnAutoRenewalFailure env id token
    throw (.err .autoRenewalFailed)
  let newExpiry ← okOr (checkedAdd64 token.expiryDate (30 * 24 * 60 * 60)) .timestampOverflow
  store (.token id)
    { token with
      expiryDate := newExpiry
      renewalAttempts := saturatingAdd 32 token.renewalAttempts 1
      lastRenewalAttemptAt := some env.now }
  recordRenewal id
    { timestamp := env.now, tierId, amount := tier.price, paymentToken := settings.paymentToken
      success := true, trigger := .autoRenewal, oldExpiryDate := token.expiryDate
      newExpiryDate := some newExpiry, error := none }

end

/-! ## Footprints -/

section
set_option synthInstance.maxSize 1000000

variable {me token : Address} {env : HubEnv me} {ks : List Kind} {id : TokenId}

instance [In .renewalConfig ks] {grace notice : ℕ} {enabled : Bool} :
    Only ks (setRenewalConfig env grace notice enabled) := by
  unfold setRenewalConfig; infer_instance

instance : Only ks getRenewalConfig := by unfold getRenewalConfig; infer_instance

instance [In .renewalHistory ks] {entry : RenewalHistory} : Only ks (recordRenewal id entry) := by
  unfold recordRenewal; infer_instance

instance [In .token ks] [In .renewalHistory ks] {tierId : String} {cycle : BillingCycle} :
    Only ks (renewToken env id token tierId cycle) := by
  unfold renewToken; infer_instance

instance {token : MembershipToken} : Only ks (gracePeriodToken env token) := by
  unfold gracePeriodToken; infer_instance

instance [In .token ks] {token : MembershipToken} :
    Only ks (enterGracePeriodOnAutoRenewalFailure env id token) := by
  unfold enterGracePeriodOnAutoRenewalFailure; infer_instance

instance [In .token ks] : Only ks (checkAndApplyGracePeriod env id) := by
  unfold checkAndApplyGracePeriod; infer_instance

instance [In .autoRenewalSettings ks] {enabled : Bool} :
    Only ks (setAutoRenewal env id enabled token) := by
  unfold setAutoRenewal; infer_instance

instance : Only ks (checkAutoRenewalEligibility env id) := by
  unfold checkAutoRenewalEligibility; infer_instance

instance [In .token ks] [In .renewalHistory ks] : Only ks (processAutoRenewal env id) := by
  unfold processAutoRenewal; infer_instance

end

end ManageHub
