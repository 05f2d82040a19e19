/-
  Subscriptions of manage_hub (subscription.rs): their pauses, renewals and tier changes, and the
  attendance log that some of them write (attendance_log.rs).
-/
import NovaLabs.Lib.Saturating
import NovaLabs.ManageHub.Tiers

namespace ManageHub

open Lib Soroban

/-! ## Helpers -/

/-- The price of a billing cycle. -/
def SubscriptionTier.priceOf (tier : SubscriptionTier) : BillingCycle → ℤ
  | .monthly => tier.price
  | .annual => tier.annualPrice

/-- 30 or 365 days in seconds. -/
def BillingCycle.duration : BillingCycle → ℕ
  | .monthly => 30 * 24 * 60 * 60
  | .annual => 365 * 24 * 60 * 60

/-- `tier_level_rank`. -/
def TierLevel.rank : TierLevel → ℕ
  | .free => 0
  | .basic => 1
  | .pro => 2
  | .enterprise => 3

def determineChangeType (fromLevel toLevel : TierLevel) : TierChangeType :=
  if fromLevel.rank < toLevel.rank then .upgrade
  else if toLevel.rank < fromLevel.rank then .downgrade
  else .lateral

/-- The two lowest bytes of the length come first in the identifier. -/
def generateEventId (subscriptionId : String) : TokenId :=
  let idLen := subscriptionId.utf8ByteSize
  BitVec.ofNat 256 (idLen % 256 * 2 ^ 248 + idLen / 256 % 256 * 2 ^ 240)

/-- `CHG_` and the last 8 digits of the timestamp. -/
def generateChangeRequestId (timestamp : ℕ) : String :=
  "CHG_" ++ String.ofList ((Nat.toDigits 10 (timestamp % 100000000)).leftpad 8 '0')

section
variable {me : Address} (env : HubEnv me)

/-! ## Attendance -/

def logAttendanceInternal (id : TokenId) (userId : Address) (action : AttendanceAction)
    (details : SortedMap String String) : Fn Unit := do
  failIf (details.len > 50) .invalidEventDetails
  store (.attendanceLog id) { id, userId, action, timestamp := env.now, details }
  let userLogs := (← load (.attendanceLogsByUser userId)).getD []
  store (.attendanceLogsByUser userId)
    (userLogs ++ [{ id, userId, action, timestamp := env.now, details }])

def logAttendance (id : TokenId) (userId : Address) (action : AttendanceAction)
    (details : SortedMap String String) : Fn Unit := do
  requireAuth env.toEnv userId
  logAttendanceInternal env id userId action details

def eventDetails (action subscriptionId : String) : SortedMap String String :=
  SortedMap.set
    (((SortedMap.set ∅ "action" action).set "subscription_id" subscriptionId).set
      "amount" "amount_logged")
    "timestamp" "event_time"

def logSubscriptionEvent (user : Address) (action subscriptionId : String) : Fn Unit :=
  mapErr
    (logAttendanceInternal env (generateEventId subscriptionId) user
      (if action = "subscription_created" then .clockIn else .clockOut)
      (eventDetails action subscriptionId))
    .attendanceLogFailed

/-! ## Configuration -/

/-- `get_pause_config_or_default`. -/
def getPauseConfig : Fn PauseConfig := do
  return (← load .pauseConfig).getD
    { maxPauseDuration := 2592000, maxPauseCount := 3, minActiveTime := 86400 }

def validatePauseConfig (config : PauseConfig) : Fn Unit := do
  failIf (config.maxPauseDuration = 0) .invalidPauseConfig
  failIf (config.maxPauseCount = 0) .invalidPauseConfig

def setPauseConfig (admin : Address) (config : PauseConfig) : Fn Unit := do
  requireAdmin env admin
  validatePauseConfig config
  store .pauseConfig config

/-! ## Subscriptions -/

def getSubscription (id : String) : Fn Subscription := do
  okOr (← load (.subscription id)) .subscriptionNotFound

/-- A subscription that starts now. -/
def newSubscription (id : String) (user paymentToken : Address) (amount : ℤ) (expiresAt : ℕ)
    (tierId : String) (billingCycle : BillingCycle) : Subscription :=
  { id, user, paymentToken, amount, status := .active, createdAt := env.now, expiresAt, tierId
    billingCycle, pausedAt := none, lastResumedAt := env.now, pauseCount := 0
    totalPausedDuration := 0, pauseHistory := [] }

/-- A subscription without a tier. -/
def createSubscription (id : String) (user paymentToken : Address) (amount : ℤ) (duration : ℕ) :
    Fn Unit := do
  requireAuth env.toEnv user
  failIf (← load (.subscription id)).isSome .subscriptionAlreadyExists
  validatePayment paymentToken amount
  let expiresAt ← okOr (checkedAdd64 env.now duration) .timestampOverflow
  store (.subscription id)
    (newSubscription env id user paymentToken amount expiresAt "" .monthly)
  logSubscriptionEvent env user "subscription_created" id

def createSubscriptionWithTier (id : String) (user paymentToken : Address) (tierId : String)
    (billingCycle : BillingCycle) (promoCode : Option String) : Fn Unit := do
  requireAuth env.toEnv user
  failIf (← load (.subscription id)).isSome .subscriptionAlreadyExists
  let tier ← getTier tierId
  failIf (¬ tier.isActive) .tierNotActive
  let finalPrice ← promoCode.elim (pure (tier.priceOf billingCycle))
    (applyPromotion env tierId · (tier.priceOf billingCycle))
  validatePayment paymentToken finalPrice
  let expiresAt ← okOr (checkedAdd64 env.now billingCycle.duration) .timestampOverflow
  store (.subscription id)
    (newSubscription env id user paymentToken finalPrice expiresAt tierId billingCycle)
  updateTierAnalyticsOnSubscribe env tierId finalPrice
  logSubscriptionEvent env user "subscription_created" id

/-- The status becomes inactive, whatever it was. -/
def cancelSubscription (id : String) : Fn Unit := do
  let subscription ← getSubscription id
  requireAuth env.toEnv subscription.user
  store (.subscription id)
    { subscription with
      status := .inactive
      pausedAt := none }

def renewSubscription (id : String) (paymentToken : Address) (amount : ℤ) (duration : ℕ) :
    Fn Unit := do
  let subscription ← getSubscription id
  requireAuth env.toEnv subscription.user
  failIf (subscription.status = .paused) .subscriptionPaused
  validatePayment paymentToken amount
  let expiresAt ← okOr (checkedAdd64 (max subscription.expiresAt env.now) duration)
    .timestampOverflow
  store (.subscription id)
    { subscription with
      expiresAt
      status := .active
      amount }
  runIf (subscription.tierId ≠ "") (updateTierAnalyticsOnSubscribe env subscription.tierId amount)
  logSubscriptionEvent env subscription.user "subscription_renewed" id

/-! ## Pauses of subscriptions -/

/-- The limits on pauses hold for users only. -/
def pauseSubscriptionInternal (id : String) (subscription : Subscription) (actor : Address)
    (isAdmin : Bool) (reason : Option String) : Fn Unit := do
  failIf (subscription.status = .paused) .subscriptionPaused
  failIf (subscription.status ≠ .active) .subscriptionNotActive
  failIf (subscription.expiresAt ≤ env.now) .subscriptionNotActive
  let config ← getPauseConfig
  failIf (¬ isAdmin ∧ config.maxPauseCount ≤ subscription.pauseCount) .pauseCountExceeded
  failIf (¬ isAdmin ∧ env.now - subscription.lastResumedAt < config.minActiveTime) .pauseTooEarly
  store (.subscription id)
    { subscription with
      status := .paused
      pausedAt := some env.now
      pauseCount := saturatingAdd 32 subscription.pauseCount 1
      pauseHistory := subscription.pauseHistory ++
        [{ action := .pause, timestamp := env.now, actor, isAdmin, reason, pausedDuration := none
           appliedExtension := none }] }
  logSubscriptionEvent env subscription.user "subscription_paused" id

def pauseSubscription (id : String) (reason : Option String) : Fn Unit := do
  let subscription ← getSubscription id
  requireAuth env.toEnv subscription.user
  pauseSubscriptionInternal env id subscription subscription.user false reason

def pauseSubscriptionAdmin (id : String) (admin : Address) (reason : Option String) :
    Fn Unit := do
  requireAdmin env admin
  let subscription ← getSubscription id
  pauseSubscriptionInternal env id subscription admin true reason

/-- The expiry moves by the length of the pause; for users, by at most the configured maximum. -/
def resumeSubscriptionInternal (id : String) (subscription : Subscription) (actor : Address)
    (isAdmin : Bool) : Fn Unit := do
  failIf (subscription.status ≠ .paused) .subscriptionNotPaused
  let pausedAt ← okOr subscription.pausedAt .subscriptionNotPaused
  let pausedDuration ← okOr (checkedSubNat env.now pausedAt) .timestampOverflow
  let config ← getPauseConfig
  let appliedExtension :=
    if isAdmin then pausedDuration else min pausedDuration config.maxPauseDuration
  let expiresAt ← okOr (checkedAdd64 subscription.expiresAt appliedExtension) .timestampOverflow
  let totalPausedDuration ←
    okOr (checkedAdd64 subscription.totalPausedDuration pausedDuration) .timestampOverflow
  store (.subscription id)
    { subscription with
      expiresAt
      status := .active
      pausedAt := none
      lastResumedAt := env.now
      totalPausedDuration
      pauseHistory := subscription.pauseHistory ++
        [{ action := .resume, timestamp := env.now, actor, isAdmin, reason := none
           pausedDuration := some pausedDuration, appliedExtension := some appliedExtension }] }
  logSubscriptionEvent env subscription.user "subscription_resumed" id

def resumeSubscription (id : String) : Fn Unit := do
  let subscription ← getSubscription id
  requireAuth env.toEnv subscription.user
  resumeSubscriptionInternal env id subscription subscription.user false

def resumeSubscriptionAdmin (id : String) (admin : Address) : Fn Unit := do
  requireAdmin env admin
  let subscription ← getSubscription id
  resumeSubscriptionInternal env id subscription admin true

/-! ## Tier changes -/

/-- What a price is worth for the rest of a period, in whole days. -/
def proratedCost (price : ℤ) (totalSeconds remainingSeconds : ℕ) : Fn ℤ :=
  exactI128 (price.tdiv (totalSeconds / (24 * 60 * 60)) * (remainingSeconds / (24 * 60 * 60)))

def calculateProration (subscription : Subscription) (currentTier newTier : SubscriptionTier) :
    Fn ℤ := do
  if subscription.expiresAt ≤ env.now then return newTier.price
  else
    let remainingSeconds := subscription.expiresAt - env.now
    let totalSeconds := subscription.billingCycle.duration
    let credit ← proratedCost currentTier.price totalSeconds remainingSeconds
    let newCost ← proratedCost newTier.price totalSeconds remainingSeconds
    exactI128 (newCost - credit)

def requestTierChange (user : Address) (subscriptionId newTierId : String) : Fn String := do
  requireAuth env.toEnv user
  let subscription ← getSubscription subscriptionId
  failIf (subscription.user ≠ user) .unauthorized
  let currentTier ← getTier subscription.tierId
  let newTier ← getTier newTierId
  failIf (¬ newTier.isActive) .tierNotActive
  let proratedAmount ← calculateProration env subscription currentTier newTier
  let changeId := generateChangeRequestId env.now
  store (.tierChangeRequest changeId)
    { user, fromTier := subscription.tierId, toTier := newTierId
      changeType := determineChangeType currentTier.level newTier.level
      proratedAmount, effectiveDate := env.now, status := .pending, createdAt := env.now }
  let history := (← load (.userTierChangeHistory user)).getD []
  store (.userTierChangeHistory user) (history ++ [changeId])
  return changeId

/-- The subscription need not be the user's. -/
def processTierChange (caller : Address) (changeRequestId subscriptionId : String)
    (paymentToken : Address) : Fn Unit := do
  requireAuth env.toEnv caller
  let changeRequest ← okOr (← load (.tierChangeRequest changeRequestId)) .tierChangeNotFound
  failIf (changeRequest.status ≠ .pending) .tierChangeAlreadyProcessed
  runIf (caller ≠ changeRequest.user) (requireAdmin env caller)
  let subscription ← getSubscription subscriptionId
  runIf (changeRequest.proratedAmount > 0)
    (validatePayment paymentToken changeRequest.proratedAmount)
  let tier ← getTier changeRequest.toTier
  store (.subscription subscriptionId)
    { subscription with
      tierId := changeRequest.toTier
      amount := tier.price }
  store (.tierChangeRequest changeRequestId) { changeRequest with status := .completed }
  updateTierAnalyticsOnChange env subscription.tierId changeRequest.toTier
    changeRequest.changeType

def cancelTierChange (user : Address) (changeRequestId : String) : Fn Unit := do
  requireAuth env.toEnv user
  let changeRequest ← okOr (← load (.tierChangeRequest changeRequestId)) .tierChangeNotFound
  failIf (changeRequest.user ≠ user) .unauthorized
  failIf (changeRequest.status ≠ .pending) .tierChangeAlreadyProcessed
  store (.tierChangeRequest changeRequestId) { changeRequest with status := .cancelled }

end

/-! ## Footprints -/

section
set_option synthInstance.maxSize 1000000

variable {me user admin token : Address} {env : HubEnv me} {ks : List Kind} {id id' : String}
  {n : ℤ} {t : ℕ} {reason : Option String} {subscription : Subscription} {isAdmin : Bool}

instance [In .attendanceLog ks] [In .attendanceLogsByUser ks] {logId : TokenId}
    {action : AttendanceAction} {details : SortedMap String String} :
    Only ks (logAttendanceInternal env logId user action details) := by
  unfold logAttendanceInternal; infer_instance

instance [In .attendanceLog ks] [In .attendanceLogsByUser ks] {logId : TokenId}
    {action : AttendanceAction} {details : SortedMap String String} :
    Only ks (logAttendance env logId user action details) := by
  unfold logAttendance; infer_instance

instance [In .attendanceLog ks] [In .attendanceLogsByUser ks] :
    Only ks (logSubscriptionEvent env user id id') := by
  unfold logSubscriptionEvent; infer_instance

instance : Only ks getPauseConfig := by unfold getPauseConfig; infer_instance

instance [In .pauseConfig ks] {config : PauseConfig} :
    Only ks (setPauseConfig env admin config) := by
  unfold setPauseConfig validatePauseConfig; infer_instance

instance : Only ks (getSubscription id) := by unfold getSubscription; infer_instance

instance [In .subscription ks] [In .attendanceLog ks] [In .attendanceLogsByUser ks] :
    Only ks (createSubscription env id user token n t) := by
  unfold createSubscription; infer_instance

instance [In .subscription ks] [In .tierPromotion ks] [In .tierAnalytics ks]
    [In .attendanceLog ks] [In .attendanceLogsByUser ks] {cycle : BillingCycle} :
    Only ks (createSubscriptionWithTier env id user token id' cycle reason) := by
  unfold createSubscriptionWithTier; infer_instance

instance [In .subscription ks] : Only ks (cancelSubscription env id) := by
  unfold cancelSubscription; infer_instance

instance [In .subscription ks] [In .tierAnalytics ks] [In .attendanceLog ks]
    [In .attendanceLogsByUser ks] : Only ks (renewSubscription env id token n t) := by
  unfold renewSubscription; infer_instance

instance [In .subscription ks] [In .attendanceLog ks] [In .attendanceLogsByUser ks] :
    Only ks (pauseSubscriptionInternal env id subscription user isAdmin reason) := by
  unfold pauseSubscriptionInternal; infer_instance

instance [In .subscription ks] [In .attendanceLog ks] [In .attendanceLogsByUser ks] :
    Only ks (pauseSubscription env id reason) := by
  unfold pauseSubscription; infer_instance

instance [In .subscription ks] [In .attendanceLog ks] [In .attendanceLogsByUser ks] :
    Only ks (pauseSubscriptionAdmin env id admin reason) := by
  unfold pauseSubscriptionAdmin; infer_instance

instance [In .subscription ks] [In .attendanceLog ks] [In .attendanceLogsByUser ks] :
    Only ks (resumeSubscriptionInternal env id subscription user isAdmin) := by
  unfold resumeSubscriptionInternal; infer_instance

instance [In .subscription ks] [In .attendanceLog ks] [In .attendanceLogsByUser ks] :
    Only ks (resumeSubscription env id) := by
  unfold resumeSubscription; infer_instance

instance [In .subscription ks] [In .attendanceLog ks] [In .attendanceLogsByUser ks] :
    Only ks (resumeSubscriptionAdmin env id admin) := by
  unfold resumeSubscriptionAdmin; infer_instance

instance {currentTier newTier : SubscriptionTier} :
    Only ks (calculateProration env subscription currentTier newTier) := by
  unfold calculateProration proratedCost; infer_instance

instance [In .tierChangeRequest ks] [In .userTierChangeHistory ks] :
    Only ks (requestTierChange env user id id') := by
  unfold requestTierChange; infer_instance

instance [In .subscription ks] [In .tierChangeRequest ks] [In .tierAnalytics ks] :
    Only ks (processTierChange env user id id' token) := by
  unfold processTierChange; infer_instance

instance [In .tierChangeRequest ks] : Only ks (cancelTierChange env user id) := by
  unfold cancelTierChange; infer_instance

end

end ManageHub
