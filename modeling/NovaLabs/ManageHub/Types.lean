/-
  The manage_hub contract (contracts/manage_hub/src): errors, records and data keys.

  Unsigned numbers are natural numbers and `i128` are integers; arithmetic that can leave their
  ranges is checked where the code does it.
-/
import NovaLabs.Lib.SortedMap
import NovaLabs.Soroban.CallOut
import NovaLabs.Soroban.Footprint
import Mathlib.Data.String.Basic
import Mathlib.Order.Lattice

namespace ManageHub

open Lib Soroban

/-! ## Errors -/

/-- The errors that the entry points return. -/
inductive Error where
  | adminNotSet
  | tokenAlreadyIssued
  | tokenNotFound
  | unauthorized
  | tokenExpired
  | invalidExpiryDate
  | invalidEventDetails
  | invalidPaymentAmount
  | invalidPaymentToken
  | subscriptionNotFound
  | usdcContractNotSet
  | attendanceLogFailed
  | subscriptionAlreadyExists
  | insufficientBalance
  | timestampOverflow
  | metadataNotFound
  | metadataValidationFailed
  | invalidPauseConfig
  | subscriptionPaused
  | subscriptionNotActive
  | pauseCountExceeded
  | pauseTooEarly
  | subscriptionNotPaused
  | invalidDateRange
  | noAttendanceRecords
  | tierNotFound
  | tierChangeAlreadyProcessed
  | invalidDiscountPercent
  | invalidPromoDateRange
  | promotionAlreadyExists
  | promoCodeExpired
  | promoCodeMaxRedemptions
  | promoCodeInvalid
  | invalidTierPrice
  | tierAlreadyExists
  | tierNotActive
  | tierChangeNotFound
  | renewalNotAllowed
  | transferNotAllowedInGracePeriod
  | gracePeriodExpired
  | autoRenewalFailed
  | tokenFractionalized
  deriving DecidableEq

/-- Pause errors, as `From<PauseError> for Error` turns them into errors. -/
inductive PauseError where
  | contractPaused
  | tokenOpsPaused
  | timeLockActive

def PauseError.toError : PauseError → Error
  | .contractPaused | .tokenOpsPaused => .subscriptionPaused
  | .timeLockActive => .pauseTooEarly

/-- Staking errors, as `From<StakingError> for Error` turns them into errors. -/
inductive StakingError where
  | stakingDisabled
  | stakeNotFound
  | stillLocked
  | tierNotFound
  | belowMinimumStake
  | stakingNotConfigured
  | overflow

def StakingError.toError : StakingError → Error
  | .stakingDisabled => .subscriptionNotActive
  | .stakeNotFound => .tokenNotFound
  | .stillLocked => .pauseTooEarly
  | .tierNotFound => .tierNotFound
  | .belowMinimumStake => .invalidPaymentAmount
  | .stakingNotConfigured => .adminNotSet
  | .overflow => .timestampOverflow

/-- Upgrade errors, as `From<UpgradeError> for Error` turns them into errors. -/
inductive UpgradeError where
  | upgradesDisabled
  | tokenNotFound
  | unauthorized
  | upgradeNotConfigured
  | noUpgradeHistory
  | rollbackLimitExceeded
  | overflow

def UpgradeError.toError : UpgradeError → Error
  | .upgradesDisabled => .subscriptionNotActive
  | .tokenNotFound => .tokenNotFound
  | .unauthorized => .unauthorized
  | .upgradeNotConfigured => .adminNotSet
  | .noUpgradeHistory => .metadataNotFound
  | .rollbackLimitExceeded => .pauseCountExceeded
  | .overflow => .timestampOverflow

/-! ## Tokens -/

/-- `BytesN<32>`. -/
abbrev TokenId := BitVec 256

instance : LinearOrder Address :=
  LinearOrder.lift' Address.id fun a b h => by cases a; cases b; cases h; rfl

inductive MembershipStatus where
  | active
  | paused
  | gracePeriod
  | expired
  | revoked
  | inactive
  deriving DecidableEq

structure MembershipToken where
  id : TokenId
  user : Address
  status : MembershipStatus
  issueDate : ℕ
  expiryDate : ℕ
  tierId : Option String
  gracePeriodEnteredAt : Option ℕ
  gracePeriodExpiresAt : Option ℕ
  renewalAttempts : ℕ
  lastRenewalAttemptAt : Option ℕ
  currentVersion : ℕ
  deriving DecidableEq

structure BatchMintParams where
  id : TokenId
  user : Address
  expiryDate : ℕ

structure BatchTransferParams where
  id : TokenId
  newUser : Address

structure TokenAllowance where
  tokenId : TokenId
  owner : Address
  spender : Address
  amount : ℤ
  expiresAt : Option ℕ
  updatedAt : ℕ
  deriving DecidableEq

structure RoyaltyRecipient where
  address : Address
  percentage : ℕ
  deriving DecidableEq

structure RoyaltyConfig where
  tokenId : TokenId
  recipients : List RoyaltyRecipient
  enabled : Bool
  deriving DecidableEq

structure FractionalTokenInfo where
  tokenId : TokenId
  totalShares : ℤ
  minFractionSize : ℤ
  createdAt : ℕ
  createdBy : Address
  deriving DecidableEq

structure DividendDistribution where
  tokenId : TokenId
  totalAmount : ℤ
  recipients : ℕ
  distributedAt : ℕ
  deriving DecidableEq

/-! ## Metadata -/

inductive MetadataValue where
  | text (s : String)
  | number (n : ℤ)
  | boolean (b : Bool)
  | timestamp (t : ℕ)
  deriving DecidableEq

abbrev Attributes := SortedMap String MetadataValue

structure TokenMetadata where
  description : String
  attributes : Attributes
  version : ℕ
  lastUpdated : ℕ
  updatedBy : Address
  deriving DecidableEq

structure MetadataUpdate where
  version : ℕ
  timestamp : ℕ
  updatedBy : Address
  description : String
  changes : Attributes
  deriving DecidableEq

structure BatchUpdateParams where
  id : TokenId
  description : String
  attributes : Attributes

/-! ## Renewals and pauses of tokens -/

structure RenewalConfig where
  gracePeriodDuration : ℕ
  autoRenewalNoticeDays : ℕ
  renewalsEnabled : Bool
  deriving DecidableEq

inductive RenewalTrigger where
  | manual
  | autoRenewal
  | gracePeriod
  deriving DecidableEq

structure RenewalHistory where
  timestamp : ℕ
  tierId : String
  amount : ℤ
  paymentToken : Address
  success : Bool
  trigger : RenewalTrigger
  oldExpiryDate : ℕ
  newExpiryDate : Option ℕ
  error : Option String
  deriving DecidableEq

structure AutoRenewalSettings where
  enabled : Bool
  tokenId : TokenId
  paymentToken : Address
  updatedAt : ℕ
  deriving DecidableEq

structure EmergencyPauseState where
  isPaused : Bool
  pausedAt : Option ℕ
  pausedBy : Option Address
  reason : Option String
  autoUnpauseAt : Option ℕ
  timeLockUntil : Option ℕ
  pauseCount : ℕ
  deriving DecidableEq

structure TokenPauseState where
  isPaused : Bool
  pausedAt : ℕ
  pausedBy : Address
  reason : Option String
  deriving DecidableEq

/-! ## Upgrades -/

structure UpgradeConfig where
  upgradesEnabled : Bool
  adminOnly : Bool
  maxRollbacks : ℕ
  deriving DecidableEq

structure TokenVersionSnapshot where
  version : ℕ
  expiryDate : ℕ
  status : MembershipStatus
  tierId : Option String
  capturedAt : ℕ
  label : Option String
  deriving DecidableEq

structure UpgradeRecord where
  tokenId : TokenId
  fromVersion : ℕ
  toVersion : ℕ
  upgradedBy : Address
  upgradedAt : ℕ
  label : Option String
  isRollback : Bool
  deriving DecidableEq

structure BatchUpgradeResult where
  tokenId : TokenId
  success : Bool
  newVersion : Option ℕ
  deriving DecidableEq

/-! ## Attendance -/

inductive AttendanceAction where
  | clockIn
  | clockOut
  deriving DecidableEq

structure AttendanceLog where
  id : TokenId
  userId : Address
  action : AttendanceAction
  timestamp : ℕ
  details : SortedMap String String
  deriving DecidableEq

/-! ## Subscriptions and tiers -/

inductive BillingCycle where
  | monthly
  | annual
  deriving DecidableEq

inductive PauseAction where
  | pause
  | resume
  deriving DecidableEq

structure PauseHistoryEntry where
  action : PauseAction
  timestamp : ℕ
  actor : Address
  isAdmin : Bool
  reason : Option String
  pausedDuration : Option ℕ
  appliedExtension : Option ℕ
  deriving DecidableEq

structure Subscription where
  id : String
  user : Address
  paymentToken : Address
  amount : ℤ
  status : MembershipStatus
  createdAt : ℕ
  expiresAt : ℕ
  tierId : String
  billingCycle : BillingCycle
  pausedAt : Option ℕ
  lastResumedAt : ℕ
  pauseCount : ℕ
  totalPausedDuration : ℕ
  pauseHistory : List PauseHistoryEntry
  deriving DecidableEq

/-- Limits on the pauses of subscriptions. -/
structure PauseConfig where
  maxPauseDuration : ℕ
  maxPauseCount : ℕ
  minActiveTime : ℕ
  deriving DecidableEq

inductive TierLevel where
  | free
  | basic
  | pro
  | enterprise
  deriving DecidableEq

inductive TierFeature where
  | basicAccess
  | prioritySupport
  | advancedAnalytics
  | customBranding
  | apiAccess
  | unlimitedStorage
  | teamManagement
  | whiteLabel
  deriving DecidableEq

structure SubscriptionTier where
  id : String
  name : String
  level : TierLevel
  price : ℤ
  annualPrice : ℤ
  features : List TierFeature
  maxUsers : ℕ
  maxStorage : ℕ
  isActive : Bool
  createdAt : ℕ
  updatedAt : ℕ
  deriving DecidableEq

structure CreateTierParams where
  id : String
  name : String
  level : TierLevel
  price : ℤ
  annualPrice : ℤ
  features : List TierFeature
  maxUsers : ℕ
  maxStorage : ℕ

structure UpdateTierParams where
  id : String
  name : Option String
  price : Option ℤ
  annualPrice : Option ℤ
  features : Option (List TierFeature)
  maxUsers : Option ℕ
  maxStorage : Option ℕ
  isActive : Option Bool

structure TierPromotion where
  tierId : String
  discountPercent : ℕ
  promoPrice : ℤ
  startDate : ℕ
  endDate : ℕ
  promoCode : String
  maxRedemptions : ℕ
  currentRedemptions : ℕ
  deriving DecidableEq

structure CreatePromotionParams where
  promoId : String
  tierId : String
  discountPercent : ℕ
  promoPrice : ℤ
  startDate : ℕ
  endDate : ℕ
  promoCode : String
  maxRedemptions : ℕ

inductive TierChangeType where
  | upgrade
  | downgrade
  | lateral
  deriving DecidableEq

inductive TierChangeStatus where
  | pending
  | approved
  | completed
  | cancelled
  | rejected
  deriving DecidableEq

structure TierChangeRequest where
  user : Address
  fromTier : String
  toTier : String
  changeType : TierChangeType
  proratedAmount : ℤ
  effectiveDate : ℕ
  status : TierChangeStatus
  createdAt : ℕ
  deriving DecidableEq

structure TierAnalytics where
  tierId : String
  activeSubscribers : ℕ
  totalRevenue : ℤ
  upgradesCount : ℕ
  downgradesCount : ℕ
  churnRate : ℕ
  updatedAt : ℕ
  deriving DecidableEq

/-! ## Staking -/

structure StakingTier where
  id : String
  name : String
  minStakeAmount : ℤ
  lockDuration : ℕ
  rewardMultiplierBps : ℕ
  baseRateBps : ℕ
  deriving DecidableEq

structure StakeInfo where
  staker : Address
  amount : ℤ
  tierId : String
  stakedAt : ℕ
  unlockAt : ℕ
  claimedRewards : ℤ
  emergencyUnstaked : Bool
  deriving DecidableEq

structure StakingConfig where
  stakingEnabled : Bool
  emergencyUnstakePenaltyBps : ℕ
  stakingToken : Address
  rewardPool : Address
  deriving DecidableEq

/-- What is stored under `Tier(id)`: the key is the same for a subscription tier
    (`SubscriptionDataKey::Tier`) and a staking tier (`StakingDataKey::Tier`), since a data key is
    stored as the name of its variant and its arguments. -/
inductive TierRecord where
  | subscription (tier : SubscriptionTier)
  | staking (tier : StakingTier)
  deriving DecidableEq

/-! ## Data keys -/

/-- The data keys of all modules.  `stakingTierList` is the `TierList` of staking, which is in the
    instance storage; that of the subscription tiers is in the persistent one. -/
inductive DataKey where
  | token (id : TokenId)
  | admin
  | metadata (id : TokenId)
  | metadataHistory (id : TokenId)
  | metadataIndex (key : String) (value : MetadataValue)
  | renewalConfig
  | renewalHistory (id : TokenId)
  | autoRenewalSettings (user : Address)
  | emergencyPauseState
  | tokenPaused (id : TokenId)
  | upgradeConfig
  | upgradeHistory (id : TokenId)
  | versionSnapshot (id : TokenId) (version : ℕ)
  | royalty (id : TokenId)
  | allowance (id : TokenId) (owner spender : Address)
  | fractionInfo (id : TokenId)
  | fractionShares (id : TokenId)
  | pendingRewards (id : TokenId)
  | attendanceLog (id : TokenId)
  | attendanceLogsByUser (user : Address)
  | subscription (id : String)
  | usdcContract
  | pauseConfig
  | tier (id : String)
  | tierList
  | tierPromotion (id : String)
  | tierPromotionList
  | tierChangeRequest (id : String)
  | userTierChangeHistory (user : Address)
  | tierAnalytics (id : String)
  | stakingConfig
  | stakingTierList
  | stake (staker : Address)
  deriving DecidableEq

/-- The variants of the data keys. -/
inductive Kind where
  | token | admin | metadata | metadataHistory | metadataIndex | renewalConfig | renewalHistory
  | autoRenewalSettings | emergencyPauseState | tokenPaused | upgradeConfig | upgradeHistory
  | versionSnapshot | royalty | allowance | fractionInfo | fractionShares | pendingRewards
  | attendanceLog | attendanceLogsByUser | subscription | usdcContract | pauseConfig | tier
  | tierList | tierPromotion | tierPromotionList | tierChangeRequest | userTierChangeHistory
  | tierAnalytics | stakingConfig | stakingTierList | stake
  deriving DecidableEq

@[reducible] def DataKey.kind : DataKey → Kind
  | .token _ => .token
  | .admin => .admin
  | .metadata _ => .metadata
  | .metadataHistory _ => .metadataHistory
  | .metadataIndex _ _ => .metadataIndex
  | .renewalConfig => .renewalConfig
  | .renewalHistory _ => .renewalHistory
  | .autoRenewalSettings _ => .autoRenewalSettings
  | .emergencyPauseState => .emergencyPauseState
  | .tokenPaused _ => .tokenPaused
  | .upgradeConfig => .upgradeConfig
  | .upgradeHistory _ => .upgradeHistory
  | .versionSnapshot _ _ => .versionSnapshot
  | .royalty _ => .royalty
  | .allowance _ _ _ => .allowance
  | .fractionInfo _ => .fractionInfo
  | .fractionShares _ => .fractionShares
  | .pendingRewards _ => .pendingRewards
  | .attendanceLog _ => .attendanceLog
  | .attendanceLogsByUser _ => .attendanceLogsByUser
  | .subscription _ => .subscription
  | .usdcContract => .usdcContract
  | .pauseConfig => .pauseConfig
  | .tier _ => .tier
  | .tierList => .tierList
  | .tierPromotion _ => .tierPromotion
  | .tierPromotionList => .tierPromotionList
  | .tierChangeRequest _ => .tierChangeRequest
  | .userTierChangeHistory _ => .userTierChangeHistory
  | .tierAnalytics _ => .tierAnalytics
  | .stakingConfig => .stakingConfig
  | .stakingTierList => .stakingTierList
  | .stake _ => .stake

@[reducible] instance : Kinded DataKey Kind := ⟨DataKey.kind⟩

/-- The type of the value under a key. -/
@[reducible] def Val : DataKey → Type
  | .token _ => MembershipToken
  | .admin | .usdcContract => Address
  | .metadata _ => TokenMetadata
  | .metadataHistory _ => List MetadataUpdate
  | .metadataIndex _ _ => List TokenId
  | .renewalConfig => RenewalConfig
  | .renewalHistory _ => List RenewalHistory
  | .autoRenewalSettings _ => AutoRenewalSettings
  | .emergencyPauseState => EmergencyPauseState
  | .tokenPaused _ => TokenPauseState
  | .upgradeConfig => UpgradeConfig
  | .upgradeHistory _ => List UpgradeRecord
  | .versionSnapshot _ _ => TokenVersionSnapshot
  | .royalty _ => RoyaltyConfig
  | .allowance _ _ _ => TokenAllowance
  | .fractionInfo _ => FractionalTokenInfo
  | .fractionShares _ | .pendingRewards _ => SortedMap Address ℤ
  | .attendanceLog _ => AttendanceLog
  | .attendanceLogsByUser _ => List AttendanceLog
  | .subscription _ => Subscription
  | .pauseConfig => PauseConfig
  | .tier _ => TierRecord
  | .tierList | .tierPromotionList | .userTierChangeHistory _ | .stakingTierList => List String
  | .tierPromotion _ => TierPromotion
  | .tierChangeRequest _ => TierChangeRequest
  | .tierAnalytics _ => TierAnalytics
  | .stakingConfig => StakingConfig
  | .stake _ => StakeInfo

abbrev State := Storage Val

abbrev Fn (α : Type) := Code State Error α

abbrev EntryPoint := Entry State Transfer Error Unit

/-! ## Access to the storage -/

def State.get (s : State) (k : DataKey) : Option (Val k) := Finmap.lookup k s

def State.put (s : State) (k : DataKey) (v : Val k) : State := Finmap.insert k v s

def State.del (s : State) (k : DataKey) : State := Finmap.erase k s

def load (k : DataKey) : Fn (Option (Val k)) := Storage.load k

def store (k : DataKey) (v : Val k) : Fn Unit := Storage.store k v

def remove (k : DataKey) : Fn Unit := Storage.remove k

section
variable {ks : List Kind} {k k' : DataKey} {s s' : State} {u : Unit}

@[simp] theorem get_empty : State.get ∅ k = none := rfl

@[simp] theorem get_put_self {v : Val k} : (s.put k v).get k = some v := Finmap.lookup_insert s

@[simp] theorem get_put_ne {v : Val k} (h : k' ≠ k) : (s.put k v).get k' = s.get k' :=
  Storage.lookup_insert_of_ne s v h

@[simp] theorem get_del_self : (s.del k).get k = none := Finmap.lookup_erase k s

@[simp] theorem get_del_ne (h : k' ≠ k) : (s.del k).get k' = s.get k' :=
  Storage.lookup_erase_of_ne s h

theorem get_del_eq_some {v : Val k'} :
    (s.del k).get k' = some v ↔ k' ≠ k ∧ s.get k' = some v := by
  by_cases he : k' = k
  · subst he
    rw [get_del_self]
    exact ⟨nofun, fun h => absurd rfl h.1⟩
  · rw [get_del_ne he, and_iff_right he]

@[simp] theorem returns_load {o : Option (Val k)} :
    @Returns _ _ (no_index (Option (Val k))) (load k) s o s' ↔ o = s.get k ∧ s' = s :=
  Storage.returns_load

theorem returns_load_bind {α : Type} {f : Option (Val k) → Fn α} {a : α} :
    Returns (@bind _ _ (no_index (Option (Val k))) _ (load k) f) s a s' ↔
      Returns (f (s.get k)) s a s' := by
  rw [returns_bind_of_reads fun _ _ => returns_load, exists_eq_left]

theorem stops_load_bind {α : Type} {f : Option (Val k) → Fn α} {e : Stop Error} :
    Stops (@bind _ _ (no_index (Option (Val k))) _ (load k) f) s e s' ↔
      Stops (f (s.get k)) s e s' := by
  rw [stops_bind_of_reads fun _ _ => returns_load, exists_eq_left]
  exact or_iff_right fun h => (returns_load.2 ⟨rfl, rfl⟩).not_stops h

@[simp] theorem returns_store {v : Val k} : Returns (store k v) s u s' ↔ s' = s.put k v :=
  Storage.returns_store

theorem returns_store_bind {α : Type} {v : Val k} {f : Unit → Fn α} {a : α} :
    Returns (store k v >>= f) s a s' ↔ Returns (f ()) (s.put k v) a s' := by
  simp only [returns_bind, returns_store]
  constructor
  · rintro ⟨_, _, rfl, h⟩; exact h
  · intro h; exact ⟨(), _, rfl, h⟩

@[simp] theorem returns_remove : Returns (remove k) s u s' ↔ s' = s.del k :=
  Storage.returns_remove

theorem returns_remove_bind {α : Type} {f : Unit → Fn α} {a : α} :
    Returns (remove k >>= f) s a s' ↔ Returns (f ()) (s.del k) a s' := by
  simp only [returns_bind, returns_remove]
  constructor
  · rintro ⟨_, _, rfl, h⟩; exact h
  · intro h; exact ⟨(), _, rfl, h⟩

instance : @Only _ _ _ (no_index (Option (Val k))) _ _ _ ks (load k) :=
  only_of_exec fun _ => rfl

instance {v : Val k} [h : In k.kind ks] : Only ks (store k v) where
  same _ _ hk' := get_put_ne fun he => hk' (he ▸ h.mem)

instance [h : In k.kind ks] : Only ks (remove k) where
  same _ _ hk' := get_del_ne fun he => hk' (he ▸ h.mem)

instance : @Total _ _ (no_index (Option (Val k))) (load k) :=
  ⟨fun s => ⟨s.get k, s, rfl⟩⟩

instance {v : Val k} : Total (store k v) := ⟨fun s => ⟨(), s.put k v, rfl⟩⟩

instance : Total (remove k) := ⟨fun s => ⟨(), s.del k, rfl⟩⟩

/-- Code leaves the keys outside its footprint alone. -/
theorem get_eq_of_returns {α : Type} (ks : List Kind) {x : Fn α} [h : Only ks x] {a : α}
    (hr : Returns x s a s') (hk : k.kind ∉ ks) : s'.get k = s.get k := h.returns hr k hk

end

/-- The host's side of a call, with the sequence number of the ledger. -/
structure HubEnv (me : Address) extends Env me where
  sequence : ℕ

/-! ## Arithmetic -/

/-- `a.checked_add(b)` of `u64`. -/
def checkedAdd64 (a b : ℕ) : Option ℕ := if a + b < 2 ^ 64 then some (a + b) else none

theorem checkedAdd64_eq_some {a b n : ℕ} :
    checkedAdd64 a b = some n ↔ a + b < 2 ^ 64 ∧ n = a + b := by
  unfold checkedAdd64
  rw [Option.ite_none_right_eq_some, Option.some.injEq, eq_comm (a := n)]

/-- `a.checked_sub(b)` of unsigned numbers. -/
def checkedSubNat (a b : ℕ) : Option ℕ := if b ≤ a then some (a - b) else none

/-- The exact result `n` of a checked operation of `i128`. -/
def fitI128 (n : ℤ) : Option ℤ := if -2 ^ 127 ≤ n ∧ n < 2 ^ 127 then some n else none

/-- `a.checked_div(b)` of `i128`. -/
def checkedDivI128 (a b : ℤ) : Option ℤ := if b = 0 then none else fitI128 (a.tdiv b)

/-- The result `n` of arithmetic of `i128`, with overflow checks. -/
def exactI128 (n : ℤ) : Fn ℤ := if -2 ^ 127 ≤ n ∧ n < 2 ^ 127 then pure n else throw .panic

/-- The number fits into `i128`. -/
def FitsI128 (n : ℤ) : Prop := -2 ^ 127 ≤ n ∧ n < 2 ^ 127

instance {n : ℤ} : Decidable (FitsI128 n) := inferInstanceAs (Decidable (_ ∧ _))

theorem returns_exactI128_bind {α : Type} {n : ℤ} {f : ℤ → Fn α} {s s' : State} {a : α} :
    Returns (exactI128 n >>= f) s a s' ↔
      (-2 ^ 127 ≤ n ∧ n < 2 ^ 127) ∧ Returns (f n) s a s' := by
  unfold exactI128
  split_ifs with h
  · rw [pure_bind, and_iff_right h]
  · refine iff_of_false (fun hr => ?_) fun hr => h hr.1
    obtain ⟨_, _, ht, -⟩ := returns_bind.1 hr
    exact returns_throw ht

theorem returns_exactI128 {n m : ℤ} {s s' : State} :
    Returns (exactI128 n) s m s' ↔ FitsI128 n ∧ m = n ∧ s' = s := by
  unfold exactI128 FitsI128
  rw [returns_ite]
  simp

theorem eq_of_fitI128 {n m : ℤ} (h : fitI128 n = some m) : m = n := by
  unfold fitI128 at h
  split_ifs at h
  exact (Option.some.inj h).symm

theorem eq_of_checkedDivI128 {a b m : ℤ} (h : checkedDivI128 a b = some m) : m = a.tdiv b := by
  unfold checkedDivI128 at h
  split_ifs at h
  exact eq_of_fitI128 h

instance {ks : List Kind} {n : ℤ} : Only ks (exactI128 n) := by
  unfold exactI128; infer_instance

end ManageHub
