/-
  Staking (staking.rs) and its rewards (rewards.rs).

  Principal and rewards move between the stakers and the contract's own address; the tokens are
  those of the configuration at the time of the call.
-/
import NovaLabs.ManageHub.Guards

namespace ManageHub

open Lib Soroban

section
variable {me : Address} (env : HubEnv me)

/-! ## Configuration -/

def setStakingConfig (admin : Address) (config : StakingConfig) : Fn Unit := do
  requireStoredAdmin env admin
  failIf (config.emergencyUnstakePenaltyBps > 10000) .invalidPaymentAmount
  store .stakingConfig config

def createStakingTier (admin : Address) (tier : StakingTier) : Fn Unit := do
  requireStoredAdmin env admin
  failIf (tier.minStakeAmount ≤ 0) .invalidPaymentAmount
  failIf (tier.rewardMultiplierBps = 0) .invalidPaymentAmount
  failIf (tier.baseRateBps = 0 ∨ tier.baseRateBps > 10000) .invalidPaymentAmount
  failIf (← load (.tier tier.id)).isSome .tierAlreadyExists
  store (.tier tier.id) (.staking tier)
  let tierList := (← load .stakingTierList).getD []
  store .stakingTierList (tierList ++ [tier.id])

/-- `get_config` of staking. -/
def getStakingConfig : Fn StakingConfig := do
  okOr (← load .stakingConfig) StakingError.stakingNotConfigured.toError

/-- The staking tier in a record: the host traps on a value of another type. -/
def stakingTierOf : Option TierRecord → Fn StakingTier
  | none => throw (.err StakingError.tierNotFound.toError)
  | some (.staking tier) => pure tier
  | some (.subscription _) => throw .panic

/-- `get_tier_internal`. -/
def getStakingTier (id : String) : Fn StakingTier := do
  stakingTierOf (← load (.tier id))

/-! ## Rewards -/

/-- Seconds in a year of 365 days. -/
def yearSecs : ℤ := 365 * 24 * 60 * 60

def calculatePendingRewards (stake : StakeInfo) : Fn ℤ := do
  if stake.emergencyUnstaked then return 0
  else
    let tier ← getStakingTier stake.tierId
    let elapsed : ℤ := max (env.now - stake.stakedAt) 0
    let annual ← okOr (fitI128 (stake.amount * tier.baseRateBps)) StakingError.overflow.toError
    let accrued ← okOr (fitI128 (annual * elapsed)) StakingError.overflow.toError
    let boosted ← okOr (fitI128 (accrued * tier.rewardMultiplierBps)) StakingError.overflow.toError
    let scaled ← okOr (checkedDivI128 boosted (10000 * yearSecs)) StakingError.overflow.toError
    let gross ← okOr (checkedDivI128 scaled 10000) StakingError.overflow.toError
    return max ((fitI128 (gross - stake.claimedRewards)).getD 0) 0

/-! ## Stakes -/

/-- What `stake_tokens` checks before the transfer: it returns the token, the tier, and the
    existing stake. -/
def stakeChecks (staker : Address) (tierId : String) (amount : ℤ) :
    Fn (Address × StakingTier × Option StakeInfo) := do
  requireAuth env.toEnv staker
  let config ← getStakingConfig
  failIf (¬ config.stakingEnabled) StakingError.stakingDisabled.toError
  let tier ← getStakingTier tierId
  failIf (amount < tier.minStakeAmount) StakingError.belowMinimumStake.toError
  let existing ← load (.stake staker)
  failIf (existing.any fun stake => stake.tierId ≠ tierId) .unauthorized
  return (config.stakingToken, tier, existing)

/-- The record of a stake: an existing one grows, and is locked anew. -/
def recordStake (staker : Address) (tierId : String) (amount : ℤ) (tier : StakingTier)
    (existing : Option StakeInfo) : Fn Unit := do
  let newAmount ← existing.elim (pure amount) fun stake =>
    okOr (fitI128 (stake.amount + amount)) StakingError.overflow.toError
  let unlockAt ← okOr (checkedAdd64 env.now tier.lockDuration) StakingError.overflow.toError
  store (.stake staker)
    { staker, amount := newAmount, tierId, stakedAt := existing.elim env.now (·.stakedAt), unlockAt
      claimedRewards := existing.elim 0 (·.claimedRewards), emergencyUnstaked := false }

def stakeTokens (staker : Address) (tierId : String) (amount : ℤ) : EntryPoint := do
  let (token, tier, existing) ← stakeChecks env staker tierId amount
  request ⟨token, staker, me, amount⟩
  recordStake env staker tierId amount tier existing

/-- What `unstake_tokens` checks before the transfers: it returns the configuration, the stake and
    its rewards. -/
def unstakeChecks (staker : Address) : Fn (StakingConfig × StakeInfo × ℤ) := do
  requireAuth env.toEnv staker
  let config ← getStakingConfig
  let stake ← okOr (← load (.stake staker)) StakingError.stakeNotFound.toError
  failIf (env.now < stake.unlockAt) StakingError.stillLocked.toError
  let rewards ← calculatePendingRewards env stake
  return (config, stake, rewards)

/-- The principal, and the rewards in the token `reward_pool`. -/
def unstakeTokens (staker : Address) : EntryPoint := do
  let (config, stake, rewards) ← unstakeChecks env staker
  request ⟨config.stakingToken, me, staker, stake.amount⟩
  requestIf (0 < rewards) ⟨config.rewardPool, me, staker, rewards⟩
  remove (.stake staker)

/-- What `emergency_unstake` checks before the transfer: it returns the token, and the principal
    without the penalty. -/
def emergencyChecks (staker : Address) : Fn (Address × ℤ) := do
  requireAuth env.toEnv staker
  let config ← getStakingConfig
  let stake ← okOr (← load (.stake staker)) StakingError.stakeNotFound.toError
  let product ← okOr (fitI128 (stake.amount * config.emergencyUnstakePenaltyBps))
    StakingError.overflow.toError
  let penalty ← okOr (checkedDivI128 product 10000) StakingError.overflow.toError
  let amountReturned ← okOr (fitI128 (stake.amount - penalty)) StakingError.overflow.toError
  return (config.stakingToken, amountReturned)

def emergencyUnstake (staker : Address) : EntryPoint := do
  let (token, amountReturned) ← emergencyChecks env staker
  requestIf (0 < amountReturned) ⟨token, me, staker, amountReturned⟩
  remove (.stake staker)

end

/-! ## Tiers that are stored -/

theorem createStakingTier_writes {me admin : Address} {env : HubEnv me} {s s' : State} {u : Unit}
    {tier : StakingTier} (h : Returns (createStakingTier env admin tier) s u s') :
    s.get (.tier tier.id) = none ∧ ∃ tierList,
      s' = (s.put (.tier tier.id) (.staking tier)).put .stakingTierList tierList := by
  simp only [createStakingTier, returns_bind_of_checks fun _ _ => requireStoredAdmin_returns,
    returns_failIf_bind, returns_load_bind, returns_store_bind, returns_store,
    Option.not_isSome_iff_eq_none] at h
  obtain ⟨-, -, -, -, hn, rfl⟩ := h
  exact ⟨hn, _, rfl⟩

/-! ## Footprints -/

section
set_option synthInstance.maxSize 1000000

variable {me admin staker : Address} {env : HubEnv me} {ks : List Kind} {id : String} {n : ℤ}

instance [In .stakingConfig ks] {config : StakingConfig} :
    Only ks (setStakingConfig env admin config) := by
  unfold setStakingConfig; infer_instance

instance [In .tier ks] [In .stakingTierList ks] {tier : StakingTier} :
    Only ks (createStakingTier env admin tier) := by
  unfold createStakingTier; infer_instance

instance : Only ks getStakingConfig := by unfold getStakingConfig; infer_instance

instance {o : Option TierRecord} : Only ks (stakingTierOf o) := by
  unfold stakingTierOf; split <;> infer_instance

instance : Only ks (getStakingTier id) := by unfold getStakingTier; infer_instance

instance {stake : StakeInfo} : Only ks (calculatePendingRewards env stake) := by
  unfold calculatePendingRewards; infer_instance

instance : Only ks (stakeChecks env staker id n) := by unfold stakeChecks; infer_instance

instance [In .stake ks] {tier : StakingTier} {existing : Option StakeInfo} :
    Only ks (recordStake env staker id n tier existing) := by
  unfold recordStake; infer_instance

instance : Only ks (unstakeChecks env staker) := by unfold unstakeChecks; infer_instance

instance : Only ks (emergencyChecks env staker) := by unfold emergencyChecks; infer_instance

instance [In .stake ks] : OnlyEntry ks (stakeTokens env staker id n) := by
  unfold stakeTokens; infer_instance

instance [In .stake ks] : OnlyEntry ks (unstakeTokens env staker) := by
  unfold unstakeTokens; infer_instance

instance [In .stake ks] : OnlyEntry ks (emergencyUnstake env staker) := by
  unfold emergencyUnstake; infer_instance

end

end ManageHub
