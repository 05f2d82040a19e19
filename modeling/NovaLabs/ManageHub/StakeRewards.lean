/-
  The rewards of stakes: what they are in exact arithmetic, what a top-up does to them, and when
  their products overflow.

  Along runs no rewards are ever claimed and the tier of a stake stays what it was
  (`StakesSound`), so the pending rewards are the product of amount, rate, elapsed time and
  multiplier, divided by `rewardUnit` and rounded down (`pendingRewards_eq`).
-/
import NovaLabs.ManageHub.Solvency

namespace ManageHub

open Lib Soroban

variable {me : Address}

/-! ## The formula -/

/-- What `calculate_pending_rewards` evaluates to. -/
def pendingRewards (env : HubEnv me) (s : State) (stake : StakeInfo) : Except (Stop Error) ℤ :=
  (exec (calculatePendingRewards env stake) s).1

/-- Basis points, seconds of a year, basis points. -/
def rewardUnit : ℤ := 10000 * yearSecs * 10000

/-- The seconds since a stake was made. -/
def StakeInfo.elapsed (stake : StakeInfo) (now : ℕ) : ℤ := max ((now : ℤ) - stake.stakedAt) 0

/-- What a token earns in units of `rewardUnit`. -/
def StakingTier.yield (tier : StakingTier) (elapsed : ℤ) : ℤ :=
  tier.baseRateBps * elapsed * tier.rewardMultiplierBps

/-- The products of the reward formula fit an `i128`. -/
def RewardFits (tier : StakingTier) (amount elapsed : ℤ) : Prop :=
  amount * tier.baseRateBps < 2 ^ 127 ∧ amount * tier.yield elapsed < 2 ^ 127

instance (tier : StakingTier) (amount elapsed : ℤ) : Decidable (RewardFits tier amount elapsed) :=
  inferInstanceAs (Decidable (_ ∧ _))

/-- The tier passed the checks of `create_staking_tier`. -/
structure StakingTier.Accepted (tier : StakingTier) : Prop where
  minimum : 0 < tier.minStakeAmount
  multiplier : tier.rewardMultiplierBps ≠ 0
  rate : tier.baseRateBps ≠ 0
  rate_le : tier.baseRateBps ≤ 10000

section
variable {env : HubEnv me} {s s' : State} {stake : StakeInfo} {tier : StakingTier}

theorem fitI128_of_nonneg {n : ℤ} (h : 0 ≤ n) :
    fitI128 n = if n < 2 ^ 127 then some n else none := by
  unfold fitI128
  congr 1
  rw [eq_iff_iff]
  omega

theorem checkedDivI128_of_nonneg {n d : ℤ} (hn : 0 ≤ n) (hd : 0 < d) (hfit : n < 2 ^ 127) :
    checkedDivI128 n d = some (n / d) := by
  have hq : 0 ≤ n / d := Int.ediv_nonneg hn hd.le
  have hle : n / d ≤ n := Int.ediv_le_self _ hn
  rw [checkedDivI128, if_neg hd.ne', Int.tdiv_eq_ediv_of_nonneg hn, fitI128_of_nonneg hq,
    if_pos (by omega)]

theorem getStakingTier_returns {id : String} :
    Returns (getStakingTier id) s tier s' ↔ s.get (.tier id) = some (.staking tier) ∧ s' = s := by
  rw [getStakingTier, returns_load_bind]
  rcases s.get (.tier id) with _ | (tier' | tier')
  · simp [stakingTierOf]
  · simp [stakingTierOf]
  · simp [stakingTierOf, eq_comm]

theorem StakeInfo.elapsed_nonneg (stake : StakeInfo) (now : ℕ) : 0 ≤ stake.elapsed now :=
  le_max_right _ _

theorem StakingTier.yield_nonneg (tier : StakingTier) {elapsed : ℤ} (h : 0 ≤ elapsed) :
    0 ≤ tier.yield elapsed :=
  mul_nonneg (mul_nonneg (Int.natCast_nonneg _) h) (Int.natCast_nonneg _)

/-- The stake was recorded by `stake_tokens` and no rewards have been claimed. -/
structure StakeInfo.Fresh (s : State) (stake : StakeInfo) (tier : StakingTier) : Prop where
  stored : s.get (.tier stake.tierId) = some (.staking tier)
  accepted : tier.Accepted
  positive : 0 < stake.amount
  unclaimed : stake.claimedRewards = 0
  active : stake.emergencyUnstaked = false

/-- The product after each factor of the reward formula: none is negative, and the last two do not
    decrease. -/
theorem StakeInfo.Fresh.products (h : stake.Fresh s tier) {e : ℤ} (he : 0 ≤ e) :
    0 ≤ stake.amount * tier.baseRateBps ∧ 0 ≤ stake.amount * tier.baseRateBps * e ∧
      stake.amount * tier.baseRateBps * e * tier.rewardMultiplierBps =
        stake.amount * tier.yield e ∧
      stake.amount * tier.baseRateBps * e ≤ stake.amount * tier.yield e := by
  have hm : (1 : ℤ) ≤ tier.rewardMultiplierBps := by have := h.accepted.multiplier; omega
  have h₁ : 0 ≤ stake.amount * tier.baseRateBps := mul_nonneg h.positive.le (Int.natCast_nonneg _)
  have h₂ : 0 ≤ stake.amount * tier.baseRateBps * e := mul_nonneg h₁ he
  have h₃ : stake.amount * tier.baseRateBps * e * tier.rewardMultiplierBps =
      stake.amount * tier.yield e := by rw [StakingTier.yield]; ring
  exact ⟨h₁, h₂, h₃, h₃ ▸ le_mul_of_one_le_right h₂ hm⟩

/-- The rewards of a stake, where their products fit. -/
theorem StakeInfo.Fresh.returns (h : stake.Fresh s tier)
    (hfit : RewardFits tier stake.amount (stake.elapsed env.now)) :
    Returns (calculatePendingRewards env stake) s
      (stake.amount * tier.yield (stake.elapsed env.now) / rewardUnit) s := by
  have he := stake.elapsed_nonneg env.now
  obtain ⟨h₁, h₂, h₃, hle⟩ := h.products he
  have hpos : 0 ≤ stake.amount * tier.yield (stake.elapsed env.now) := h₂.trans hle
  have hscaled : 0 ≤ stake.amount * tier.yield (stake.elapsed env.now) / (10000 * yearSecs) :=
    Int.ediv_nonneg hpos (by decide)
  have hscaled_le : stake.amount * tier.yield (stake.elapsed env.now) / (10000 * yearSecs) ≤
      stake.amount * tier.yield (stake.elapsed env.now) := Int.ediv_le_self _ hpos
  rw [calculatePendingRewards, if_neg (by simp [h.active]),
    returns_bind_of_reads fun _ _ => getStakingTier_returns]
  refine ⟨tier, h.stored, ?_⟩
  simp only [returns_okOr_bind, returns_pure]
  refine ⟨_, (fitI128_of_nonneg h₁).trans (if_pos hfit.1), _,
    (fitI128_of_nonneg h₂).trans (if_pos (hle.trans_lt hfit.2)), _,
    (congrArg fitI128 h₃).trans ((fitI128_of_nonneg hpos).trans (if_pos hfit.2)), _,
    checkedDivI128_of_nonneg hpos (by decide) hfit.2, _,
    checkedDivI128_of_nonneg hscaled (by decide) (hscaled_le.trans_lt hfit.2), ?_, trivial⟩
  have hgross : 0 ≤ stake.amount * tier.yield (stake.elapsed env.now) / rewardUnit :=
    Int.ediv_nonneg hpos (by decide)
  have hgross_le : stake.amount * tier.yield (stake.elapsed env.now) / rewardUnit ≤
      stake.amount * tier.yield (stake.elapsed env.now) := Int.ediv_le_self _ hpos
  rw [Int.ediv_ediv_of_nonneg (by decide), ← rewardUnit, h.unclaimed, sub_zero,
    fitI128_of_nonneg hgross, if_pos (hgross_le.trans_lt hfit.2), Option.getD_some, max_eq_left hgross]

/-- The call reports an overflow where a product does not fit. -/
theorem StakeInfo.Fresh.stops (h : stake.Fresh s tier)
    (hfit : ¬ RewardFits tier stake.amount (stake.elapsed env.now)) :
    Stops (calculatePendingRewards env stake) s (.err StakingError.overflow.toError) s := by
  have he := stake.elapsed_nonneg env.now
  obtain ⟨h₁, h₂, h₃, hle⟩ := h.products he
  have hpos : 0 ≤ stake.amount * tier.yield (stake.elapsed env.now) := h₂.trans hle
  rw [calculatePendingRewards, if_neg (by simp [h.active]),
    stops_bind_of_reads fun _ _ => getStakingTier_returns]
  refine Or.inr ⟨tier, h.stored, ?_⟩
  simp only [stops_okOr_bind]
  -- the first product that does not fit stops the call
  by_cases hfit₁ : stake.amount * tier.baseRateBps < 2 ^ 127
  swap
  · exact Or.inl ⟨(fitI128_of_nonneg h₁).trans (if_neg hfit₁), trivial, trivial⟩
  refine Or.inr ⟨_, (fitI128_of_nonneg h₁).trans (if_pos hfit₁), ?_⟩
  by_cases hfit₂ : stake.amount * tier.baseRateBps * stake.elapsed env.now < 2 ^ 127
  swap
  · exact Or.inl ⟨(fitI128_of_nonneg h₂).trans (if_neg hfit₂), trivial, trivial⟩
  refine Or.inr ⟨_, (fitI128_of_nonneg h₂).trans (if_pos hfit₂), Or.inl ⟨?_, trivial, trivial⟩⟩
  have hfit₃ : ¬ stake.amount * tier.yield (stake.elapsed env.now) < 2 ^ 127 :=
    fun hlt => hfit ⟨hfit₁, hlt⟩
  exact (congrArg fitI128 h₃).trans ((fitI128_of_nonneg hpos).trans (if_neg hfit₃))

/-- What the pending rewards of a stake evaluate to. -/
theorem StakeInfo.Fresh.pendingRewards_eq (h : stake.Fresh s tier) :
    pendingRewards env s stake =
      if RewardFits tier stake.amount (stake.elapsed env.now) then
        .ok (stake.amount * tier.yield (stake.elapsed env.now) / rewardUnit)
      else .error (.err StakingError.overflow.toError) := by
  unfold pendingRewards
  split_ifs with hfit
  · have hr : exec (calculatePendingRewards env stake) s = _ := h.returns hfit
    rw [hr]
  · have hs : exec (calculatePendingRewards env stake) s = _ := h.stops hfit
    rw [hs]

end

/-! ## Stakes along runs -/

section
variable {env : HubEnv me} {s s' : State} {stake : StakeInfo} {tier : StakingTier}
  {staker : Address} {tierId : String} {amount : ℤ} {w w' : World} {i : Input me} {u : Unit}

theorem createStakingTier_accepted {admin : Address}
    (h : Returns (createStakingTier env admin tier) s u s') : tier.Accepted := by
  simp only [createStakingTier, returns_bind_of_checks fun _ _ => requireStoredAdmin_returns,
    returns_failIf_bind, not_or, not_le, not_lt] at h
  obtain ⟨-, hmin, hmul, ⟨hrate, hrate_le⟩, -⟩ := h
  exact ⟨hmin, hmul, hrate, hrate_le⟩

/-- The stake that `stake_tokens` writes: an existing one with more tokens and a new lock, or one
    that starts now. -/
structure Records (env : HubEnv me) (s : State) (staker : Address) (tierId : String) (amount : ℤ)
    (stake : StakeInfo) : Prop where
  configured : (s.get .stakingConfig).isSome
  tier : ∃ tier, s.get (.tier tierId) = some (.staking tier) ∧ tier.minStakeAmount ≤ amount
  sameTier : stake.tierId = tierId
  active : stake.emergencyUnstaked = false
  adds : ∀ old, s.get (.stake staker) = some old → old.tierId = tierId ∧
    stake.amount = old.amount + amount ∧ stake.stakedAt = old.stakedAt ∧
      stake.claimedRewards = old.claimedRewards
  starts : s.get (.stake staker) = none →
    stake.amount = amount ∧ stake.stakedAt = env.now ∧ stake.claimedRewards = 0

theorem stakeTokens_records {token : Transfer → Ledger → Option Ledger} {l l' : Ledger}
    (h : Completes token (stakeTokens env staker tierId amount) s l u s' l') :
    ∃ stake, s' = s.put (.stake staker) stake ∧ Records env s staker tierId amount stake := by
  simp only [stakeTokens, completes_bind, completes_lift, completes_request] at h
  obtain ⟨⟨paid, tier, existing⟩, s₁, l₁, ⟨hchk, rfl⟩, _, s₂, l₂, ⟨-, rfl⟩, hrec, rfl⟩ := h
  simp only [stakeChecks, returns_requireAuth_bind, returns_failIf_bind, returns_load_bind,
    returns_bind_of_reads fun _ _ => getStakingConfig_returns,
    returns_bind_of_reads fun _ _ => getStakingTier_returns, returns_pure] at hchk
  obtain ⟨-, config, hc, -, tier', ht, hmin, hsame, he, rfl⟩ := hchk
  cases he
  rw [recordStake, returns_bind] at hrec
  obtain ⟨newAmount, s₁, hn, hrec⟩ := hrec
  simp only [returns_okOr_bind, returns_store] at hrec
  obtain ⟨unlockAt, -, rfl⟩ := hrec
  have hnew : newAmount = (s₂.get (.stake staker)).elim 0 (·.amount) + amount ∧ s₁ = s₂ := by
    cases hold : s₂.get (.stake staker) with
    | none =>
      rw [hold] at hn
      obtain ⟨rfl, rfl⟩ := returns_pure.1 hn
      exact ⟨(zero_add _).symm, rfl⟩
    | some old =>
      rw [hold] at hn
      obtain ⟨hfit, rfl⟩ := returns_okOr.1 hn
      exact ⟨eq_of_fitI128 hfit, rfl⟩
  obtain ⟨rfl, rfl⟩ := hnew
  refine ⟨_, rfl, Option.isSome_of_mem hc, ⟨tier, ht, not_lt.1 hmin⟩, rfl, rfl, fun old hold => ?_,
    fun hnone => ?_⟩
  · rw [hold] at hsame ⊢
    exact ⟨by simpa using hsame, rfl, rfl, rfl⟩
  · rw [hnone]
    exact ⟨zero_add _, rfl, rfl⟩

/-- What holds of staking tiers and stakes along runs. -/
structure StakesSound (s : State) : Prop where
  tiers : ∀ id tier, s.get (.tier id) = some (.staking tier) → tier.Accepted
  stakes : ∀ staker stake, s.get (.stake staker) = some stake →
    (s.get .stakingConfig).isSome ∧ ∃ tier, stake.Fresh s tier

/-- Where a tier record is written that was no staking tier, and that is accepted if it is one now,
    staking tiers stay as they were accepted. -/
theorem StakesSound.put_tier (hs : StakesSound s) (id₀ : String) (record : TierRecord)
    (hold : ∀ tier, s.get (.tier id₀) ≠ some (.staking tier))
    (hnew : ∀ tier, record = .staking tier → tier.Accepted)
    (hget : ∀ id, s'.get (.tier id) = (s.put (.tier id₀) record).get (.tier id)) :
    (∀ id tier, s.get (.tier id) = some (.staking tier) → s'.get (.tier id) = some (.staking tier)) ∧
      ∀ id tier, s'.get (.tier id) = some (.staking tier) → tier.Accepted := by
  refine ⟨fun id tier ht => ?_, fun id tier ht => ?_⟩
  · have hne : id ≠ id₀ := fun he => hold tier (he ▸ ht)
    rw [hget, get_put_ne (by simpa using hne), ht]
  · rw [hget] at ht
    by_cases he : id = id₀
    · rw [he, get_put_self] at ht
      exact hnew tier (Option.some.inj ht)
    · rw [get_put_ne (by simpa using he)] at ht
      exact hs.tiers id tier ht

theorem StakesSound.fresh (hs : StakesSound s) (hstake : s.get (.stake staker) = some stake)
    (ht : s.get (.tier stake.tierId) = some (.staking tier)) : stake.Fresh s tier := by
  obtain ⟨-, tier', hfresh⟩ := hs.stakes staker stake hstake
  have hsame := hfresh.stored
  rw [ht] at hsame
  cases hsame
  exact hfresh

/-- Staking tiers stay as they were accepted. -/
theorem Step.stakingTiers (h : Step w i w') (hs : StakesSound w.state) :
    (∀ id tier, w.state.get (.tier id) = some (.staking tier) →
      w'.state.get (.tier id) = some (.staking tier)) ∧
    ∀ id tier, w'.state.get (.tier id) = some (.staking tier) → tier.Accepted := by
  by_cases hok : i.ok w = true
  swap
  · rw [h.state_eq_of_not_ok hok]
    exact ⟨fun _ _ ht => ht, hs.tiers⟩
  cases hc : i.call with
  | createTier admin params =>
    obtain ⟨hnone, tier, _, _, -, hp⟩ :=
      createTier_writes ((h.ok_iff_returns (by rw [hc]; rfl)).1 hok)
    refine hs.put_tier params.id (.subscription tier) (fun _ ht => ?_)
      (fun _ he => nomatch he) fun id => ?_
    · rw [hnone] at ht
      cases ht
    · rw [hp, get_put_ne (by simp), get_put_ne (by simp)]
  | updateTier admin params =>
    obtain ⟨_, tier, hold, hp⟩ := updateTier_writes ((h.ok_iff_returns (by rw [hc]; rfl)).1 hok)
    refine hs.put_tier params.id (.subscription tier) (fun _ ht => ?_)
      (fun _ he => nomatch he) fun id => by rw [hp]
    rw [hold] at ht
    cases ht
  | deactivateTier admin id₀ =>
    obtain ⟨_, tier, hold, hp⟩ := deactivateTier_writes ((h.ok_iff_returns (by rw [hc]; rfl)).1 hok)
    refine hs.put_tier id₀ (.subscription tier) (fun _ ht => ?_)
      (fun _ he => nomatch he) fun id => by rw [hp]
    rw [hold] at ht
    cases ht
  | createStakingTier admin tier =>
    have hr := (h.ok_iff_returns (x := createStakingTier i.env admin tier) (by rw [hc]; rfl)).1 hok
    obtain ⟨hnone, _, hp⟩ := createStakingTier_writes hr
    refine hs.put_tier tier.id (.staking tier) (fun _ ht => ?_) (fun tier' he => ?_) fun id => ?_
    · rw [hnone] at ht
      cases ht
    · cases he
      exact createStakingTier_accepted hr
    · rw [hp, get_put_ne (by simp)]
  | _ =>
    have hget (id : String) : w'.state.get (.tier id) = w.state.get (.tier id) :=
      h.frame (by rw [hc]; simp)
    exact ⟨fun id tier ht => (hget id).trans ht, fun id tier ht => hs.tiers id tier (hget id ▸ ht)⟩

/-- A stake is as it was, or is recorded by the call. -/
theorem Step.stake_cases (h : Step w i w') (hstake : w'.state.get (.stake staker) = some stake) :
    w.state.get (.stake staker) = some stake ∨
      ∃ tierId amount, i.call = .stakeTokens staker tierId amount ∧
        Records i.env w.state staker tierId amount stake := by
  by_cases hk : Kind.stake ∈ i.call.writes
  swap
  · exact Or.inl (h.frame (k := .stake staker) hk ▸ hstake)
  by_cases hok : i.ok w = true
  swap
  · exact Or.inl (h.state_eq_of_not_ok hok ▸ hstake)
  have hdone : Succeeds i w w' := h.ok_iff.1 hok
  rcases call_of_writes_stake hk with ⟨staker', tierId, amount, hc⟩ | ⟨staker', hc⟩ | ⟨staker', hc⟩ <;>
    rw [Succeeds, hc] at hdone
  · obtain ⟨stake', hp, hrec⟩ := stakeTokens_records hdone
    by_cases he : staker = staker'
    · subst he
      rw [hp, get_put_self] at hstake
      exact Or.inr ⟨tierId, amount, hc, Option.some.inj hstake ▸ hrec⟩
    · rw [hp, get_put_ne (by simpa using he)] at hstake
      exact Or.inl hstake
  · obtain ⟨_, _, _, -, hp, -⟩ := unstakeTokens_completes.1 hdone
    rw [hp] at hstake
    exact Or.inl (get_del_eq_some.1 hstake).2
  · obtain ⟨_, _, -, hp, -⟩ := emergencyUnstake_completes.1 hdone
    rw [hp] at hstake
    exact Or.inl (get_del_eq_some.1 hstake).2

/-- The staking configuration stays once it is set. -/
theorem Step.configured (h : Step w i w') (hset : (w.state.get .stakingConfig).isSome) :
    (w'.state.get .stakingConfig).isSome := by
  cases hc : i.call with
  | setStakingConfig admin config =>
    refine h.of_returns (x := setStakingConfig i.env admin config) (by rw [hc]; rfl)
      (P := fun s => (s.get .stakingConfig).isSome) hset fun s' hr => ?_
    simp only [setStakingConfig, returns_bind_of_checks fun _ _ => requireStoredAdmin_returns,
      returns_failIf_bind, returns_store] at hr
    rw [hr.2.2, get_put_self]
    rfl
  | _ => rwa [h.frame (by rw [hc]; simp)]

/-- A recorded stake has not claimed any rewards. -/
theorem Records.fresh (h : Records env s staker tierId amount stake) (hs : StakesSound s) :
    ∃ tier, stake.Fresh s tier := by
  obtain ⟨tier, ht, hmin⟩ := h.tier
  have hacc := hs.tiers tierId tier ht
  refine ⟨tier, h.sameTier ▸ ht, hacc, ?_, ?_, h.active⟩
  · cases hold : s.get (.stake staker) with
    | none => rw [(h.starts hold).1]; exact hacc.minimum.trans_le hmin
    | some old =>
      obtain ⟨-, _, hfresh⟩ := hs.stakes staker old hold
      rw [(h.adds old hold).2.1]
      exact add_pos hfresh.positive (hacc.minimum.trans_le hmin)
  · cases hold : s.get (.stake staker) with
    | none => exact (h.starts hold).2.2
    | some old =>
      obtain ⟨-, _, hfresh⟩ := hs.stakes staker old hold
      rw [(h.adds old hold).2.2.2, hfresh.unclaimed]

theorem Step.stakesSound (h : Step w i w') (hs : StakesSound w.state) : StakesSound w'.state := by
  obtain ⟨hkeep, htiers⟩ := h.stakingTiers hs
  refine ⟨htiers, fun staker stake hstake => ?_⟩
  have hbefore : (w.state.get .stakingConfig).isSome ∧ ∃ tier, stake.Fresh w.state tier := by
    rcases h.stake_cases hstake with hsame | ⟨tierId, amount, -, hrec⟩
    · exact hs.stakes staker stake hsame
    · exact ⟨hrec.configured, hrec.fresh hs⟩
  obtain ⟨hset, tier, hfresh⟩ := hbefore
  exact ⟨h.configured hset, tier, { hfresh with stored := hkeep _ _ hfresh.stored }⟩

theorem stakesSound_of_run {l : Ledger} {n : ℕ} {tr : List (Ev me)}
    (h : Run Step ⟨∅, l, n⟩ tr w) : StakesSound w.state :=
  h.invariant' (P := fun w => StakesSound w.state) (fun _ _ _ hs hst => hst.stakesSound hs)
    ⟨fun _ _ ht => (nomatch ht), fun _ _ hst => (nomatch hst)⟩

end

/-! ## Top-ups -/

/-- A summand that does not complete a unit does not change the floor. -/
theorem ediv_add_eq_iff {a b d : ℤ} (hb : 0 ≤ b) (hd : 0 < d) :
    (a + b) / d = a / d ↔ a % d + b < d := by
  have hsplit : a + b = a % d + b + d * (a / d) := by
    have := Int.emod_add_mul_ediv a d
    omega
  have hr : 0 ≤ a % d + b := add_nonneg (Int.emod_nonneg _ hd.ne') hb
  rw [hsplit, Int.add_mul_ediv_left _ _ hd.ne', add_eq_right]
  constructor
  · intro h
    by_contra hge
    have := Int.le_ediv_of_mul_le hd (show 1 * d ≤ a % d + b by omega)
    omega
  · exact Int.ediv_eq_zero_of_lt hr

/-- With fewer tokens the products fit as well. -/
theorem RewardFits.mono {tier : StakingTier} {amount amount' elapsed : ℤ} (he : 0 ≤ elapsed)
    (hle : amount ≤ amount') (h : RewardFits tier amount' elapsed) :
    RewardFits tier amount elapsed :=
  ⟨(mul_le_mul_of_nonneg_right hle (Int.natCast_nonneg _)).trans_lt h.1,
    (mul_le_mul_of_nonneg_right hle (tier.yield_nonneg he)).trans_lt h.2⟩

/-- Added tokens that complete no unit of rewards for the time before; or both evaluations
    overflow. -/
def TopUpNeutral (tier : StakingTier) (amount added elapsed : ℤ) : Prop :=
  ¬ RewardFits tier amount elapsed ∨ RewardFits tier (amount + added) elapsed ∧
    amount * tier.yield elapsed % rewardUnit + added * tier.yield elapsed < rewardUnit

section
variable {w w' : World} {i : Input me} {staker : Address} {tierId : String} {added : ℤ}
  {old stake : StakeInfo} {tier : StakingTier} {tr : List (Ev me)} {l : Ledger} {n : ℕ}

/-- Two stakes that differ by the tokens added have the same rewards, if these are neutral. -/
theorem pendingRewards_topUp {env : HubEnv me} {s s' : State} {new : StakeInfo}
    (hold : old.Fresh s tier) (hnew : new.Fresh s' tier) (hadd : 0 ≤ added)
    (ha : new.amount = old.amount + added) (hat : new.stakedAt = old.stakedAt) :
    pendingRewards env s' new = pendingRewards env s old ↔
      TopUpNeutral tier old.amount added (old.elapsed env.now) := by
  have he := old.elapsed_nonneg env.now
  have helapsed : new.elapsed env.now = old.elapsed env.now := by
    rw [StakeInfo.elapsed, hat, StakeInfo.elapsed]
  rw [hold.pendingRewards_eq, hnew.pendingRewards_eq, helapsed, ha, TopUpNeutral]
  by_cases hfit : RewardFits tier old.amount (old.elapsed env.now)
  · rw [if_pos hfit]
    by_cases hfit' : RewardFits tier (old.amount + added) (old.elapsed env.now)
    · have hmore : 0 ≤ added * tier.yield (old.elapsed env.now) :=
        mul_nonneg hadd (tier.yield_nonneg he)
      rw [if_pos hfit', Except.ok.injEq, add_mul, ediv_add_eq_iff hmore (by decide)]
      simp only [hfit, hfit', not_true, false_or, true_and]
    · rw [if_neg hfit']
      simp [hfit, hfit']
  · have hfit' : ¬ RewardFits tier (old.amount + added) (old.elapsed env.now) :=
      fun h => hfit (h.mono he (by omega))
    rw [if_neg hfit, if_neg hfit']
    simp [hfit]

/-- **Top-ups.** A top-up leaves the pending rewards as they are just where the added tokens complete
    no unit of rewards for the time before. -/
theorem topUp_neutral (h : Run Step ⟨∅, l, n⟩ tr w) (hst : Step w i w')
    (hcall : i.call = .stakeTokens staker tierId added) (hok : Succeeds i w w')
    (hold : w.state.get (.stake staker) = some old)
    (ht : w.state.get (.tier tierId) = some (.staking tier)) :
    (∃ new, w'.state.get (.stake staker) = some new ∧
      pendingRewards i.env w'.state new = pendingRewards i.env w.state old) ↔
      TopUpNeutral tier old.amount added (old.elapsed i.env.now) := by
  have hs := stakesSound_of_run h
  have hs' := hst.stakesSound hs
  rw [Succeeds, hcall] at hok
  obtain ⟨new, hp, hrec⟩ := stakeTokens_records hok
  obtain ⟨hsame, ha, hat, -⟩ := hrec.adds old hold
  obtain ⟨tier', ht', hmin⟩ := hrec.tier
  obtain rfl : tier' = tier := by
    rw [ht] at ht'
    cases ht'
    rfl
  have hadd : 0 ≤ added := (hs.tiers tierId tier' ht).minimum.le.trans hmin
  have hget : w'.state.get (.stake staker) = some new := by rw [hp, get_put_self]
  have hfresh : old.Fresh w.state tier' := hs.fresh hold (hsame ▸ ht)
  have hfresh' : new.Fresh w'.state tier' :=
    hs'.fresh hget ((hst.stakingTiers hs).1 _ _ (hrec.sameTier ▸ ht))
  rw [← pendingRewards_topUp hfresh hfresh' hadd ha hat]
  constructor
  · rintro ⟨new', hnew', he⟩
    rw [hget] at hnew'
    cases hnew'
    exact he
  · intro he
    exact ⟨new, hget, he⟩

/-- A member stakes some of its funds at the time 4, at a rate of 100 percent a year. -/
def stakeCalls (amount : ℤ) : List (Input ⟨0⟩) :=
  [hubCall 1 (.setAdmin ⟨1⟩), hubCall 2 (.setStakingConfig ⟨1⟩ ⟨true, 0, ⟨5⟩, ⟨5⟩⟩),
    hubCall 3 (.createStakingTier ⟨1⟩ ⟨"gold", "Gold", 1, 0, 10000, 10000⟩),
    hubCall 4 (.stakeTokens ⟨2⟩ "gold" amount)]

/-- A member with funds. -/
def funded (funds : ℤ) : World :=
  ⟨∅, fun token a => if token = ⟨5⟩ ∧ a = ⟨2⟩ then funds else 0, 0⟩

def afterStake (funds amount : ℤ) : World := (stakeCalls amount).foldl next (funded funds)

theorem run_stakeCalls (funds amount : ℤ) : Run Step (funded funds)
    (eventsFrom next (funded funds) (stakeCalls amount)) (afterStake funds amount) :=
  run_calls _ (by simp [funded, stakeCalls, hubCall, sampleEnv])

/-- The stake that the member makes. -/
def madeStake (amount : ℤ) : StakeInfo := ⟨⟨2⟩, amount, "gold", 4, 4, 0, false⟩

/-- The member stakes 40 more. -/
def topUpCall (now : ℕ) : Input ⟨0⟩ := hubCall now (.stakeTokens ⟨2⟩ "gold" 40)

/-- Ten seconds after a stake of 60, 40 more leave its rewards at nothing. -/
theorem topUp_neutral_soon :
    ∃ new, (next (afterStake 100 60) (topUpCall 14)).state.get (.stake ⟨2⟩) = some new ∧
      pendingRewards (topUpCall 14).env (next (afterStake 100 60) (topUpCall 14)).state new =
        pendingRewards (topUpCall 14).env (afterStake 100 60).state (madeStake 60) := by
  refine (topUp_neutral (run_stakeCalls 100 60) (step_next (by decide)) rfl
    (succeeds_next (by decide)) (by rfl) (by rfl)).2 (Or.inr ⟨⟨?_, ?_⟩, ?_⟩) <;> decide

/-- **New tokens earn for the time before they were staked.** -/
theorem topUp_rewarded : ¬ ∀ (me : Address) (l : Ledger) (n : ℕ) (tr : List (Ev me)) (w w' : World)
    (i : Input me) (staker : Address) (tierId : String) (added : ℤ) (old : StakeInfo),
    Run Step ⟨∅, l, n⟩ tr w → Step w i w' → i.call = .stakeTokens staker tierId added →
      Succeeds i w w' → w.state.get (.stake staker) = some old →
        ∃ new, w'.state.get (.stake staker) = some new ∧
          pendingRewards i.env w'.state new = pendingRewards i.env w.state old := by
  intro hall
  obtain ⟨new, hnew, he⟩ := hall ⟨0⟩ _ _ _ _ _ (topUpCall (4 + 365 * 24 * 60 * 60)) ⟨2⟩ "gold" 40
    (madeStake 60) (run_stakeCalls 100 60) (step_next (by decide)) rfl (succeeds_next (by decide))
    (by rfl)
  have hstored : (next (afterStake 100 60) (topUpCall (4 + 365 * 24 * 60 * 60))).state.get
      (.stake ⟨2⟩) = some { madeStake 100 with unlockAt := 4 + 365 * 24 * 60 * 60 } := by rfl
  rw [hstored] at hnew
  cases hnew
  have hafter : pendingRewards (topUpCall (4 + 365 * 24 * 60 * 60)).env
      (next (afterStake 100 60) (topUpCall (4 + 365 * 24 * 60 * 60))).state
      { madeStake 100 with unlockAt := 4 + 365 * 24 * 60 * 60 } = .ok 100 := by rfl
  have hbefore : pendingRewards (topUpCall (4 + 365 * 24 * 60 * 60)).env (afterStake 100 60).state
      (madeStake 60) = .ok 60 := by rfl
  rw [hafter, hbefore] at he
  cases he

end

/-! ## Withdrawals -/

section
variable {w : World} {env : HubEnv me} {staker : Address} {stake : StakeInfo} {tier : StakingTier}
  {tr : List (Ev me)} {l : Ledger} {n : ℕ}

/-- After the lock, an unstaking reports an overflow where the rewards do. -/
theorem unstake_refuses {s s' : State} (hs : s.get (.stake staker) = some stake)
    (hc : (s.get .stakingConfig).isSome) (ha : staker ∈ env.auths) (hu : stake.unlockAt ≤ env.now) :
    Refuses (entryPoint env (.unstakeTokens staker)) s (.err StakingError.overflow.toError) s' ↔
      Stops (calculatePendingRewards env stake) s (.err StakingError.overflow.toError) s' := by
  obtain ⟨config, hc⟩ := Option.isSome_iff_exists.1 hc
  simp only [entryPoint, unstakeTokens, refuses_bind, refuses_lift, not_refuses_request,
    not_finishes_request, finishes_lift, false_and, exists_false, or_false, and_false]
  simp only [unstakeChecks, stops_requireAuth_bind, getStakingConfig, bind_assoc, stops_load_bind,
    stops_okOr_bind, stops_failIf_bind, hs, hc, ha]
  simp only [not_true, false_and, false_or, true_and, reduceCtorEq, StakingError.toError,
    Option.some.injEq, exists_eq_left', not_lt.2 hu, not_false_iff, stops_bind, not_stops_pure,
    and_false, exists_false, or_false]

/-- **Withdrawals after the lock.** An unstaking does not report an overflow just where the products
    of its rewards fit. -/
theorem unstake_no_overflow (h : Run Step ⟨∅, l, n⟩ tr w)
    (hs : w.state.get (.stake staker) = some stake)
    (ht : w.state.get (.tier stake.tierId) = some (.staking tier)) (ha : staker ∈ env.auths)
    (hu : stake.unlockAt ≤ env.now) :
    (∀ s', ¬ Refuses (entryPoint env (.unstakeTokens staker)) w.state
      (.err StakingError.overflow.toError) s') ↔
      RewardFits tier stake.amount (stake.elapsed env.now) := by
  have hsound := stakesSound_of_run h
  have hfresh := hsound.fresh hs ht
  have hset := (hsound.stakes staker stake hs).1
  constructor
  · intro hno
    by_contra hfit
    exact hno _ ((unstake_refuses hs hset ha hu).2 (hfresh.stops hfit))
  · intro hfit s' hr
    exact (hfresh.returns hfit).not_stops ((unstake_refuses hs hset ha hu).1 hr)

/-- A year after the stake. -/
def yearLater : HubEnv ⟨0⟩ := (hubCall (4 + 365 * 24 * 60 * 60) (.unstakeTokens ⟨2⟩)).env

/-- A stake of 100 is withdrawn after a year. -/
theorem unstake_no_overflow_year :
    (afterStake 100 100).state.get (.stake ⟨2⟩) = some (madeStake 100) ∧
      ∀ s', ¬ Refuses (entryPoint yearLater (.unstakeTokens ⟨2⟩)) (afterStake 100 100).state
        (.err StakingError.overflow.toError) s' := by
  have hs : (afterStake 100 100).state.get (.stake ⟨2⟩) = some (madeStake 100) := by rfl
  exact ⟨hs, (unstake_no_overflow (run_stakeCalls 100 100) hs (by rfl) (by decide) (by decide)).2
    (by decide)⟩

/-- **A stake of `10 ^ 23` is stuck after a year.** -/
theorem unstake_stuck : ¬ ∀ (me : Address) (l : Ledger) (n : ℕ) (tr : List (Ev me)) (w : World)
    (env : HubEnv me) (staker : Address) (stake : StakeInfo), Run Step ⟨∅, l, n⟩ tr w →
      w.state.get (.stake staker) = some stake → staker ∈ env.auths → w.now ≤ env.now →
        stake.unlockAt ≤ env.now → ∀ s', ¬ Refuses (entryPoint env (.unstakeTokens staker)) w.state
          (.err StakingError.overflow.toError) s' := by
  intro hall
  have hrun := run_stakeCalls (10 ^ 23) (10 ^ 23)
  have hs : (afterStake (10 ^ 23) (10 ^ 23)).state.get (.stake ⟨2⟩) = some (madeStake (10 ^ 23)) := by
    rfl
  have hfresh := (stakesSound_of_run hrun).fresh hs (by rfl)
  have hstops : Stops (calculatePendingRewards yearLater (madeStake (10 ^ 23))) _ _ _ :=
    hfresh.stops (by decide)
  exact hall ⟨0⟩ _ _ _ _ yearLater ⟨2⟩ _ hrun hs (by decide) (by decide) (by decide) _
    ((unstake_refuses hs (by rfl) (by decide) (by decide)).2 hstops)

end

end ManageHub
