/-
  The funds of staking over whole runs, with tokens that move exactly the requested amount or fail,
  and do not call back.

  A stake grows in the staking token of that time, and is paid back in that of a later time; rewards
  come out of the same balances.  So the contract's balances cover all deposits as long as each
  stake is paid out of its own deposit, or of funds beyond all deposits (`Covered`).
-/
import NovaLabs.ManageHub.Interface

namespace ManageHub

open Lib Soroban

variable {me : Address}

/-! ## What the staking calls do -/

section
variable {env : HubEnv me} {s s' : State} {l l' : Ledger} {u : Unit} {staker : Address}
  {token : Transfer → Ledger → Option Ledger}

/-- The amount of a staker's active stake. -/
def State.staked (s : State) (staker : Address) : ℤ := (s.get (.stake staker)).elim 0 (·.amount)

theorem getStakingConfig_returns {config : StakingConfig} :
    Returns getStakingConfig s config s' ↔ s.get .stakingConfig = some config ∧ s' = s := by
  simp only [getStakingConfig, returns_load_bind, returns_okOr]

theorem calculatePendingRewards_nonneg {stake : StakeInfo} {rewards : ℤ}
    (h : Returns (calculatePendingRewards env stake) s rewards s') : 0 ≤ rewards := by
  rw [calculatePendingRewards, returns_ite] at h
  rcases h with ⟨-, h⟩ | ⟨-, h⟩
  · exact (returns_pure.1 h).1.ge
  · simp only [returns_bind, returns_pure] at h
    obtain ⟨_, _, -, _, _, -, _, _, -, _, _, -, _, _, -, _, _, -, rfl, -⟩ := h
    exact le_max_right _ _

theorem stakeChecks_returns {tierId : String} {amount : ℤ}
    {r : Address × StakingTier × Option StakeInfo}
    (h : Returns (stakeChecks env staker tierId amount) s r s') :
    ∃ config tier, s.get .stakingConfig = some config ∧ staker ∈ env.auths ∧
      r = (config.stakingToken, tier, s.get (.stake staker)) ∧ s' = s := by
  simp only [stakeChecks, returns_requireAuth_bind, returns_failIf_bind,
    returns_bind_of_reads fun _ _ => getStakingConfig_returns] at h
  obtain ⟨hauth, config, hc, -, h⟩ := h
  rw [returns_bind] at h
  obtain ⟨tier, s₁, ht, h⟩ := h
  obtain rfl := Only.eq_of_returns ht
  simp only [returns_failIf_bind, returns_load_bind, returns_pure] at h
  exact ⟨config, tier, hc, hauth, h.2.2⟩

theorem recordStake_returns {tierId : String} {amount : ℤ} {tier : StakingTier}
    {existing : Option StakeInfo}
    (h : Returns (recordStake env staker tierId amount tier existing) s u s') :
    ∃ stake, s' = s.put (.stake staker) stake ∧
      stake.amount = existing.elim 0 (·.amount) + amount := by
  rw [recordStake, returns_bind] at h
  obtain ⟨newAmount, s₁, hn, h⟩ := h
  simp only [returns_okOr_bind, returns_store] at h
  obtain ⟨unlockAt, -, rfl⟩ := h
  cases existing with
  | none =>
    obtain ⟨rfl, rfl⟩ := returns_pure.1 hn
    exact ⟨_, rfl, (zero_add _).symm⟩
  | some stake =>
    obtain ⟨hfit, rfl⟩ := returns_okOr.1 hn
    exact ⟨_, rfl, eq_of_fitI128 hfit⟩

/-- A staker's deposit, in the staking token. -/
theorem stakeTokens_completes {tierId : String} {amount : ℤ}
    (h : Completes token (stakeTokens env staker tierId amount) s l u s' l') :
    ∃ config stake, s.get .stakingConfig = some config ∧ staker ∈ env.auths ∧
      token ⟨config.stakingToken, staker, me, amount⟩ l = some l' ∧
      s' = s.put (.stake staker) stake ∧ stake.amount = s.staked staker + amount := by
  simp only [stakeTokens, completes_bind, completes_lift, completes_request] at h
  obtain ⟨_, s₁, l₁, ⟨hchk, rfl⟩, _, s₂, l₂, ⟨hreq, rfl⟩, hrec, rfl⟩ := h
  obtain ⟨config, tier, hc, hauth, rfl, rfl⟩ := stakeChecks_returns hchk
  obtain ⟨stake, rfl, ha⟩ := recordStake_returns hrec
  exact ⟨config, stake, hc, hauth, hreq, rfl, ha⟩

/-- The staker may unstake: what the call reads, with the rewards that are due. -/
structure Unstakable (env : HubEnv me) (s : State) (staker : Address) (config : StakingConfig)
    (stake : StakeInfo) (rewards : ℤ) : Prop where
  auth : staker ∈ env.auths
  configured : s.get .stakingConfig = some config
  staked : s.get (.stake staker) = some stake
  unlocked : stake.unlockAt ≤ env.now
  due : Returns (calculatePendingRewards env stake) s rewards s

theorem unstakeChecks_returns {config : StakingConfig} {stake : StakeInfo} {rewards : ℤ} :
    Returns (unstakeChecks env staker) s (config, stake, rewards) s' ↔
      Unstakable env s staker config stake rewards ∧ s' = s := by
  simp only [unstakeChecks, returns_requireAuth_bind, returns_failIf_bind, returns_load_bind,
    returns_okOr_bind, returns_bind_of_reads fun _ _ => getStakingConfig_returns, not_lt]
  constructor
  · rintro ⟨hauth, config, hc, stake, hs, hu, h⟩
    rw [returns_bind] at h
    obtain ⟨rewards, s₁, hr, h⟩ := h
    obtain ⟨he, rfl⟩ := returns_pure.1 h
    cases he
    obtain rfl := Only.eq_of_returns hr
    exact ⟨⟨hauth, hc, hs, hu, hr⟩, rfl⟩
  · rintro ⟨⟨hauth, hc, hs, hu, hr⟩, rfl⟩
    exact ⟨hauth, config, hc, stake, hs, hu, returns_bind.2 ⟨rewards, _, hr, returns_pure.2 ⟨rfl, rfl⟩⟩⟩

/-- The principal goes back in the staking token, the rewards in the token of the reward pool. -/
theorem unstakeTokens_completes :
    Completes token (unstakeTokens env staker) s l u s' l' ↔
      ∃ config stake rewards, Unstakable env s staker config stake rewards ∧
        s' = s.del (.stake staker) ∧
        ∃ l₁, token ⟨config.stakingToken, me, staker, stake.amount⟩ l = some l₁ ∧
          ((0 < rewards ∧ token ⟨config.rewardPool, me, staker, rewards⟩ l₁ = some l') ∨
            (¬ 0 < rewards ∧ l' = l₁)) := by
  simp only [unstakeTokens, completes_bind, completes_lift, completes_request,
    completes_requestIf, returns_remove]
  constructor
  · rintro ⟨⟨config, stake, rewards⟩, _, _, ⟨hchk, rfl⟩, _, _, l₁, ⟨hreq, rfl⟩, _, _, _,
      ⟨rfl, hrew⟩, rfl, rfl⟩
    obtain ⟨hu, rfl⟩ := unstakeChecks_returns.1 hchk
    exact ⟨config, stake, rewards, hu, rfl, l₁, hreq, hrew⟩
  · rintro ⟨config, stake, rewards, hu, rfl, l₁, hreq, hrew⟩
    exact ⟨_, _, _, ⟨unstakeChecks_returns.2 ⟨hu, rfl⟩, rfl⟩, (), _, l₁, ⟨hreq, rfl⟩, (), _, _,
      ⟨rfl, hrew⟩, rfl, rfl⟩

/-- What an emergency unstake returns of a stake: the principal less the penalty. -/
def StakeInfo.returned (stake : StakeInfo) (config : StakingConfig) : ℤ :=
  stake.amount - (stake.amount * config.emergencyUnstakePenaltyBps).tdiv 10000

/-- The staker may unstake in an emergency: what the call reads, with amounts in range. -/
structure EmergencyUnstakable (env : HubEnv me) (s : State) (staker : Address)
    (config : StakingConfig) (stake : StakeInfo) : Prop where
  auth : staker ∈ env.auths
  configured : s.get .stakingConfig = some config
  staked : s.get (.stake staker) = some stake
  product : ∃ n, fitI128 (stake.amount * config.emergencyUnstakePenaltyBps) = some n
  penalty : ∃ n, checkedDivI128 (stake.amount * config.emergencyUnstakePenaltyBps) 10000 = some n
  returned : ∃ n, fitI128 (stake.returned config) = some n

theorem emergencyChecks_returns {r : Address × ℤ} :
    Returns (emergencyChecks env staker) s r s' ↔
      ∃ config stake, EmergencyUnstakable env s staker config stake ∧
        r = (config.stakingToken, stake.returned config) ∧ s' = s := by
  simp only [emergencyChecks, returns_requireAuth_bind, returns_load_bind, returns_okOr_bind,
    returns_bind_of_reads fun _ _ => getStakingConfig_returns, returns_pure]
  constructor
  · rintro ⟨hauth, config, hc, stake, hs, product, hp, penalty, hpen, returned, hret, rfl, rfl⟩
    obtain rfl := eq_of_fitI128 hp
    obtain rfl := eq_of_checkedDivI128 hpen
    obtain rfl := eq_of_fitI128 hret
    exact ⟨config, stake, ⟨hauth, hc, hs, ⟨_, hp⟩, ⟨_, hpen⟩, ⟨_, hret⟩⟩, rfl, rfl⟩
  · rintro ⟨config, stake, ⟨hauth, hc, hs, ⟨product, hp⟩, ⟨penalty, hpen⟩, ⟨returned, hret⟩⟩,
      rfl, rfl⟩
    obtain rfl := eq_of_fitI128 hp
    obtain rfl := eq_of_checkedDivI128 hpen
    obtain rfl := eq_of_fitI128 hret
    exact ⟨hauth, config, hc, stake, hs, _, hp, _, hpen, _, hret, rfl, rfl⟩

/-- The principal goes back in the staking token, less the penalty. -/
theorem emergencyUnstake_completes :
    Completes token (emergencyUnstake env staker) s l u s' l' ↔
      ∃ config stake, EmergencyUnstakable env s staker config stake ∧
        s' = s.del (.stake staker) ∧
        ((0 < stake.returned config ∧
            token ⟨config.stakingToken, me, staker, stake.returned config⟩ l = some l') ∨
          (¬ 0 < stake.returned config ∧ l' = l)) := by
  simp only [emergencyUnstake, completes_bind, completes_lift, completes_requestIf,
    returns_remove]
  constructor
  · rintro ⟨_, _, _, ⟨hchk, rfl⟩, _, _, _, ⟨rfl, hret⟩, rfl, rfl⟩
    obtain ⟨config, stake, hu, rfl, rfl⟩ := emergencyChecks_returns.1 hchk
    exact ⟨config, stake, hu, rfl, hret⟩
  · rintro ⟨config, stake, hu, rfl, hret⟩
    exact ⟨_, _, _, ⟨emergencyChecks_returns.2 ⟨config, stake, hu, rfl, rfl⟩, rfl⟩, (), _, _,
      ⟨rfl, hret⟩, rfl, rfl⟩

end

/-! ## Deposits -/

/-- Token contracts that move exactly the requested amount, or fail. -/
def MovesExactly (token : Transfer → Ledger → Option Ledger) : Prop :=
  ∀ t l l', token t l = some l' → l' = l.move t

/-- The calls with exact tokens, and movements of funds without the contract: those do not lower
    its balances. -/
inductive Moves (me : Address) : World → Option (Input me) → World → Prop
  | call {w : World} {i : Input me} {w' : World} : MovesExactly i.token → Step w i w' →
      Moves me w (some i) w'
  | outside (w : World) (l : Ledger) : (∀ token, w.ledger token me ≤ l token me) →
      Moves me w none { w with ledger := l }

abbrev FundsEv (me : Address) := Event World (Option (Input me))

/-- The token in which stakes are made and paid back. -/
def State.stakingToken (s : State) : Option Address :=
  (s.get .stakingConfig).map (·.stakingToken)

/-- What a staker's active stake consists of, by token, after an event: what a stake grows by was
    deposited in the staking token of that time. -/
def addDeposit (d : Address → Address → ℤ) (ev : FundsEv me) (staker token : Address) : ℤ :=
  if ev.post.state.get (.stake staker) = none then 0
  else d staker token +
    if ev.pre.state.stakingToken = some token then
      ev.post.state.staked staker - ev.pre.state.staked staker
    else 0

/-- What the stakers' active stakes consist of, by staker and token, after a run. -/
def deposited (tr : List (FundsEv me)) : Address → Address → ℤ :=
  tr.foldl addDeposit fun _ _ => 0

/-- What a key accounts for, where `d` is what the stakers deposited. -/
def principal (d : Address → ℤ) (k : DataKey) (_ : Val k) : ℤ :=
  match k with
  | .stake staker => d staker
  | _ => 0

/-- The deposits of all active stakes in a token. -/
def owed (tr : List (FundsEv me)) (s : State) (token : Address) : ℤ :=
  Storage.total s (principal fun staker => deposited tr staker token)

/-- What the contract has of a token beyond the deposits of all active stakes. -/
def surplus (tr : List (FundsEv me)) (w : World) (token : Address) : ℤ :=
  w.ledger token me - owed tr w.state token

/-- The balances cover all deposits. -/
def Solvent (tr : List (FundsEv me)) (w : World) : Prop := ∀ token, 0 ≤ surplus tr w token

theorem deposited_snoc (tr : List (FundsEv me)) (ev : FundsEv me) :
    deposited (tr ++ [ev]) = addDeposit (deposited tr) ev := by
  rw [deposited, List.foldl_concat, ← deposited]

section
variable {tr : List (FundsEv me)} {w w' : World} {i : Option (Input me)} {staker token : Address}

/-- What was not written accounts for the same. -/
theorem principal_of_same {k : DataKey}
    (h : ∀ staker, k = .stake staker → w'.state.get k = w.state.get k) :
    (w'.state.get k).elim 0 (principal (deposited (tr ++ [⟨w, i, w'⟩]) · token) k) =
      (w.state.get k).elim 0 (principal (deposited tr · token) k) := by
  cases k with
  | stake staker =>
    rw [h staker rfl]
    cases hs : w.state.get (.stake staker) with
    | none => rfl
    | some stake =>
      simp only [Option.elim_some, principal, deposited_snoc, addDeposit, State.staked,
        h staker rfl, hs, reduceCtorEq, if_false, sub_self, ite_self, add_zero]
  | _ =>
    unfold principal
    cases w'.state.get _ <;> cases w.state.get _ <;> rfl

/-- Without a write to a stake, what is owed stays. -/
theorem owed_of_same (h : ∀ staker, w'.state.get (.stake staker) = w.state.get (.stake staker)) :
    owed (tr ++ [⟨w, i, w'⟩]) w'.state token = owed tr w.state token := by
  refine Storage.total_congr fun k => ?_
  change (w'.state.get k).elim 0 _ = (w.state.get k).elim 0 _
  exact principal_of_same fun staker hk => hk ▸ h staker

/-- A write to one stake changes what is owed by what it consists of. -/
theorem owed_update (tr : List (FundsEv me)) (w w' : World) (i : Option (Input me))
    (staker token : Address)
    (h : ∀ a ≠ staker, w'.state.get (.stake a) = w.state.get (.stake a)) :
    owed (tr ++ [⟨w, i, w'⟩]) w'.state token +
        (w.state.get (.stake staker)).elim 0 (fun _ => deposited tr staker token) =
      owed tr w.state token + (w'.state.get (.stake staker)).elim 0
        fun _ => deposited (tr ++ [⟨w, i, w'⟩]) staker token := by
  have hu := Storage.total_update w.state w'.state (principal (deposited tr · token))
    (principal (deposited (tr ++ [⟨w, i, w'⟩]) · token)) (.stake staker) fun k hk => by
      change (w'.state.get k).elim 0 _ = (w.state.get k).elim 0 _
      refine principal_of_same fun a ha => ?_
      subst ha
      exact h a fun he => hk (he ▸ rfl)
  exact hu

theorem deposited_of_none {w₀ : World} (h : Run (Moves me) w₀ tr w)
    (hs : w.state.get (.stake staker) = none) : deposited tr staker token = 0 := by
  cases h with
  | nil => rfl
  | snoc _ _ => rw [deposited_snoc, addDeposit, if_pos hs]

theorem surplus_of_same
    (h : ∀ staker, w'.state.get (.stake staker) = w.state.get (.stake staker))
    (hl : w.ledger token me ≤ w'.ledger token me) :
    surplus tr w token ≤ surplus (tr ++ [⟨w, i, w'⟩]) w' token := by
  rw [surplus, surplus, owed_of_same h]
  exact sub_le_sub_right hl _

end

/-! ## Steps -/

section
variable {tr : List (FundsEv me)} {w₀ w w' : World} {i : Option (Input me)}
  {staker token : Address} {config : StakingConfig} {stake : StakeInfo} {n : ℤ}

/-- A deposit leaves the surplus as it is. -/
theorem surplus_of_stake (hr : Run (Moves me) w₀ tr w) (hme : staker ≠ me)
    (hc : w.state.get .stakingConfig = some config)
    (hs : w'.state = w.state.put (.stake staker) stake)
    (ha : stake.amount = w.state.staked staker + n)
    (hl : w'.ledger = w.ledger.move ⟨config.stakingToken, staker, me, n⟩) :
    surplus (tr ++ [⟨w, i, w'⟩]) w' token = surplus tr w token := by
  have hu := owed_update tr w w' i staker token fun a hne => by
    rw [hs, get_put_ne (by simpa using hne)]
  have hold : (w.state.get (.stake staker)).elim 0 (fun _ => deposited tr staker token) =
      deposited tr staker token := by
    cases hw : w.state.get (.stake staker) with
    | none => exact (deposited_of_none hr hw).symm
    | some _ => rfl
  have hnew : deposited (tr ++ [⟨w, i, w'⟩]) staker token =
      deposited tr staker token + if config.stakingToken = token then n else 0 := by
    simp only [deposited_snoc, addDeposit, State.stakingToken, hc, hs, get_put_self, State.staked,
      Option.elim_some, Option.map_some, Option.some.injEq, reduceCtorEq, if_false]
    rw [State.staked] at ha
    rw [ha, add_sub_cancel_left]
  rw [hold, hs, get_put_self, Option.elim_some, ← hs, hnew] at hu
  rw [surplus, surplus, hl, Ledger.move, gain_deposit hme]
  linarith

/-- A stake that ends frees what it consists of. -/
theorem surplus_of_end (hk : w.state.get (.stake staker) = some stake)
    (hs : w'.state = w.state.del (.stake staker)) :
    surplus (tr ++ [⟨w, i, w'⟩]) w' token =
      surplus tr w token + deposited tr staker token +
        (w'.ledger token me - w.ledger token me) := by
  have hu := owed_update tr w w' i staker token fun a hne => by
    rw [hs, get_del_ne (by simpa using hne)]
  rw [hk, Option.elim_some, hs, get_del_self, Option.elim_none, ← hs] at hu
  rw [surplus, surplus]
  linarith

end

/-- The unstaking calls that go through take no more of a token out of the contract than the staker
    deposited in it, and the contract has beyond all deposits. -/
structure Covered (tr : List (FundsEv me)) (ev : FundsEv me) : Prop where
  unstake : ∀ i staker config stake rewards l₁, ev.inp = some i →
    i.call = .unstakeTokens staker → Unstakable i.env ev.pre.state staker config stake rewards →
    i.token ⟨config.stakingToken, me, staker, stake.amount⟩ ev.pre.ledger = some l₁ →
    (0 < rewards → ∃ l₂, i.token ⟨config.rewardPool, me, staker, rewards⟩ l₁ = some l₂) →
    ∀ token, (if config.stakingToken = token then stake.amount else 0) +
      (if config.rewardPool = token then rewards else 0) ≤
        deposited tr staker token + surplus tr ev.pre token
  emergency : ∀ i staker config stake, ev.inp = some i → i.call = .emergencyUnstake staker →
    EmergencyUnstakable i.env ev.pre.state staker config stake →
    (0 < stake.returned config → ∃ l₁,
      i.token ⟨config.stakingToken, me, staker, stake.returned config⟩ ev.pre.ledger = some l₁) →
    ∀ token, (if config.stakingToken = token then max 0 (stake.returned config) else 0) ≤
      deposited tr staker token + surplus tr ev.pre token

section
variable {tr : List (FundsEv me)} {w₀ w w' : World} {i : Input me}

/-- Other calls than those that unstake. -/
theorem covered_of_call (h : ∀ staker, i.call ≠ .unstakeTokens staker)
    (h' : ∀ staker, i.call ≠ .emergencyUnstake staker) : Covered tr ⟨w, some i, w'⟩ where
  unstake _ staker _ _ _ _ hi hc := by cases hi; exact absurd hc (h staker)
  emergency _ staker _ _ hi hc := by cases hi; exact absurd hc (h' staker)

/-- What failed leaves the balances as they cover the deposits. -/
theorem Solvent.of_fails (h : Solvent tr w) (hs : w'.state = w.state) (hl : w'.ledger = w.ledger) :
    Solvent (tr ++ [⟨w, some i, w'⟩]) w' := fun token =>
  (h token).trans (surplus_of_same (fun _ => by rw [hs]) (by rw [hl]))

/-- A stake that ends, with payouts of `paid`. -/
theorem solvent_iff_of_payout {staker : Address} {paid : Address → ℤ}
    (h : ∀ token, surplus (tr ++ [⟨w, some i, w'⟩]) w' token =
      surplus tr w token + deposited tr staker token - paid token) :
    Solvent (tr ++ [⟨w, some i, w'⟩]) w' ↔
      ∀ token, paid token ≤ deposited tr staker token + surplus tr w token := by
  refine forall_congr' fun token => ?_
  rw [h, sub_nonneg, add_comm (deposited tr staker token)]

/-- A call that unstakes, or fails to. -/
theorem Step.solvent_unstake (hst : Step w i w') (hx : MovesExactly i.token) (h : Solvent tr w)
    {staker : Address} (hc : i.call = .unstakeTokens staker) :
    Solvent (tr ++ [⟨w, some i, w'⟩]) w' ↔ Covered tr ⟨w, some i, w'⟩ := by
  have hother : ∀ staker', i.call ≠ .emergencyUnstake staker' := fun _ he => by
    rw [hc] at he; cases he
  rcases hst.cases with hok | ⟨hf, hs, hl⟩
  · rw [Succeeds, hc] at hok
    obtain ⟨config, stake, rewards, hu, hs, l₁, hp, hq⟩ := unstakeTokens_completes.1 hok
    have hme : staker ≠ me := fun he => i.env.me_notMem (he ▸ hu.auth)
    have hpost (token : Address) : surplus (tr ++ [⟨w, some i, w'⟩]) w' token =
        surplus tr w token + deposited tr staker token -
          ((if config.stakingToken = token then stake.amount else 0) +
            if config.rewardPool = token then rewards else 0) := by
      have h₁ := hx _ _ _ hp
      rw [surplus_of_end hu.staked hs]
      rcases hq with ⟨-, hq⟩ | ⟨hn, hq⟩
      · rw [hx _ _ _ hq, h₁, Ledger.move, Ledger.move, gain_withdrawal hme, gain_withdrawal hme]
        ring
      · obtain rfl := le_antisymm (not_lt.1 hn) (calculatePendingRewards_nonneg hu.due)
        rw [hq, h₁, Ledger.move, gain_withdrawal hme, ite_self]
        ring
    rw [solvent_iff_of_payout hpost]
    constructor
    · intro hle
      refine ⟨fun i' staker' config' stake' rewards' l₁' hi hc' hu' hp' hq' => ?_,
        fun i' staker' _ _ hi hc' => ?_⟩ <;> cases hi
      · rw [hc] at hc'
        cases hc'
        obtain rfl := Option.some.inj (hu.configured.symm.trans hu'.configured)
        obtain rfl := Option.some.inj (hu.staked.symm.trans hu'.staked)
        obtain rfl := (hu.due.unique hu'.due).1
        exact hle
      · exact absurd hc' (hother staker')
    · intro hcov
      refine hcov.unstake i staker config stake rewards l₁ rfl hc hu hp fun hpos => ?_
      exact hq.elim (fun hq => ⟨_, hq.2⟩) fun hq => absurd hpos hq.1
  · rw [Fails, hc] at hf
    refine iff_of_true (h.of_fails hs hl)
      ⟨fun i' staker' config stake rewards l₁ hi hc' hu hp hq => ?_,
        fun i' staker' _ _ hi hc' => ?_⟩ <;> cases hi
    · rw [hc] at hc'
      cases hc'
      -- with these transfers, the call would have gone through
      by_cases hpos : 0 < rewards
      · obtain ⟨l₂, hq⟩ := hq hpos
        exact absurd (unstakeTokens_completes.2
          ⟨config, stake, rewards, hu, rfl, l₁, hp, Or.inl ⟨hpos, hq⟩⟩) (hf _ l₂)
      · exact absurd (unstakeTokens_completes.2
          ⟨config, stake, rewards, hu, rfl, l₁, hp, Or.inr ⟨hpos, rfl⟩⟩) (hf _ l₁)
    · exact absurd hc' (hother staker')

/-- A call that unstakes in an emergency, or fails to. -/
theorem Step.solvent_emergency (hst : Step w i w') (hx : MovesExactly i.token) (h : Solvent tr w)
    {staker : Address} (hc : i.call = .emergencyUnstake staker) :
    Solvent (tr ++ [⟨w, some i, w'⟩]) w' ↔ Covered tr ⟨w, some i, w'⟩ := by
  have hother : ∀ staker', i.call ≠ .unstakeTokens staker' := fun _ he => by
    rw [hc] at he; cases he
  rcases hst.cases with hok | ⟨hf, hs, hl⟩
  · rw [Succeeds, hc] at hok
    obtain ⟨config, stake, hu, hs, hq⟩ := emergencyUnstake_completes.1 hok
    have hme : staker ≠ me := fun he => i.env.me_notMem (he ▸ hu.auth)
    have hpost (token : Address) : surplus (tr ++ [⟨w, some i, w'⟩]) w' token =
        surplus tr w token + deposited tr staker token -
          if config.stakingToken = token then max 0 (stake.returned config) else 0 := by
      rw [surplus_of_end hu.staked hs]
      rcases hq with ⟨hpos, hq⟩ | ⟨hn, hq⟩
      · rw [hx _ _ _ hq, Ledger.move, gain_withdrawal hme, max_eq_right hpos.le]
        ring
      · rw [hq, max_eq_left (not_lt.1 hn), ite_self]
        ring
    rw [solvent_iff_of_payout hpost]
    constructor
    · intro hle
      refine ⟨fun i' staker' _ _ _ _ hi hc' => ?_,
        fun i' staker' config' stake' hi hc' hu' hq' => ?_⟩ <;> cases hi
      · exact absurd hc' (hother staker')
      · rw [hc] at hc'
        cases hc'
        obtain rfl := Option.some.inj (hu.configured.symm.trans hu'.configured)
        obtain rfl := Option.some.inj (hu.staked.symm.trans hu'.staked)
        exact hle
    · intro hcov
      refine hcov.emergency i staker config stake rfl hc hu fun hpos => ?_
      exact hq.elim (fun hq => ⟨_, hq.2⟩) fun hq => absurd hpos hq.1
  · rw [Fails, hc] at hf
    refine iff_of_true (h.of_fails hs hl) ⟨fun i' staker' _ _ _ _ hi hc' => ?_,
      fun i' staker' config stake hi hc' hu hq => ?_⟩ <;> cases hi
    · exact absurd hc' (hother staker')
    · rw [hc] at hc'
      cases hc'
      by_cases hpos : 0 < stake.returned config
      · obtain ⟨l₁, hq⟩ := hq hpos
        exact absurd (emergencyUnstake_completes.2
          ⟨config, stake, hu, rfl, Or.inl ⟨hpos, hq⟩⟩) (hf _ l₁)
      · exact absurd (emergencyUnstake_completes.2
          ⟨config, stake, hu, rfl, Or.inr ⟨hpos, rfl⟩⟩) (hf _ _)

theorem Step.solvent_stake {w₀ : World} (hst : Step w i w') (hx : MovesExactly i.token)
    (hr : Run (Moves me) w₀ tr w) (h : Solvent tr w) {staker : Address} {tierId : String} {n : ℤ}
    (hc : i.call = .stakeTokens staker tierId n) : Solvent (tr ++ [⟨w, some i, w'⟩]) w' := by
  rcases hst.cases with hok | ⟨-, hs, hl⟩
  · rw [Succeeds, hc] at hok
    obtain ⟨config, stake, hconf, hauth, ht, hs, ha⟩ := stakeTokens_completes hok
    intro token
    rw [surplus_of_stake hr (fun he => i.env.me_notMem (he ▸ hauth)) hconf hs ha (hx _ _ _ ht)]
    exact h token
  · exact h.of_fails hs hl

end

/-- The step lemma: a step keeps the deposits covered exactly if it is covered itself. -/
theorem Moves.solvent_iff {tr : List (FundsEv me)} {w₀ w w' : World} {i : Option (Input me)}
    (hm : Moves me w i w') (hr : Run (Moves me) w₀ tr w) (h : Solvent tr w) :
    Solvent (tr ++ [⟨w, i, w'⟩]) w' ↔ Covered tr ⟨w, i, w'⟩ := by
  cases hm with
  | outside l hl =>
    exact iff_of_true (fun token => (h token).trans (surplus_of_same (fun _ => rfl) (hl token)))
      ⟨fun _ _ _ _ _ _ hi => (by cases hi), fun _ _ _ _ hi => (by cases hi)⟩
  | @call i _ hx hst =>
    by_cases hk : Kind.stake ∈ i.call.writes
    · rcases call_of_writes_stake hk with ⟨_, _, _, hc⟩ | ⟨_, hc⟩ | ⟨_, hc⟩
      · refine iff_of_true (hst.solvent_stake hx hr h hc) (covered_of_call ?_ ?_) <;>
          simp [hc]
      · exact hst.solvent_unstake hx h hc
      · exact hst.solvent_emergency hx h hc
    · refine iff_of_true (fun token => (h token).trans (surplus_of_same
        (fun _ => hst.frame hk) (by rw [hst.ledger_eq hk]))) (covered_of_call ?_ ?_) <;>
        exact fun _ hc => hk (hc ▸ .head _)

/-! ## Runs -/

/-- **The balances cover all deposits in every state of a run exactly if each unstaking call takes
    no more out of the contract than the staker's own deposits, and what is beyond all deposits.** -/
theorem staking_solvent_iff {l : Ledger} {n : ℕ} (h₀ : ∀ token, 0 ≤ l token me)
    {tr : List (FundsEv me)} {w : World} (h : Run (Moves me) ⟨∅, l, n⟩ tr w) :
    (Solvent tr w ∧ Along (fun tr ev => Solvent tr ev.pre) tr) ↔ Along Covered tr :=
  Run.always_iff (fun _ _ hr hs hp => hs.solvent_iff hr hp) h fun token => by
    rw [surplus, owed, Storage.total_empty, sub_zero]
    exact h₀ token

/-- Two members have 100 of the token `⟨5⟩` each. -/
def members : World := ⟨∅, fun token a => if token = ⟨5⟩ ∧ (a = ⟨2⟩ ∨ a = ⟨3⟩) then 100 else 0, 0⟩

theorem members_nonneg (token : Address) : 0 ≤ members.ledger token ⟨0⟩ := by
  simp [members]

/-- The calls of a replay, with the world before and after each. -/
abbrev replay (is : List (Input me)) (w : World) : List (FundsEv me) :=
  (eventsFrom next w is).map fun ev => ⟨ev.pre, some ev.inp, ev.post⟩

/-- Calls with exact tokens at times that do not go back are moves. -/
theorem run_replay (is : List (Input me)) {w : World}
    (h : (w.now :: is.map (·.env.now)).Pairwise (· ≤ ·)) (hx : ∀ i ∈ is, MovesExactly i.token) :
    Run (Moves me) w (replay is w) (is.foldl next w) := by
  induction is generalizing w with
  | nil => exact .nil
  | cons i is ih =>
    obtain ⟨hw, hi⟩ := List.pairwise_cons.1 h
    exact .cons (.call (hx _ (.head _)) (step_next (hw _ (.head _))))
      (ih hi fun j hj => hx j (.tail _ hj))

/-- The admin sets up staking in the token `⟨5⟩`, which is the reward pool as well, and a member
    stakes. -/
def stakingCalls : List (Input ⟨0⟩) :=
  [hubCall 1 (.setAdmin ⟨1⟩), hubCall 2 (.setStakingConfig ⟨1⟩ ⟨true, 0, ⟨5⟩, ⟨5⟩⟩),
    hubCall 3 (.createStakingTier ⟨1⟩ ⟨"gold", "Gold", 1, 0, 10000, 10000⟩),
    hubCall 4 (.stakeTokens ⟨2⟩ "gold" 100)]

/-- Then another member, who has no stake, tries to unstake. -/
def refusedCalls : List (Input ⟨0⟩) := stakingCalls ++ [hubCall 5 (.unstakeTokens ⟨3⟩)]

/-- Then another member stakes, and the first one unstakes a year later. -/
def rewardCalls : List (Input ⟨0⟩) :=
  stakingCalls ++ [hubCall 4 (.stakeTokens ⟨3⟩ "gold" 100),
    hubCall (4 + 365 * 24 * 60 * 60) (.unstakeTokens ⟨2⟩)]

theorem exact_of_calls {is : List (Input ⟨0⟩)}
    (h : ∀ i ∈ is, i.token = exactTokens fun t l => 0 ≤ t.amount ∧ t.amount ≤ l t.token t.src) :
    ∀ i ∈ is, MovesExactly i.token := by
  intro i hi t l l' ht
  rw [h i hi] at ht
  exact (exactTokens_eq_some ht).2

/-- Calls that do not unstake are covered. -/
theorem covered_of_calls {is : List (Input me)} {w : World}
    (h : ∀ i ∈ is, ∀ staker, i.call ≠ .unstakeTokens staker ∧ i.call ≠ .emergencyUnstake staker) :
    Along Covered (replay is w) := by
  intro tr₁ ev tr₂ he
  obtain ⟨ev', hev, rfl⟩ := List.mem_map.1 (he ▸ List.mem_append_right tr₁ (.head tr₂))
  have hi := h ev'.inp (inp_mem_of_eventsFrom hev)
  exact covered_of_call (fun staker => (hi staker).1) fun staker => (hi staker).2

theorem covered_refusedCalls : Along Covered (replay refusedCalls members) := by
  have h : Along Covered (replay stakingCalls members) :=
    covered_of_calls (by simp [stakingCalls, hubCall])
  refine along_snoc.2 ⟨h, fun i staker config stake rewards l₁ hi hc hu => ?_,
    fun i staker config stake hi hc => ?_⟩ <;> cases hi <;> cases hc
  have hs : (stakingCalls.foldl next members).state.get (.stake ⟨3⟩) = none := by decide
  exact nomatch hs.symm.trans hu.staked

/-- The deposit of a member is covered after another one, who has no stake, tried to unstake. -/
theorem staking_solvent_iff_refused :
    Solvent (replay refusedCalls members) (refusedCalls.foldl next members) :=
  ((staking_solvent_iff members_nonneg (run_replay refusedCalls (by decide)
    (exact_of_calls (by simp [refusedCalls, stakingCalls, hubCall])))).2 covered_refusedCalls).1

/-- The rewards of one member are paid out of the deposit of another one. -/
theorem staking_insolvent : ¬ ∀ (l : Ledger) (n : ℕ) (tr : List (FundsEv ⟨0⟩)) (w : World),
    (∀ token, 0 ≤ l token ⟨0⟩) → Run (Moves ⟨0⟩) ⟨∅, l, n⟩ tr w → Solvent tr w := by
  intro h
  have hrun := run_replay rewardCalls (w := members) (by decide)
    (exact_of_calls (by simp [rewardCalls, stakingCalls, hubCall]))
  exact absurd (h _ _ _ _ members_nonneg hrun ⟨5⟩) (by decide)

end ManageHub
