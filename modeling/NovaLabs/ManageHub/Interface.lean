/-
  The interface of manage_hub (lib.rs): its calls, what each of them writes, and their steps.

  Queries that do not write are left out.  A token contract does not call back: the host refuses
  calls to a contract that is running.
-/
import NovaLabs.Lib.Run
import NovaLabs.ManageHub.Fractions
import NovaLabs.ManageHub.Metadata
import NovaLabs.ManageHub.Renewal
import NovaLabs.ManageHub.Staking
import NovaLabs.ManageHub.Upgrade

namespace ManageHub

open Lib Soroban

/-! ## Calls -/

/-- The public entry points that write storage. -/
inductive Call where
  | setAdmin (admin : Address)
  -- tokens
  | issueToken (id : TokenId) (user : Address) (expiryDate : ℕ)
  | batchMint (params : List BatchMintParams)
  | transferToken (id : TokenId) (newUser : Address)
  | batchTransfer (params : List BatchTransferParams)
  | transferTokenWithRoyalty (id : TokenId) (newUser : Address) (salePrice : ℤ)
  | setRoyalty (tokenId : TokenId) (recipients : List RoyaltyRecipient)
  | approve (tokenId : TokenId) (spender : Address) (amount : ℤ) (expiresAt : Option ℕ)
  | transferFrom (tokenId : TokenId) (owner toUser spender : Address) (allowanceAmount : ℤ)
  | revokeAllowance (tokenId : TokenId) (spender : Address)
  | getAllowance (tokenId : TokenId) (owner spender : Address)
  -- metadata
  | setTokenMetadata (tokenId : TokenId) (description : String) (attributes : Attributes)
  | batchUpdate (params : List BatchUpdateParams)
  | updateTokenMetadata (tokenId : TokenId) (updates : Attributes)
  | removeMetadataAttributes (tokenId : TokenId) (attributeKeys : List String)
  -- fractions
  | fractionalizeToken (tokenId : TokenId) (totalShares minFractionSize : ℤ)
  | transferFraction (tokenId : TokenId) (src dst : Address) (shareAmount : ℤ)
  | recombineFractions (tokenId : TokenId) (holder : Address)
  | distributeFractionRewards (tokenId : TokenId) (totalAmount : ℤ)
  -- renewals
  | setRenewalConfig (gracePeriodDuration autoRenewalNoticeDays : ℕ) (renewalsEnabled : Bool)
  | renewToken (id : TokenId) (paymentToken : Address) (tierId : String)
      (billingCycle : BillingCycle)
  | checkAndApplyGracePeriod (id : TokenId)
  | setAutoRenewal (tokenId : TokenId) (enabled : Bool) (paymentToken : Address)
  | processAutoRenewal (id : TokenId)
  -- pauses
  | emergencyPause (admin : Address) (reason : Option String)
      (autoUnpauseAfter timeLockDuration : Option ℕ)
  | emergencyUnpause (admin : Address)
  | pauseTokenOperations (admin : Address) (tokenId : TokenId) (reason : Option String)
  | unpauseTokenOperations (admin : Address) (tokenId : TokenId)
  -- upgrades
  | setUpgradeConfig (admin : Address) (config : UpgradeConfig)
  | upgradeToken (caller : Address) (tokenId : TokenId) (label : Option String)
      (newExpiryDate : Option ℕ) (newTierId : Option String) (newStatus : Option MembershipStatus)
  | batchUpgradeTokens (admin : Address) (tokenIds : List TokenId) (label : Option String)
      (newExpiryDate : Option ℕ)
  | rollbackTokenUpgrade (admin : Address) (tokenId : TokenId) (targetVersion : ℕ)
  -- attendance and subscriptions
  | logAttendance (id : TokenId) (userId : Address) (action : AttendanceAction)
      (details : SortedMap String String)
  | setPauseConfig (admin : Address) (config : PauseConfig)
  | setUsdcContract (admin usdcAddress : Address)
  | createSubscription (id : String) (user paymentToken : Address) (amount : ℤ) (duration : ℕ)
  | createSubscriptionWithTier (id : String) (user paymentToken : Address) (tierId : String)
      (billingCycle : BillingCycle) (promoCode : Option String)
  | cancelSubscription (id : String)
  | renewSubscription (id : String) (paymentToken : Address) (amount : ℤ) (duration : ℕ)
  | pauseSubscription (id : String) (reason : Option String)
  | pauseSubscriptionAdmin (id : String) (admin : Address) (reason : Option String)
  | resumeSubscription (id : String)
  | resumeSubscriptionAdmin (id : String) (admin : Address)
  -- tiers
  | createTier (admin : Address) (params : CreateTierParams)
  | updateTier (admin : Address) (params : UpdateTierParams)
  | deactivateTier (admin : Address) (id : String)
  | createPromotion (admin : Address) (params : CreatePromotionParams)
  | requestTierChange (user : Address) (subscriptionId newTierId : String)
  | processTierChange (caller : Address) (changeRequestId subscriptionId : String)
      (paymentToken : Address)
  | cancelTierChange (user : Address) (changeRequestId : String)
  -- staking
  | setStakingConfig (admin : Address) (config : StakingConfig)
  | createStakingTier (admin : Address) (tier : StakingTier)
  | stakeTokens (staker : Address) (tierId : String) (amount : ℤ)
  | unstakeTokens (staker : Address)
  | emergencyUnstake (staker : Address)

def entryPoint {me : Address} (env : HubEnv me) : Call → EntryPoint
  | .setAdmin admin => liftM (setAdmin env admin)
  | .issueToken id user expiryDate => liftM (issueToken env id user expiryDate)
  | .batchMint params => liftM (batchMint env params)
  | .transferToken id newUser => liftM (transferToken env id newUser)
  | .batchTransfer params => liftM (batchTransfer env params)
  | .transferTokenWithRoyalty id newUser salePrice =>
    liftM (transferTokenWithRoyalty env id newUser salePrice)
  | .setRoyalty tokenId recipients => liftM (setRoyalty tokenId recipients)
  | .approve tokenId spender amount expiresAt =>
    liftM (approve env tokenId spender amount expiresAt)
  | .transferFrom tokenId owner toUser spender allowanceAmount =>
    liftM (transferFrom env tokenId owner toUser spender allowanceAmount)
  | .revokeAllowance tokenId spender => liftM (revokeAllowance env tokenId spender)
  | .getAllowance tokenId owner spender => liftM (ignore (getAllowance env tokenId owner spender))
  | .setTokenMetadata tokenId description attributes =>
    liftM (setTokenMetadata env tokenId description attributes)
  | .batchUpdate params => liftM (batchUpdate env params)
  | .updateTokenMetadata tokenId updates => liftM (updateTokenMetadata env tokenId updates)
  | .removeMetadataAttributes tokenId attributeKeys =>
    liftM (removeMetadataAttributes env tokenId attributeKeys)
  | .fractionalizeToken tokenId totalShares minFractionSize =>
    liftM (fractionalizeToken env tokenId totalShares minFractionSize)
  | .transferFraction tokenId src dst shareAmount =>
    liftM (transferFraction env tokenId src dst shareAmount)
  | .recombineFractions tokenId holder => liftM (recombineFractions env tokenId holder)
  | .distributeFractionRewards tokenId totalAmount =>
    liftM (ignore (distributeFractionRewards env tokenId totalAmount))
  | .setRenewalConfig gracePeriodDuration autoRenewalNoticeDays renewalsEnabled =>
    liftM (setRenewalConfig env gracePeriodDuration autoRenewalNoticeDays renewalsEnabled)
  | .renewToken id paymentToken tierId billingCycle =>
    liftM (renewToken env id paymentToken tierId billingCycle)
  | .checkAndApplyGracePeriod id => liftM (ignore (checkAndApplyGracePeriod env id))
  | .setAutoRenewal tokenId enabled paymentToken =>
    liftM (setAutoRenewal env tokenId enabled paymentToken)
  | .processAutoRenewal id => liftM (processAutoRenewal env id)
  | .emergencyPause admin reason autoUnpauseAfter timeLockDuration =>
    liftM (emergencyPause env admin reason autoUnpauseAfter timeLockDuration)
  | .emergencyUnpause admin => liftM (emergencyUnpause env admin)
  | .pauseTokenOperations admin tokenId reason =>
    liftM (pauseTokenOperations env admin tokenId reason)
  | .unpauseTokenOperations admin tokenId => liftM (unpauseTokenOperations env admin tokenId)
  | .setUpgradeConfig admin config => liftM (setUpgradeConfig env admin config)
  | .upgradeToken caller tokenId label newExpiryDate newTierId newStatus =>
    liftM (ignore (upgradeToken env caller tokenId label newExpiryDate newTierId newStatus))
  | .batchUpgradeTokens admin tokenIds label newExpiryDate =>
    liftM (ignore (batchUpgradeTokens env admin tokenIds label newExpiryDate))
  | .rollbackTokenUpgrade admin tokenId targetVersion =>
    liftM (ignore (rollbackTokenUpgrade env admin tokenId targetVersion))
  | .logAttendance id userId action details => liftM (logAttendance env id userId action details)
  | .setPauseConfig admin config => liftM (setPauseConfig env admin config)
  | .setUsdcContract admin usdcAddress => liftM (setUsdcContract env admin usdcAddress)
  | .createSubscription id user paymentToken amount duration =>
    liftM (createSubscription env id user paymentToken amount duration)
  | .createSubscriptionWithTier id user paymentToken tierId billingCycle promoCode =>
    liftM (createSubscriptionWithTier env id user paymentToken tierId billingCycle promoCode)
  | .cancelSubscription id => liftM (cancelSubscription env id)
  | .renewSubscription id paymentToken amount duration =>
    liftM (renewSubscription env id paymentToken amount duration)
  | .pauseSubscription id reason => liftM (pauseSubscription env id reason)
  | .pauseSubscriptionAdmin id admin reason => liftM (pauseSubscriptionAdmin env id admin reason)
  | .resumeSubscription id => liftM (resumeSubscription env id)
  | .resumeSubscriptionAdmin id admin => liftM (resumeSubscriptionAdmin env id admin)
  | .createTier admin params => liftM (createTier env admin params)
  | .updateTier admin params => liftM (updateTier env admin params)
  | .deactivateTier admin id => liftM (deactivateTier env admin id)
  | .createPromotion admin params => liftM (createPromotion env admin params)
  | .requestTierChange user subscriptionId newTierId =>
    liftM (ignore (requestTierChange env user subscriptionId newTierId))
  | .processTierChange caller changeRequestId subscriptionId paymentToken =>
    liftM (processTierChange env caller changeRequestId subscriptionId paymentToken)
  | .cancelTierChange user changeRequestId => liftM (cancelTierChange env user changeRequestId)
  | .setStakingConfig admin config => liftM (setStakingConfig env admin config)
  | .createStakingTier admin tier => liftM (createStakingTier env admin tier)
  | .stakeTokens staker tierId amount => stakeTokens env staker tierId amount
  | .unstakeTokens staker => unstakeTokens env staker
  | .emergencyUnstake staker => emergencyUnstake env staker

/-! ## What calls write -/

/-- The kinds of keys that a call may write. -/
@[reducible] def Call.writes : Call → List Kind
  | .setAdmin .. => [.admin]
  | .issueToken .. | .batchMint .. | .transferToken .. | .batchTransfer ..
  | .transferTokenWithRoyalty .. | .checkAndApplyGracePeriod .. => [.token]
  | .setRoyalty .. => [.royalty]
  | .approve .. | .revokeAllowance .. | .getAllowance .. => [.allowance]
  | .transferFrom .. => [.token, .allowance]
  | .setTokenMetadata .. | .batchUpdate .. | .updateTokenMetadata .. =>
    [.metadata, .metadataIndex, .metadataHistory]
  | .removeMetadataAttributes .. => [.metadata, .metadataIndex]
  | .fractionalizeToken .. => [.fractionInfo, .fractionShares]
  | .transferFraction .. => [.fractionShares]
  | .recombineFractions .. => [.token, .fractionInfo, .fractionShares, .pendingRewards]
  | .distributeFractionRewards .. => [.pendingRewards]
  | .setRenewalConfig .. => [.renewalConfig]
  | .renewToken .. | .processAutoRenewal .. => [.token, .renewalHistory]
  | .setAutoRenewal .. => [.autoRenewalSettings]
  | .emergencyPause .. | .emergencyUnpause .. => [.emergencyPauseState]
  | .pauseTokenOperations .. | .unpauseTokenOperations .. => [.tokenPaused]
  | .setUpgradeConfig .. => [.upgradeConfig]
  | .upgradeToken .. | .batchUpgradeTokens .. | .rollbackTokenUpgrade .. =>
    [.token, .versionSnapshot, .upgradeHistory]
  | .logAttendance .. => [.attendanceLog, .attendanceLogsByUser]
  | .setPauseConfig .. => [.pauseConfig]
  | .setUsdcContract .. => [.usdcContract]
  | .createSubscriptionWithTier .. =>
    [.subscription, .tierPromotion, .tierAnalytics, .attendanceLog, .attendanceLogsByUser]
  | .cancelSubscription .. => [.subscription]
  | .renewSubscription .. => [.subscription, .tierAnalytics, .attendanceLog, .attendanceLogsByUser]
  | .createSubscription .. | .pauseSubscription .. | .pauseSubscriptionAdmin ..
  | .resumeSubscription .. | .resumeSubscriptionAdmin .. =>
    [.subscription, .attendanceLog, .attendanceLogsByUser]
  | .createTier .. => [.tier, .tierList, .tierAnalytics]
  | .updateTier .. | .deactivateTier .. => [.tier]
  | .createPromotion .. => [.tierPromotion, .tierPromotionList]
  | .requestTierChange .. => [.tierChangeRequest, .userTierChangeHistory]
  | .processTierChange .. => [.subscription, .tierChangeRequest, .tierAnalytics]
  | .cancelTierChange .. => [.tierChangeRequest]
  | .setStakingConfig .. => [.stakingConfig]
  | .createStakingTier .. => [.tier, .stakingTierList]
  | .stakeTokens .. | .unstakeTokens .. | .emergencyUnstake .. => [.stake]

variable {me : Address}

instance {env : HubEnv me} {c : Call} : OnlyEntry c.writes (entryPoint env c) := by
  cases c <;> (unfold Call.writes entryPoint; infer_instance)

theorem call_of_writes_pause {c : Call} (h : Kind.emergencyPauseState ∈ c.writes) :
    (∃ admin reason a t, c = .emergencyPause admin reason a t) ∨
      ∃ admin, c = .emergencyUnpause admin := by
  cases c with
  | emergencyPause admin reason a t => exact Or.inl ⟨admin, reason, a, t, rfl⟩
  | emergencyUnpause admin => exact Or.inr ⟨admin, rfl⟩
  | _ => simp [Call.writes] at h

theorem call_of_writes_stake {c : Call} (h : Kind.stake ∈ c.writes) :
    (∃ staker tierId amount, c = .stakeTokens staker tierId amount) ∨
      (∃ staker, c = .unstakeTokens staker) ∨ ∃ staker, c = .emergencyUnstake staker := by
  cases c with
  | stakeTokens staker tierId amount => exact Or.inl ⟨staker, tierId, amount, rfl⟩
  | unstakeTokens staker => exact Or.inr (Or.inl ⟨staker, rfl⟩)
  | emergencyUnstake staker => exact Or.inr (Or.inr ⟨staker, rfl⟩)
  | _ => simp [Call.writes] at h

/-- Only staking makes transfers. -/
theorem entryPoint_eq_lift {env : HubEnv me} {c : Call} (h : Kind.stake ∉ c.writes) :
    ∃ x : Fn Unit, entryPoint env c = (liftM x : EntryPoint) := by
  cases c with
  | stakeTokens | unstakeTokens | emergencyUnstake => exact absurd (.head _) h
  | _ => exact ⟨_, rfl⟩

/-! ## Steps -/

structure World where
  state : State
  ledger : Ledger
  now : ℕ

/-- A call with the host's side of it, and the behaviour of the token contracts. -/
structure Input (me : Address) where
  env : HubEnv me
  call : Call
  token : Transfer → Ledger → Option Ledger

/-- The world after a call. -/
def next (w : World) (i : Input me) : World :=
  let r := commitIn i.token (entryPoint i.env i.call) w.state w.ledger
  ⟨r.1, r.2, i.env.now⟩

/-- The calls: the time does not go back. -/
structure Step (w : World) (i : Input me) (w' : World) : Prop where
  clock : w.now ≤ i.env.now
  post : w' = next w i

abbrev Ev (me : Address) := Event World (Input me)

/-- The call goes through. -/
def Succeeds (i : Input me) (w w' : World) : Prop :=
  Completes i.token (entryPoint i.env i.call) w.state w.ledger () w'.state w'.ledger

/-- The call does not go through. -/
def Fails (i : Input me) (w : World) : Prop :=
  ∀ s' l', ¬ Completes i.token (entryPoint i.env i.call) w.state w.ledger () s' l'

/-- The contract before its first call. -/
def start : World := ⟨∅, fun _ _ => 0, 0⟩

section
variable {w w' : World} {i : Input me}

theorem step_next (h : w.now ≤ i.env.now) : Step w i (next w i) := ⟨h, rfl⟩

theorem succeeds_next (h : ((entryPoint i.env i.call w.state).run i.token w.ledger).isSome) :
    Succeeds i w (next w i) := by
  obtain ⟨⟨⟨⟩, s', l'⟩, hr⟩ := Option.isSome_iff_exists.1 h
  have hc : Completes i.token (entryPoint i.env i.call) w.state w.ledger () s' l' := hr
  unfold Succeeds next
  rw [hc.commitIn_eq]
  exact hc

/-- Whether the call goes through. -/
def Input.ok (i : Input me) (w : World) : Bool :=
  ((entryPoint i.env i.call w.state).run i.token w.ledger).isSome

theorem Step.ok_iff (h : Step w i w') : i.ok w = true ↔ Succeeds i w w' := by
  constructor
  · intro hs
    rw [h.post]
    exact succeeds_next hs
  · intro hs
    exact Option.isSome_iff_exists.2 ⟨_, hs⟩

theorem Step.now_eq (h : Step w i w') : w'.now = i.env.now := by rw [h.post]; rfl

/-- A call without transfers is the committed run of its code. -/
theorem Step.state_eq (h : Step w i w') {x : Fn Unit}
    (he : entryPoint i.env i.call = (liftM x : EntryPoint)) : w'.state = commit x w.state := by
  rw [h.post, next, he, commitIn_lift]

/-- What holds before a call without transfers, and after its code where that returns, holds after
    the call. -/
theorem Step.of_returns (h : Step w i w') {x : Fn Unit}
    (he : entryPoint i.env i.call = (liftM x : EntryPoint)) {P : State → Prop} (h₀ : P w.state)
    (hx : ∀ s', Returns x w.state () s' → P s') : P w'.state := by
  rw [h.state_eq he]
  rcases commit_cases x w.state with ⟨⟨⟩, hr⟩ | ⟨-, hs⟩
  · exact hx _ hr
  · rwa [hs]

/-- A call without transfers has an effect exactly if its code returns and has it. -/
theorem Step.effect_iff_returns (h : Step w i w') {x : Fn Unit}
    (he : entryPoint i.env i.call = (liftM x : EntryPoint)) (effect : State → Prop)
    (hn : ¬ effect w.state) :
    effect w'.state ↔ ∃ s', Returns x w.state () s' ∧ effect s' := by
  rw [h.state_eq he]
  rcases commit_cases x w.state with ⟨⟨⟩, hr⟩ | ⟨hf, hs⟩
  · refine ⟨fun hx => ⟨_, hr, hx⟩, ?_⟩
    rintro ⟨s', hr', hx⟩
    rwa [(hr.unique hr').2]
  · rw [hs]
    exact iff_of_false hn fun ⟨s', hr, _⟩ => hf () s' hr

/-- An effect, where the code returns exactly if `p`, and has it then exactly if `q`. -/
theorem Step.effect_iff (h : Step w i w') {x : Fn Unit}
    (he : entryPoint i.env i.call = (liftM x : EntryPoint)) (effect : State → Prop) {p q : Prop}
    (hn : ¬ effect w.state) (hp : (∃ s', Returns x w.state () s') ↔ p)
    (hq : ∀ s', Returns x w.state () s' → (effect s' ↔ q)) : effect w'.state ↔ q ∧ p := by
  rw [h.effect_iff_returns he effect hn]
  constructor
  · rintro ⟨s', hr, hx⟩
    exact ⟨(hq s' hr).1 hx, hp.1 ⟨s', hr⟩⟩
  · rintro ⟨hq', hp'⟩
    obtain ⟨s', hr⟩ := hp.2 hp'
    exact ⟨s', hr, (hq s' hr).2 hq'⟩

theorem Step.ledger_eq (h : Step w i w') (hk : Kind.stake ∉ i.call.writes) :
    w'.ledger = w.ledger := by
  obtain ⟨x, hx⟩ := @entryPoint_eq_lift me i.env _ hk
  rw [h.post, next, hx, commitIn_lift]

/-- A call either goes through, or changes nothing but the time. -/
theorem Step.cases (h : Step w i w') :
    Succeeds i w w' ∨ (Fails i w ∧ w'.state = w.state ∧ w'.ledger = w.ledger) := by
  rw [h.post]
  rcases completes_or_eq i.token (entryPoint i.env i.call) w.state w.ledger with
    ⟨⟨⟩, hc⟩ | ⟨hf, he⟩
  · exact Or.inl hc
  · exact Or.inr ⟨hf (), congrArg Prod.fst he, congrArg Prod.snd he⟩

/-- A call without transfers goes through exactly if its code returns. -/
theorem Step.ok_iff_returns (h : Step w i w') {x : Fn Unit}
    (he : entryPoint i.env i.call = (liftM x : EntryPoint)) :
    i.ok w = true ↔ Returns x w.state () w'.state := by
  have hl : w'.ledger = w.ledger := by rw [h.post, next, he, commitIn_lift]
  rw [h.ok_iff, Succeeds, he, completes_lift, and_iff_left hl]

/-- A call without transfers whose code returns goes through, with its effect. -/
theorem Step.of_code (h : Step w i w') {x : Fn Unit}
    (he : entryPoint i.env i.call = (liftM x : EntryPoint)) {s' : State}
    (hr : Returns x w.state () s') : i.ok w = true ∧ w'.state = s' := by
  have hs : w'.state = s' := (h.state_eq he).trans hr.commit_eq
  exact ⟨(h.ok_iff_returns he).2 (hs ▸ hr), hs⟩

/-- A call that does not go through changes nothing but the time. -/
theorem Step.state_eq_of_not_ok (h : Step w i w') (hn : ¬ i.ok w = true) :
    w'.state = w.state := by
  rcases h.cases with hs | ⟨-, he, -⟩
  · exact absurd (h.ok_iff.2 hs) hn
  · exact he

/-- A call leaves the keys that it does not write alone. -/
theorem Step.frame (h : Step w i w') {k : DataKey} (hk : k.kind ∉ i.call.writes) :
    w'.state.get k = w.state.get k := by
  rcases h.cases with hs | ⟨-, he, -⟩
  · exact OnlyEntry.same hs k hk
  · rw [he]

end

/-- Calls at times that do not go back make a run. -/
theorem run_calls (is : List (Input me)) {w : World}
    (h : (w.now :: is.map (·.env.now)).Pairwise (· ≤ ·)) :
    Run Step w (eventsFrom next w is) (is.foldl next w) := by
  induction is generalizing w with
  | nil => exact .nil
  | cons i is ih =>
    obtain ⟨hw, hi⟩ := List.pairwise_cons.1 h
    exact .cons (step_next (hw _ (.head _))) (ih hi)

/-- The host's side of a call at the time. -/
def hubEnv (now : ℕ) : HubEnv ⟨0⟩ := { sampleEnv now with sequence := now }

/-- A call at time `now`, with tokens that pay where the source has the funds. -/
def hubCall (now : ℕ) (call : Call) : Input ⟨0⟩ where
  env := { sampleEnv now with sequence := now }
  call := call
  token := exactTokens fun t l => 0 ≤ t.amount ∧ t.amount ≤ l t.token t.src

/-- The admin issues a token to `⟨2⟩`. -/
def issueCalls : List (Input ⟨0⟩) :=
  [hubCall 1 (.setAdmin ⟨1⟩), hubCall 2 (.issueToken 1 ⟨2⟩ 1000)]

end ManageHub
