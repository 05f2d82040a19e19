/-
  Fractions of membership tokens (fractionalization.rs).
-/
import NovaLabs.ManageHub.Guards

namespace ManageHub

open Lib Soroban

section
variable {me : Address} (env : HubEnv me)

def getFractionInfo (tokenId : TokenId) : Fn FractionalTokenInfo := do
  okOr (← load (.fractionInfo tokenId)) .tokenNotFound

def getFractionShares (tokenId : TokenId) : Fn (SortedMap Address ℤ) := do
  okOr (← load (.fractionShares tokenId)) .tokenNotFound

/-- All shares are the owner's at first, who stays the token's user. -/
def fractionalizeToken (tokenId : TokenId) (totalShares minFractionSize : ℤ) : Fn Unit := do
  failIf (totalShares ≤ 1) .invalidPaymentAmount
  failIf (minFractionSize ≤ 0 ∨ totalShares < minFractionSize) .invalidPaymentAmount
  failIf (totalShares.tmod minFractionSize ≠ 0) .invalidPaymentAmount
  failIf (← load (.fractionInfo tokenId)).isSome .tokenFractionalized
  let token ← loadToken tokenId
  failIf (token.status ≠ .active) .tokenExpired
  requireAuth env.toEnv token.user
  store (.fractionInfo tokenId)
    { tokenId, totalShares, minFractionSize, createdAt := env.now, createdBy := token.user }
  store (.fractionShares tokenId) (SortedMap.set ∅ token.user totalShares)

def transferFraction (tokenId : TokenId) (src dst : Address) (shareAmount : ℤ) : Fn Unit := do
  let info ← getFractionInfo tokenId
  failIf (shareAmount ≤ 0) .invalidPaymentAmount
  failIf (shareAmount < info.minFractionSize) .invalidPaymentAmount
  failIf (shareAmount.tmod info.minFractionSize ≠ 0) .invalidPaymentAmount
  requireAuth env.toEnv src
  let shares ← getFractionShares tokenId
  let senderShares ← okOr (shares.get src) .unauthorized
  failIf (senderShares < shareAmount) .insufficientBalance
  let remaining ← okOr (fitI128 (senderShares - shareAmount)) .timestampOverflow
  failIf (0 < remaining ∧ remaining < info.minFractionSize) .invalidPaymentAmount
  let sent := if remaining = 0 then shares.remove src else shares.set src remaining
  let newReceiverShares ← okOr (fitI128 ((sent.get dst).getD 0 + shareAmount)) .timestampOverflow
  store (.fractionShares tokenId) (sent.set dst newReceiverShares)

/-- The holder of all shares becomes the token's user.  No pause is looked up. -/
def recombineFractions (tokenId : TokenId) (holder : Address) : Fn Unit := do
  let info ← getFractionInfo tokenId
  requireAuth env.toEnv holder
  let shares ← getFractionShares tokenId
  let holderShares ← okOr (shares.get holder) .unauthorized
  failIf (holderShares ≠ info.totalShares) .unauthorized
  let token ← loadToken tokenId
  store (.token tokenId) { token with user := holder }
  remove (.fractionInfo tokenId)
  remove (.fractionShares tokenId)
  remove (.pendingRewards tokenId)

/-- The rewards with `n` more for the holder. -/
def addReward (rewards : SortedMap Address ℤ) (holder : Address) (n : ℤ) :
    Fn (SortedMap Address ℤ) := do
  let reward ← okOr (fitI128 ((rewards.get holder).getD 0 + n)) .timestampOverflow
  return rewards.set holder reward

/-- One holder's part, rounded down, with the sum of the parts so far. -/
def distributeShare (totalAmount totalShares : ℤ) (shares : SortedMap Address ℤ)
    (sofar : SortedMap Address ℤ × ℤ) (holder : Address) : Fn (SortedMap Address ℤ × ℤ) := do
  let shareCount ← okOr (shares.get holder) .unauthorized
  let product ← okOr (fitI128 (totalAmount * shareCount)) .timestampOverflow
  let holderAmount ← okOr (checkedDivI128 product totalShares) .timestampOverflow
  let distributed ← okOr (fitI128 (sofar.2 + holderAmount)) .timestampOverflow
  let rewards ← addReward sofar.1 holder holderAmount
  return (rewards, distributed)

/-- What rounding leaves over goes to the first holder. -/
def distributeFractionRewards (tokenId : TokenId) (totalAmount : ℤ) : Fn DividendDistribution := do
  failIf (totalAmount ≤ 0) .invalidPaymentAmount
  ignore (authAdmin env)
  let info ← getFractionInfo tokenId
  let shares ← getFractionShares tokenId
  failIf (shares.len = 0) .unauthorized
  let pending := (← load (.pendingRewards tokenId)).getD ∅
  let (rewards, distributed) ←
    shares.keys.foldlM (distributeShare totalAmount info.totalShares shares) (pending, 0)
  let remainder ← okOr (fitI128 (totalAmount - distributed)) .timestampOverflow
  let rewards ←
    if 0 < remainder then do
      let firstHolder ← okOr shares.keys.head? .unauthorized
      addReward rewards firstHolder remainder
    else pure rewards
  store (.pendingRewards tokenId) rewards
  return { tokenId, totalAmount, recipients := shares.len, distributedAt := env.now }

end

/-! ## Footprints -/

section
set_option synthInstance.maxSize 1000000

variable {me src dst : Address} {env : HubEnv me} {ks : List Kind} {id : TokenId} {n m : ℤ}
  {shares : SortedMap Address ℤ}

instance : Only ks (getFractionInfo id) := by unfold getFractionInfo; infer_instance

instance : Only ks (getFractionShares id) := by unfold getFractionShares; infer_instance

instance [In .fractionInfo ks] [In .fractionShares ks] :
    Only ks (fractionalizeToken env id n m) := by
  unfold fractionalizeToken; infer_instance

instance [In .fractionShares ks] : Only ks (transferFraction env id src dst n) := by
  unfold transferFraction; infer_instance

instance [In .token ks] [In .fractionInfo ks] [In .fractionShares ks] [In .pendingRewards ks] :
    Only ks (recombineFractions env id src) := by
  unfold recombineFractions; infer_instance

instance : Only ks (addReward shares src n) := by unfold addReward; infer_instance

instance {sofar : SortedMap Address ℤ × ℤ} : Only ks (distributeShare n m shares sofar src) := by
  unfold distributeShare; infer_instance

instance [In .pendingRewards ks] : Only ks (distributeFractionRewards env id n) := by
  unfold distributeFractionRewards; infer_instance

end

end ManageHub
