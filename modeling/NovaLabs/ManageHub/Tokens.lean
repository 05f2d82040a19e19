/-
  Membership tokens of manage_hub: issue and transfer (membership_token.rs), in batches (batch.rs),
  with royalties (royalty.rs) and by delegation (allowance.rs).
-/
import NovaLabs.Lib.Saturating
import NovaLabs.ManageHub.Guards

namespace ManageHub

open Lib Soroban

section
variable {me : Address} (env : HubEnv me)

/-! ## Issue -/

def internalIssueToken (id : TokenId) (user : Address) (expiryDate : ℕ) : Fn Unit := do
  failIf (← load (.token id)).isSome .tokenAlreadyIssued
  failIf (expiryDate ≤ env.now) .invalidExpiryDate
  store (.token id)
    { id, user, status := .active, issueDate := env.now, expiryDate, tierId := none
      gracePeriodEnteredAt := none, gracePeriodExpiresAt := none, renewalAttempts := 0
      lastRenewalAttemptAt := none, currentVersion := 0 }

def issueToken (id : TokenId) (user : Address) (expiryDate : ℕ) : Fn Unit := do
  requireNotPaused env
  ignore (authAdmin env)
  internalIssueToken env id user expiryDate

def batchIssueTokens (params : List BatchMintParams) : Fn Unit := do
  requireNotPaused env
  ignore (authAdmin env)
  params.forM fun p => internalIssueToken env p.id p.user p.expiryDate

/-- Between 1 and 50 items. -/
def validateBatchSize (size : ℕ) : Fn Unit :=
  failIf (size = 0 ∨ size > 50) .unauthorized

def batchMint (params : List BatchMintParams) : Fn Unit := do
  validateBatchSize params.length
  batchIssueTokens env params

/-! ## Transfer -/

def requireNotFractionalized (tokenId : TokenId) : Fn Unit := do
  failIf (← load (.fractionInfo tokenId)).isSome .tokenFractionalized

/-- Only active tokens can be transferred. -/
def requireTransferable (token : MembershipToken) : Fn Unit := do
  failIf (token.status = .gracePeriod) .transferNotAllowedInGracePeriod
  failIf (token.status ≠ .active) .tokenExpired

def internalTransferToken (id : TokenId) (newUser : Address) : Fn Unit := do
  requireTokenNotPaused id
  requireNotFractionalized id
  let token ← loadToken id
  requireTransferable token
  requireAuth env.toEnv token.user
  store (.token id) { token with user := newUser }

def transferToken (id : TokenId) (newUser : Address) : Fn Unit := do
  requireNotPaused env
  internalTransferToken env id newUser

def batchTransferTokens (params : List BatchTransferParams) : Fn Unit := do
  requireNotPaused env
  params.forM fun p => internalTransferToken env p.id p.newUser

def batchTransfer (params : List BatchTransferParams) : Fn Unit := do
  validateBatchSize params.length
  batchTransferTokens env params

/-! ## Royalties -/

/-- Percentages are basis points, of at most 10000 in total. -/
def setRoyalty (tokenId : TokenId) (recipients : List RoyaltyRecipient) : Fn Unit := do
  failIf (recipients.foldl (fun total r => saturatingAdd 32 total r.percentage) 0 > 10000)
    .invalidPaymentAmount
  store (.royalty tokenId) { tokenId, recipients, enabled := true }

/-- One recipient's part, added to the total and to the payments announced so far. -/
def announceRoyalty (salePrice : ℤ) (sofar : ℤ × List (Address × ℤ)) (r : RoyaltyRecipient) :
    Fn (ℤ × List (Address × ℤ)) := do
  let product ← exactI128 (salePrice * r.percentage)
  if 0 < product.tdiv 10000 then do
    let total ← exactI128 (sofar.1 + product.tdiv 10000)
    return (total, sofar.2 ++ [(r.address, product.tdiv 10000)])
  else return sofar

/-- The total of the royalties, and the payments that are announced; none is made here. -/
def calculateAndPayRoyalties (tokenId : TokenId) (salePrice : ℤ) :
    Fn (ℤ × List (Address × ℤ)) := do
  let config ← load (.royalty tokenId)
  if salePrice ≤ 0 then return (0, [])
  else
    ((config.filter (·.enabled)).elim [] (·.recipients)).foldlM (announceRoyalty salePrice) (0, [])

def transferTokenWithRoyalty (id : TokenId) (newUser : Address) (salePrice : ℤ) : Fn Unit := do
  transferToken env id newUser
  ignore (calculateAndPayRoyalties id salePrice)

/-! ## Allowances -/

def TokenAllowance.isExpired (allowance : TokenAllowance) (now : ℕ) : Bool :=
  allowance.expiresAt.any (· ≤ now)

/-- `AllowanceModule::approve`. -/
def approveAllowance (tokenId : TokenId) (owner spender : Address) (amount : ℤ)
    (expiresAt : Option ℕ) : Fn Unit := do
  failIf (amount ≤ 0) .invalidPaymentAmount
  failIf (owner = spender) .unauthorized
  failIf (expiresAt.any (· ≤ env.now)) .invalidExpiryDate
  store (.allowance tokenId owner spender)
    { tokenId, owner, spender, amount, expiresAt, updatedAt := env.now }

/-- `AllowanceModule::get_allowance`: an expired allowance is removed. -/
def currentAllowance (tokenId : TokenId) (owner spender : Address) :
    Fn (Option TokenAllowance) := do
  let allowance ← load (.allowance tokenId owner spender)
  if allowance.any (·.isExpired env.now) then do
    remove (.allowance tokenId owner spender)
    return none
  else return allowance

def consumeAllowance (tokenId : TokenId) (owner spender : Address) (amount : ℤ) : Fn Unit := do
  failIf (amount ≤ 0) .invalidPaymentAmount
  let allowance ← okOr (← load (.allowance tokenId owner spender)) .unauthorized
  runIf (allowance.isExpired env.now) do
    remove (.allowance tokenId owner spender)
    throw (.err .unauthorized)
  failIf (allowance.amount < amount) .insufficientBalance
  let remaining ← okOr (fitI128 (allowance.amount - amount)) .timestampOverflow
  if remaining = 0 then remove (.allowance tokenId owner spender)
  else
    store (.allowance tokenId owner spender)
      { allowance with
        amount := remaining
        updatedAt := env.now }

def approve (tokenId : TokenId) (spender : Address) (amount : ℤ) (expiresAt : Option ℕ) :
    Fn Unit := do
  requireNotPaused env
  requireTokenNotPaused tokenId
  requireNotFractionalized tokenId
  let token ← loadToken tokenId
  requireTransferable token
  requireAuth env.toEnv token.user
  approveAllowance env tokenId token.user spender amount expiresAt

def transferFrom (tokenId : TokenId) (owner toUser spender : Address) (allowanceAmount : ℤ) :
    Fn Unit := do
  requireNotPaused env
  requireTokenNotPaused tokenId
  requireNotFractionalized tokenId
  failIf (allowanceAmount ≤ 0) .invalidPaymentAmount
  requireAuth env.toEnv spender
  let token ← loadToken tokenId
  failIf (token.user ≠ owner) .unauthorized
  requireTransferable token
  consumeAllowance env tokenId owner spender allowanceAmount
  store (.token tokenId) { token with user := toUser }

def revokeAllowance (tokenId : TokenId) (spender : Address) : Fn Unit := do
  requireNotPaused env
  requireTokenNotPaused tokenId
  let token ← loadToken tokenId
  requireAuth env.toEnv token.user
  remove (.allowance tokenId token.user spender)

/-- The query `get_allowance`, which removes an expired allowance. -/
def getAllowance (tokenId : TokenId) (owner spender : Address) : Fn (Option TokenAllowance) := do
  let token ← loadToken tokenId
  if token.user ≠ owner then return none
  else currentAllowance env tokenId owner spender

end

/-! ## Footprints -/

section
set_option synthInstance.maxSize 1000000

variable {me : Address} {env : HubEnv me} {ks : List Kind} {id : TokenId}
  {user owner spender toUser : Address} {n : ℤ} {t : ℕ}

instance [In .token ks] : Only ks (internalIssueToken env id user t) := by
  unfold internalIssueToken; infer_instance

instance [In .token ks] : Only ks (issueToken env id user t) := by
  unfold issueToken; infer_instance

instance {size : ℕ} : Only ks (validateBatchSize size) := by
  unfold validateBatchSize; infer_instance

instance [In .token ks] {ps : List BatchMintParams} : Only ks (batchMint env ps) := by
  unfold batchMint batchIssueTokens; infer_instance

instance : Only ks (requireNotFractionalized id) := by
  unfold requireNotFractionalized; infer_instance

instance {token : MembershipToken} : Only ks (requireTransferable token) := by
  unfold requireTransferable; infer_instance

instance [In .token ks] : Only ks (internalTransferToken env id user) := by
  unfold internalTransferToken; infer_instance

instance [In .token ks] : Only ks (transferToken env id user) := by
  unfold transferToken; infer_instance

instance [In .token ks] {ps : List BatchTransferParams} : Only ks (batchTransfer env ps) := by
  unfold batchTransfer batchTransferTokens; infer_instance

instance [In .royalty ks] {rs : List RoyaltyRecipient} : Only ks (setRoyalty id rs) := by
  unfold setRoyalty; infer_instance

instance {sofar : ℤ × List (Address × ℤ)} {r : RoyaltyRecipient} :
    Only ks (announceRoyalty n sofar r) := by
  unfold announceRoyalty; infer_instance

instance : Only ks (calculateAndPayRoyalties id n) := by
  unfold calculateAndPayRoyalties; infer_instance

instance [In .token ks] : Only ks (transferTokenWithRoyalty env id user n) := by
  unfold transferTokenWithRoyalty; infer_instance

instance [In .allowance ks] {e : Option ℕ} : Only ks (approve env id spender n e) := by
  unfold approve approveAllowance; infer_instance

instance [In .allowance ks] : Only ks (currentAllowance env id owner spender) := by
  unfold currentAllowance; infer_instance

instance [In .allowance ks] : Only ks (consumeAllowance env id owner spender n) := by
  unfold consumeAllowance; infer_instance

instance [In .token ks] [In .allowance ks] : Only ks (transferFrom env id owner toUser spender n) := by
  unfold transferFrom; infer_instance

instance [In .allowance ks] : Only ks (revokeAllowance env id spender) := by
  unfold revokeAllowance; infer_instance

instance [In .allowance ks] : Only ks (getAllowance env id owner spender) := by
  unfold getAllowance; infer_instance

end

end ManageHub
