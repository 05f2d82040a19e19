/-
  Versions of membership tokens: upgrades and rollbacks (upgrade.rs, migration.rs).
-/
import NovaLabs.ManageHub.Guards

namespace ManageHub

open Lib Soroban

/-! ## Migration -/

/-- `migrate_token_fields`: the token at a new version, with the fields that are given. -/
def MembershipToken.migrate (token : MembershipToken) (newVersion : ℕ) (newExpiryDate : Option ℕ)
    (newTierId : Option (Option String)) (newStatus : Option MembershipStatus) :
    MembershipToken :=
  { token with
    status := newStatus.getD token.status
    expiryDate := newExpiryDate.getD token.expiryDate
    tierId := newTierId.getD token.tierId
    currentVersion := newVersion }

/-- `apply_snapshot_to_token`: the token at a new version, with the fields of the snapshot. -/
def MembershipToken.applySnapshot (token : MembershipToken) (snapshot : TokenVersionSnapshot)
    (newVersion : ℕ) : MembershipToken :=
  { token with
    status := snapshot.status
    expiryDate := snapshot.expiryDate
    tierId := snapshot.tierId
    currentVersion := newVersion }

section
variable {me : Address} (env : HubEnv me)

def captureSnapshot (token : MembershipToken) (label : Option String) : TokenVersionSnapshot :=
  { version := token.currentVersion, expiryDate := token.expiryDate, status := token.status
    tierId := token.tierId, capturedAt := env.now, label }

def storeSnapshot (tokenId : TokenId) (snapshot : TokenVersionSnapshot) : Fn Unit :=
  store (.versionSnapshot tokenId snapshot.version) snapshot

def recordUpgrade (record : UpgradeRecord) : Fn Unit := do
  let history := (← load (.upgradeHistory record.tokenId)).getD []
  store (.upgradeHistory record.tokenId) (history ++ [record])

def countRollbacks (tokenId : TokenId) : Fn ℕ := do
  let history := (← load (.upgradeHistory tokenId)).getD []
  checked 32 (history.filter (·.isRollback)).length

/-! ## Upgrades -/

def setUpgradeConfig (admin : Address) (config : UpgradeConfig) : Fn Unit := do
  requireStoredAdmin env admin
  store .upgradeConfig config

/-- `get_config` of the upgrades. -/
def getUpgradeConfig : Fn UpgradeConfig := do
  okOr (← load .upgradeConfig) UpgradeError.upgradeNotConfigured.toError

def requireUpgradesEnabled (config : UpgradeConfig) : Fn Unit :=
  failIf (¬ config.upgradesEnabled) UpgradeError.upgradesDisabled.toError

def loadUpgradable (tokenId : TokenId) : Fn MembershipToken := do
  okOr (← load (.token tokenId)) UpgradeError.tokenNotFound.toError

/-- The version after the token's. -/
def nextVersion (token : MembershipToken) : Fn ℕ :=
  if token.currentVersion + 1 < 2 ^ 32 then pure (token.currentVersion + 1)
  else throw (.err UpgradeError.overflow.toError)

/-- The token gives way to `updated`: its old version is kept, and the change recorded. -/
def storeVersion (caller : Address) (tokenId : TokenId) (token updated : MembershipToken)
    (label : Option String) (isRollback : Bool) : Fn Unit := do
  storeSnapshot tokenId (captureSnapshot env token label)
  store (.token tokenId) updated
  recordUpgrade
    { tokenId, fromVersion := token.currentVersion, toVersion := updated.currentVersion
      upgradedBy := caller, upgradedAt := env.now, label, isRollback }

def upgradeToken (caller : Address) (tokenId : TokenId) (label : Option String)
    (newExpiryDate : Option ℕ) (newTierId : Option String) (newStatus : Option MembershipStatus) :
    Fn ℕ := do
  requireAuth env.toEnv caller
  let config ← getUpgradeConfig
  requireUpgradesEnabled config
  let storedAdmin ← getAdmin
  failIf (config.adminOnly ∧ storedAdmin ≠ caller) UpgradeError.unauthorized.toError
  let token ← loadUpgradable tokenId
  failIf (storedAdmin ≠ caller ∧ token.user ≠ caller) UpgradeError.unauthorized.toError
  let toVersion ← nextVersion token
  storeVersion env caller tokenId token
    (token.migrate toVersion newExpiryDate (newTierId.map some) newStatus) label false
  return toVersion

def upgradeSingleForBatch (admin : Address) (tokenId : TokenId) (label : Option String)
    (newExpiryDate : Option ℕ) : Fn ℕ := do
  let token ← loadUpgradable tokenId
  let toVersion ← nextVersion token
  storeVersion env admin tokenId token (token.migrate toVersion newExpiryDate none none) label false
  return toVersion

/-- An error is reported in the result. -/
def upgradeItem (admin : Address) (label : Option String) (newExpiryDate : Option ℕ)
    (results : List BatchUpgradeResult) (tokenId : TokenId) : Fn (List BatchUpgradeResult) := do
  let newVersion ←
    unwrapOr (some <$> upgradeSingleForBatch env admin tokenId label newExpiryDate) none
  return results ++ [{ tokenId, success := newVersion.isSome, newVersion }]

def batchUpgradeTokens (admin : Address) (tokenIds : List TokenId) (label : Option String)
    (newExpiryDate : Option ℕ) : Fn (List BatchUpgradeResult) := do
  requireAuthThenAdmin env admin
  let config ← getUpgradeConfig
  requireUpgradesEnabled config
  tokenIds.foldlM (upgradeItem env admin label newExpiryDate) []

/-- Upgrades need not be enabled; the version still goes up. -/
def rollbackTokenUpgrade (admin : Address) (tokenId : TokenId) (targetVersion : ℕ) : Fn ℕ := do
  requireAuthThenAdmin env admin
  let config ← getUpgradeConfig
  runIf (config.maxRollbacks > 0) do
    let rollbackCount ← countRollbacks tokenId
    failIf (rollbackCount ≥ config.maxRollbacks) UpgradeError.rollbackLimitExceeded.toError
  let token ← loadUpgradable tokenId
  let snapshot ← okOr (← load (.versionSnapshot tokenId targetVersion))
    UpgradeError.noUpgradeHistory.toError
  let toVersion ← nextVersion token
  storeVersion env admin tokenId token (token.applySnapshot snapshot toVersion) (some "rollback")
    true
  return toVersion

end

/-! ## Footprints -/

section
set_option synthInstance.maxSize 1000000

variable {me admin : Address} {env : HubEnv me} {ks : List Kind} {id : TokenId}
  {token updated : MembershipToken} {label tierId : Option String} {expiry : Option ℕ}

instance [In .versionSnapshot ks] {snapshot : TokenVersionSnapshot} :
    Only ks (storeSnapshot id snapshot) := by
  unfold storeSnapshot; infer_instance

instance [In .upgradeHistory ks] {record : UpgradeRecord} : Only ks (recordUpgrade record) := by
  unfold recordUpgrade; infer_instance

instance : Only ks (countRollbacks id) := by unfold countRollbacks; infer_instance

instance [In .upgradeConfig ks] {config : UpgradeConfig} :
    Only ks (setUpgradeConfig env admin config) := by
  unfold setUpgradeConfig; infer_instance

instance : Only ks getUpgradeConfig := by unfold getUpgradeConfig; infer_instance

instance {config : UpgradeConfig} : Only ks (requireUpgradesEnabled config) := by
  unfold requireUpgradesEnabled; infer_instance

instance : Only ks (loadUpgradable id) := by unfold loadUpgradable; infer_instance

instance : Only ks (nextVersion token) := by unfold nextVersion; infer_instance

instance [In .token ks] [In .versionSnapshot ks] [In .upgradeHistory ks] {isRollback : Bool} :
    Only ks (storeVersion env admin id token updated label isRollback) := by
  unfold storeVersion; infer_instance

instance [In .token ks] [In .versionSnapshot ks] [In .upgradeHistory ks]
    {status : Option MembershipStatus} :
    Only ks (upgradeToken env admin id label expiry tierId status) := by
  unfold upgradeToken; infer_instance

instance [In .token ks] [In .versionSnapshot ks] [In .upgradeHistory ks] :
    Only ks (upgradeSingleForBatch env admin id label expiry) := by
  unfold upgradeSingleForBatch; infer_instance

instance [In .token ks] [In .versionSnapshot ks] [In .upgradeHistory ks]
    {results : List BatchUpgradeResult} : Only ks (upgradeItem env admin label expiry results id) := by
  unfold upgradeItem; infer_instance

instance [In .token ks] [In .versionSnapshot ks] [In .upgradeHistory ks] {ids : List TokenId} :
    Only ks (batchUpgradeTokens env admin ids label expiry) := by
  unfold batchUpgradeTokens; infer_instance

instance [In .token ks] [In .versionSnapshot ks] [In .upgradeHistory ks] {version : ℕ} :
    Only ks (rollbackTokenUpgrade env admin id version) := by
  unfold rollbackTokenUpgrade; infer_instance

end

end ManageHub
