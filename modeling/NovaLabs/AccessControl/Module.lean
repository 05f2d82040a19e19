/-
  The functions of `AccessControlModule` (contracts/access_control/src/access_control.rs) that the
  contract interface reaches.
-/
import NovaLabs.AccessControl.Types

namespace AccessControl

open Lib Soroban

variable (env : CallEnv)

/-! ## Guards -/

def getRole (s : State) (user : Address) : UserRole := (s.userRole.lookup user).getD .guest

def isAdmin (s : State) (user : Address) : Bool := getRole s user = .admin

def requireAdmin (caller : Address) : Fn Unit := do
  let s ← get
  match s.multiSigConfig with
  | some multisigConfig => failIf (caller ∉ multisigConfig.admins) .adminRequired
  | none => failIf (¬ isAdmin s caller) .adminRequired

def requireInitialized : Fn Unit := do
  failIf (¬ (← get).initialized) .notInitialized

def requireNotPaused : Fn Unit := do
  failIf (← get).paused .contractPaused

def requireNotBlacklisted (user : Address) : Fn Unit := do
  failIf (user ∈ (← get).blacklisted) .unauthorized

/-- `is_multisig_enabled`, with the error of the functions that it disables. -/
def requireNoMultisig (e : AccessControlError) : Fn Unit := do
  failIf (← get).multiSigConfig.isSome e

/-! ## Membership -/

def checkMembershipToken (membershipContract user : Address) : Fn MembershipInfo := do
  let balance ← okOr (env.balanceOf membershipContract user) .membershipTokenCallFailed
  return { user, balance, hasMembership := 0 < balance }

def validateRoleAssignment (user : Address) (role : UserRole) : Fn Unit := do
  let config := (← get).config
  if config.requireMembershipForRoles ∧ (role = .member ∨ role = .admin) then
    let membershipContract ← okOr config.membershipTokenContract .membershipTokenNotSet
    let membershipInfo ← checkMembershipToken env membershipContract user
    failIf (membershipInfo.balance < config.minTokenBalance) .insufficientMembership

/-- Unlike `validateRoleAssignment`, it passes where no token contract is set. -/
def validateMembershipAccess (user : Address) (requiredRole : UserRole) : Fn Unit := do
  let config := (← get).config
  if config.requireMembershipForRoles ∧ (requiredRole = .member ∨ requiredRole = .admin) then
    match config.membershipTokenContract with
    | some membershipContract =>
      let membershipInfo ← checkMembershipToken env membershipContract user
      failIf (membershipInfo.balance < config.minTokenBalance) .insufficientMembership
    | none => pure ()

/-! ## Initialisation -/

/-- `initialize`, with the default configuration. -/
def initializeContract (admin : Address) : Fn Unit := do
  failIf (← get).initialized .configurationError
  modify fun s => { s with
    admin := some admin
    userRole := s.userRole.insert admin .admin
    config := {}
    initialized := true
    paused := false
    proposalCounter := 0 }

/-- `initialize_multisig`, with the default configuration. -/
def initializeMultisig (admins : List Address) (requiredSignatures : ℕ) : Fn Unit := do
  failIf (← get).initialized .configurationError
  failIf (admins = [] ∨ requiredSignatures = 0 ∨ requiredSignatures > admins.length) .invalidAddress
  failIf (¬ admins.Nodup) .duplicateAdmin
  let criticalThreshold := min (← checked 32 (requiredSignatures + 1)) admins.length
  let emergencyThreshold := min (← checked 32 (criticalThreshold + 1)) admins.length
  let multisigConfig : MultiSigConfig :=
    { admins, requiredSignatures, criticalThreshold, emergencyThreshold,
      timeLockDuration := 86400, maxPendingProposals := 50, proposalExpiryDuration := 604800 }
  failIf (¬ multisigConfig.validate) .invalidMultisigConfig
  modify fun s => { s with
    multiSigConfig := some multisigConfig
    userRole := admins.foldl (fun roles admin => roles.insert admin .admin) s.userRole
    config := {}
    initialized := true
    paused := false
    proposalCounter := 0
    proposalStats := {}
    pendingProposalsList := [] }

/-! ## Roles, blacklist, configuration -/

def putRole (user : Address) (role : UserRole) : Fn Unit :=
  modify fun s => { s with userRole := s.userRole.insert user role }

def setRole (caller user : Address) (role : UserRole) : Fn Unit := do
  requireInitialized
  requireNotPaused
  requireNotBlacklisted user
  requireAdmin caller
  validateRoleAssignment env user role
  putRole user role

def removeRole (caller user : Address) : Fn Unit := do
  requireAdmin caller
  let s ← get
  failIf (s.admin = some user) .roleHierarchyViolation
  failIf (caller = user ∧ getRole s user = .admin) .roleHierarchyViolation
  putRole user .guest

def blacklistUser (caller user : Address) : Fn Unit := do
  requireAdmin caller
  modify fun s => { s with blacklisted := insert user s.blacklisted }

def unblacklistUser (caller user : Address) : Fn Unit := do
  requireAdmin caller
  modify fun s => { s with blacklisted := s.blacklisted.erase user }

def updateConfig (caller : Address) (config : AccessControlConfig) : Fn Unit := do
  requireNoMultisig .adminRequired
  requireAdmin caller
  modify fun s => { s with config }

def pause (caller : Address) : Fn Unit := do
  requireNoMultisig .adminRequired
  requireAdmin caller
  modify fun s => { s with paused := true }

def unpause (caller : Address) : Fn Unit := do
  requireNoMultisig .adminRequired
  requireAdmin caller
  modify fun s => { s with paused := false }

def deactivateEmergencyMode (caller : Address) : Fn Unit := do
  requireAdmin caller
  requireNoMultisig .adminRequired
  modify fun s => { s with emergencyMode := false }

/-! ## Access checks -/

/-- Both branches count the attempt; `success` goes to the event only. -/
def logAccessAttempt (user : Address) : Fn Unit := do
  let currentAttempts := ((← get).accessAttempts.lookup user).getD 0
  let attempts ← checked 32 (currentAttempts + 1)
  modify fun s => { s with accessAttempts := s.accessAttempts.insert user attempts }

def checkAccess (user : Address) (requiredRole : UserRole) : Fn Bool := do
  requireInitialized
  requireNotPaused
  let s ← get
  if user ∈ s.blacklisted then
    return false
  else if ¬ (getRole s user).hasAccess requiredRole then
    logAccessAttempt user
    return false
  else
    let success ← unwrapOr (do validateMembershipAccess env user requiredRole; pure true) false
    logAccessAttempt user
    return success

def requireAccess (user : Address) (requiredRole : UserRole) : Fn Unit := do
  let hasAccess ← checkAccess env user requiredRole
  failIf (¬ hasAccess) .insufficientRole

/-! ## Admin transfer -/

def proposeAdminTransfer (currentAdmin newAdmin : Address) : Fn Unit := do
  requireAdmin currentAdmin
  failIf (currentAdmin = newAdmin) .invalidAddress
  requireNoMultisig .invalidAddress
  let expiry ← checked 64 (env.now + 86400)
  modify fun s => { s with
    pendingAdminTransfer := some { proposedAdmin := newAdmin, proposer := currentAdmin, expiry } }

def acceptAdminTransfer (newAdmin : Address) : Fn Unit := do
  let pendingTransfer ← okOr (← get).pendingAdminTransfer .invalidAddress
  failIf (pendingTransfer.proposedAdmin ≠ newAdmin) .unauthorized
  failIf (env.now > pendingTransfer.expiry) .invalidAddress
  let oldAdmin ← okOr (← get).admin .adminRequired
  modify fun s => { s with
    admin := some newAdmin
    userRole := (s.userRole.insert newAdmin .admin).insert oldAdmin .guest
    pendingAdminTransfer := none }

def cancelAdminTransfer (currentAdmin : Address) : Fn Unit := do
  requireAdmin currentAdmin
  let pendingTransfer ← okOr (← get).pendingAdminTransfer .invalidAddress
  failIf (pendingTransfer.proposer ≠ currentAdmin) .unauthorized
  modify fun s => { s with pendingAdminTransfer := none }

/-! ## Proposal records -/

def loadProposal (proposalId : ℕ) : Fn PendingProposal := do
  okOr ((← get).proposals.lookup proposalId) .proposalNotFound

def saveProposal (proposalId : ℕ) (proposal : PendingProposal) : Fn Unit :=
  modify fun s => { s with proposals := s.proposals.insert proposalId proposal }

def removeProposal (proposalId : ℕ) : Fn Unit :=
  modify fun s => { s with proposals := s.proposals.erase proposalId }

def removeFromPendingList (proposalId : ℕ) : Fn Unit :=
  modify fun s => { s with pendingProposalsList := s.pendingProposalsList.filter (· ≠ proposalId) }

def saveStats (proposalStats : ProposalStats) : Fn Unit :=
  modify fun s => { s with proposalStats }

def cleanupExpiredProposal (proposalId : ℕ) : Fn Unit := do
  removeFromPendingList proposalId
  removeProposal proposalId
  let stats := (← get).proposalStats
  let totalExpired ← checked 64 (stats.totalExpired + 1)
  saveStats { stats with totalExpired, pendingCount := stats.pendingCount - 1 }

/-- The guard of the functions that vote on a proposal or execute it. -/
def requireNotExpired (proposalId : ℕ) (proposal : PendingProposal) : Fn Unit := do
  if env.now > proposal.expiry then
    cleanupExpiredProposal proposalId
    throw (.err .proposalExpired)

/-! ## Execution -/

/-- The `match proposal.action` of `execute_proposal`. -/
def executeAction : ProposalAction → Fn Unit
  | .setRole user role => do
    validateRoleAssignment env user role
    putRole user role
  | .updateConfig config => modify fun s => { s with config }
  | .pause => modify fun s => { s with paused := true }
  | .unpause => modify fun s => { s with paused := false }
  | .updateMultisigConfig newConfig => do
    failIf (¬ newConfig.validate) .invalidMultisigConfig
    modify fun s => { s with multiSigConfig := some newConfig }
  | .emergencyPause _ => modify fun s => { s with paused := true, emergencyMode := true }
  | .batchBlacklist users => modify fun s => { s with
      blacklisted := users.foldl (fun blacklisted user => insert user blacklisted) s.blacklisted }
  | .addAdmin newAdmin => do
    match (← get).multiSigConfig with
    | some multisigConfig =>
      failIf (newAdmin ∈ multisigConfig.admins) .duplicateAdmin
      modify fun s => { s with
        multiSigConfig :=
          some { multisigConfig with admins := multisigConfig.admins ++ [newAdmin] } }
      putRole newAdmin .admin
    | none => pure ()
  | .removeAdmin adminToRemove => do
    match (← get).multiSigConfig with
    | some multisigConfig =>
      failIf (multisigConfig.admins.length ≤ multisigConfig.emergencyThreshold)
        .cannotRemoveLastAdmin
      modify fun s => { s with
        multiSigConfig := some { multisigConfig with
          admins := multisigConfig.admins.filter (· ≠ adminToRemove) } }
      putRole adminToRemove .guest
    | none => pure ()
  | .transferAdmin _ | .scheduleUpgrade _ _ | .emergencyAdminTransfer _ =>
    throw (.err .invalidProposalType)

/-- The end of `execute_proposal`: off the pending list, and counted. -/
def countExecuted (proposalId : ℕ) : Fn Unit := do
  removeFromPendingList proposalId
  let stats := (← get).proposalStats
  let totalExecuted ← checked 64 (stats.totalExecuted + 1)
  saveStats { stats with totalExecuted, pendingCount := stats.pendingCount - 1 }

/-- Whether the time-lock of a proposal, if it has one, has passed. -/
def timeLockPassed (now : ℕ) (proposal : PendingProposal) : Bool :=
  proposal.timeLockUntil.all (· ≤ now)

def executeProposal (proposalId : ℕ) : Fn Unit := do
  let proposal ← loadProposal proposalId
  failIf proposal.executed .proposalAlreadyExecuted
  requireNotExpired env proposalId proposal
  failIf (¬ timeLockPassed env.now proposal) .timeLockActive
  failIf (proposal.approvals.length < proposal.requiredSignatures) .insufficientApprovals
  saveProposal proposalId { proposal with executed := true }
  executeAction env proposal.action
  countExecuted proposalId

/-! ## Proposing and voting -/

/-- The end of the time-lock of a new proposal, if its type requires one. -/
def newTimeLock (multisigConfig : MultiSigConfig) (proposalType : ProposalType) :
    Fn (Option ℕ) :=
  if proposalType.requiresTimeLock then
    some <$> checked 64 (env.now + multisigConfig.timeLockDuration)
  else pure none

/-- Store a new proposal, and count it. -/
def storeProposal (stats : ProposalStats) (newProposal : PendingProposal) : Fn Unit := do
  saveProposal newProposal.id newProposal
  let proposalCounter ← checked 64 (newProposal.id + 1)
  modify fun s => { s with
    proposalCounter
    pendingProposalsList := s.pendingProposalsList ++ [newProposal.id] }
  let totalCreated ← checked 64 (stats.totalCreated + 1)
  let pendingCount ← checked 32 (stats.pendingCount + 1)
  saveStats { stats with totalCreated, pendingCount }

def createProposal (proposer : Address) (action : ProposalAction) : Fn ℕ := do
  requireAdmin proposer
  let multisigConfig ← okOr (← get).multiSigConfig .multisigNotEnabled
  let stats := (← get).proposalStats
  failIf (stats.pendingCount ≥ multisigConfig.maxPendingProposals) .maxProposalsReached
  let proposalId := (← get).proposalCounter
  let proposalType := action.classifyType
  let requiredSignatures := multisigConfig.getRequiredSignatures proposalType
  let currentTime := env.now
  let expiry ← checked 64 (currentTime + multisigConfig.proposalExpiryDuration)
  let timeLockUntil ← newTimeLock env multisigConfig proposalType
  -- the proposer automatically approves
  let newProposal : PendingProposal :=
    { id := proposalId, proposer, action, proposalType, approvals := [proposer], rejections := [],
      executed := false, createdAt := currentTime, expiry, timeLockUntil, requiredSignatures }
  storeProposal stats newProposal
  runIf (timeLockUntil.isNone ∧ newProposal.approvals.length ≥ requiredSignatures)
    (executeProposal env proposalId)
  return proposalId

def approveProposal (approver : Address) (proposalId : ℕ) : Fn Unit := do
  requireAdmin approver
  let proposal ← loadProposal proposalId
  failIf proposal.executed .proposalAlreadyExecuted
  requireNotExpired env proposalId proposal
  failIf (approver ∈ proposal.approvals) .alreadyApproved
  failIf (approver ∈ proposal.rejections) .alreadyRejected
  let proposal := { proposal with approvals := proposal.approvals ++ [approver] }
  saveProposal proposalId proposal
  if proposal.approvals.length ≥ proposal.requiredSignatures ∧ timeLockPassed env.now proposal then
    executeProposal env proposalId

/-- The threshold-crossing vote removes the proposal and returns an error. -/
def rejectProposal (rejecter : Address) (proposalId : ℕ) : Fn Unit := do
  requireAdmin rejecter
  let proposal ← loadProposal proposalId
  failIf proposal.executed .proposalAlreadyExecuted
  requireNotExpired env proposalId proposal
  failIf (rejecter ∈ proposal.rejections) .alreadyRejected
  failIf (rejecter ∈ proposal.approvals) .alreadyApproved
  let proposal := { proposal with rejections := proposal.rejections ++ [rejecter] }
  let multisigConfig ← okOr (← get).multiSigConfig .multisigNotEnabled
  let rejectionThreshold := max (multisigConfig.admins.length / 3) 1
  if proposal.rejections.length > rejectionThreshold then
    removeFromPendingList proposalId
    removeProposal proposalId
    let stats := (← get).proposalStats
    let totalRejected ← checked 64 (stats.totalRejected + 1)
    saveStats { stats with totalRejected, pendingCount := stats.pendingCount - 1 }
    throw (.err .proposalRejected)
  else
    saveProposal proposalId proposal

def cancelProposal (proposer : Address) (proposalId : ℕ) : Fn Unit := do
  let proposal ← loadProposal proposalId
  failIf (proposal.proposer ≠ proposer) .unauthorized
  failIf proposal.executed .proposalAlreadyExecuted
  removeFromPendingList proposalId
  removeProposal proposalId
  let stats := (← get).proposalStats
  saveStats { stats with pendingCount := stats.pendingCount - 1 }

/-- One round of the loop of `cleanup_expired_proposals`. -/
def cleanupIfExpired (cleanedCount proposalId : ℕ) : Fn ℕ := do
  match (← get).proposals.lookup proposalId with
  | some proposal =>
    if env.now > proposal.expiry ∧ ¬ proposal.executed then
      cleanupExpiredProposal proposalId
      checked 32 (cleanedCount + 1)
    else return cleanedCount
  | none => return cleanedCount

def cleanupExpiredProposals : Fn ℕ := do
  let pendingList := (← get).pendingProposalsList
  pendingList.foldlM (cleanupIfExpired env) 0

end AccessControl
