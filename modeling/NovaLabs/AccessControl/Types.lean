/-
  Records of the access_control contract (contracts/access_control/src/types.rs, errors.rs) and its
  storage.
-/
import NovaLabs.Lib.Store
import NovaLabs.Soroban.Host

namespace AccessControl

open Lib Soroban

/-- The errors that the module functions return. -/
inductive AccessControlError where
  | unauthorized
  | adminRequired
  | insufficientRole
  | membershipTokenNotSet
  | membershipTokenCallFailed
  | insufficientMembership
  | notInitialized
  | configurationError
  | invalidAddress
  | roleHierarchyViolation
  | contractPaused
  | multisigNotEnabled
  | insufficientApprovals
  | proposalNotFound
  | proposalAlreadyExecuted
  | proposalExpired
  | timeLockActive
  | alreadyApproved
  | alreadyRejected
  | maxProposalsReached
  | invalidProposalType
  | invalidMultisigConfig
  | cannotRemoveLastAdmin
  | duplicateAdmin
  | proposalRejected
  deriving DecidableEq

/-! ## Roles and configuration -/

/-- User roles: `admin` over `member` over `guest`. -/
inductive UserRole where
  | guest
  | member
  | admin
  deriving DecidableEq

/-- The discriminant of a role. -/
def UserRole.rank : UserRole → ℕ
  | .guest => 0
  | .member => 1
  | .admin => 2

def UserRole.hasAccess (role requiredRole : UserRole) : Bool := requiredRole.rank ≤ role.rank

structure MembershipInfo where
  user : Address
  balance : ℤ
  hasMembership : Bool

/-- The default values are those of `AccessControlConfig::default`. -/
structure AccessControlConfig where
  membershipTokenContract : Option Address := none
  requireMembershipForRoles : Bool := false
  minTokenBalance : ℤ := 0
  subscriptionContract : Option Address := none
  enforceTierRestrictions : Bool := false
  deriving DecidableEq

/-! ## Proposals -/

inductive ProposalType where
  | standard
  | critical
  | emergency
  | timeLocked
  deriving DecidableEq

def ProposalType.requiresTimeLock : ProposalType → Bool
  | .timeLocked | .critical => true
  | .standard | .emergency => false

structure MultiSigConfig where
  admins : List Address
  requiredSignatures : ℕ
  criticalThreshold : ℕ
  emergencyThreshold : ℕ
  timeLockDuration : ℕ
  maxPendingProposals : ℕ
  proposalExpiryDuration : ℕ
  deriving DecidableEq

/-- Validate configuration parameters. -/
def MultiSigConfig.validate (c : MultiSigConfig) : Bool :=
  c.admins ≠ [] ∧ c.requiredSignatures > 0 ∧ c.requiredSignatures ≤ c.admins.length ∧
    c.criticalThreshold ≥ c.requiredSignatures ∧ c.emergencyThreshold ≥ c.criticalThreshold ∧
    c.emergencyThreshold ≤ c.admins.length ∧ c.timeLockDuration > 0 ∧
    c.maxPendingProposals > 0 ∧ c.proposalExpiryDuration > 0

def MultiSigConfig.getRequiredSignatures (c : MultiSigConfig) : ProposalType → ℕ
  | .standard => c.requiredSignatures
  | .critical | .timeLocked => c.criticalThreshold
  | .emergency => c.emergencyThreshold

inductive ProposalAction where
  | setRole (user : Address) (role : UserRole)
  | updateConfig (config : AccessControlConfig)
  | addAdmin (newAdmin : Address)
  | removeAdmin (admin : Address)
  | pause
  | unpause
  | transferAdmin (newAdmin : Address)
  | updateMultisigConfig (config : MultiSigConfig)
  | emergencyPause (reason : String)
  | batchBlacklist (users : List Address)
  | scheduleUpgrade (contract : Address) (time : ℕ)
  | emergencyAdminTransfer (newAdmin : Address)
  deriving DecidableEq

def ProposalAction.classifyType : ProposalAction → ProposalType
  | .setRole _ _ => .standard
  | .updateConfig _ => .critical
  | .addAdmin _ => .critical
  | .removeAdmin _ => .critical
  | .pause => .critical
  | .unpause => .standard
  | .transferAdmin _ => .critical
  | .updateMultisigConfig _ => .critical
  | .emergencyPause _ => .emergency
  | .batchBlacklist _ => .critical
  | .scheduleUpgrade _ _ => .timeLocked
  | .emergencyAdminTransfer _ => .emergency

structure PendingProposal where
  id : ℕ
  proposer : Address
  action : ProposalAction
  proposalType : ProposalType
  approvals : List Address
  rejections : List Address
  executed : Bool
  createdAt : ℕ
  expiry : ℕ
  timeLockUntil : Option ℕ
  requiredSignatures : ℕ
  deriving DecidableEq

structure PendingAdminTransfer where
  proposedAdmin : Address
  proposer : Address
  expiry : ℕ
  deriving DecidableEq

structure ProposalStats where
  totalCreated : ℕ := 0
  totalExecuted : ℕ := 0
  totalRejected : ℕ := 0
  totalExpired : ℕ := 0
  pendingCount : ℕ := 0
  deriving DecidableEq

/-! ## Storage -/

/-- The contract's storage, one field per key.  A key that the code reads with `unwrap_or` has the
    value that it reads where the key is absent. -/
structure State where
  userRole : Store Address UserRole := ∅
  admin : Option Address := none
  config : AccessControlConfig := {}
  initialized : Bool := false
  paused : Bool := false
  blacklisted : Finset Address := ∅
  accessAttempts : Store Address ℕ := ∅
  multiSigConfig : Option MultiSigConfig := none
  proposals : Store ℕ PendingProposal := ∅
  proposalCounter : ℕ := 0
  pendingAdminTransfer : Option PendingAdminTransfer := none
  proposalStats : ProposalStats := {}
  pendingProposalsList : List ℕ := []
  emergencyMode : Bool := false

/-- The host's side of a call: the ledger timestamp, the addresses that authorised the call, and
    what `balance_of` of a token contract returns for a user, `none` where that call fails. -/
structure CallEnv where
  now : ℕ
  auths : Finset Address
  balanceOf : Address → Address → Option ℤ

abbrev Fn (α : Type) := Code State AccessControlError α

end AccessControl
