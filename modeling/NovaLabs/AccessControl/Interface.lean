/-
  The exported calls of the access_control contract (contracts/access_control/src/lib.rs), as steps.

  `unwrap` turns the error of a module function into a panic, so a call that does not return leaves
  the storage as it was.  Queries without writes are left out.
-/
import NovaLabs.AccessControl.Module
import NovaLabs.Lib.Run

namespace AccessControl

open Lib Soroban

/-- The exported functions that write storage. -/
inductive Call where
  | initializeContract (admin : Address)
  | setRole (admin user : Address) (role : UserRole)
  | checkAccess (user : Address) (requiredRole : UserRole)
  | requireAccess (user : Address) (requiredRole : UserRole)
  | removeRole (admin user : Address)
  | updateConfig (admin : Address) (config : AccessControlConfig)
  | pause (admin : Address)
  | unpause (admin : Address)
  | blacklistUser (admin user : Address)
  | unblacklistUser (admin user : Address)
  | proposeAdminTransfer (currentAdmin newAdmin : Address)
  | acceptAdminTransfer (newAdmin : Address)
  | cancelAdminTransfer (currentAdmin : Address)
  | initializeMultisig (admins : List Address) (requiredSignatures : ℕ)
  | createProposal (proposer : Address) (action : ProposalAction)
  | approveProposal (approver : Address) (proposalId : ℕ)
  | checkAccessLegacy (caller : Address) (requiredRole : String)
  | rejectProposal (rejecter : Address) (proposalId : ℕ)
  | cancelProposal (proposer : Address) (proposalId : ℕ)
  | cleanupExpiredProposals
  | deactivateEmergencyMode (caller : Address)

/-- The role that `check_access_legacy` reads from a string. -/
def legacyRole (requiredRole : String) : UserRole :=
  if requiredRole = "Admin" then .admin else if requiredRole = "Member" then .member else .guest

/-- What a call runs, without the value that it returns. -/
def Call.run (env : CallEnv) : Call → Fn Unit
  | .initializeContract admin => AccessControl.initializeContract admin
  | .setRole admin user role => AccessControl.setRole env admin user role
  | .checkAccess user role => ignore (unwrapOr (AccessControl.checkAccess env user role) false)
  | .requireAccess user role => AccessControl.requireAccess env user role
  | .removeRole admin user => AccessControl.removeRole admin user
  | .updateConfig admin config => AccessControl.updateConfig admin config
  | .pause admin => AccessControl.pause admin
  | .unpause admin => AccessControl.unpause admin
  | .blacklistUser admin user => AccessControl.blacklistUser admin user
  | .unblacklistUser admin user => AccessControl.unblacklistUser admin user
  | .proposeAdminTransfer admin newAdmin => AccessControl.proposeAdminTransfer env admin newAdmin
  | .acceptAdminTransfer newAdmin => AccessControl.acceptAdminTransfer env newAdmin
  | .cancelAdminTransfer admin => AccessControl.cancelAdminTransfer admin
  | .initializeMultisig admins required => AccessControl.initializeMultisig admins required
  | .createProposal proposer action => ignore (AccessControl.createProposal env proposer action)
  | .approveProposal approver id => AccessControl.approveProposal env approver id
  | .checkAccessLegacy caller role =>
    ignore (unwrapOr (AccessControl.checkAccess env caller (legacyRole role)) false)
  | .rejectProposal rejecter id => AccessControl.rejectProposal env rejecter id
  | .cancelProposal proposer id => AccessControl.cancelProposal proposer id
  | .cleanupExpiredProposals => ignore (unwrapOr (AccessControl.cleanupExpiredProposals env) 0)
  | .deactivateEmergencyMode caller => AccessControl.deactivateEmergencyMode caller

/-- A call with what the host gives it. -/
structure Input where
  env : CallEnv
  call : Call

/-- The storage after a call. -/
def next (s : State) (i : Input) : State := commit (i.call.run i.env) s

def Steps (s : State) (i : Input) (s' : State) : Prop := s' = next s i

abbrev Ev := Event State Input

/-- The run of a list of calls. -/
theorem run_calls (s : State) (is : List Input) :
    Run Steps s (eventsFrom next s is) (is.foldl next s) := run_foldl next is s

/-- A run of calls after a successful `initialize_multisig`. -/
def MultisigRun (tr : List Ev) (s : State) : Prop :=
  ∃ env admins requiredSignatures s₀,
    Returns (Call.run env (.initializeMultisig admins requiredSignatures)) {} () s₀ ∧
      Run Steps s₀ tr s

end AccessControl
