/-
  What a call can do to the storage.

  `Effect` lists it for all exported calls, guards included; every invariant is derived from it.
  Creating and approving a proposal are votes (`Vote`), and an executing call is a vote followed by
  the execution of the same proposal.  Four calls write roles and the blacklist directly (`Direct`).
-/
import NovaLabs.AccessControl.Functions

namespace AccessControl

open Lib Soroban

variable {env : CallEnv} {s s' : State}

/-! ## Access checks write their log only -/

/-- At most the log of access attempts differs. -/
def Logged (s s' : State) : Prop := ∃ m, s' = { s with accessAttempts := m }

theorem Logged.refl (s : State) : Logged s s := ⟨s.accessAttempts, rfl⟩

section
variable {a : Address} {role : UserRole} {u : Unit} {b : Bool} {e : AccessControlError}

theorem validateMembershipAccess_returns
    (h : Returns (validateMembershipAccess env a role) s u s') : s' = s := by
  rw [validateMembershipAccess, returns_get_bind] at h
  cases hc : s.config.membershipTokenContract with
  | none =>
    simp only [hc, returns_ite, returns_pure] at h
    rcases h with ⟨-, -, h⟩ | ⟨-, -, h⟩ <;> exact h
  | some token =>
    simp only [hc, checkMembershipToken, returns_ite, returns_bind, returns_okOr, returns_pure,
      returns_failIf] at h
    rcases h with ⟨-, _, _, ⟨_, _, ⟨-, rfl⟩, -, rfl⟩, -, h⟩ | ⟨-, -, h⟩ <;> exact h

theorem validateMembershipAccess_stops {st : Stop AccessControlError}
    (h : Stops (validateMembershipAccess env a role) s st s') : s' = s := by
  rw [validateMembershipAccess, stops_get_bind] at h
  cases hc : s.config.membershipTokenContract with
  | none => simp [hc] at h
  | some token =>
    simp only [hc, checkMembershipToken, stops_ite, stops_bind, returns_bind, returns_okOr,
      returns_pure, stops_okOr, stops_failIf, not_stops_pure, and_false, exists_false,
      or_false] at h
    rcases h with ⟨-, ⟨-, -, h⟩ | ⟨_, _, ⟨_, _, ⟨-, rfl⟩, -, rfl⟩, -, -, h⟩⟩ <;> exact h

theorem logAccessAttempt_returns (h : Returns (logAccessAttempt a) s u s') : Logged s s' := by
  rw [logAccessAttempt, returns_get_bind] at h
  simp only [returns_bind, returns_checked, returns_modify] at h
  obtain ⟨_, _, ⟨-, -, rfl⟩, rfl⟩ := h
  exact ⟨_, rfl⟩

theorem checkAccess_returns (h : Returns (checkAccess env a role) s b s') : Logged s s' := by
  simp only [checkAccess, returns_bind, requireInitialized_returns, requireNotPaused_returns,
    returns_get, returns_ite, returns_pure, returns_unwrapOr] at h
  obtain ⟨_, _, ⟨-, rfl⟩, _, _, ⟨-, rfl⟩, _, _, ⟨rfl, rfl⟩, h⟩ := h
  rcases h with ⟨-, -, rfl⟩ | ⟨-, ⟨-, _, _, hl, -, rfl⟩ | ⟨-, _, _, hv, _, _, hl, -, rfl⟩⟩
  · exact .refl _
  · exact logAccessAttempt_returns hl
  · rcases hv with ⟨_, _, hv, -, rfl⟩ | ⟨-, _, hv⟩
    · obtain rfl := validateMembershipAccess_returns hv
      exact logAccessAttempt_returns hl
    · simp only [stops_bind, not_stops_pure, and_false, exists_false, or_false] at hv
      obtain rfl := validateMembershipAccess_stops hv
      exact logAccessAttempt_returns hl

theorem checkAccess_stops (h : Stops (checkAccess env a role) s (.err e) s') : s' = s := by
  have hlog (s s' : State) : ¬ Stops (logAccessAttempt a) s (.err e) s' := by
    simp [logAccessAttempt]
  simp only [checkAccess, requireInitialized, requireNotPaused, stops_bind, returns_bind, stops_ite,
    not_stops_get, returns_get, stops_failIf, returns_failIf, not_stops_pure, not_stops_unwrapOr,
    hlog, and_false, exists_false, or_false, false_or] at h
  rcases h with ⟨_, _, ⟨rfl, rfl⟩, -, -, h⟩ |
    ⟨_, _, ⟨_, _, ⟨rfl, rfl⟩, -, rfl⟩, _, _, ⟨rfl, rfl⟩, -, -, h⟩
  · exact h
  · exact h

/-- The exported access checks, which answer `false` where the module returns an error. -/
theorem checkAccess_unwrapOr_returns
    (h : Returns (unwrapOr (checkAccess env a role) false) s b s') : Logged s s' := by
  rcases returns_unwrapOr.1 h with h | ⟨-, _, h⟩
  · exact checkAccess_returns h
  · exact checkAccess_stops h ▸ .refl s

end

/-! ## Effects -/

/-- The address that a call names as its caller. -/
def Call.caller : Call → Option Address
  | .setRole a _ _ | .removeRole a _ | .updateConfig a _ | .pause a | .unpause a
  | .blacklistUser a _ | .unblacklistUser a _ | .proposeAdminTransfer a _
  | .acceptAdminTransfer a | .cancelAdminTransfer a | .createProposal a _ | .approveProposal a _
  | .rejectProposal a _ | .cancelProposal a _ | .deactivateEmergencyMode a => some a
  | .initializeContract _ | .initializeMultisig _ _ | .checkAccess _ _ | .requireAccess _ _
  | .checkAccessLegacy _ _ | .cleanupExpiredProposals => none

/-- The storage after `initialize`. -/
def State.start (s : State) (admin : Address) : State :=
  { s.assign admin .admin with
    admin := some admin
    config := {}
    initialized := true
    paused := false
    proposalCounter := 0 }

/-- The storage after `initialize_multisig`. -/
def State.startMultisig (s : State) (c : MultiSigConfig) : State :=
  { s with
    multiSigConfig := some c
    userRole := c.admins.foldl (fun roles admin => roles.insert admin .admin) s.userRole
    config := {}
    initialized := true
    paused := false
    proposalCounter := 0
    proposalStats := {}
    pendingProposalsList := [] }

/-- The storage after `accept_admin_transfer`. -/
def State.transfer (s : State) (a old : Address) : State :=
  { (s.assign a .admin).assign old .guest with
    admin := some a
    pendingAdminTransfer := none }

/-- A valid configuration with distinct admins, under which time-locks end before proposals expire,
    as `initialize_multisig` writes it. -/
structure MultiSigConfig.Sustainable (c : MultiSigConfig) : Prop where
  valid : c.validate = true
  nodup : c.admins.Nodup
  timely : c.timeLockDuration ≤ c.proposalExpiryDuration

/-- The calls that write roles and the blacklist without a proposal. -/
inductive Direct (env : CallEnv) (s : State) : Call → State → Prop
  | setRole {caller user role} : s.initialized = true → s.paused = false →
      user ∉ s.blacklisted → s.IsAdmin caller → RoleAllowed env s.config user role →
      Direct env s (.setRole caller user role) (s.assign user role)
  | removeRole {caller user} : s.IsAdmin caller → s.admin ≠ some user →
      ¬ (caller = user ∧ getRole s user = .admin) →
      Direct env s (.removeRole caller user) (s.assign user .guest)
  | blacklistUser {caller user} : s.IsAdmin caller →
      Direct env s (.blacklistUser caller user) (s.ban user)
  | unblacklistUser {caller user} : s.IsAdmin caller →
      Direct env s (.unblacklistUser caller user) (s.unban user)

/-- The call creates or approves the proposal at `id`, whose record is then `p`. -/
inductive Vote (env : CallEnv) (s : State) : Call → ℕ → PendingProposal → State → Prop
  | create {proposer action c p} : s.IsAdmin proposer → s.multiSigConfig = some c →
      s.proposalStats.pendingCount < c.maxPendingProposals → s.proposalCounter + 1 < 2 ^ 64 →
      p = newProposal env.now s.proposalCounter c proposer action →
      Vote env s (.createProposal proposer action) s.proposalCounter p (s.add p)
  | approve {a id p} : CanVote env s a id p →
      Vote env s (.approveProposal a id) id (p.approve a) (s.put id (p.approve a))

/-- What a call can do with proposals. -/
inductive ProposalStep (env : CallEnv) (s : State) : Call → State → Prop
  | vote {c id p s'} : Vote env s c id p s' → ProposalStep env s c s'
  | execute {c id p s'} : Vote env s c id p s' → Executable env s' p →
      ProposalStep env s c (s'.execute id p)
  | reject {a id p c} : CanVote env s a id p → s.multiSigConfig = some c →
      p.rejections.length + 1 ≤ c.rejectionThreshold →
      ProposalStep env s (.rejectProposal a id) (s.put id (p.reject a))
  | cancel {a id p} : s.proposals.lookup id = some p → p.proposer = a → p.executed = false →
      ProposalStep env s (.cancelProposal a id) (s.drop id s.proposalStats)
  | cleanup {s' : State} : Expired env s s' → ProposalStep env s .cleanupExpiredProposals s'

/-- The address `a` calls one of the functions that only multisig mode disables. -/
inductive ConfigCall (a : Address) : Call → Prop
  | updateConfig (config : AccessControlConfig) : ConfigCall a (.updateConfig a config)
  | pause : ConfigCall a (.pause a)
  | unpause : ConfigCall a (.unpause a)
  | deactivateEmergencyMode : ConfigCall a (.deactivateEmergencyMode a)

/-- What a call can do. -/
inductive Effect (env : CallEnv) (s : State) : Call → State → Prop
  | log {c s'} : Logged s s' → Effect env s c s'
  | start {admin} : s.initialized = false →
      Effect env s (.initializeContract admin) (s.start admin)
  | startMultisig {required c} : s.initialized = false → c.Sustainable →
      Effect env s (.initializeMultisig c.admins required) (s.startMultisig c)
  | direct {c s'} : Direct env s c s' → Effect env s c s'
  | config {c a} (config : AccessControlConfig) (paused emergencyMode : Bool) :
      ConfigCall a c → s.multiSigConfig = none → s.IsAdmin a →
      Effect env s c { s with config, paused, emergencyMode }
  | proposeTransfer {a b} (t : PendingAdminTransfer) : s.multiSigConfig = none → s.IsAdmin a →
      Effect env s (.proposeAdminTransfer a b) { s with pendingAdminTransfer := some t }
  | acceptTransfer {a t} (old : Address) : s.pendingAdminTransfer = some t → t.proposedAdmin = a →
      Effect env s (.acceptAdminTransfer a)
        { (s.assign a .admin).assign old .guest with
          admin := some a
          pendingAdminTransfer := none }
  | cancelTransfer {a t} : s.pendingAdminTransfer = some t → s.IsAdmin a →
      Effect env s (.cancelAdminTransfer a) { s with pendingAdminTransfer := none }
  | proposal {c s'} : ProposalStep env s c s' → Effect env s c s'

section
variable {a user : Address} {role : UserRole} {u : Unit}

theorem initializeContract_returns (h : Returns (initializeContract a) s u s') :
    s.initialized = false ∧ s' = s.start a := by
  rw [initializeContract, returns_get_bind] at h
  simp only [returns_bind, returns_failIf, returns_modify, Bool.not_eq_true] at h
  obtain ⟨_, _, ⟨hi, rfl⟩, rfl⟩ := h
  exact ⟨hi, rfl⟩

theorem initializeMultisig_returns {admins : List Address} {required : ℕ}
    (h : Returns (initializeMultisig admins required) s u s') :
    s.initialized = false ∧ ∃ c, c.Sustainable ∧ c.admins = admins ∧ s' = s.startMultisig c := by
  rw [initializeMultisig, returns_get_bind] at h
  simp only [returns_bind, returns_failIf, returns_checked, returns_modify, Bool.not_eq_true,
    not_not, Bool.not_eq_false] at h
  obtain ⟨_, _, ⟨hi, rfl⟩, _, _, ⟨-, rfl⟩, _, _, ⟨hn, rfl⟩, _, _, ⟨rfl, -, rfl⟩, _, _,
    ⟨rfl, -, rfl⟩, _, _, ⟨hv, rfl⟩, rfl⟩ := h
  exact ⟨hi, _, ⟨hv, hn, by simp⟩, rfl, rfl⟩

/-- The stored transfer makes `a` the admin, in place of `old`. -/
structure Accepts (env : CallEnv) (s : State) (a old : Address) : Prop where
  proposed : ∃ t, s.pendingAdminTransfer = some t ∧ t.proposedAdmin = a ∧ env.now ≤ t.expiry
  replaced : s.admin = some old

theorem acceptAdminTransfer_returns : Returns (acceptAdminTransfer env a) s u s' ↔
    ∃ old, Accepts env s a old ∧ s' = s.transfer a old := by
  simp only [acceptAdminTransfer, returns_bind, returns_get, returns_okOr, returns_failIf,
    returns_modify, ne_eq, not_not, not_lt]
  constructor
  · rintro ⟨_, _, ⟨rfl, rfl⟩, t, _, ⟨ht, rfl⟩, _, _, ⟨hp, rfl⟩, _, _, ⟨hx, rfl⟩, _, _,
      ⟨rfl, rfl⟩, old, _, ⟨ho, rfl⟩, rfl⟩
    exact ⟨old, ⟨⟨t, ht, hp, hx⟩, ho⟩, rfl⟩
  · rintro ⟨old, ⟨⟨t, ht, hp, hx⟩, ho⟩, rfl⟩
    exact ⟨s, s, ⟨rfl, rfl⟩, t, s, ⟨ht, rfl⟩, (), s, ⟨hp, rfl⟩, (), s, ⟨hx, rfl⟩, s, s,
      ⟨rfl, rfl⟩, old, s, ⟨ho, rfl⟩, rfl⟩

theorem setRole_returns : Returns (setRole env a user role) s u s' ↔
    Direct env s (.setRole a user role) s' := by
  simp only [setRole, putRole, returns_bind, requireInitialized_returns, requireNotPaused_returns,
    requireNotBlacklisted_returns, requireAdmin_returns, validateRoleAssignment_returns,
    returns_modify]
  constructor
  · rintro ⟨_, _, ⟨hi, rfl⟩, _, _, ⟨hp, rfl⟩, _, _, ⟨hb, rfl⟩, _, _, ⟨ha, rfl⟩, _, _, ⟨hr, rfl⟩,
      rfl⟩
    exact .setRole hi hp hb ha hr
  · rintro ⟨hi, hp, hb, ha, hr⟩
    exact ⟨(), s, ⟨hi, rfl⟩, (), s, ⟨hp, rfl⟩, (), s, ⟨hb, rfl⟩, (), s, ⟨ha, rfl⟩, (), s, ⟨hr, rfl⟩,
      rfl⟩

theorem removeRole_returns : Returns (removeRole a user) s u s' ↔
    Direct env s (.removeRole a user) s' := by
  simp only [removeRole, putRole, returns_bind, requireAdmin_returns, returns_get, returns_failIf,
    returns_modify]
  constructor
  · rintro ⟨_, _, ⟨ha, rfl⟩, _, _, ⟨rfl, rfl⟩, _, _, ⟨hu, rfl⟩, _, _, ⟨hc, rfl⟩, rfl⟩
    exact .removeRole ha hu hc
  · intro h
    cases h with
    | removeRole ha hu hc =>
      exact ⟨(), s, ⟨ha, rfl⟩, s, s, ⟨rfl, rfl⟩, (), s, ⟨hu, rfl⟩, (), s, ⟨hc, rfl⟩, rfl⟩

theorem blacklistUser_returns : Returns (blacklistUser a user) s u s' ↔
    Direct env s (.blacklistUser a user) s' := by
  simp only [blacklistUser, returns_bind, requireAdmin_returns, returns_modify]
  constructor
  · rintro ⟨_, _, ⟨ha, rfl⟩, rfl⟩; exact .blacklistUser ha
  · intro h
    cases h with
    | blacklistUser ha => exact ⟨(), s, ⟨ha, rfl⟩, rfl⟩

theorem unblacklistUser_returns : Returns (unblacklistUser a user) s u s' ↔
    Direct env s (.unblacklistUser a user) s' := by
  simp only [unblacklistUser, returns_bind, requireAdmin_returns, returns_modify]
  constructor
  · rintro ⟨_, _, ⟨ha, rfl⟩, rfl⟩; exact .unblacklistUser ha
  · intro h
    cases h with
    | unblacklistUser ha => exact ⟨(), s, ⟨ha, rfl⟩, rfl⟩

/-- A direct call that passes its checks writes. -/
theorem Direct.returns {c : Call} (h : Direct env s c s') : Returns (c.run env) s () s' := by
  have hd := h
  cases h with
  | setRole => exact setRole_returns.2 hd
  | removeRole => exact removeRole_returns.2 hd
  | blacklistUser => exact blacklistUser_returns.2 hd
  | unblacklistUser => exact unblacklistUser_returns.2 hd

theorem CanCreate.vote {action : ProposalAction} {c : MultiSigConfig}
    (h : CanCreate env s a action c) :
    Vote env s (.createProposal a action) s.proposalCounter
      (newProposal env.now s.proposalCounter c a action)
      (s.add (newProposal env.now s.proposalCounter c a action)) :=
  .create h.admin h.config h.below h.counter rfl

theorem ConfigCall.effect {c : Call} (hc : ConfigCall a c) (h : Returns (c.run env) s u s') :
    Effect env s c s' := by
  cases hc with
  | updateConfig config =>
    simp only [Call.run, AccessControl.updateConfig, returns_bind, requireNoMultisig_returns,
      requireAdmin_returns, returns_modify] at h
    obtain ⟨_, _, ⟨hm, rfl⟩, _, _, ⟨ha, rfl⟩, rfl⟩ := h
    exact .config _ _ _ (.updateConfig config) hm ha
  | pause =>
    simp only [Call.run, AccessControl.pause, returns_bind, requireNoMultisig_returns,
      requireAdmin_returns, returns_modify] at h
    obtain ⟨_, _, ⟨hm, rfl⟩, _, _, ⟨ha, rfl⟩, rfl⟩ := h
    exact .config _ _ _ .pause hm ha
  | unpause =>
    simp only [Call.run, AccessControl.unpause, returns_bind, requireNoMultisig_returns,
      requireAdmin_returns, returns_modify] at h
    obtain ⟨_, _, ⟨hm, rfl⟩, _, _, ⟨ha, rfl⟩, rfl⟩ := h
    exact .config _ _ _ .unpause hm ha
  | deactivateEmergencyMode =>
    simp only [Call.run, AccessControl.deactivateEmergencyMode, returns_bind,
      requireNoMultisig_returns, requireAdmin_returns, returns_modify] at h
    obtain ⟨_, _, ⟨ha, rfl⟩, _, _, ⟨hm, rfl⟩, rfl⟩ := h
    exact .config _ _ _ .deactivateEmergencyMode hm ha

theorem returns_effect {c : Call} (h : Returns (c.run env) s u s') : Effect env s c s' := by
  cases c with
  | initializeContract admin =>
    obtain ⟨hi, rfl⟩ := initializeContract_returns h
    exact .start hi
  | initializeMultisig admins required =>
    obtain ⟨hi, c, hc, rfl, rfl⟩ := initializeMultisig_returns h
    exact .startMultisig hi hc
  | setRole a user role => exact .direct (setRole_returns.1 h)
  | removeRole a user => exact .direct (removeRole_returns.1 h)
  | blacklistUser a user => exact .direct (blacklistUser_returns.1 h)
  | unblacklistUser a user => exact .direct (unblacklistUser_returns.1 h)
  | updateConfig a config => exact (ConfigCall.updateConfig config).effect h
  | pause a => exact ConfigCall.pause.effect h
  | unpause a => exact ConfigCall.unpause.effect h
  | deactivateEmergencyMode a => exact ConfigCall.deactivateEmergencyMode.effect h
  | checkAccess user role | checkAccessLegacy user role =>
    obtain ⟨_, h⟩ := returns_ignore.1 h
    exact .log (checkAccess_unwrapOr_returns h)
  | requireAccess user role =>
    simp only [Call.run, requireAccess, returns_bind, returns_failIf] at h
    obtain ⟨_, _, h, -, rfl⟩ := h
    exact .log (checkAccess_returns h)
  | proposeAdminTransfer a b =>
    simp only [Call.run, proposeAdminTransfer, returns_bind, requireAdmin_returns, returns_failIf,
      requireNoMultisig_returns, returns_checked, returns_modify] at h
    obtain ⟨_, _, ⟨ha, rfl⟩, _, _, ⟨-, rfl⟩, _, _, ⟨hm, rfl⟩, _, _, ⟨rfl, -, rfl⟩, rfl⟩ := h
    exact .proposeTransfer _ hm ha
  | acceptAdminTransfer a =>
    obtain ⟨old, ⟨⟨t, ht, hp, -⟩, -⟩, rfl⟩ := acceptAdminTransfer_returns.1 h
    exact .acceptTransfer old ht hp
  | cancelAdminTransfer a =>
    simp only [Call.run, cancelAdminTransfer, returns_bind, requireAdmin_returns, returns_get,
      returns_okOr, returns_failIf, returns_modify] at h
    obtain ⟨_, _, ⟨ha, rfl⟩, _, _, ⟨rfl, rfl⟩, t, _, ⟨ht, rfl⟩, _, _, ⟨-, rfl⟩, rfl⟩ := h
    exact .cancelTransfer ht ha
  | createProposal a action =>
    obtain ⟨_, h⟩ := returns_ignore.1 h
    obtain ⟨-, c, hcan, ⟨-, rfl⟩ | ⟨-, he, rfl⟩⟩ := createProposal_returns.1 h
    · exact .proposal (.vote hcan.vote)
    · exact .proposal (.execute hcan.vote he)
  | approveProposal a id =>
    obtain ⟨p, hp, ⟨-, rfl⟩ | ⟨he, rfl⟩⟩ := approveProposal_returns.1 h
    · exact .proposal (.vote (.approve hp))
    · exact .proposal (.execute (.approve hp) he)
  | rejectProposal a id =>
    obtain ⟨p, c, hp, hc, hr, rfl⟩ := rejectProposal_returns h
    exact .proposal (.reject hp hc hr)
  | cancelProposal a id =>
    obtain ⟨p, hp, ha, he, rfl⟩ := cancelProposal_returns.1 h
    exact .proposal (.cancel hp ha he)
  | cleanupExpiredProposals =>
    obtain ⟨_, h⟩ := returns_ignore.1 h
    rcases returns_unwrapOr.1 h with h | ⟨-, _, h⟩
    · exact .proposal (.cleanup (cleanupExpiredProposals_returns h))
    · exact absurd h not_stops_cleanup

/-- **Every call does one of the things that `Effect` lists.** -/
theorem next_effect (s : State) (env : CallEnv) (c : Call) : Effect env s c (next s ⟨env, c⟩) := by
  rcases commit_cases (c.run env) s with ⟨_, h⟩ | ⟨-, h⟩
  · exact returns_effect h
  · rw [next, h]; exact .log (.refl s)

theorem step_effect {i : Input} (h : Steps s i s') : Effect i.env s i.call s' := by
  rw [h]; exact next_effect s i.env i.call

end

end AccessControl
