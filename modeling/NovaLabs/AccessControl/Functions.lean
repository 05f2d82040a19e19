/-
  What the functions of the access control module do: the updates of the storage they make, and one
  specification for each function that says when it returns.
-/
import NovaLabs.AccessControl.Interface

namespace AccessControl

open Lib Soroban

variable {env : CallEnv} {s s' : State}

/-! ## Updates of the storage -/

namespace State
variable (s : State)

def assign (user : Address) (role : UserRole) : State :=
  { s with userRole := s.userRole.insert user role }

def ban (user : Address) : State := { s with blacklisted := insert user s.blacklisted }

def unban (user : Address) : State := { s with blacklisted := s.blacklisted.erase user }

/-- Replace the record of a proposal. -/
def put (id : ℕ) (p : PendingProposal) : State := { s with proposals := s.proposals.insert id p }

/-- Take a proposal off the pending list, with the statistics `stats`. -/
def unlist (id : ℕ) (stats : ProposalStats) : State :=
  { s with
    pendingProposalsList := s.pendingProposalsList.filter (· ≠ id)
    proposalStats := { stats with pendingCount := stats.pendingCount - 1 } }

/-- Remove a proposal, with the statistics `stats`. -/
def drop (id : ℕ) (stats : ProposalStats) : State :=
  { s.unlist id stats with proposals := s.proposals.erase id }

/-- Remove an expired proposal. -/
def expire (id : ℕ) : State :=
  s.drop id { s.proposalStats with totalExpired := s.proposalStats.totalExpired + 1 }

/-- Store a new proposal. -/
def add (p : PendingProposal) : State :=
  { s.put p.id p with
    proposalCounter := s.proposalCounter + 1
    pendingProposalsList := s.pendingProposalsList ++ [p.id]
    proposalStats := { s.proposalStats with
      totalCreated := s.proposalStats.totalCreated + 1
      pendingCount := s.proposalStats.pendingCount + 1 } }

/-- The storage after the action of a proposal. -/
def apply : ProposalAction → State
  | .setRole user role => s.assign user role
  | .updateConfig config => { s with config }
  | .pause => { s with paused := true }
  | .unpause => { s with paused := false }
  | .updateMultisigConfig c => { s with multiSigConfig := some c }
  | .emergencyPause _ => { s with paused := true, emergencyMode := true }
  | .batchBlacklist users => { s with
      blacklisted := users.foldl (fun blacklisted user => insert user blacklisted) s.blacklisted }
  | .addAdmin a => (s.multiSigConfig.elim s fun c =>
      { s with multiSigConfig := some { c with admins := c.admins ++ [a] } }.assign a .admin)
  | .removeAdmin a => (s.multiSigConfig.elim s fun c =>
      { s with
        multiSigConfig := some { c with admins := c.admins.filter (· ≠ a) } }.assign a .guest)
  | .transferAdmin _ | .scheduleUpgrade _ _ | .emergencyAdminTransfer _ => s

/-- Execute the proposal `p`, stored at `id`. -/
def execute (id : ℕ) (p : PendingProposal) : State :=
  let s₁ := (s.put id { p with executed := true }).apply p.action
  s₁.unlist id { s₁.proposalStats with totalExecuted := s₁.proposalStats.totalExecuted + 1 }

/-- The address passes `require_admin`. -/
def IsAdmin (a : Address) : Prop :=
  match s.multiSigConfig with
  | some c => a ∈ c.admins
  | none => isAdmin s a

end State

section
variable (s) (id : ℕ) (p : PendingProposal) (stats : ProposalStats) (a : ProposalAction)

@[simp] theorem put_proposals : (s.put id p).proposals = s.proposals.insert id p := rfl
@[simp] theorem unlist_proposals : (s.unlist id stats).proposals = s.proposals := rfl
@[simp] theorem drop_proposals : (s.drop id stats).proposals = s.proposals.erase id := rfl
@[simp] theorem expire_proposals : (s.expire id).proposals = s.proposals.erase id := rfl
@[simp] theorem add_proposals : (s.add p).proposals = s.proposals.insert p.id p := rfl
@[simp] theorem put_counter : (s.put id p).proposalCounter = s.proposalCounter := rfl
@[simp] theorem unlist_counter : (s.unlist id stats).proposalCounter = s.proposalCounter := rfl

@[simp] theorem apply_proposals : (s.apply a).proposals = s.proposals := by
  cases a with
  | addAdmin | removeAdmin => unfold State.apply; cases s.multiSigConfig <;> rfl
  | _ => rfl

@[simp] theorem apply_counter : (s.apply a).proposalCounter = s.proposalCounter := by
  cases a with
  | addAdmin | removeAdmin => unfold State.apply; cases s.multiSigConfig <;> rfl
  | _ => rfl

@[simp] theorem apply_stats : (s.apply a).proposalStats = s.proposalStats := by
  cases a with
  | addAdmin | removeAdmin => unfold State.apply; cases s.multiSigConfig <;> rfl
  | _ => rfl

@[simp] theorem execute_proposals :
    (s.execute id p).proposals = s.proposals.insert id { p with executed := true } := by
  simp [State.execute]

@[simp] theorem execute_counter : (s.execute id p).proposalCounter = s.proposalCounter := by
  simp [State.execute]

@[simp] theorem execute_totalExecuted :
    (s.execute id p).proposalStats.totalExecuted = s.proposalStats.totalExecuted + 1 := by
  simp [State.execute, State.unlist, State.put]

end

/-! ## Guards -/

section
variable {a : Address} {u : Unit}

theorem requireAdmin_returns : Returns (requireAdmin a) s u s' ↔ s.IsAdmin a ∧ s' = s := by
  unfold requireAdmin State.IsAdmin
  rw [returns_get_bind]
  cases s.multiSigConfig <;> simp

theorem requireInitialized_returns :
    Returns requireInitialized s u s' ↔ s.initialized = true ∧ s' = s := by
  simp only [requireInitialized, returns_get_bind, returns_failIf, not_not]

theorem requireNotPaused_returns :
    Returns requireNotPaused s u s' ↔ s.paused = false ∧ s' = s := by
  simp only [requireNotPaused, returns_get_bind, returns_failIf, Bool.not_eq_true]

theorem requireNotBlacklisted_returns :
    Returns (requireNotBlacklisted a) s u s' ↔ a ∉ s.blacklisted ∧ s' = s := by
  simp only [requireNotBlacklisted, returns_get_bind, returns_failIf]

theorem requireNoMultisig_returns {e : AccessControlError} :
    Returns (requireNoMultisig e) s u s' ↔ s.multiSigConfig = none ∧ s' = s := by
  simp only [requireNoMultisig, returns_get_bind, returns_failIf, Bool.not_eq_true,
    Option.isSome_eq_false_iff, Option.isNone_iff_eq_none]

/-- The membership condition for giving `user` the role `role`. -/
def RoleAllowed (env : CallEnv) (config : AccessControlConfig) (user : Address) (role : UserRole) :
    Prop :=
  config.requireMembershipForRoles = true ∧ (role = .member ∨ role = .admin) →
    ∃ token balance, config.membershipTokenContract = some token ∧
      env.balanceOf token user = some balance ∧ config.minTokenBalance ≤ balance

theorem validateRoleAssignment_returns {role : UserRole} :
    Returns (validateRoleAssignment env a role) s u s' ↔
      RoleAllowed env s.config a role ∧ s' = s := by
  rw [validateRoleAssignment, returns_get_bind]
  simp only [checkMembershipToken, returns_ite, returns_bind, returns_okOr, returns_pure,
    returns_failIf, not_lt]
  constructor
  · rintro (⟨-, token, _, ⟨ht, rfl⟩, _, _, ⟨b, _, ⟨hb, rfl⟩, rfl, rfl⟩, hle, rfl⟩ | ⟨hc, -, rfl⟩)
    · exact ⟨fun _ => ⟨token, b, ht, hb, hle⟩, rfl⟩
    · exact ⟨fun hc' => absurd hc' hc, rfl⟩
  · rintro ⟨h, rfl⟩
    by_cases hc : s'.config.requireMembershipForRoles = true ∧ (role = .member ∨ role = .admin)
    · obtain ⟨token, b, ht, hb, hle⟩ := h hc
      exact Or.inl ⟨hc, token, s', ⟨ht, rfl⟩, _, s', ⟨b, s', ⟨hb, rfl⟩, rfl, rfl⟩, hle, rfl⟩
    · exact Or.inr ⟨hc, trivial, rfl⟩

end

/-! ## Execution -/

/-- The checks that the actions make. -/
def ActionPasses (env : CallEnv) (s : State) : ProposalAction → Prop
  | .setRole user role => RoleAllowed env s.config user role
  | .updateMultisigConfig c => c.validate = true
  | .addAdmin a => ∀ c, s.multiSigConfig = some c → a ∉ c.admins
  | .removeAdmin _ => ∀ c, s.multiSigConfig = some c → c.emergencyThreshold < c.admins.length
  | _ => True

/-- The actions that `execute_proposal` has a branch for. -/
def ProposalAction.HasBranch : ProposalAction → Prop
  | .transferAdmin _ | .scheduleUpgrade _ _ | .emergencyAdminTransfer _ => False
  | _ => True

/-- The proposal `p` can be executed. -/
structure Executable (env : CallEnv) (s : State) (p : PendingProposal) : Prop where
  pending : p.executed = false
  inTime : env.now ≤ p.expiry
  unlocked : timeLockPassed env.now p = true
  signed : p.requiredSignatures ≤ p.approvals.length
  branch : p.action.HasBranch
  passes : ActionPasses env s p.action
  room : s.proposalStats.totalExecuted + 1 < 2 ^ 64

section
variable {a : Address} {id : ℕ} {p : PendingProposal} {u : Unit}

theorem executeAction_returns {action : ProposalAction} :
    Returns (executeAction env action) s u s' ↔
      action.HasBranch ∧ ActionPasses env s action ∧ s' = s.apply action := by
  cases action with
  | setRole user role =>
    simp only [executeAction, putRole, returns_bind, validateRoleAssignment_returns,
      returns_modify, ProposalAction.HasBranch, ActionPasses, State.apply, State.assign]
    constructor
    · rintro ⟨_, _, ⟨h, rfl⟩, rfl⟩; exact ⟨trivial, h, rfl⟩
    · rintro ⟨-, h, rfl⟩; exact ⟨(), s, ⟨h, rfl⟩, rfl⟩
  | updateMultisigConfig c =>
    simp only [executeAction, returns_bind, returns_failIf, returns_modify, not_not,
      ProposalAction.HasBranch, ActionPasses, State.apply]
    constructor
    · rintro ⟨_, _, ⟨h, rfl⟩, rfl⟩; exact ⟨trivial, h, rfl⟩
    · rintro ⟨-, h, rfl⟩; exact ⟨(), s, ⟨h, rfl⟩, rfl⟩
  | addAdmin a =>
    rw [executeAction, returns_get_bind]
    cases hc : s.multiSigConfig with
    | none => simp [ProposalAction.HasBranch, ActionPasses, State.apply, hc]
    | some c =>
      simp [ProposalAction.HasBranch, ActionPasses, State.apply, State.assign, hc, putRole]
  | removeAdmin a =>
    rw [executeAction, returns_get_bind]
    cases hc : s.multiSigConfig with
    | none => simp [ProposalAction.HasBranch, ActionPasses, State.apply, hc]
    | some c =>
      simp [ProposalAction.HasBranch, ActionPasses, State.apply, State.assign, hc, putRole]
  | transferAdmin | scheduleUpgrade | emergencyAdminTransfer =>
    simp [executeAction, ProposalAction.HasBranch]
  | updateConfig | pause | unpause | emergencyPause | batchBlacklist =>
    simp [executeAction, ProposalAction.HasBranch, ActionPasses, State.apply]

theorem loadProposal_returns :
    Returns (loadProposal id) s p s' ↔ s.proposals.lookup id = some p ∧ s' = s := by
  simp only [loadProposal, returns_get_bind, returns_okOr]

theorem requireNotExpired_returns :
    Returns (requireNotExpired env id p) s u s' ↔ env.now ≤ p.expiry ∧ s' = s := by
  simp [requireNotExpired, returns_ite]

theorem countExecuted_returns :
    Returns (countExecuted id) s u s' ↔ s.proposalStats.totalExecuted + 1 < 2 ^ 64 ∧
      s' = s.unlist id { s.proposalStats with
        totalExecuted := s.proposalStats.totalExecuted + 1 } := by
  simp [countExecuted, removeFromPendingList, saveStats, State.unlist]

theorem actionPasses_put {action : ProposalAction} :
    ActionPasses env (s.put id p) action ↔ ActionPasses env s action := by
  cases action <;> rfl

theorem executeProposal_returns :
    Returns (executeProposal env id) s u s' ↔
      ∃ p, s.proposals.lookup id = some p ∧ Executable env s p ∧ s' = s.execute id p := by
  simp only [executeProposal, saveProposal, returns_bind, loadProposal_returns, returns_failIf,
    requireNotExpired_returns, returns_modify, executeAction_returns, countExecuted_returns,
    not_lt, Bool.not_eq_true, Bool.not_eq_false]
  constructor
  · rintro ⟨p, _, ⟨hp, rfl⟩, _, _, ⟨he, rfl⟩, _, _, ⟨hx, rfl⟩, _, _, ⟨ht, rfl⟩, _, _, ⟨hs, rfl⟩,
      _, _, rfl, _, _, ⟨hb, ha, rfl⟩, hr, rfl⟩
    refine ⟨p, hp, ⟨he, hx, ht, hs, hb, actionPasses_put.1 ha, ?_⟩, rfl⟩
    rw [apply_stats] at hr; exact hr
  · rintro ⟨p, hp, ⟨he, hx, ht, hs, hb, ha, hr⟩, rfl⟩
    refine ⟨p, s, ⟨hp, rfl⟩, (), s, ⟨he, rfl⟩, (), s, ⟨hx, rfl⟩, (), s, ⟨ht, rfl⟩, (), s, ⟨hs, rfl⟩,
      (), s.put id { p with executed := true }, rfl, (), _, ⟨hb, actionPasses_put.2 ha, rfl⟩, ?_,
      rfl⟩
    rw [apply_stats]; exact hr

end

/-! ## Proposals and votes -/

/-- The record of a new proposal, made at time `now`. -/
def newProposal (now id : ℕ) (c : MultiSigConfig) (proposer : Address) (action : ProposalAction) :
    PendingProposal :=
  { id, proposer, action, proposalType := action.classifyType, approvals := [proposer],
    rejections := [], executed := false, createdAt := now, expiry := now + c.proposalExpiryDuration,
    timeLockUntil :=
      if action.classifyType.requiresTimeLock then some (now + c.timeLockDuration) else none,
    requiredSignatures := c.getRequiredSignatures action.classifyType }

def PendingProposal.approve (p : PendingProposal) (a : Address) : PendingProposal :=
  { p with approvals := p.approvals ++ [a] }

def PendingProposal.reject (p : PendingProposal) (a : Address) : PendingProposal :=
  { p with rejections := p.rejections ++ [a] }

/-- The address `a` can vote on the proposal `p`, stored at `id`. -/
structure CanVote (env : CallEnv) (s : State) (a : Address) (id : ℕ) (p : PendingProposal) :
    Prop where
  admin : s.IsAdmin a
  stored : s.proposals.lookup id = some p
  pending : p.executed = false
  inTime : env.now ≤ p.expiry
  notApproved : a ∉ p.approvals
  notRejected : a ∉ p.rejections

/-- The address `a` can create a proposal for `action`, under the configuration `c`. -/
structure CanCreate (env : CallEnv) (s : State) (a : Address) (action : ProposalAction)
    (c : MultiSigConfig) : Prop where
  admin : s.IsAdmin a
  config : s.multiSigConfig = some c
  below : s.proposalStats.pendingCount < c.maxPendingProposals
  counter : s.proposalCounter + 1 < 2 ^ 64
  created : s.proposalStats.totalCreated + 1 < 2 ^ 64
  pending : s.proposalStats.pendingCount + 1 < 2 ^ 32
  expiry : env.now + c.proposalExpiryDuration < 2 ^ 64
  timeLock : action.classifyType.requiresTimeLock → env.now + c.timeLockDuration < 2 ^ 64

/-- The number of rejections that a proposal survives. -/
def MultiSigConfig.rejectionThreshold (c : MultiSigConfig) : ℕ := max (c.admins.length / 3) 1

section
variable {a : Address} {id : ℕ} {p : PendingProposal} {u : Unit}

theorem newTimeLock_returns {c : MultiSigConfig} {t : ProposalType} {o : Option ℕ} :
    Returns (newTimeLock env c t) s o s' ↔
      (t.requiresTimeLock → env.now + c.timeLockDuration < 2 ^ 64) ∧
      o = (if t.requiresTimeLock then some (env.now + c.timeLockDuration) else none) ∧ s' = s := by
  simp only [newTimeLock, returns_ite, returns_map, returns_checked, returns_pure]
  constructor
  · rintro (⟨ht, _, ⟨rfl, hlt, rfl⟩, rfl⟩ | ⟨ht, rfl, rfl⟩) <;> simp [ht]
    exact hlt
  · rintro ⟨hlt, rfl, rfl⟩
    by_cases ht : t.requiresTimeLock = true
    · exact Or.inl ⟨ht, _, ⟨rfl, hlt ht, rfl⟩, by simp [ht]⟩
    · exact Or.inr ⟨ht, by simp [ht], rfl⟩

theorem storeProposal_returns {stats : ProposalStats} (hid : p.id = s.proposalCounter)
    (hst : stats = s.proposalStats) : Returns (storeProposal stats p) s u s' ↔
      (s.proposalCounter + 1 < 2 ^ 64 ∧ s.proposalStats.totalCreated + 1 < 2 ^ 64 ∧
        s.proposalStats.pendingCount + 1 < 2 ^ 32) ∧ s' = s.add p := by
  subst hst
  simp only [storeProposal, saveProposal, saveStats, returns_bind, returns_modify,
    returns_checked, hid]
  constructor
  · rintro ⟨_, _, rfl, _, _, ⟨rfl, hn, rfl⟩, _, _, rfl, _, _, ⟨rfl, ht, rfl⟩, _, _, ⟨rfl, hp, rfl⟩,
      rfl⟩
    exact ⟨⟨hn, ht, hp⟩, by rw [State.add, State.put, hid]⟩
  · rintro ⟨⟨hn, ht, hp⟩, rfl⟩
    refine ⟨(), _, rfl, _, _, ⟨rfl, hn, rfl⟩, (), _, rfl, _, _, ⟨rfl, ht, rfl⟩, _, _,
      ⟨rfl, hp, rfl⟩, ?_⟩
    rw [State.add, State.put, hid]

theorem createProposal_returns {action : ProposalAction} :
    Returns (createProposal env a action) s id s' ↔ id = s.proposalCounter ∧
      ∃ c, CanCreate env s a action c ∧
        ((¬ (action.classifyType.requiresTimeLock = false ∧
            1 ≥ c.getRequiredSignatures action.classifyType) ∧
          s' = s.add (newProposal env.now s.proposalCounter c a action)) ∨
        (action.classifyType.requiresTimeLock = false ∧
          Executable env (s.add (newProposal env.now s.proposalCounter c a action))
            (newProposal env.now s.proposalCounter c a action) ∧
          s' = (s.add (newProposal env.now s.proposalCounter c a action)).execute s.proposalCounter
            (newProposal env.now s.proposalCounter c a action))) := by
  simp only [createProposal, returns_bind, requireAdmin_returns, returns_get, returns_okOr,
    returns_failIf, returns_checked, returns_pure, not_le, ge_iff_le, returns_runIf,
    newTimeLock_returns]
  constructor
  · rintro ⟨_, _, ⟨ha, rfl⟩, _, _, ⟨rfl, rfl⟩, c, _, ⟨hc, rfl⟩, _, _, ⟨rfl, rfl⟩, _, _,
      ⟨hm, rfl⟩, _, _, ⟨rfl, rfl⟩, _, _, ⟨rfl, hx, rfl⟩, lock, _, ⟨hl, rfl, rfl⟩, _, _, hs, _, _, hrun, rfl, rfl⟩
    obtain ⟨⟨hn, ht, hp⟩, rfl⟩ := (storeProposal_returns rfl rfl).1 hs
    refine ⟨rfl, c, ⟨ha, hc, hm, hn, ht, hp, hx, hl⟩, ?_⟩
    rcases hrun with ⟨⟨hlock, -⟩, hexec⟩ | ⟨hnot, rfl⟩
    · obtain ⟨p, hp, he, rfl⟩ := executeProposal_returns.1 hexec
      rw [add_proposals, Finmap.lookup_insert] at hp
      cases hp
      refine Or.inr ⟨?_, he, rfl⟩
      by_contra hreq
      rw [Bool.not_eq_false] at hreq
      rw [hreq] at hlock
      cases hlock
    · refine Or.inl ⟨?_, rfl⟩
      rintro ⟨hreq, hle⟩
      exact hnot ⟨by simp [hreq], hle⟩
  · rintro ⟨rfl, c, ⟨ha, hc, hm, hn, ht, hp, hx, hl⟩, hcase⟩
    refine ⟨(), s, ⟨ha, rfl⟩, s, s, ⟨rfl, rfl⟩, c, s, ⟨hc, rfl⟩, s, s, ⟨rfl, rfl⟩, (), s,
      ⟨hm, rfl⟩, s, s, ⟨rfl, rfl⟩, _, s, ⟨rfl, hx, rfl⟩, _, s, ⟨hl, rfl, rfl⟩, (), _,
      (storeProposal_returns rfl rfl).2 ⟨⟨hn, ht, hp⟩, rfl⟩, (), s', ?_, rfl, rfl⟩
    rcases hcase with ⟨hnot, rfl⟩ | ⟨hreq, he, rfl⟩
    · refine Or.inr ⟨?_, rfl⟩
      rintro ⟨hlock, hle⟩
      refine hnot ⟨?_, hle⟩
      by_contra hreq
      rw [Bool.not_eq_false] at hreq
      rw [hreq] at hlock
      cases hlock
    · exact Or.inl ⟨⟨by simp [hreq], he.signed⟩, executeProposal_returns.2
        ⟨_, by rw [add_proposals]; exact Finmap.lookup_insert _, he, rfl⟩⟩

theorem approveProposal_returns :
    Returns (approveProposal env a id) s u s' ↔ ∃ p, CanVote env s a id p ∧
      ((¬ ((p.approve a).approvals.length ≥ p.requiredSignatures ∧
          timeLockPassed env.now p = true) ∧ s' = s.put id (p.approve a)) ∨
        Executable env (s.put id (p.approve a)) (p.approve a) ∧
          s' = (s.put id (p.approve a)).execute id (p.approve a)) := by
  simp only [approveProposal, saveProposal, returns_bind, requireAdmin_returns,
    loadProposal_returns, returns_failIf, requireNotExpired_returns, returns_modify, returns_ite,
    returns_pure, executeProposal_returns, Bool.not_eq_true]
  constructor
  · rintro ⟨_, _, ⟨ha, rfl⟩, p, _, ⟨hp, rfl⟩, _, _, ⟨he, rfl⟩, _, _, ⟨hx, rfl⟩, _, _, ⟨hna, rfl⟩,
      _, _, ⟨hnr, rfl⟩, _, _, rfl, h⟩
    refine ⟨p, ⟨ha, hp, he, hx, hna, hnr⟩, ?_⟩
    rcases h with ⟨-, p', hp', hexec, rfl⟩ | ⟨hn, -, rfl⟩
    · rw [Finmap.lookup_insert] at hp'
      cases hp'
      exact Or.inr ⟨hexec, rfl⟩
    · exact Or.inl ⟨hn, rfl⟩
  · rintro ⟨p, ⟨ha, hp, he, hx, hna, hnr⟩, h⟩
    refine ⟨(), s, ⟨ha, rfl⟩, p, s, ⟨hp, rfl⟩, (), s, ⟨he, rfl⟩, (), s, ⟨hx, rfl⟩, (), s,
      ⟨hna, rfl⟩, (), s, ⟨hnr, rfl⟩, (), s.put id (p.approve a), rfl, ?_⟩
    rcases h with ⟨hn, rfl⟩ | ⟨hexec, rfl⟩
    · exact Or.inr ⟨hn, trivial, rfl⟩
    · exact Or.inl ⟨⟨hexec.signed, hexec.unlocked⟩, _, by simp, hexec, rfl⟩

/-- A vote against a proposal counts only where the proposal survives it: the vote that removes the
    proposal does not return. -/
theorem rejectProposal_returns (h : Returns (rejectProposal env a id) s u s') :
    ∃ p c, CanVote env s a id p ∧ s.multiSigConfig = some c ∧
      p.rejections.length + 1 ≤ c.rejectionThreshold ∧ s' = s.put id (p.reject a) := by
  simp only [rejectProposal, saveProposal, returns_bind, requireAdmin_returns,
    loadProposal_returns, returns_failIf, requireNotExpired_returns, returns_modify, returns_ite,
    returns_get, returns_okOr, returns_throw, Bool.not_eq_true, and_false, exists_false,
    false_or, not_lt, gt_iff_lt] at h
  obtain ⟨_, _, ⟨ha, rfl⟩, p, _, ⟨hp, rfl⟩, _, _, ⟨he, rfl⟩, _, _, ⟨hx, rfl⟩, _, _, ⟨hnr, rfl⟩,
    _, _, ⟨hna, rfl⟩, _, _, ⟨rfl, rfl⟩, c, _, ⟨hc, rfl⟩, hle, rfl⟩ := h
  refine ⟨p, c, ⟨ha, hp, he, hx, hna, hnr⟩, hc, ?_, rfl⟩
  rw [List.length_append, List.length_singleton] at hle
  exact hle

theorem cancelProposal_returns :
    Returns (cancelProposal a id) s u s' ↔ ∃ p, s.proposals.lookup id = some p ∧ p.proposer = a ∧
      p.executed = false ∧ s' = s.drop id s.proposalStats := by
  simp only [cancelProposal, removeFromPendingList, removeProposal, saveStats, returns_bind,
    loadProposal_returns, returns_failIf, returns_modify, returns_get, Bool.not_eq_true, ne_eq,
    not_not]
  constructor
  · rintro ⟨p, _, ⟨hp, rfl⟩, _, _, ⟨ha, rfl⟩, _, _, ⟨he, rfl⟩, _, _, rfl, _, _, rfl, _, _,
      ⟨rfl, rfl⟩, rfl⟩
    exact ⟨p, hp, ha, he, rfl⟩
  · rintro ⟨p, hp, ha, he, rfl⟩
    exact ⟨p, s, ⟨hp, rfl⟩, (), s, ⟨ha, rfl⟩, (), s, ⟨he, rfl⟩, (), _, rfl, (), _, rfl, _, _,
      ⟨rfl, rfl⟩, rfl⟩

end

/-! ## Expiry -/

/-- Some expired proposals are removed. -/
inductive Expired (env : CallEnv) (s : State) : State → Prop
  | refl : Expired env s s
  | next {s' id p} : Expired env s s' → s'.proposals.lookup id = some p → p.executed = false →
      p.expiry < env.now → Expired env s (s'.expire id)

section
variable {id n m : ℕ} {u : Unit} {ids : List ℕ} {s₀ : State}

theorem cleanupExpiredProposal_returns :
    Returns (cleanupExpiredProposal id) s u s' ↔
      s.proposalStats.totalExpired + 1 < 2 ^ 64 ∧ s' = s.expire id := by
  simp [cleanupExpiredProposal, removeFromPendingList, removeProposal, saveStats, State.expire,
    State.drop, State.unlist]

theorem cleanupIfExpired_returns (h : Returns (cleanupIfExpired env n id) s m s')
    (hs : Expired env s₀ s) : Expired env s₀ s' := by
  rw [cleanupIfExpired, returns_get_bind] at h
  cases hp : s.proposals.lookup id with
  | none =>
    simp only [hp, returns_pure] at h
    exact h.2 ▸ hs
  | some p =>
    simp only [hp, returns_ite, returns_bind, cleanupExpiredProposal_returns, returns_checked,
      returns_pure, Bool.not_eq_true, gt_iff_lt] at h
    rcases h with ⟨⟨hx, he⟩, _, _, ⟨-, rfl⟩, -, -, rfl⟩ | ⟨-, -, rfl⟩
    · exact .next hs hp he hx
    · exact hs

theorem cleanupExpiredProposals_returns (h : Returns (cleanupExpiredProposals env) s n s') :
    Expired env s s' := by
  have hfold : ∀ (ids : List ℕ) (s₁ : State) (m : ℕ), Expired env s s₁ →
      Returns (ids.foldlM (cleanupIfExpired env) m) s₁ n s' → Expired env s s' := by
    intro ids
    induction ids with
    | nil =>
      intro s₁ m hs h
      simp only [List.foldlM_nil, returns_pure] at h
      exact h.2 ▸ hs
    | cons id ids ih =>
      intro s₁ m hs h
      simp only [List.foldlM_cons, returns_bind] at h
      obtain ⟨m', s₂, h₁, h₂⟩ := h
      exact ih s₂ m' (cleanupIfExpired_returns h₁ hs) h₂
  rw [cleanupExpiredProposals, returns_get_bind] at h
  exact hfold _ _ _ .refl h

/-- The loop can run out of a counter, but returns no error. -/
theorem not_stops_cleanup {e : AccessControlError} :
    ¬ Stops (cleanupExpiredProposals env) s (.err e) s' := by
  have hround (id n : ℕ) (s s' : State) : ¬ Stops (cleanupIfExpired env n id) s (.err e) s' := by
    rw [cleanupIfExpired, stops_get_bind]
    cases s.proposals.lookup id <;>
      simp [stops_ite, cleanupExpiredProposal, removeFromPendingList, removeProposal, saveStats]
  have hfold : ∀ (ids : List ℕ) (n : ℕ) (s s' : State),
      ¬ Stops (ids.foldlM (cleanupIfExpired env) n) s (.err e) s' := by
    intro ids
    induction ids with
    | nil => intro n s s'; simp
    | cons id ids ih => intro n s s'; simp [hround, ih]
  rw [cleanupExpiredProposals, stops_get_bind]
  exact hfold _ _ _ _

end

end AccessControl
