/-
  Whether roles are given under the same checks, directly and by proposals.

  `set_role` refuses while the contract is paused, and for blacklisted users.  The action SetRole
  shares its membership check but neither of the other two; the two ways agree exactly in the runs
  that execute SetRole where both would have passed (`role_changes_agree`).
-/
import NovaLabs.AccessControl.AdminRoles
import NovaLabs.AccessControl.Modes

namespace AccessControl

open Lib Soroban

variable {env : CallEnv} {s s' : State} {i : Input} {e : Ev} {tr : List Ev} {action : ProposalAction}
  {user : Address} {role : UserRole}

/-! ## Agreement -/

/-- The caller of the call could have given the role with `set_role`, to the same effect. -/
def AgreesWithSetRole (e : Ev) (user : Address) (role : UserRole) : Prop :=
  ∃ caller s', e.inp.call.caller = some caller ∧
    Returns (setRole e.inp.env caller user role) e.pre () s' ∧
    e.post.rights = s'.rights ∧ e.post.settings = s'.settings ∧ e.post.control = s'.control

/-- The call gives `user` the role, by `set_role` or by executing a proposed SetRole.  An executed
    AddAdmin and `accept_admin_transfer` make somebody an administrator on neither of these paths,
    and check neither the pause nor the blacklist. -/
inductive GivesRole (e : Ev) (user : Address) (role : UserRole) : Prop
  | direct {caller} : e.inp.call = .setRole caller user role →
      Returns (setRole e.inp.env caller user role) e.pre () e.post → GivesRole e user role
  | proposed : CarriesOut e.pre e.inp (.setRole user role) → GivesRole e user role

/-- Proposed role changes agree with direct ones, and nobody gets a role while blacklisted or while
    the contract is paused. -/
structure RoleChangesAgree (tr : List Ev) : Prop where
  agree : ∀ e ∈ tr, ∀ user role, CarriesOut e.pre e.inp (.setRole user role) →
    AgreesWithSetRole e user role
  guarded : ∀ e ∈ tr, ∀ user role, GivesRole e user role →
    e.pre.paused = false ∧ user ∉ e.pre.blacklisted

/-- The call executes SetRole while the contract is paused, or for a blacklisted user. -/
def GivesUnguarded (e : Ev) : Prop :=
  ∃ user role, CarriesOut e.pre e.inp (.setRole user role) ∧
    (e.pre.paused = true ∨ user ∈ e.pre.blacklisted)

/-! ## Steps -/

/-- Only multisig mode has proposals to carry out. -/
theorem CarriesOut.enabled (h : CarriesOut s i action) (hs : Mode s) : MultisigState s := by
  cases h with
  | create _ hcan => exact hs.multisig_of_enabled (by rw [hcan.config]; exact Option.some_ne_none _)
  | approve _ hcan =>
    cases hs with
    | blank hb => exact absurd hcan.stored (by simp [hb.noProposals])
    | single hs => exact absurd hcan.stored (by simp [hs.noProposals])
    | multisig hm => exact hm

/-- A proposal is carried out by an admin, if the action passes its checks. -/
theorem CarriesOut.checked (h : CarriesOut s i (.setRole user role)) :
    (∃ caller, i.call.caller = some caller ∧ s.IsAdmin caller) ∧
      RoleAllowed i.env s.config user role := by
  generalize haction : ProposalAction.setRole user role = action at h
  cases h with
  | create hcall hcan _ hexec =>
    subst haction
    exact ⟨⟨_, by rw [hcall]; rfl, hcan.admin⟩, hexec.passes⟩
  | @approve a id p hcall hcan hexec =>
    have hpasses := hexec.passes
    rw [show (p.approve a).action = .setRole user role from haction.symm] at hpasses
    exact ⟨⟨_, by rw [hcall]; rfl, hcan.admin⟩, hpasses⟩

theorem MultisigState.control (hs : MultisigState s) (hst : Steps s i s') :
    s'.control = s.control := by
  rcases hs.step (step_effect hst) with ⟨_, rfl⟩ | hd | hp
  · rfl
  · exact hd.frame.2.1
  · exact hp.control

theorem setRole_guarded {caller : Address}
    (h : Returns (setRole env caller user role) s () s') :
    s.paused = false ∧ user ∉ s.blacklisted := by
  cases setRole_returns.1 h with
  | setRole _ hp hb => exact ⟨hp, hb⟩

/-- Where `set_role` checks more than SetRole does, the two agree if these checks pass. -/
theorem CarriesOut.agrees_iff (hs : Mode e.pre) (hst : Steps e.pre e.inp e.post)
    (h : CarriesOut e.pre e.inp (.setRole user role)) :
    AgreesWithSetRole e user role ↔ e.pre.paused = false ∧ user ∉ e.pre.blacklisted := by
  have hm := h.enabled hs
  constructor
  · rintro ⟨caller, s', -, hret, -⟩
    exact setRole_guarded hret
  · rintro ⟨hp, hb⟩
    obtain ⟨⟨caller, hcaller, ha⟩, hallowed⟩ := h.checked
    obtain ⟨hset, hrights⟩ := h.post hst
    exact ⟨caller, _, hcaller, setRole_returns.2 (.setRole hm.initialized hp hb ha hallowed),
      hrights, hset, hm.control hst⟩

theorem GivesRole.guarded (h : GivesRole e user role) :
    (e.pre.paused = false ∧ user ∉ e.pre.blacklisted) ∨
      CarriesOut e.pre e.inp (.setRole user role) := by
  cases h with
  | direct _ hret => exact Or.inl (setRole_guarded hret)
  | proposed h => exact Or.inr h

/-! ## Runs -/

/-- **Proposed and direct role changes agree, exactly in the runs that give no role unguarded.** -/
theorem role_changes_agree (h : Run Steps {} tr s) :
    RoleChangesAgree tr ↔ ∀ e ∈ tr, ¬ GivesUnguarded e := by
  constructor
  · rintro ⟨-, hguarded⟩ e he ⟨user, role, hc, hbad⟩
    obtain ⟨hp, hb⟩ := hguarded e he user role (.proposed hc)
    rcases hbad with hbad | hbad
    · rw [hp] at hbad; cases hbad
    · exact hb hbad
  · intro hn
    have hpasses : ∀ e ∈ tr, ∀ user role, CarriesOut e.pre e.inp (.setRole user role) →
        e.pre.paused = false ∧ user ∉ e.pre.blacklisted := by
      intro e he user role hc
      rw [← Bool.not_eq_true, ← not_or]
      exact fun hbad => hn e he ⟨user, role, hc, hbad⟩
    refine ⟨fun e he user role hc => ?_, fun e he user role hg => ?_⟩
    · obtain ⟨tr₁, tr₂, rfl⟩ := List.append_of_mem he
      obtain ⟨hr₁, hst, -⟩ := h.split
      exact (hc.agrees_iff (Mode.run hr₁) hst).2 (hpasses e he user role hc)
    · exact hg.guarded.elim id (hpasses e he user role)

/-- Two admins make `user` a member, after the calls `cs`. -/
def membershipVote (cs : List (ℕ × Call)) : List Input :=
  callsAt (((0, .initializeMultisig [⟨1⟩, ⟨2⟩] 2) :: cs) ++
    [(2, .createProposal ⟨1⟩ (.setRole ⟨3⟩ .member)), (3, .approveProposal ⟨2⟩ 0)])

theorem role_changes_agree_membership :
    RoleChangesAgree (eventsFrom next {} (membershipVote [])) := by
  refine (role_changes_agree (run_calls {} _)).2 fun e he => ?_
  have hfree : ∀ e ∈ eventsFrom next {} (membershipVote []),
      e.pre.paused = false ∧ e.pre.blacklisted = ∅ := by decide
  obtain ⟨hp, hb⟩ := hfree e he
  rintro ⟨user, role, -, hbad⟩
  rw [hp, hb] at hbad
  simp at hbad

/-- What the two admins vote on. -/
def membershipProposal : PendingProposal :=
  newProposal 2 0 ⟨[⟨1⟩, ⟨2⟩], 2, 2, 2, 86400, 50, 604800⟩ ⟨1⟩ (.setRole ⟨3⟩ .member)

/-- The contract before the last vote, with the user blacklisted. -/
def membershipProposed : State :=
  (callsAt [(0, .initializeMultisig [⟨1⟩, ⟨2⟩] 2), (1, .blacklistUser ⟨1⟩ ⟨3⟩),
    (2, .createProposal ⟨1⟩ (.setRole ⟨3⟩ .member))]).foldl next {}

def membershipApproval : Input := ⟨⟨3, ∅, fun _ _ => none⟩, .approveProposal ⟨2⟩ 0⟩

theorem membership_carried_out :
    CarriesOut membershipProposed membershipApproval (.setRole ⟨3⟩ .member) := by
  refine @CarriesOut.approve _ _ ⟨2⟩ 0 membershipProposal rfl ⟨?_, rfl, rfl, ?_, ?_, ?_⟩
    ⟨rfl, ?_, ?_, ?_, trivial, fun hm => absurd hm.1 (by decide), ?_⟩
  · exact (isAdmin_iff (show membershipProposed.multiSigConfig = some _ from rfl)).2 (by decide)
  all_goals decide

/-- **A blacklisted user gets the role that two admins propose.** -/
theorem blacklisted_member : ¬ ∀ tr s, Run Steps {} tr s → RoleChangesAgree tr := by
  intro hall
  have hagree := hall _ _ (run_calls {} (membershipVote [(1, .blacklistUser ⟨1⟩ ⟨3⟩)]))
  obtain ⟨-, hb⟩ := hagree.guarded ⟨membershipProposed, membershipApproval, _⟩
    (.tail _ (.tail _ (.tail _ (.head _)))) ⟨3⟩ .member (.proposed membership_carried_out)
  exact hb (by decide)

end AccessControl
