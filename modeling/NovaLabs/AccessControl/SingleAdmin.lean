/-
  The stored admin of a contract started with `initialize`.

  Three calls write the stored admin or a role: `set_role`, `remove_role` and the acceptance of an
  admin transfer.  `remove_role` spares the stored admin; the other two do not look whether they
  demote it (`Demotes`), and it keeps its role exactly in the runs in which they never do
  (`single_admin_kept`).
-/
import NovaLabs.AccessControl.Authentication

namespace AccessControl

open Lib Soroban

variable {env : CallEnv} {s s' : State} {c : Call} {tr : List Ev} {i : Input}

/-! ## Single-admin mode -/

/-- Without a multisig configuration, there are no proposals either. -/
structure SingleState (s : State) : Prop where
  initialized : s.initialized = true
  disabled : s.multiSigConfig = none
  noProposals : ∀ id, s.proposals.lookup id = none

/-- A run of calls after a successful `initialize`. -/
def SingleRun (tr : List Ev) (s : State) : Prop :=
  ∃ env admin s₀, Returns (Call.run env (.initializeContract admin)) {} () s₀ ∧ Run Steps s₀ tr s

/-- Without multisig mode, nobody votes. -/
theorem no_vote {id : ℕ} {p : PendingProposal} (hm : s.multiSigConfig = none)
    (hs : ∀ id, s.proposals.lookup id = none) (h : Vote env s c id p s') : False := by
  cases h with
  | create _ hc => rw [hm] at hc; cases hc
  | approve hv => exact absurd hv.stored (by simp [hs])

theorem no_proposal (hm : s.multiSigConfig = none) (hs : ∀ id, s.proposals.lookup id = none)
    (h : ProposalStep env s c s') : s' = s := by
  cases h with
  | vote hv => exact (no_vote hm hs hv).elim
  | execute hv => exact (no_vote hm hs hv).elim
  | reject hv => exact absurd hv.stored (by simp [hs])
  | cancel hp => rw [hs] at hp; cases hp
  | cleanup hx =>
    induction hx with
    | refl => rfl
    | next _ hp _ _ ih => rw [ih, hs] at hp; cases hp

/-- What a call can do to the stored admin and to the roles. -/
inductive AdminStep (i : Input) (s s' : State) : Prop
  | same : s'.admin = s.admin → s'.userRole = s.userRole → AdminStep i s s'
  | direct : Direct i.env s i.call s' → AdminStep i s s'
  | accept {a old} : i.call = .acceptAdminTransfer a → Accepts i.env s a old →
      s' = s.transfer a old → AdminStep i s s'

theorem SingleState.step (hs : SingleState s) (h : Steps s i s') :
    SingleState s' ∧ AdminStep i s s' := by
  rcases commit_cases (i.call.run i.env) s with ⟨_, hret⟩ | ⟨-, hsame⟩
  · rw [show commit (i.call.run i.env) s = s' from h.symm] at hret
    have heff := returns_effect hret
    generalize hcall : i.call = c at heff hret
    obtain ⟨hi, hm, hp⟩ := hs
    cases heff with
    | log h => obtain ⟨_, rfl⟩ := h; exact ⟨⟨hi, hm, hp⟩, .same rfl rfl⟩
    | start hn => rw [hi] at hn; cases hn
    | startMultisig hn => rw [hi] at hn; cases hn
    | direct h =>
      have hd := h
      refine ⟨?_, .direct (hcall ▸ hd)⟩
      cases h <;> exact ⟨hi, hm, hp⟩
    | config | proposeTransfer | cancelTransfer => exact ⟨⟨hi, hm, hp⟩, .same rfl rfl⟩
    | acceptTransfer =>
      obtain ⟨old, ha, heq⟩ := acceptAdminTransfer_returns.1 hret
      exact ⟨⟨hi, hm, hp⟩, .accept hcall ha heq⟩
    | proposal h =>
      obtain rfl := no_proposal hm hp h
      exact ⟨⟨hi, hm, hp⟩, .same rfl rfl⟩
  · have hsame : s' = s := h.trans hsame
    subst hsame
    exact ⟨hs, .same rfl rfl⟩

/-! ## The stored admin -/

/-- The stored admin has the role Admin, and someone passes `require_admin`. -/
structure AdminKept (s : State) : Prop where
  role : ∃ a, s.admin = some a ∧ getRole s a = .admin
  passes : ∃ a, Returns (requireAdmin a) s () s

/-- The call passes its checks, and takes the role Admin from the stored admin. -/
inductive Demotes (s : State) (i : Input) : Prop
  | setRole {caller user role} : i.call = .setRole caller user role → s.admin = some user →
      role ≠ .admin → Direct i.env s i.call (s.assign user role) → Demotes s i
  | accept {a} : i.call = .acceptAdminTransfer a → Accepts i.env s a a → Demotes s i

theorem getRole_assign (user a : Address) (role : UserRole) :
    getRole (s.assign user role) a = if a = user then role else getRole s a := by
  unfold getRole State.assign
  rw [Store.lookup_insert_ite]
  split_ifs <;> rfl

theorem adminKept_iff (hs : SingleState s) :
    AdminKept s ↔ ∃ a, s.admin = some a ∧ getRole s a = .admin := by
  refine ⟨AdminKept.role, fun ⟨a, ha, hr⟩ => ⟨⟨a, ha, hr⟩, a, requireAdmin_returns.2 ⟨?_, rfl⟩⟩⟩
  simp [State.IsAdmin, hs.disabled, isAdmin, hr]

/-- A call keeps the stored admin exactly if it does not demote it. -/
theorem adminKept_step (hs : SingleState s) (hk : AdminKept s) (h : Steps s i s') :
    AdminKept s' ↔ ¬ Demotes s i := by
  obtain ⟨hs', hstep⟩ := hs.step h
  rw [adminKept_iff hs']
  obtain ⟨a, ha, hr⟩ := hk.role
  constructor
  · rintro ⟨b, hb, hrb⟩ hd
    cases hd with
    | @setRole caller user role hcall hu hne hd =>
      have hpost : s' = s.assign user role := h.trans hd.returns.commit_eq
      subst hpost
      obtain rfl : user = b := Option.some.inj (hu.symm.trans hb)
      rw [getRole_assign, if_pos rfl] at hrb
      exact hne hrb
    | @accept b' hcall hacc =>
      have hret : Returns (i.call.run i.env) s () (s.transfer b' b') := by
        rw [hcall]; exact acceptAdminTransfer_returns.2 ⟨b', hacc, rfl⟩
      have hpost : s' = s.transfer b' b' := h.trans hret.commit_eq
      subst hpost
      obtain rfl : b' = b := Option.some.inj hb
      rw [show getRole (s.transfer b' b') b' = getRole ((s.assign b' .admin).assign b' .guest) b'
        from rfl, getRole_assign, if_pos rfl] at hrb
      cases hrb
  · intro hn
    cases hstep with
    | same hadm hrole => exact ⟨a, hadm.trans ha, by rw [getRole, hrole]; exact hr⟩
    | direct hd =>
      have hd' := hd
      generalize hcall : i.call = c at hd
      cases hd with
      | @setRole caller user role =>
        refine ⟨a, ha, ?_⟩
        rw [getRole_assign]
        split_ifs with hu
        · by_contra hne
          exact hn (.setRole hcall (hu ▸ ha) hne hd')
        · exact hr
      | @removeRole caller user _ hu =>
        refine ⟨a, ha, ?_⟩
        rw [getRole_assign, if_neg fun (he : a = user) => hu (he ▸ ha)]
        exact hr
      | blacklistUser | unblacklistUser => exact ⟨a, ha, hr⟩
    | @accept b old hcall hacc hpost =>
      subst hpost
      refine ⟨b, rfl, ?_⟩
      rw [show getRole (s.transfer b old) b = getRole ((s.assign b .admin).assign old .guest) b
        from rfl, getRole_assign, getRole_assign, if_pos rfl]
      split_ifs with he
      · exact absurd (.accept hcall (he ▸ hacc)) hn
      · rfl

/-- **The stored admin keeps its role exactly in the runs in which no call demotes it.** -/
theorem single_admin_kept (h : SingleRun tr s) :
    (AdminKept s ∧ ∀ e ∈ tr, AdminKept e.pre) ↔ ∀ e ∈ tr, ¬ Demotes e.pre e.inp := by
  obtain ⟨env, admin, s₀, hret, hr⟩ := h
  obtain ⟨-, rfl⟩ := initializeContract_returns hret
  have hs : SingleState (State.start {} admin) := ⟨rfl, rfl, fun id => by simp [State.start,
    State.assign]⟩
  have hk : AdminKept (State.start {} admin) :=
    (adminKept_iff hs).2 ⟨admin, rfl, by simp [getRole, State.start, State.assign]⟩
  have hrun := hr.always_iff (P := fun _ s => AdminKept s) (C := fun _ e => ¬ Demotes e.pre e.inp)
    (fun tr e hr hst hk => adminKept_step (hr.invariant' (fun _ _ _ hs hst => (hs.step hst).1) hs)
      hk hst) hk
  rwa [along_iff_forall, along_iff_forall] at hrun

theorem singleRun_calls (is : List Input) :
    SingleRun (eventsFrom next adminStart is) (is.foldl next adminStart) :=
  ⟨⟨0, ∅, fun _ _ => none⟩, ⟨1⟩, _, rfl, run_calls _ _⟩

/-- The admin hands over to another one, who makes the former a member. -/
def handover : List Input :=
  callsAt [(0, .proposeAdminTransfer ⟨1⟩ ⟨2⟩), (1, .acceptAdminTransfer ⟨2⟩),
    (2, .setRole ⟨2⟩ ⟨1⟩ .member)]

theorem single_admin_kept_handover : AdminKept (handover.foldl next adminStart) ∧
    (handover.foldl next adminStart).admin = some ⟨2⟩ := by
  refine ⟨((single_admin_kept (singleRun_calls handover)).2 ?_).1, rfl⟩
  rintro e (_ | ⟨_, _ | ⟨_, _ | ⟨_, he⟩⟩⟩) hd
  · rcases hd with ⟨hcall, -⟩ | ⟨hcall, -⟩ <;> cases hcall
  · rcases hd with ⟨hcall, -⟩ | ⟨hcall, -, ha⟩ <;> cases hcall
    exact absurd ha (by decide)
  · rcases hd with ⟨hcall, ha, -⟩ | ⟨hcall, -⟩ <;> cases hcall
    exact absurd ha (by decide)
  · cases he

/-- **An admin who makes itself a guest leaves a contract without admin.** -/
theorem admin_lost : ¬ ∀ tr s, SingleRun tr s → AdminKept s := by
  intro hall
  obtain ⟨a, ha, hr⟩ := (hall _ _ (singleRun_calls (callsAt [(1, .setRole ⟨1⟩ ⟨1⟩ .guest)]))).role
  cases ha
  exact absurd hr (by decide)

end AccessControl
