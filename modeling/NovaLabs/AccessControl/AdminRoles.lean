/-
  The admin list and the role store in multisig mode.

  `require_admin` reads the list, `check_access` the roles.  AddAdmin and RemoveAdmin write both;
  `set_role`, `remove_role` and the action SetRole write the roles only, and UpdateMultisigConfig
  the list only.  The two agree exactly in the runs in which none of these sets them apart
  (`roles_agree`).
-/
import NovaLabs.AccessControl.Governance
import NovaLabs.AccessControl.Quorum

namespace AccessControl

open Lib Soroban

variable {env : CallEnv} {s s' s₁ : State} {tr : List Ev} {i : Input} {e : Ev}
  {action : ProposalAction} {a : Address}

/-! ## What a call carries out -/

/-- The call creates or approves a proposal for the action, passes its checks, and executes it. -/
inductive CarriesOut (s : State) (i : Input) : ProposalAction → Prop
  | create {a action c} : i.call = .createProposal a action → CanCreate i.env s a action c →
      action.classifyType.requiresTimeLock = false →
      Executable i.env (s.add (newProposal i.env.now s.proposalCounter c a action))
        (newProposal i.env.now s.proposalCounter c a action) → CarriesOut s i action
  | approve {a id p} : i.call = .approveProposal a id → CanVote i.env s a id p →
      Executable i.env (s.put id (p.approve a)) (p.approve a) → CarriesOut s i p.action

theorem apply_congr (hset : s₁.settings = s.settings) (hrights : s₁.rights = s.rights)
    (action : ProposalAction) : (s₁.apply action).settings = (s.apply action).settings ∧
      (s₁.apply action).rights = (s.apply action).rights := by
  simp only [State.settings, State.rights, Prod.mk.injEq] at hset hrights
  obtain ⟨hc, hp, hm, he⟩ := hset
  obtain ⟨hr, hb⟩ := hrights
  cases action with
  | addAdmin | removeAdmin =>
    unfold State.apply
    rw [hm]
    cases hms : s.multiSigConfig <;>
      simp [State.assign, State.settings, State.rights, hc, hp, hm, he, hr, hb, hms]
  | _ => simp [State.apply, State.assign, State.settings, State.rights, hc, hp, hm, he, hr, hb]

theorem execute_frame (hset : s₁.settings = s.settings) (hrights : s₁.rights = s.rights) (id : ℕ)
    (p : PendingProposal) : (s₁.execute id p).settings = (s.apply p.action).settings ∧
      (s₁.execute id p).rights = (s.apply p.action).rights :=
  apply_congr (show (s₁.put id { p with executed := true }).settings = s.settings from hset) hrights
    p.action

theorem CarriesOut.post (h : CarriesOut s i action) (hst : Steps s i s') :
    s'.settings = (s.apply action).settings ∧ s'.rights = (s.apply action).rights := by
  cases h with
  | @create a _ c hcall hcan hlock hexec =>
    have hret := createProposal_returns.2 ⟨rfl, c, hcan, Or.inr ⟨hlock, hexec, rfl⟩⟩
    have hcommit : s' = _ := hst.trans
      (Returns.commit_eq (a := ()) (by rw [hcall]; exact returns_ignore.2 ⟨_, hret⟩))
    have hset : (s.add (newProposal i.env.now s.proposalCounter c a action)).settings = s.settings :=
      rfl
    rw [hcommit]
    exact execute_frame hset rfl _ _
  | @approve a id p hcall hcan hexec =>
    have hret := (approveProposal_returns (u := ())).2 ⟨p, hcan, Or.inr ⟨hexec, rfl⟩⟩
    have hcommit : s' = _ := hst.trans (Returns.commit_eq (by rw [hcall]; exact hret))
    have hset : (s.put id (p.approve a)).settings = s.settings := rfl
    rw [hcommit]
    exact execute_frame hset rfl _ _

/-- A call in multisig mode leaves settings and rights, or writes rights directly, or carries out an
    action. -/
theorem MultisigState.carries (hs : MultisigState s) (h : Steps s i s') :
    (s'.settings = s.settings ∧ s'.rights = s.rights) ∨ Direct i.env s i.call s' ∨
      ∃ action, CarriesOut s i action := by
  rcases hs.step (step_effect h) with ⟨_, rfl⟩ | hd | hp
  · exact Or.inl ⟨rfl, rfl⟩
  · exact Or.inr (Or.inl hd)
  · rcases commit_cases (i.call.run i.env) s with ⟨_, hret⟩ | ⟨-, hsame⟩
    · rw [show commit (i.call.run i.env) s = s' from h.symm] at hret
      rcases hp.frame with hframe | ⟨id, p, s₁, hv, hexec, hpost⟩
      · exact Or.inl hframe
      · generalize hcall : i.call = c at hv hret
        cases hv with
        | @create a action c hadm hc hm hn hp =>
          obtain ⟨_, hret⟩ := returns_ignore.1 hret
          obtain ⟨-, c, hcan, ⟨-, rfl⟩ | ⟨hlock, hexec, -⟩⟩ := createProposal_returns.1 hret
          · exact Or.inl ⟨rfl, rfl⟩
          · exact Or.inr (Or.inr ⟨action, .create hcall hcan hlock hexec⟩)
        | @approve a _ p hcan => exact Or.inr (Or.inr ⟨_, .approve hcall hcan hexec⟩)
    · rw [show s' = s from h.trans hsame]
      exact Or.inl ⟨rfl, rfl⟩

/-! ## The list and the roles -/

/-- The address was on the admin list, at some call of the history. -/
def WasAdmin (tr : List Ev) (a : Address) : Prop := ∃ e ∈ tr, a ∈ e.pre.admins

/-- Admins on the list have the role, former ones do not, and `check_access` for the role Admin
    answers as `require_admin` does. -/
structure RolesAgree (tr : List Ev) (s : State) : Prop where
  present : ∀ a ∈ s.admins, getRole s a = .admin
  past : ∀ a, WasAdmin tr a → a ∉ s.admins → getRole s a ≠ .admin
  access : ∀ env a b s', a ∈ s.admins ∨ WasAdmin tr a → s.config.requireMembershipForRoles = false →
    a ∉ s.blacklisted → Returns (checkAccess env a .admin) s b s' →
    (b = true ↔ Returns (requireAdmin a) s () s)

/-- The call gives `user` the role `role`, without regard to the list. -/
inductive Assigns (s : State) (i : Input) (user : Address) : UserRole → Prop
  | setRole {caller role} : i.call = .setRole caller user role →
      Direct i.env s (.setRole caller user role) (s.assign user role) → Assigns s i user role
  | removeRole {caller} : i.call = .removeRole caller user →
      Direct i.env s (.removeRole caller user) (s.assign user .guest) → Assigns s i user .guest
  | action {role} : CarriesOut s i (.setRole user role) → Assigns s i user role

/-- The call passes its checks, and sets the list and the roles apart. -/
inductive Splits (tr : List Ev) (e : Ev) : Prop
  | demote {user role} : Assigns e.pre e.inp user role → user ∈ e.pre.admins → role ≠ .admin →
      Splits tr e
  | restore {user} : Assigns e.pre e.inp user .admin → user ∉ e.pre.admins → WasAdmin tr user →
      Splits tr e
  | unlist {cfg user} : CarriesOut e.pre e.inp (.updateMultisigConfig cfg) →
      user ∈ e.pre.admins → user ∉ cfg.admins → Splits tr e
  | enlist {cfg user} : CarriesOut e.pre e.inp (.updateMultisigConfig cfg) →
      user ∈ cfg.admins → getRole e.pre user ≠ .admin → Splits tr e

theorem MultisigState.isAdmin_iff_mem (hs : MultisigState s) : s.IsAdmin a ↔ a ∈ s.admins := by
  obtain ⟨c, hc⟩ := hs.enabled
  rw [isAdmin_iff hc, State.admins, hc]
  rfl

theorem hasAccess_admin {role : UserRole} : role.hasAccess .admin = true ↔ role = .admin := by
  cases role <;> decide

theorem checkMembership_off {role : UserRole} (hm : s.config.requireMembershipForRoles = false) :
    Returns (unwrapOr (do validateMembershipAccess env a role; pure true) false : Fn Bool) s true
      s := by
  refine returns_unwrapOr.2 (Or.inl (returns_bind.2 ⟨(), s, ?_, returns_pure.2 ⟨rfl, rfl⟩⟩))
  rw [validateMembershipAccess, returns_get_bind]
  simp [hm]

theorem checkAccess_admin {b : Bool} (hm : s.config.requireMembershipForRoles = false)
    (hb : a ∉ s.blacklisted) (h : Returns (checkAccess env a .admin) s b s') :
    b = true ↔ getRole s a = .admin := by
  simp only [checkAccess, returns_bind, requireInitialized_returns, requireNotPaused_returns,
    returns_get, returns_ite, returns_pure] at h
  obtain ⟨_, _, ⟨-, rfl⟩, _, _, ⟨-, rfl⟩, _, _, ⟨rfl, rfl⟩, h⟩ := h
  rcases h with ⟨hin, -⟩ | ⟨-, ⟨hno, _, _, -, rfl, -⟩ | ⟨hyes, _, _, hv, _, _, -, rfl, -⟩⟩
  · exact absurd hin hb
  · rw [hasAccess_admin] at hno
    simp [hno]
  · rw [not_not, hasAccess_admin] at hyes
    obtain ⟨rfl, -⟩ := hv.unique (checkMembership_off hm)
    simp [hyes]

/-! ## Steps -/

/-- The list and the roles after an action. -/
theorem apply_lists (hs : MultisigState s) (action : ProposalAction) :
    ((s.apply action).admins, (s.apply action).userRole) = match action with
      | .setRole user role => (s.admins, s.userRole.insert user role)
      | .addAdmin a => (s.admins ++ [a], s.userRole.insert a .admin)
      | .removeAdmin a => (s.admins.filter (· ≠ a), s.userRole.insert a .guest)
      | .updateMultisigConfig cfg => (cfg.admins, s.userRole)
      | _ => (s.admins, s.userRole) := by
  obtain ⟨c, hc⟩ := hs.enabled
  cases action with
  | addAdmin | removeAdmin => simp [State.apply, State.assign, State.admins, hc]
  | _ => rfl

theorem admins_congr (h : s'.settings = s.settings) : s'.admins = s.admins := by
  simp only [State.settings, Prod.mk.injEq] at h
  rw [State.admins, State.admins, h.2.2.1]

theorem CarriesOut.lists (h : CarriesOut s i action) (hst : Steps s i s') :
    s'.admins = (s.apply action).admins ∧ s'.userRole = (s.apply action).userRole := by
  obtain ⟨hset, hrights⟩ := h.post hst
  simp only [State.rights, Prod.mk.injEq] at hrights
  exact ⟨admins_congr hset, hrights.1⟩

theorem Assigns.lists {user : Address} {role : UserRole} (hs : MultisigState s)
    (h : Assigns s i user role) (hst : Steps s i s') :
    s'.admins = s.admins ∧ s'.userRole = s.userRole.insert user role := by
  cases h with
  | setRole hcall hd | removeRole hcall hd =>
    have hpost := hst.trans (Returns.commit_eq (a := ()) (by rw [hcall]; exact hd.returns))
    rw [hpost]
    exact ⟨rfl, rfl⟩
  | action h =>
    have hlists := apply_lists hs (.setRole user role)
    simp only [Prod.mk.injEq] at hlists
    obtain ⟨hadm, hrole⟩ := h.lists hst
    exact ⟨hadm.trans hlists.1, hrole.trans hlists.2⟩

theorem getRole_of_insert {user : Address} {role : UserRole}
    (h : s'.userRole = s.userRole.insert user role) :
    getRole s' a = if a = user then role else getRole s a := by
  rw [getRole, h, Store.lookup_insert_ite]
  split_ifs <;> rfl

/-- What matters of a step between multisig states. -/
inductive ListStep (s : State) (i : Input) (s' : State) : Prop
  | same : s'.admins = s.admins → s'.userRole = s.userRole → ListStep s i s'
  | assign {user role} : Assigns s i user role → s'.admins = s.admins →
      s'.userRole = s.userRole.insert user role → ListStep s i s'
  | addAdmin {b} : s'.admins = s.admins ++ [b] → s'.userRole = s.userRole.insert b .admin →
      ListStep s i s'
  | removeAdmin {b} : s'.admins = s.admins.filter (· ≠ b) →
      s'.userRole = s.userRole.insert b .guest → ListStep s i s'
  | update {cfg} : CarriesOut s i (.updateMultisigConfig cfg) → s'.admins = cfg.admins →
      s'.userRole = s.userRole → ListStep s i s'

theorem CarriesOut.listStep (hs : MultisigState s) (h : CarriesOut s i action)
    (hst : Steps s i s') : ListStep s i s' := by
  have hlists := apply_lists hs action
  rw [← (h.lists hst).1, ← (h.lists hst).2, Prod.ext_iff] at hlists
  obtain ⟨hadm, hrole⟩ := hlists
  cases action with
  | setRole user role => exact .assign (.action h) hadm hrole
  | addAdmin a => exact .addAdmin hadm hrole
  | removeAdmin a => exact .removeAdmin hadm hrole
  | updateMultisigConfig cfg => exact .update h hadm hrole
  | _ => exact .same hadm hrole

theorem MultisigState.listStep (hs : MultisigState s) (hst : Steps s i s') : ListStep s i s' := by
  rcases hs.carries hst with ⟨hset, hrights⟩ | hd | ⟨action, h⟩
  · simp only [State.rights, Prod.mk.injEq] at hrights
    exact .same (admins_congr hset) hrights.1
  · have hd' := hd
    generalize hcall : i.call = c at hd
    cases hd with
    | setRole => exact .assign (.setRole hcall (hcall ▸ hd')) rfl rfl
    | removeRole => exact .assign (.removeRole hcall (hcall ▸ hd')) rfl rfl
    | blacklistUser | unblacklistUser => exact .same rfl rfl
  · exact h.listStep hs hst

/-- The list and the roles agree, apart from the checks that read them. -/
def ListsAgree (tr : List Ev) (s : State) : Prop :=
  (∀ a ∈ s.admins, getRole s a = .admin) ∧
    ∀ a, WasAdmin tr a → a ∉ s.admins → getRole s a ≠ .admin

theorem rolesAgree_iff (hs : MultisigState s) : RolesAgree tr s ↔ ListsAgree tr s := by
  refine ⟨fun h => ⟨h.present, h.past⟩, fun ⟨hpres, hpast⟩ => ⟨hpres, hpast, ?_⟩⟩
  intro env a b s' ha hm hb h
  rw [checkAccess_admin hm hb h, requireAdmin_returns, hs.isAdmin_iff_mem]
  constructor
  · intro hr
    refine ⟨?_, rfl⟩
    rcases ha with ha | ha
    · exact ha
    · by_contra hne
      exact hpast a ha hne hr
  · exact fun ⟨ha, _⟩ => hpres a ha

theorem wasAdmin_snoc : WasAdmin (tr ++ [e]) a ↔ a ∈ e.pre.admins ∨ WasAdmin tr a := by
  simp only [WasAdmin, List.mem_append, List.mem_singleton]
  constructor
  · rintro ⟨e', he | rfl, ha⟩
    · exact Or.inr ⟨e', he, ha⟩
    · exact Or.inl ha
  · rintro (ha | ⟨e', he, ha⟩)
    · exact ⟨e, Or.inr rfl, ha⟩
    · exact ⟨e', Or.inl he, ha⟩

/-- A call that splits list and roles leaves them apart. -/
theorem Splits.apart (hs : MultisigState e.pre) (hst : Steps e.pre e.inp e.post)
    (hk : ListsAgree tr e.pre) (h : Splits tr e) : ¬ ListsAgree (tr ++ [e]) e.post := by
  rintro ⟨hpres, hpast⟩
  cases h with
  | @demote user role has hmem hne =>
    obtain ⟨hadm, hrole⟩ := has.lists hs hst
    have hr := hpres user (hadm ▸ hmem)
    rw [getRole_of_insert hrole, if_pos rfl] at hr
    exact hne hr
  | @restore user has hmem hwas =>
    obtain ⟨hadm, hrole⟩ := has.lists hs hst
    refine hpast user (wasAdmin_snoc.2 (Or.inr hwas)) (hadm ▸ hmem) ?_
    rw [getRole_of_insert hrole, if_pos rfl]
  | @unlist cfg user hc hmem hnot =>
    have hlists := apply_lists hs (.updateMultisigConfig cfg)
    simp only [Prod.mk.injEq] at hlists
    obtain ⟨hadm, hrole⟩ := hc.lists hst
    refine hpast user (wasAdmin_snoc.2 (Or.inl hmem)) (by rw [hadm, hlists.1]; exact hnot) ?_
    rw [getRole, hrole, hlists.2]
    exact hk.1 user hmem
  | @enlist cfg user hc hmem hne =>
    have hlists := apply_lists hs (.updateMultisigConfig cfg)
    simp only [Prod.mk.injEq] at hlists
    obtain ⟨hadm, hrole⟩ := hc.lists hst
    have hr := hpres user (by rw [hadm, hlists.1]; exact hmem)
    rw [getRole, hrole, hlists.2] at hr
    exact hne hr

/-- A call that does not split list and roles keeps them together. -/
theorem ListsAgree.step (hs : MultisigState e.pre) (hst : Steps e.pre e.inp e.post)
    (hk : ListsAgree tr e.pre) (hn : ¬ Splits tr e) : ListsAgree (tr ++ [e]) e.post := by
  obtain ⟨hpres, hpast⟩ := hk
  have hold {a : Address} (hwas : WasAdmin (tr ++ [e]) a) (ha : a ∉ e.pre.admins) :
      WasAdmin tr a := (wasAdmin_snoc.1 hwas).resolve_left ha
  cases hs.listStep hst with
  | same hadm hrole =>
    have hget (a : Address) : getRole e.post a = getRole e.pre a := by rw [getRole, getRole, hrole]
    refine ⟨fun a ha => ?_, fun a hwas ha => ?_⟩ <;> rw [hadm] at ha <;> rw [hget]
    · exact hpres a ha
    · exact hpast a (hold hwas ha) ha
  | @assign user role has hadm hrole =>
    refine ⟨fun a ha => ?_, fun a hwas ha => ?_⟩ <;> rw [hadm] at ha <;>
      rw [getRole_of_insert hrole] <;> split_ifs with he
    · by_contra hne
      exact hn (.demote has (he ▸ ha) hne)
    · exact hpres a ha
    · subst he
      rintro rfl
      exact hn (.restore has ha (hold hwas ha))
    · exact hpast a (hold hwas ha) ha
  | @addAdmin b hadm hrole =>
    refine ⟨fun a ha => ?_, fun a hwas ha => ?_⟩ <;>
      rw [hadm, List.mem_append, List.mem_singleton] at ha <;>
      rw [getRole_of_insert hrole] <;> split_ifs with he
    · rfl
    · exact hpres a (ha.resolve_right he)
    · exact absurd (Or.inr he) ha
    · have hpre : a ∉ e.pre.admins := fun hmem => ha (Or.inl hmem)
      exact hpast a (hold hwas hpre) hpre
  | @removeAdmin b hadm hrole =>
    refine ⟨fun a ha => ?_, fun a hwas ha => ?_⟩ <;>
      rw [hadm, List.mem_filter, decide_eq_true_eq] at ha <;>
      rw [getRole_of_insert hrole] <;> split_ifs with he
    · exact absurd he ha.2
    · exact hpres a ha.1
    · rintro ⟨⟩
    · have hpre : a ∉ e.pre.admins := fun hmem => ha ⟨hmem, he⟩
      exact hpast a (hold hwas hpre) hpre
  | @update cfg hc hadm hrole =>
    have hget (a : Address) : getRole e.post a = getRole e.pre a := by rw [getRole, getRole, hrole]
    refine ⟨fun a ha => ?_, fun a hwas ha => ?_⟩ <;> rw [hadm] at ha <;> rw [hget]
    · by_contra hne
      exact hn (.enlist hc ha hne)
    · have hpre : a ∉ e.pre.admins := fun hmem => hn (.unlist hc hmem ha)
      exact hpast a (hold hwas hpre) hpre

/-! ## Runs -/

theorem mem_foldl_admin (admins : List Address) (roles : Store Address UserRole)
    (h : a ∈ admins ∨ roles.lookup a = some .admin) :
    (admins.foldl (fun roles b => roles.insert b .admin) roles).lookup a = some .admin := by
  induction admins generalizing roles with
  | nil => exact h.resolve_left List.not_mem_nil
  | cons b admins ih =>
    refine ih _ ?_
    rw [Store.lookup_insert_ite]
    split_ifs with he
    · exact Or.inr rfl
    · exact h.imp_left fun hmem => (List.mem_cons.1 hmem).resolve_left he

/-- **The admin list and the role store agree exactly in the runs in which no call splits them.** -/
theorem roles_agree (h : MultisigRun tr s) :
    (RolesAgree tr s ∧ Along (fun tr e => RolesAgree tr e.pre) tr) ↔
      Along (fun tr e => ¬ Splits tr e) tr := by
  obtain ⟨env, admins, required, s₀, h₀, hr⟩ := h
  obtain ⟨c, hc, rfl, hs⟩ := sound_start h₀
  refine hr.always_iff (fun tr e hr hst hk => ?_) ?_
  · have hpre := (hs.run hr).toMultisigState
    have hpost := ((hs.run hr).step hst).toMultisigState
    rw [rolesAgree_iff hpre] at hk
    rw [rolesAgree_iff hpost]
    exact ⟨fun hk' hsp => hsp.apart hpre hst hk hk', hk.step hpre hst⟩
  · rw [rolesAgree_iff hs.toMultisigState]
    refine ⟨fun a ha => ?_, fun a ⟨e, he, _⟩ => absurd he List.not_mem_nil⟩
    exact congrArg (fun role => role.getD .guest) (mem_foldl_admin c.admins ∅ (Or.inl ha))

/-- The action comes from the call or from the proposal that it approves. -/
theorem CarriesOut.source (h : CarriesOut s i action) : (∃ a, i.call = .createProposal a action) ∨
    ∃ a id, i.call = .approveProposal a id ∧
      (s.proposals.lookup id).map PendingProposal.action = some action := by
  cases h with
  | create hcall => exact Or.inl ⟨_, hcall⟩
  | approve hcall hcan => exact Or.inr ⟨_, _, hcall, by rw [hcan.stored]; rfl⟩

/-- Two admins add a third one. -/
def addition : List Input :=
  callsAt [(0, .createProposal ⟨1⟩ (.addAdmin ⟨3⟩)), (86400, .approveProposal ⟨2⟩ 0)]

theorem addition_unsplit :
    Along (fun tr e => ¬ Splits tr e) (eventsFrom next (multisigStart [⟨1⟩, ⟨2⟩] 1) addition) := by
  have hsource : ∀ e ∈ eventsFrom next (multisigStart [⟨1⟩, ⟨2⟩] 1) addition, ∀ action,
      CarriesOut e.pre e.inp action → action = .addAdmin ⟨3⟩ := by
    rintro e (_ | ⟨_, _ | ⟨_, he⟩⟩) action h
    · rcases h.source with ⟨a, hcall⟩ | ⟨a, id, hcall, -⟩ <;> cases hcall
      rfl
    · rcases h.source with ⟨a, hcall⟩ | ⟨a, id, hcall, hstored⟩ <;> cases hcall
      exact Option.some.inj (hstored.symm.trans (by decide))
    · cases he
  have hassigns : ∀ e ∈ eventsFrom next (multisigStart [⟨1⟩, ⟨2⟩] 1) addition, ∀ user role,
      ¬ Assigns e.pre e.inp user role := by
    rintro e (_ | ⟨_, _ | ⟨_, he⟩⟩) user role h
    · cases h with
      | setRole h | removeRole h => cases h
      | action h => cases hsource _ (.head _) _ h
    · cases h with
      | setRole h | removeRole h => cases h
      | action h => cases hsource _ (.tail _ (.head _)) _ h
    · cases he
  rintro tr₁ e tr₂ htr h
  have he : e ∈ eventsFrom next (multisigStart [⟨1⟩, ⟨2⟩] 1) addition := by rw [htr]; simp
  cases h with
  | demote h | restore h => exact hassigns e he _ _ h
  | unlist h | enlist h => cases hsource e he _ h

theorem roles_agree_addition : ∃ tr s, RolesAgree tr s ∧ s.admins = [⟨1⟩, ⟨2⟩, ⟨3⟩] :=
  ⟨_, _, ((roles_agree (multisigRun_calls (by decide) addition)).2 addition_unsplit).1, by decide⟩

/-- **Two admins who put a third in the place of the second leave the second its role.** -/
theorem former_admin_keeps_role : ¬ ∀ tr s, MultisigRun tr s → RolesAgree tr s := by
  intro hall
  have hinit : (multisigStart [⟨1⟩, ⟨2⟩] 1).initialized = true := by decide
  have h := hall _ _ (multisigRun_calls hinit (reconfiguration thirdAdmin))
  exact h.past ⟨2⟩ ⟨_, .head _, by decide⟩ (by decide) (by decide)

end AccessControl
