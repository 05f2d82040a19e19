/-
  Revoked tokens over whole runs.

  Of all that is written to a token, only three kinds take it out of being revoked: a renewal, the
  status that an upgrade asks for, and the snapshot that a rollback restores.
-/
import NovaLabs.ManageHub.Authority
import NovaLabs.ManageHub.TokenChanges

namespace ManageHub

open Lib Soroban

variable {me : Address}

/-! ## Revoked tokens -/

/-- The status of a token. -/
def State.statusOf (s : State) (id : TokenId) : Option MembershipStatus :=
  (s.get (.token id)).map (·.status)

/-- A token that is revoked stays so. -/
def StaysRevoked (o o' : Option MembershipToken) : Prop :=
  o.map (·.status) = some .revoked → o'.map (·.status) = some .revoked

/-- All tokens that are revoked stay so. -/
def RevokedStay (s s' : State) : Prop :=
  ∀ id, s.statusOf id = some .revoked → s'.statusOf id = some .revoked

section
variable {s s' s'' : State} {id : TokenId} {token : MembershipToken}

theorem statusOf_eq_some {status : MembershipStatus} : s.statusOf id = some status ↔
    ∃ token, s.get (.token id) = some token ∧ token.status = status := Option.map_eq_some_iff

theorem statusOf_congr (h : s'.get (.token id) = s.get (.token id)) :
    s'.statusOf id = s.statusOf id := congrArg (Option.map _) h

theorem RevokedStay.rfl : RevokedStay s s := fun _ h => h

theorem RevokedStay.trans (h : RevokedStay s s') (h' : RevokedStay s' s'') : RevokedStay s s'' :=
  fun id hs => h' id (h id hs)

theorem StaysRevoked.of_path {o o' : Option MembershipToken}
    (h : Relation.ReflTransGen StaysRevoked o o') : StaysRevoked o o' := by
  induction h with
  | refl => exact id
  | tail _ hw ih => exact fun hs => hw (ih hs)

/-- A path along which tokens stay revoked keeps them so. -/
theorem TokensAlong.revokedStay (h : TokensAlong StaysRevoked s s') : RevokedStay s s' :=
  fun id hs => StaysRevoked.of_path (h id) hs

/-- Only a renewal by the user takes a token out of being revoked: what enters a grace period was
    active. -/
theorem staysRevoked_writes {renews : Prop} (hn : ¬ renews) : Writes renews StaysRevoked where
  issued _ _ _ _ h := nomatch h
  given _ _ := id
  renewed hr := absurd hr hn
  graced token _ _ hl h := by
    have hr : token.status = .revoked := Option.some.inj h
    rw [hl] at hr
    cases hr
  autoRenewed _ _ _ _ := id

end

/-! ## Calls -/

section
variable {env : HubEnv me} {s s' : State} {id : TokenId} {admin : Address}
  {label : Option String} {expiry : Option ℕ}

theorem upgraded_revoked : RevokedStay s (s.upgraded env admin label expiry id) := by
  intro id' hs
  rw [State.upgraded]
  cases h : (s.get (.token id)).filter (·.upgradable) with
  | none => exact hs
  | some token =>
    obtain ⟨ht, -⟩ := Option.filter_eq_some_iff.1 h
    rw [Option.elim_some, State.statusOf, versioned_token]
    split_ifs with he
    · obtain ⟨old, hold, hr⟩ := statusOf_eq_some.1 hs
      rw [he, ht] at hold
      cases hold
      exact congrArg some hr
    · exact hs

theorem batchUpgradeTokens_revoked {ids : List TokenId} {results : List BatchUpgradeResult}
    (h : Returns (batchUpgradeTokens env admin ids label expiry) s results s') :
    RevokedStay s s' := by
  obtain ⟨-, rfl⟩ := batchUpgradeTokens_returns.1 ⟨results, h⟩
  exact foldl_upgraded_keeps (P := (RevokedStay s ·)) (fun _ _ hs => hs.trans upgraded_revoked) ids
    .rfl

end

/-! ## Steps -/

/-- The calls that may take a revoked token out of being so. -/
def Call.revives : Call → Bool
  | .renewToken .. | .upgradeToken .. | .rollbackTokenUpgrade .. => true
  | _ => false

/-- **All calls but renewals, single upgrades and rollbacks keep all tokens that are revoked so.** -/
theorem Step.revokedStay {w w' : World} {i : Input me} (h : Step w i w')
    (hv : i.call.revives = false) : RevokedStay w.state w'.state := by
  cases hc : i.call with
  | batchUpgradeTokens admin ids label expiry =>
    refine h.of_returns (by rw [hc]; rfl) (P := (RevokedStay w.state ·)) .rfl fun s' hr => ?_
    obtain ⟨results, hr⟩ := returns_ignore.1 hr
    exact batchUpgradeTokens_revoked hr
  | renewToken | upgradeToken | rollbackTokenUpgrade => rw [hc] at hv; cases hv
  | _ =>
    have hn : ¬ i.call.renews = true := by rw [hc]; exact Bool.false_ne_true
    exact (h.tokensAlong (staysRevoked_writes hn) (by rw [hc]; rfl)).revokedStay

/-- The user of the token renews it. -/
def RenewsToken (id : TokenId) (ev : Ev me) : Prop :=
  ev.inp.ok ev.pre = true ∧ ∃ paymentToken tierId cycle,
    ev.inp.call = .renewToken id paymentToken tierId cycle

/-- The caller authorises the call, and is the admin, or the user of the token where upgrades are
    not for the admin only. -/
def MayUpgrade (id : TokenId) (caller : Address) (ev : Ev me) : Prop :=
  caller ∈ ev.inp.env.auths ∧ (ev.pre.state.get .admin = some caller ∨
    ev.pre.state.userOf id = some caller ∧
      ∃ config, ev.pre.state.get .upgradeConfig = some config ∧ config.adminOnly = false)

/-- An upgrade or a rollback gives the token a status: an upgrade by who may, a rollback by the
    admin. -/
def ResetsStatus (id : TokenId) (ev : Ev me) : Prop :=
  ev.inp.ok ev.pre = true ∧
    ((∃ caller label expiry tierId status, MayUpgrade id caller ev ∧
      ev.inp.call = .upgradeToken caller id label expiry tierId (some status)) ∨
    ∃ admin target, admin ∈ ev.inp.env.auths ∧ ev.pre.state.get .admin = some admin ∧
      ev.inp.call = .rollbackTokenUpgrade admin id target)

section
variable {w w' : World} {i : Input me} {id : TokenId}

/-- A revoked token stays so, is renewed or is given a status. -/
theorem Step.revoked (h : Step w i w') (hs : w.state.statusOf id = some .revoked) :
    w'.state.statusOf id = some .revoked ∨ RenewsToken id ⟨w, i, w'⟩ ∨
      ResetsStatus id ⟨w, i, w'⟩ := by
  by_cases hok : i.ok w = true
  swap
  · exact Or.inl (h.state_eq_of_not_ok hok ▸ hs)
  cases hc : i.call with
  | renewToken id' paymentToken tierId cycle =>
    by_cases he : id = id'
    · subst he
      exact Or.inr (Or.inl ⟨hok, paymentToken, tierId, cycle, hc⟩)
    · obtain ⟨token, tier, -, hr⟩ :=
        renewToken_returns.1 ((h.ok_iff_returns (by rw [hc]; rfl)).1 hok)
      refine Or.inl ((statusOf_congr ?_).trans hs)
      rw [get_eq_of_returns [.renewalHistory] hr (by decide : Kind.token ∉ _),
        get_put_ne (by simpa using he)]
  | upgradeToken caller id' label expiry tierId status =>
    obtain ⟨n, hr⟩ := returns_ignore.1 ((h.ok_iff_returns (by rw [hc]; rfl)).1 hok)
    obtain ⟨config, admin, token, hup, -, hs'⟩ := upgradeToken_returns.1 hr
    by_cases he : id = id'
    · subst he
      cases status with
      | none =>
        obtain ⟨old, hold, hr⟩ := statusOf_eq_some.1 hs
        rw [hup.stored] at hold
        cases hold
        refine Or.inl ?_
        rw [hs', State.statusOf, versioned_token, if_pos rfl]
        exact congrArg some hr
      | some status =>
        refine Or.inr (Or.inr ⟨hok, Or.inl ⟨caller, label, expiry, tierId, status,
          ⟨hup.authorised, ?_⟩, hc⟩⟩)
        by_cases hadm : admin = caller
        · exact Or.inl (hadm ▸ hup.allowed.1)
        · have hu : token.user = caller := hup.own.resolve_left hadm
          have hon : config.adminOnly = false :=
            Bool.eq_false_iff.2 fun hon => hadm (hup.allowed.2 hon)
          exact Or.inr ⟨hu ▸ userOf_some hup.stored, config, hup.configured.1, hon⟩
    · refine Or.inl ((statusOf_congr ?_).trans hs)
      rw [hs', versioned_token, if_neg he]
  | rollbackTokenUpgrade admin id' target =>
    obtain ⟨n, hr⟩ := returns_ignore.1 ((h.ok_iff_returns (by rw [hc]; rfl)).1 hok)
    obtain ⟨config, token, snapshot, hback, -, hs'⟩ := rollbackTokenUpgrade_returns.1 hr
    by_cases he : id = id'
    · subst he
      exact Or.inr (Or.inr ⟨hok, Or.inr ⟨admin, target, hback.authorised.1, hback.authorised.2,
        hc⟩⟩)
    · refine Or.inl ((statusOf_congr ?_).trans hs)
      rw [hs', versioned_token, if_neg he]
  | _ => exact Or.inl (h.revokedStay (by rw [hc]; rfl) id hs)

end

/-! ## Runs -/

/-- **A token that is revoked, and that its user does not renew, stays so, unless the admin rolls it
    back, or an upgrade gives it a status: by the admin, or by its user where upgrades are not for
    the admin only.** -/
theorem revocation_stays {w w' : World} {tr : List (Ev me)} {id : TokenId} (h : Run Step w tr w')
    (hs : w.state.statusOf id = some .revoked) (hn : ∀ ev ∈ tr, ¬ RenewsToken id ev) :
    w'.state.statusOf id = some .revoked ∨ ∃ ev ∈ tr, ResetsStatus id ev := by
  induction h with
  | nil => exact Or.inl hs
  | snoc _ hstep ih =>
    rcases ih fun ev hev => hn ev (List.mem_append_left _ hev) with hr | ⟨ev, hev, hreset⟩
    · rcases hstep.revoked hr with hr' | hrenew | hreset
      · exact Or.inl hr'
      · exact absurd hrenew (hn _ (List.mem_append_right _ (.head _)))
      · exact Or.inr ⟨_, List.mem_append_right _ (.head _), hreset⟩
    · exact Or.inr ⟨ev, List.mem_append_left _ hev, hreset⟩

/-- The admin issues a token, leaves upgrades to the users as well, and revokes the token. -/
def revokeCalls : List (Input ⟨0⟩) :=
  issueCalls ++ [hubCall 3 (.setUpgradeConfig ⟨1⟩ ⟨true, false, 0⟩),
    hubCall 4 (.upgradeToken ⟨1⟩ 1 none none none (some .revoked))]

/-- The token is checked for a grace period, and its renewal and transfer are tried. -/
def afterRevocation : List (Input ⟨0⟩) :=
  [hubCall 5 (.checkAndApplyGracePeriod 1), hubCall 6 (.processAutoRenewal 1),
    hubCall 7 (.transferToken 1 ⟨3⟩)]

theorem revocation_stays_checked :
    (afterRevocation.foldl next (revokeCalls.foldl next start)).state.statusOf 1 = some .revoked ∨
      ∃ ev ∈ eventsFrom next (revokeCalls.foldl next start) afterRevocation, ResetsStatus 1 ev :=
  revocation_stays (run_calls afterRevocation (by decide)) (by decide) (by
    rintro ev hev ⟨-, paymentToken, tierId, cycle, hc⟩
    simp only [afterRevocation, eventsFrom, List.mem_cons, List.not_mem_nil, or_false] at hev
    rcases hev with rfl | rfl | rfl <;> cases hc)

/-- An upgrade that the user alone authorises. -/
def reviveCall : Input ⟨0⟩ := strangerCall 5 (.upgradeToken ⟨2⟩ 1 none none none (some .active))

/-- The user alone makes the revoked token active again. -/
theorem revocation_undone :
    Run Step start (eventsFrom next start (revokeCalls ++ [reviveCall]))
      ((revokeCalls ++ [reviveCall]).foldl next start) ∧
    (revokeCalls.foldl next start).state.get .admin = some ⟨1⟩ ∧
    (revokeCalls.foldl next start).state.userOf 1 = some ⟨2⟩ ∧
    (revokeCalls.foldl next start).state.statusOf 1 = some .revoked ∧
    reviveCall.env.auths = {⟨2⟩} ∧
    (next (revokeCalls.foldl next start) reviveCall).state.statusOf 1 = some .active :=
  ⟨run_calls _ (by decide), by decide, by decide, by decide, rfl, by decide⟩

end ManageHub
