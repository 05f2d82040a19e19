/-
  Grace periods and the versions of tokens.

  A token is in a grace period exactly if both times of one are set.  The issue, renewal and grace
  periods of tokens write the status together with the times.  The upgrades and rollbacks of single
  tokens write the status alone, so that they keep this exactly if they keep whether the token is
  in a grace period.
-/
import NovaLabs.ManageHub.TokenChanges

namespace ManageHub

open Lib Soroban

variable {me : Address}

/-! ## The law -/

/-- The token is in a grace period exactly if both times of one are set. -/
def MembershipToken.GraceConsistent (token : MembershipToken) : Prop :=
  token.status = .gracePeriod ↔
    token.gracePeriodEnteredAt.isSome ∧ token.gracePeriodExpiresAt.isSome

/-- All tokens are in a grace period exactly if both times of one are set. -/
def GraceConsistent (s : State) : Prop :=
  ∀ id token, s.get (.token id) = some token → token.GraceConsistent

instance (token : MembershipToken) : Decidable token.GraceConsistent :=
  inferInstanceAs (Decidable (_ ↔ _))

/-- The status that the call gives to a token, without the times of a grace period: the one asked
    for in an upgrade, or that of the snapshot in a rollback. -/
def Call.setsStatus (s : State) : Call → Option (TokenId × MembershipStatus)
  | .upgradeToken _ tokenId _ _ _ newStatus => newStatus.map (tokenId, ·)
  | .rollbackTokenUpgrade _ tokenId targetVersion =>
    (s.get (.versionSnapshot tokenId targetVersion)).map (tokenId, ·.status)
  | _ => none

/-- A call that goes through, and gives a status to a token, does not take it into a grace period or
    out of one. -/
def KeepsGrace (ev : Ev me) : Prop :=
  ev.inp.ok ev.pre = true → ∀ id status token,
    ev.inp.call.setsStatus ev.pre.state = some (id, status) →
      ev.pre.state.get (.token id) = some token →
        (status = .gracePeriod ↔ token.status = .gracePeriod)

/-! ## What calls keep -/

section
variable {env : HubEnv me} {s s' : State} {admin : Address} {id : TokenId}
  {token updated : MembershipToken} {label : Option String} {expiry : Option ℕ}
  {isRollback : Bool}

theorem TokenChange.graceConsistent {o o' : Option MembershipToken} (h : TokenChange o o')
    (hg : ∀ token, o = some token → token.GraceConsistent) :
    ∀ token, o' = some token → token.GraceConsistent := by
  rintro _ rfl
  cases h with
  | issued => exact iff_of_false (by simp [newToken]) (by simp [newToken])
  | given token user => exact hg token rfl
  | renewed =>
    exact iff_of_false (by simp [MembershipToken.renewed]) (by simp [MembershipToken.renewed])
  | graced => exact iff_of_true rfl ⟨rfl, rfl⟩
  | autoRenewed token => exact hg token rfl

theorem TokensChange.graceConsistent (h : TokensChange s s') (hg : GraceConsistent s) :
    GraceConsistent s' := by
  intro id
  have hid := h id
  generalize s'.get (.token id) = o at hid
  induction hid with
  | refl => exact hg id
  | tail _ hc ih => exact hc.graceConsistent ih

/-- A new version of a token is consistent with its times exactly if it keeps the status, as far as
    grace periods go. -/
theorem graceConsistent_versioned (hg : GraceConsistent s) (ht : s.get (.token id) = some token)
    (he : updated.gracePeriodEnteredAt = token.gracePeriodEnteredAt)
    (hx : updated.gracePeriodExpiresAt = token.gracePeriodExpiresAt) :
    GraceConsistent (s.versioned env admin id token updated label isRollback) ↔
      (updated.status = .gracePeriod ↔ token.status = .gracePeriod) := by
  have hu : updated.GraceConsistent ↔
      (updated.status = .gracePeriod ↔ token.status = .gracePeriod) := by
    rw [MembershipToken.GraceConsistent, he, hx, ← show token.status = _ ↔ _ from hg id token ht]
  rw [← hu]
  constructor
  · intro h
    exact h id updated (by rw [versioned_token, if_pos rfl])
  · intro h id' token' ht'
    rw [versioned_token] at ht'
    split_ifs at ht' with hid
    · obtain rfl := Option.some.inj ht'
      exact h
    · exact hg id' token' ht'

theorem GraceConsistent.upgraded (hg : GraceConsistent s) :
    GraceConsistent (s.upgraded env admin label expiry id) := by
  unfold State.upgraded
  cases h : (s.get (.token id)).filter (·.upgradable) with
  | none => exact hg
  | some token =>
    refine (graceConsistent_versioned hg (Option.filter_eq_some_iff.1 h).1 ?_ ?_).2 ?_
    · rfl
    · rfl
    · rfl

end

/-! ## Steps and runs -/

section
variable {w w' : World} {i : Input me}

theorem keepsGrace_of_none (h : i.call.setsStatus w.state = none) : KeepsGrace ⟨w, i, w'⟩ := by
  intro _ id status token hset
  rw [show i.call.setsStatus w.state = _ from hset] at h
  cases h

theorem keepsGrace_of_status (id : TokenId) (status status' : MembershipStatus)
    (hset : i.call.setsStatus w.state = some (id, status))
    (ht : (w.state.get (.token id)).map (·.status) = some status')
    (h : status = .gracePeriod ↔ status' = .gracePeriod) : KeepsGrace ⟨w, i, w'⟩ := by
  intro _ id₁ status₁ token hset₁ ht₁
  cases hset.symm.trans hset₁
  rw [show w.state.get (.token id) = _ from ht₁, Option.map_some, Option.some.injEq] at ht
  rw [ht, h]

theorem keepsGrace_iff (hok : i.ok w = true) {id : TokenId} {status : MembershipStatus}
    {token : MembershipToken} (hset : i.call.setsStatus w.state = some (id, status))
    (ht : w.state.get (.token id) = some token) :
    KeepsGrace ⟨w, i, w'⟩ ↔ (status = .gracePeriod ↔ token.status = .gracePeriod) := by
  constructor
  · intro h
    exact h hok id status token hset ht
  · exact keepsGrace_of_status id status token.status hset (by rw [ht, Option.map_some])

/-- The step lemma: the tokens stay consistent exactly if the call keeps whether its token is in a
    grace period. -/
theorem Step.graceConsistent (h : Step w i w') (hg : GraceConsistent w.state) :
    GraceConsistent w'.state ↔ KeepsGrace ⟨w, i, w'⟩ := by
  by_cases hok : i.ok w = true
  swap
  · rw [h.state_eq_of_not_ok hok]
    exact iff_of_true hg fun h => absurd h hok
  cases hc : i.call with
  | upgradeToken caller id label expiry tierId status =>
    obtain ⟨n, hr⟩ := returns_ignore.1 ((h.ok_iff_returns (by rw [hc]; rfl)).1 hok)
    obtain ⟨config, admin, token, hup, -, hs⟩ := upgradeToken_returns.1 hr
    rw [hs]
    refine (graceConsistent_versioned hg hup.stored ?_ ?_).trans ?_
    · rfl
    · rfl
    cases status with
    | none => exact iff_of_true .rfl (keepsGrace_of_none (by rw [hc]; rfl))
    | some status => exact (keepsGrace_iff hok (by rw [hc]; rfl) hup.stored).symm
  | rollbackTokenUpgrade admin id target =>
    obtain ⟨n, hr⟩ := returns_ignore.1 ((h.ok_iff_returns (by rw [hc]; rfl)).1 hok)
    obtain ⟨config, token, snapshot, hroll, -, hs⟩ := rollbackTokenUpgrade_returns.1 hr
    have hset : i.call.setsStatus w.state = some (id, snapshot.status) := by
      rw [hc, Call.setsStatus, hroll.snapshot, Option.map_some]
    rw [hs]
    refine (graceConsistent_versioned hg hroll.stored ?_ ?_).trans
      (keepsGrace_iff hok hset hroll.stored).symm
    · rfl
    · rfl
  | batchUpgradeTokens admin ids label expiry =>
    obtain ⟨results, hr⟩ := returns_ignore.1 ((h.ok_iff_returns (by rw [hc]; rfl)).1 hok)
    obtain ⟨-, hs⟩ := batchUpgradeTokens_returns.1 ⟨results, hr⟩
    rw [hs]
    exact iff_of_true (foldl_upgraded_keeps (fun _ _ hg => hg.upgraded) ids hg)
      (keepsGrace_of_none (by rw [hc]; rfl))
  | _ =>
    exact iff_of_true ((h.tokensChange (by rw [hc]; rfl)).graceConsistent hg)
      (keepsGrace_of_none (by rw [hc]; rfl))

end

/-- **Status and times of grace periods agree throughout a run exactly if no upgrade or rollback
    takes a token into a grace period or out of one.** -/
theorem grace_consistent_iff {w₀ w : World} {tr : List (Ev me)} (h₀ : w₀.state = ∅)
    (h : Run Step w₀ tr w) :
    (GraceConsistent w.state ∧ ∀ ev ∈ tr, GraceConsistent ev.pre.state) ↔
      ∀ ev ∈ tr, KeepsGrace ev := by
  rw [← along_iff_forall, ← along_iff_forall]
  refine Run.always_iff (P := fun _ w => GraceConsistent w.state)
    (fun _ _ _ hs hg => hs.graceConsistent hg) h ?_
  intro id token ht
  rw [h₀] at ht
  cases ht

/-- The token of `⟨2⟩` is paused by an upgrade that is rolled back, and enters a grace period. -/
def graceCalls : List (Input ⟨0⟩) :=
  issueCalls ++ [hubCall 3 (.setUpgradeConfig ⟨1⟩ ⟨true, true, 0⟩),
    hubCall 4 (.upgradeToken ⟨1⟩ 1 none none none (some .paused)),
    hubCall 5 (.rollbackTokenUpgrade ⟨1⟩ 1 0), hubCall 2000 (.checkAndApplyGracePeriod 1)]

theorem grace_consistent_iff_kept : GraceConsistent (graceCalls.foldl next start).state ∧
    ((graceCalls.foldl next start).state.get (.token 1)).map (·.status) = some .gracePeriod := by
  refine ⟨((grace_consistent_iff rfl (run_calls graceCalls (by decide))).2 ?_).1, by decide⟩
  refine List.forall_mem_cons.2 ⟨keepsGrace_of_none rfl, List.forall_mem_cons.2
    ⟨keepsGrace_of_none rfl, List.forall_mem_cons.2 ⟨keepsGrace_of_none rfl,
      List.forall_mem_cons.2 ⟨?_, List.forall_mem_cons.2 ⟨?_,
        List.forall_mem_singleton.2 (keepsGrace_of_none rfl)⟩⟩⟩⟩⟩
  · exact keepsGrace_of_status 1 .paused .active rfl (by decide) (by decide)
  · exact keepsGrace_of_status 1 .active .paused (by decide) (by decide) (by decide)

/-- The admin puts the token of `⟨2⟩` in a grace period by an upgrade: no times are set. -/
theorem grace_without_times : ¬ ∀ (tr : List (Ev ⟨0⟩)) (w : World), Run Step start tr w →
    GraceConsistent w.state := by
  intro h
  have hg := h _ _ (run_calls (issueCalls ++ [hubCall 3 (.setUpgradeConfig ⟨1⟩ ⟨true, true, 0⟩),
    hubCall 4 (.upgradeToken ⟨1⟩ 1 none none none (some .gracePeriod))]) (by decide)) 1 _ rfl
  exact absurd hg (by decide)

/-! ## Failed automatic renewals -/

/-- The token is in a grace period, with both of its times. -/
def InGracePeriod (s : State) (id : TokenId) : Prop :=
  ∃ token, s.get (.token id) = some token ∧ token.status = .gracePeriod ∧
    token.gracePeriodEnteredAt.isSome ∧ token.gracePeriodExpiresAt.isSome

section
variable {w w' : World} {i : Input me} {id : TokenId} {token : MembershipToken}
  {settings : AutoRenewalSettings} {usdc : Address}

/-- **An automatic renewal with a wrong payment token takes no token into a grace period: the error
    takes back what was written of it.** -/
theorem failed_autoRenewal (h : Step w i w') (hc : i.call = .processAutoRenewal id)
    (ht : w.state.get (.token id) = some token)
    (hs : w.state.get (.autoRenewalSettings token.user) = some settings)
    (hu : w.state.get .usdcContract = some usdc) (hne : settings.paymentToken ≠ usdc) :
    (InGracePeriod w'.state id ↔ InGracePeriod w.state id) ∧
      (Returns (checkAutoRenewalEligibility i.env id) w.state true w.state →
        ¬ InGracePeriod w'.state id) := by
  have hfails : ¬ i.ok w = true := by
    intro hok
    have hr := (h.ok_iff_returns (x := processAutoRenewal i.env id) (by rw [hc]; rfl)).1 hok
    obtain ⟨token', settings', _, _, hauto, -⟩ := processAutoRenewal_returns.1 hr
    obtain rfl := Option.some.inj (ht.symm.trans hauto.stored)
    obtain rfl := Option.some.inj (hs.symm.trans hauto.chosen)
    exact hne (Option.some.inj (hauto.payment.symm.trans hu))
  rw [h.state_eq_of_not_ok hfails]
  refine ⟨.rfl, fun he => ?_⟩
  rintro ⟨token', ht', hgrace, -⟩
  obtain rfl := Option.some.inj (ht.symm.trans ht')
  obtain ⟨⟨-, -, -, hactive⟩, -⟩ := (eligible_iff ht).1 he
  rw [hactive] at hgrace
  cases hgrace

/-- The token of `⟨2⟩` is to be renewed with `⟨8⟩`, and not with the USDC contract `⟨9⟩`. -/
def wrongTokenCalls : List (Input ⟨0⟩) :=
  issueCalls ++ [hubCall 3 (.setUsdcContract ⟨1⟩ ⟨9⟩),
    hubCall 4 (.createTier ⟨1⟩ ⟨"basic", "Basic", .basic, 100, 1000, [], 1, 1⟩),
    hubCall 5 (.renewToken 1 ⟨9⟩ "basic" .monthly), hubCall 6 (.setAutoRenewal 1 true ⟨8⟩)]

theorem failed_autoRenewal_basic : ¬ InGracePeriod
    (next (wrongTokenCalls.foldl next start) (hubCall 2592000 (.processAutoRenewal 1))).state 1 :=
  (failed_autoRenewal (step_next (by decide)) rfl rfl rfl rfl (by decide)).2
    ((eligible_iff rfl).2 ⟨by decide, rfl⟩)

/-- The token has entered no grace period after the renewal has failed. -/
theorem failed_autoRenewal_no_grace : ¬ ∀ (tr : List (Ev ⟨0⟩)) (w w' : World) (i : Input ⟨0⟩)
    (id : TokenId) (token : MembershipToken) (settings : AutoRenewalSettings) (tierId : String)
    (tier : SubscriptionTier) (usdc : Address), Run Step start tr w → Step w i w' →
    i.call = .processAutoRenewal id → w.state.get (.token id) = some token →
    w.state.get (.autoRenewalSettings token.user) = some settings →
    settings.enabled = true ∧ settings.tokenId = id →
    Returns (checkAutoRenewalEligibility i.env id) w.state true w.state →
    token.tierId = some tierId ∧ w.state.get (.tier tierId) = some (.subscription tier) →
    w.state.get .usdcContract = some usdc → settings.paymentToken ≠ usdc →
      InGracePeriod w'.state id := by
  intro h
  obtain ⟨token, ht, hgrace, -⟩ := h _ _ _ _ 1 _ _ "basic" _ ⟨9⟩
    (run_calls wrongTokenCalls (by decide))
    (step_next (i := hubCall 2592000 (.processAutoRenewal 1)) (by decide)) rfl rfl rfl
    ⟨rfl, rfl⟩ ((eligible_iff rfl).2 ⟨by decide, rfl⟩) ⟨rfl, rfl⟩ rfl (by decide)
  have hstatus : ((next (wrongTokenCalls.foldl next start)
    (hubCall 2592000 (.processAutoRenewal 1))).state.get (.token 1)).map (·.status) =
      some .active := by decide
  rw [ht, Option.map_some, hgrace] at hstatus
  cases hstatus

end

end ManageHub
