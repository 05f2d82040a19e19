/-
  What the upgrades and rollbacks of tokens check, and what they write.

  All of them put the token at its next version: they keep a snapshot of the old version, and
  append to the history.
-/
import NovaLabs.ManageHub.Interface

namespace ManageHub

open Lib Soroban

variable {me : Address}

/-! ## A new version -/

/-- `get_upgrade_history`. -/
def State.upgrades (s : State) (id : TokenId) : List UpgradeRecord :=
  (s.get (.upgradeHistory id)).getD []

/-- The record of a token that gives way to `updated`. -/
def upgradeRecord (env : HubEnv me) (caller : Address) (id : TokenId)
    (token updated : MembershipToken) (label : Option String) (isRollback : Bool) :
    UpgradeRecord :=
  { tokenId := id, fromVersion := token.currentVersion, toVersion := updated.currentVersion
    upgradedBy := caller, upgradedAt := env.now, label, isRollback }

/-- The token has given way to `updated`. -/
def State.versioned (s : State) (env : HubEnv me) (caller : Address) (id : TokenId)
    (token updated : MembershipToken) (label : Option String) (isRollback : Bool) : State :=
  ((s.put (.versionSnapshot id token.currentVersion) (captureSnapshot env token label)).put
    (.token id) updated).put (.upgradeHistory id)
      (s.upgrades id ++ [upgradeRecord env caller id token updated label isRollback])

/-- The token has a next version. -/
def MembershipToken.upgradable (token : MembershipToken) : Bool :=
  token.currentVersion + 1 < 2 ^ 32

section
variable {env : HubEnv me} {s s' : State} {u : Unit} {caller : Address} {id id' : TokenId}
  {token updated : MembershipToken} {label : Option String} {isRollback : Bool} {v : ℕ}

theorem storeVersion_returns :
    Returns (storeVersion env caller id token updated label isRollback) s u s' ↔
      s' = s.versioned env caller id token updated label isRollback := by
  simp only [storeVersion, storeSnapshot, recordUpgrade, returns_store_bind, returns_load_bind,
    returns_store]
  rw [get_put_ne (by simp), get_put_ne (by simp)]
  rfl

theorem versioned_token :
    (s.versioned env caller id token updated label isRollback).get (.token id') =
      if id' = id then some updated else s.get (.token id') := by
  rw [State.versioned, get_put_ne (by simp)]
  split_ifs with h
  · rw [h, get_put_self]
  · rw [get_put_ne (by simpa using h), get_put_ne (by simp)]

theorem versioned_snapshot :
    (s.versioned env caller id token updated label isRollback).get (.versionSnapshot id' v) =
      if id' = id ∧ v = token.currentVersion then some (captureSnapshot env token label)
      else s.get (.versionSnapshot id' v) := by
  rw [State.versioned, get_put_ne (by simp), get_put_ne (by simp)]
  split_ifs with h
  · obtain ⟨rfl, rfl⟩ := h
    rw [get_put_self]
  · rw [get_put_ne (by simpa using h)]

theorem versioned_upgrades :
    (s.versioned env caller id token updated label isRollback).upgrades id' =
      if id' = id then s.upgrades id ++ [upgradeRecord env caller id token updated label isRollback]
      else s.upgrades id' := by
  rw [State.upgrades, State.versioned]
  split_ifs with h
  · rw [h, get_put_self, Option.getD_some]
  · rw [get_put_ne (by simpa using h), get_put_ne (by simp), get_put_ne (by simp), State.upgrades]

theorem loadUpgradable_returns :
    Returns (loadUpgradable id) s token s' ↔ s.get (.token id) = some token ∧ s' = s := by
  simp only [loadUpgradable, returns_load_bind, returns_okOr]

theorem nextVersion_returns :
    Returns (nextVersion token) s v s' ↔
      (token.upgradable = true ∧ v = token.currentVersion + 1) ∧ s' = s := by
  simp only [nextVersion, MembershipToken.upgradable, decide_eq_true_eq, returns_ite, returns_pure,
    returns_throw, and_false, or_false, and_assoc]

instance : Total (storeVersion env caller id token updated label isRollback) := by
  unfold storeVersion storeSnapshot recordUpgrade; infer_instance

end

/-! ## Upgrades of one token -/

/-- The caller can put the token at its next version. -/
structure Upgradable (env : HubEnv me) (s : State) (caller : Address) (id : TokenId)
    (config : UpgradeConfig) (admin : Address) (token : MembershipToken) : Prop where
  authorised : caller ∈ env.auths
  configured : s.get .upgradeConfig = some config ∧ config.upgradesEnabled = true
  allowed : s.get .admin = some admin ∧ (config.adminOnly = true → admin = caller)
  stored : s.get (.token id) = some token
  own : admin = caller ∨ token.user = caller
  version : token.upgradable = true

/-- The admin can put the token back to what it was when it left version `target`. -/
structure Rollbackable (env : HubEnv me) (s : State) (admin : Address) (id : TokenId) (target : ℕ)
    (config : UpgradeConfig) (token : MembershipToken) (snapshot : TokenVersionSnapshot) :
    Prop where
  authorised : admin ∈ env.auths ∧ s.get .admin = some admin
  configured : s.get .upgradeConfig = some config
  limit : config.maxRollbacks > 0 →
    ((s.upgrades id).filter (·.isRollback)).length < min (2 ^ 32) config.maxRollbacks
  stored : s.get (.token id) = some token
  snapshot : s.get (.versionSnapshot id target) = some snapshot
  version : token.upgradable = true

section
variable {env : HubEnv me} {s s' : State} {u : Unit} {caller admin : Address} {id : TokenId}
  {label tierId : Option String} {expiry : Option ℕ} {status : Option MembershipStatus} {n : ℕ}

theorem getUpgradeConfig_returns {config : UpgradeConfig} :
    Returns getUpgradeConfig s config s' ↔ s.get .upgradeConfig = some config ∧ s' = s := by
  simp only [getUpgradeConfig, returns_load_bind, returns_okOr]

theorem requireUpgradesEnabled_returns {config : UpgradeConfig} :
    Returns (requireUpgradesEnabled config) s u s' ↔ config.upgradesEnabled = true ∧ s' = s := by
  rw [requireUpgradesEnabled, returns_failIf, not_not]

theorem requireAuthThenAdmin_returns :
    Returns (requireAuthThenAdmin env admin) s u s' ↔
      (admin ∈ env.auths ∧ s.get .admin = some admin) ∧ s' = s := by
  simp only [requireAuthThenAdmin, returns_requireAuth_bind,
    returns_bind_of_reads fun _ _ => getAdmin_returns, returns_failIf, not_not]
  constructor
  · rintro ⟨hauth, _, ha, rfl, rfl⟩
    exact ⟨⟨hauth, ha⟩, rfl⟩
  · rintro ⟨⟨hauth, ha⟩, rfl⟩
    exact ⟨hauth, admin, ha, rfl, rfl⟩

theorem upgradeToken_returns :
    Returns (upgradeToken env caller id label expiry tierId status) s n s' ↔
      ∃ config admin token, Upgradable env s caller id config admin token ∧
        n = token.currentVersion + 1 ∧
        s' = s.versioned env caller id token
          (token.migrate (token.currentVersion + 1) expiry (tierId.map some) status) label
          false := by
  simp only [upgradeToken, returns_requireAuth_bind,
    returns_bind_of_reads fun _ _ => getUpgradeConfig_returns,
    returns_bind_of_checks fun _ _ => requireUpgradesEnabled_returns,
    returns_bind_of_reads fun _ _ => getAdmin_returns, returns_failIf_bind,
    returns_bind_of_reads fun _ _ => loadUpgradable_returns,
    returns_bind_of_reads fun _ _ => nextVersion_returns, not_and, not_not]
  simp only [returns_bind, storeVersion_returns, returns_pure]
  constructor
  · rintro ⟨hauth, config, hc, hen, admin, ha, hon, token, ht, hown, _, ⟨hv, rfl⟩, _, _, rfl, rfl,
      rfl⟩
    exact ⟨config, admin, token,
      ⟨hauth, ⟨hc, hen⟩, ⟨ha, hon⟩, ht, or_iff_not_imp_left.2 hown, hv⟩, rfl, rfl⟩
  · rintro ⟨config, admin, token, ⟨hauth, ⟨hc, hen⟩, ⟨ha, hon⟩, ht, hown, hv⟩, rfl, rfl⟩
    exact ⟨hauth, config, hc, hen, admin, ha, hon, token, ht, or_iff_not_imp_left.1 hown, _,
      ⟨hv, rfl⟩, (), _, rfl, rfl, rfl⟩

theorem countRollbacks_returns :
    Returns (countRollbacks id) s n s' ↔
      (n = ((s.upgrades id).filter (·.isRollback)).length ∧ n < 2 ^ 32) ∧ s' = s := by
  simp only [countRollbacks, returns_load_bind, returns_checked]
  constructor
  · rintro ⟨rfl, hn, rfl⟩
    exact ⟨⟨rfl, hn⟩, rfl⟩
  · rintro ⟨⟨rfl, hn⟩, rfl⟩
    exact ⟨rfl, hn, rfl⟩

theorem rollbackTokenUpgrade_returns {target : ℕ} :
    Returns (rollbackTokenUpgrade env admin id target) s n s' ↔ ∃ config token snapshot,
      Rollbackable env s admin id target config token snapshot ∧
        n = token.currentVersion + 1 ∧
        s' = s.versioned env admin id token
          (token.applySnapshot snapshot (token.currentVersion + 1)) (some "rollback") true := by
  have hlimit (config : UpgradeConfig) (u : Unit) (t : State) :
      Returns (countRollbacks id >>= fun rollbackCount =>
        failIf (rollbackCount ≥ config.maxRollbacks) UpgradeError.rollbackLimitExceeded.toError)
        s u t ↔
      ((s.upgrades id).filter (·.isRollback)).length < min (2 ^ 32) config.maxRollbacks ∧
        t = s := by
    rw [returns_bind_of_reads fun _ _ => countRollbacks_returns, lt_min_iff]
    constructor
    · rintro ⟨_, ⟨rfl, hn⟩, hr⟩
      exact ⟨⟨hn, not_le.1 (returns_failIf.1 hr).1⟩, (returns_failIf.1 hr).2⟩
    · rintro ⟨⟨hn, hm⟩, rfl⟩
      exact ⟨_, ⟨rfl, hn⟩, returns_failIf.2 ⟨not_le.2 hm, rfl⟩⟩
  simp only [rollbackTokenUpgrade, returns_bind_of_checks fun _ _ => requireAuthThenAdmin_returns,
    returns_bind_of_reads fun _ _ => getUpgradeConfig_returns,
    returns_runIf_bind_of_checks fun _ _ => hlimit _ _ _,
    returns_bind_of_reads fun _ _ => loadUpgradable_returns, returns_load_bind, returns_okOr_bind,
    returns_bind_of_reads fun _ _ => nextVersion_returns]
  simp only [returns_bind, storeVersion_returns, returns_pure]
  constructor
  · rintro ⟨hauth, config, hc, hl, token, ht, snapshot, hs, _, ⟨hv, rfl⟩, _, _, rfl, rfl, rfl⟩
    exact ⟨config, token, snapshot, ⟨hauth, hc, hl, ht, hs, hv⟩, rfl, rfl⟩
  · rintro ⟨config, token, snapshot, ⟨hauth, hc, hl, ht, hs, hv⟩, rfl, rfl⟩
    exact ⟨hauth, config, hc, hl, token, ht, snapshot, hs, _, ⟨hv, rfl⟩, (), _, rfl, rfl, rfl⟩

end

/-! ## Batches -/

/-- The state after the token's item of a batch: an item that fails writes nothing. -/
def State.upgraded (s : State) (env : HubEnv me) (admin : Address) (label : Option String)
    (expiry : Option ℕ) (id : TokenId) : State :=
  ((s.get (.token id)).filter (·.upgradable)).elim s fun token =>
    s.versioned env admin id token (token.migrate (token.currentVersion + 1) expiry none none)
      label false

/-- The admin can upgrade tokens in a batch. -/
structure Batchable (env : HubEnv me) (s : State) (admin : Address) (config : UpgradeConfig) :
    Prop where
  authorised : admin ∈ env.auths ∧ s.get .admin = some admin
  configured : s.get .upgradeConfig = some config ∧ config.upgradesEnabled = true

section
variable {env : HubEnv me} {s s' : State} {admin : Address} {id : TokenId} {label : Option String}
  {expiry : Option ℕ} {results : List BatchUpgradeResult} {ids : List TokenId} {n : ℕ}
  {token : MembershipToken}

theorem upgradeSingleForBatch_returns :
    Returns (upgradeSingleForBatch env admin id label expiry) s n s' ↔ ∃ token,
      (s.get (.token id) = some token ∧ token.upgradable = true) ∧
        n = token.currentVersion + 1 ∧
        s' = s.versioned env admin id token
          (token.migrate (token.currentVersion + 1) expiry none none) label false := by
  simp only [upgradeSingleForBatch, returns_bind_of_reads fun _ _ => loadUpgradable_returns,
    returns_bind_of_reads fun _ _ => nextVersion_returns]
  simp only [returns_bind, storeVersion_returns, returns_pure]
  constructor
  · rintro ⟨token, ht, _, ⟨hv, rfl⟩, _, _, rfl, rfl, rfl⟩
    exact ⟨token, ⟨ht, hv⟩, rfl, rfl⟩
  · rintro ⟨token, ⟨ht, hv⟩, rfl, rfl⟩
    exact ⟨token, ht, _, ⟨hv, rfl⟩, (), _, rfl, rfl, rfl⟩

/-- An item stops before it writes. -/
theorem eq_of_upgradeSingleForBatch_stops {e : Stop Error}
    (h : Stops (upgradeSingleForBatch env admin id label expiry) s e s') : s' = s := by
  rcases stops_bind.1 h with hs | ⟨token, s₁, h₁, hr⟩
  · exact Only.eq_of_stops hs
  · obtain rfl := Only.eq_of_returns h₁
    rcases stops_bind.1 hr with hs | ⟨toVersion, s₂, -, hr₂⟩
    · exact Only.eq_of_stops hs
    · exact absurd hr₂ Total.not_stops

/-- An item without a next version of its token stops with an error. -/
theorem upgradeSingleForBatch_stops (h : (s.get (.token id)).filter (·.upgradable) = none) :
    ∃ e, Stops (upgradeSingleForBatch env admin id label expiry) s (.err e) s := by
  unfold upgradeSingleForBatch loadUpgradable nextVersion
  cases ht : s.get (.token id) with
  | none =>
    exact ⟨_, stops_bind.2 (Or.inl (stops_bind.2 (Or.inr
      ⟨_, s, returns_load.2 ⟨rfl, rfl⟩, stops_okOr.2 ⟨ht, rfl, rfl⟩⟩)))⟩
  | some token =>
    have hv : ¬ token.currentVersion + 1 < 2 ^ 32 := by
      rw [ht] at h
      simpa [MembershipToken.upgradable] using h
    refine ⟨UpgradeError.overflow.toError, stops_bind.2 (Or.inr
      ⟨token, s, loadUpgradable_returns.2 ⟨ht, rfl⟩, stops_bind.2 (Or.inl ?_)⟩)⟩
    rw [if_neg hv, stops_throw]
    exact ⟨rfl, rfl⟩

/-- An item writes the next version of its token, if there is one. -/
theorem upgradeItem_returns :
    (∃ results', Returns (upgradeItem env admin label expiry results id) s results' s') ↔
      s' = s.upgraded env admin label expiry id := by
  simp only [upgradeItem, returns_bind, returns_unwrapOr, returns_map, returns_pure, stops_map,
    State.upgraded]
  cases h : (s.get (.token id)).filter (·.upgradable) with
  | none =>
    rw [Option.elim_none]
    constructor
    · rintro ⟨_, newVersion, s₁, ⟨n, hr, -⟩ | ⟨-, e, hs⟩, -, rfl⟩
      · obtain ⟨token, ht, -⟩ := upgradeSingleForBatch_returns.1 hr
        rw [Option.filter_eq_some_iff.2 ht] at h
        cases h
      · exact eq_of_upgradeSingleForBatch_stops hs
    · rintro rfl
      exact ⟨_, none, _, Or.inr ⟨rfl, upgradeSingleForBatch_stops h⟩, rfl, rfl⟩
  | some token =>
    rw [Option.elim_some]
    have hr : Returns (upgradeSingleForBatch env admin id label expiry) s _ _ :=
      upgradeSingleForBatch_returns.2 ⟨token, Option.filter_eq_some_iff.1 h, rfl, rfl⟩
    constructor
    · rintro ⟨_, newVersion, s₁, ⟨n, hr', -⟩ | ⟨-, e, hs⟩, -, rfl⟩
      · exact (hr'.unique hr).2
      · exact absurd hs hr.not_stops
    · rintro rfl
      exact ⟨_, _, _, Or.inl ⟨_, hr, rfl⟩, rfl, rfl⟩

/-- What every item of a batch keeps, the batch does. -/
theorem foldl_upgraded_keeps {P : State → Prop}
    (hP : ∀ s id, P s → P (s.upgraded env admin label expiry id)) (ids : List TokenId) (h : P s) :
    P (ids.foldl (fun s => s.upgraded env admin label expiry) s) :=
  List.foldlRecOn ids _ h fun s hs id _ => hP s id hs

/-- A batch upgrades one token after the other. -/
theorem foldlM_upgradeItem_returns :
    (∃ results', Returns (ids.foldlM (upgradeItem env admin label expiry) results) s results' s') ↔
      s' = ids.foldl (fun s => s.upgraded env admin label expiry) s := by
  induction ids generalizing s results with
  | nil => simp
  | cons id ids ih =>
    simp only [List.foldlM_cons, List.foldl_cons, returns_bind]
    constructor
    · rintro ⟨results', results₁, s₁, h₁, h₂⟩
      obtain rfl := upgradeItem_returns.1 ⟨results₁, h₁⟩
      exact ih.1 ⟨results', h₂⟩
    · intro h
      have h₁ : ∃ results₁, Returns (upgradeItem env admin label expiry results id) s results₁ _ :=
        upgradeItem_returns.2 rfl
      obtain ⟨results₁, h₁⟩ := h₁
      obtain ⟨results', h₂⟩ := ih.2 h
      exact ⟨results', results₁, _, h₁, h₂⟩

theorem batchUpgradeTokens_returns :
    (∃ results, Returns (batchUpgradeTokens env admin ids label expiry) s results s') ↔
      (∃ config, Batchable env s admin config) ∧
        s' = ids.foldl (fun s => s.upgraded env admin label expiry) s := by
  simp only [batchUpgradeTokens, returns_bind_of_checks fun _ _ => requireAuthThenAdmin_returns,
    returns_bind_of_reads fun _ _ => getUpgradeConfig_returns,
    returns_bind_of_checks fun _ _ => requireUpgradesEnabled_returns]
  constructor
  · rintro ⟨results, hauth, config, hc, hen, h⟩
    exact ⟨⟨config, hauth, hc, hen⟩, foldlM_upgradeItem_returns.1 ⟨results, h⟩⟩
  · rintro ⟨⟨config, hauth, hc, hen⟩, h⟩
    exact (foldlM_upgradeItem_returns.2 h).imp fun results h => ⟨hauth, config, hc, hen, h⟩

end

end ManageHub
