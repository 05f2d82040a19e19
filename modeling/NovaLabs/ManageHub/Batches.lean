/-
  The batches of tokens against the single calls: mints and transfers all or nothing, upgrades as
  far as they go.
-/
import NovaLabs.Soroban.Sequence
import NovaLabs.ManageHub.TimeLock
import NovaLabs.ManageHub.TransferCalls
import NovaLabs.ManageHub.UpgradeCalls

namespace ManageHub

open Lib Soroban

variable {me : Address}

/-! ## Mints and transfers -/

/-- The contract is not paused, and its admin has authorised the call. -/
structure MayIssue (env : HubEnv me) (s : State) : Prop where
  unpaused : isContractPaused s env.now = false
  authorised : ∃ admin, s.get .admin = some admin ∧ admin ∈ env.auths

section
variable {env : HubEnv me} {s s' : State} {u : Unit}

theorem returns_mayIssue_bind {f : Unit → Fn Unit} :
    Returns (requireNotPaused env >>= fun _ => ignore (authAdmin env) >>= f) s u s' ↔
      MayIssue env s ∧ Returns (f ()) s u s' := by
  have hauth (v : Unit) (t : State) : Returns (ignore (authAdmin env)) s v t ↔
      (∃ admin, s.get .admin = some admin ∧ admin ∈ env.auths) ∧ t = s := by
    simp only [returns_ignore, authAdmin_returns, exists_and_right]
  rw [returns_bind_of_checks fun _ _ => requireNotPaused_returns, returns_bind_of_checks hauth,
    ← and_assoc]
  refine and_congr_left fun _ => ⟨?_, ?_⟩
  · rintro ⟨hp, ha⟩
    exact ⟨hp, ha⟩
  · rintro ⟨hp, ha⟩
    exact ⟨hp, ha⟩

theorem validateBatchSize_bind {n : ℕ} {f : Unit → Fn Unit} (hn : 0 < n) (hle : n ≤ 50) :
    Returns (validateBatchSize n >>= f) s u s' ↔ Returns (f ()) s u s' := by
  rw [validateBatchSize, returns_failIf_bind, and_iff_right (by omega)]

/-- Calls that write tokens only do not pause the contract. -/
theorem unpaused_of_returns {x : Fn Unit} [Only [Kind.token] x] (h : Returns x s u s')
    (hp : isContractPaused s env.now = false) : isContractPaused s' env.now = false :=
  (isContractPaused_congr (get_eq_of_returns [.token] h (by simp))).trans hp

theorem batchMint_allOrNothing {params : List BatchMintParams} (hn : 0 < params.length)
    (hle : params.length ≤ 50) :
    AllOrNothing (batchMint env params) (fun p => issueToken env p.id p.user p.expiryDate) params
      s := by
  refine allOrNothing_of_guard (P := MayIssue env)
    (f := fun p : BatchMintParams => internalIssueToken env p.id p.user p.expiryDate)
    (fun s' => ?_) (fun p s u s' => ?_) (fun p s s' hP hr => ⟨unpaused_of_returns hr hP.unpaused, ?_⟩)
    (List.ne_nil_of_length_pos hn)
  · rw [batchMint, validateBatchSize_bind hn hle, batchIssueTokens]
    exact returns_mayIssue_bind
  · exact returns_mayIssue_bind
  · obtain ⟨admin, ha, hauth⟩ := hP.authorised
    have hk : s'.get .admin = s.get .admin := get_eq_of_returns [.token] hr (by simp)
    exact ⟨admin, hk.trans ha, hauth⟩

theorem batchTransfer_allOrNothing {params : List BatchTransferParams} (hn : 0 < params.length)
    (hle : params.length ≤ 50) :
    AllOrNothing (batchTransfer env params) (fun p => transferToken env p.id p.newUser) params s := by
  refine allOrNothing_of_guard (P := fun s => isContractPaused s env.now = false)
    (f := fun p : BatchTransferParams => internalTransferToken env p.id p.newUser)
    (fun s' => ?_) (fun p s u s' => ?_) (fun p s s' hP hr => unpaused_of_returns hr hP)
    (List.ne_nil_of_length_pos hn)
  · rw [batchTransfer, validateBatchSize_bind hn hle, batchTransferTokens,
      returns_bind_of_checks fun _ _ => requireNotPaused_returns]
  · exact returns_bind_of_checks fun _ _ => requireNotPaused_returns

end

/-! ## Upgrades -/

/-- The results of a batch, from the versions that the items get. -/
def upgradeResults (ids : List TokenId) (versions : List (Option ℕ)) : List BatchUpgradeResult :=
  ids.zipWith (fun tokenId newVersion => { tokenId, success := newVersion.isSome, newVersion })
    versions

section
variable {env : HubEnv me} {s s' : State} {admin : Address} {config : UpgradeConfig} {id : TokenId}
  {ids : List TokenId} {label : Option String} {expiry : Option ℕ} {n : ℕ}

/-- The admin's upgrade of one token is an item of a batch, where batches are possible. -/
theorem upgradeToken_iff (ha : s.get .admin = some admin) :
    Returns (upgradeToken env admin id label expiry none none) s n s' ↔
      (∃ config, Batchable env s admin config) ∧
        Returns (upgradeSingleForBatch env admin id label expiry) s n s' := by
  rw [upgradeToken_returns, upgradeSingleForBatch_returns]
  constructor
  · rintro ⟨config, admin', token, hup, rfl, rfl⟩
    exact ⟨⟨config, ⟨hup.authorised, ha⟩, hup.configured⟩, token, ⟨hup.stored, hup.version⟩, rfl, rfl⟩
  · rintro ⟨⟨config, hauth, hc⟩, token, ⟨ht, hv⟩, rfl, rfl⟩
    exact ⟨config, admin, token, ⟨hauth.1, hc, ⟨ha, fun _ => rfl⟩, ht, Or.inl rfl, hv⟩, rfl, rfl⟩

/-- An item reports the version that it gives, if it gives one. -/
theorem upgradeItem_iff {b b' : List BatchUpgradeResult} :
    Returns (upgradeItem env admin label expiry b id) s b' s' ↔
      b' = b ++ [⟨id, (outcome (upgradeSingleForBatch env admin id label expiry) s).isSome,
        outcome (upgradeSingleForBatch env admin id label expiry) s⟩] ∧
      s' = commit (upgradeSingleForBatch env admin id label expiry) s := by
  have hitem (v : Option ℕ) (t : State) :
      Returns (unwrapOr (some <$> upgradeSingleForBatch env admin id label expiry) none) s v t ↔
        v = outcome (upgradeSingleForBatch env admin id label expiry) s ∧
          t = commit (upgradeSingleForBatch env admin id label expiry) s := by
    simp only [returns_unwrapOr, returns_map, stops_map]
    cases h : (s.get (.token id)).filter (·.upgradable) with
    | none =>
      obtain ⟨e, hs⟩ : ∃ e, Stops (upgradeSingleForBatch env admin id label expiry) s (.err e) s :=
        upgradeSingleForBatch_stops h
      have hn (n : ℕ) (s' : State) :
          ¬ Returns (upgradeSingleForBatch env admin id label expiry) s n s' := fun hr =>
        hr.not_stops hs
      rw [outcome_eq_none.2 hn, commit_eq_self hn]
      constructor
      · rintro (⟨n, hr, -⟩ | ⟨rfl, e', hs'⟩)
        · exact absurd hr (hn n t)
        · exact ⟨rfl, eq_of_upgradeSingleForBatch_stops hs'⟩
      · rintro ⟨rfl, rfl⟩
        exact Or.inr ⟨rfl, e, hs⟩
    | some token =>
      have hr : Returns (upgradeSingleForBatch env admin id label expiry) s _ _ :=
        upgradeSingleForBatch_returns.2 ⟨token, Option.filter_eq_some_iff.1 h, rfl, rfl⟩
      rw [hr.outcome_eq, hr.commit_eq]
      constructor
      · rintro (⟨n, hr', rfl⟩ | ⟨-, e, hs⟩)
        · obtain ⟨rfl, rfl⟩ := hr'.unique hr
          exact ⟨rfl, rfl⟩
        · exact absurd hs hr.not_stops
      · rintro ⟨rfl, rfl⟩
        exact Or.inl ⟨_, hr, rfl⟩
  simp only [upgradeItem, returns_bind, hitem, returns_pure]
  constructor
  · rintro ⟨_, _, ⟨rfl, rfl⟩, rfl, rfl⟩
    exact ⟨rfl, rfl⟩
  · rintro ⟨rfl, rfl⟩
    exact ⟨_, _, ⟨rfl, rfl⟩, rfl, rfl⟩

theorem Batchable.commit (h : Batchable env s admin config)
    (hr : Returns (upgradeToken env admin id label expiry none none) s n s') :
    Batchable env s' admin config := by
  have hk (k : DataKey) (hk : k.kind ∉ [Kind.token, .versionSnapshot, .upgradeHistory]) :
      s'.get k = s.get k := get_eq_of_returns _ hr hk
  exact ⟨⟨h.authorised.1, (hk .admin (by decide)).trans h.authorised.2⟩,
    (hk .upgradeConfig (by decide)).trans h.configured.1, h.configured.2⟩

/-- A batch goes through the items where the admin can upgrade tokens in a batch. -/
theorem batchUpgradeTokens_iff {results : List BatchUpgradeResult} :
    Returns (batchUpgradeTokens env admin ids label expiry) s results s' ↔
      (∃ config, Batchable env s admin config) ∧
        Returns (ids.foldlM (upgradeItem env admin label expiry) []) s results s' := by
  simp only [batchUpgradeTokens, returns_bind_of_checks fun _ _ => requireAuthThenAdmin_returns,
    returns_bind_of_reads fun _ _ => getUpgradeConfig_returns,
    returns_bind_of_checks fun _ _ => requireUpgradesEnabled_returns]
  constructor
  · rintro ⟨hauth, config, hc, hen, h⟩
    exact ⟨⟨config, hauth, hc, hen⟩, h⟩
  · rintro ⟨⟨config, hauth, hc, hen⟩, h⟩
    exact ⟨hauth, config, hc, hen, h⟩

theorem batchUpgradeTokens_bestEffort (ha : s.get .admin = some admin) :
    BestEffort (batchUpgradeTokens env admin ids label expiry)
      (fun id => upgradeToken env admin id label expiry none none) (upgradeResults ids) ids s := by
  by_cases hb : ∃ config, Batchable env s admin config
  · obtain ⟨config, hb⟩ := hb
    have hloop (results : List BatchUpgradeResult) (s' : State) :
        Returns (batchUpgradeTokens env admin ids label expiry) s results s' ↔
          results = upgradeResults ids (callEach
            (fun id => upgradeToken env admin id label expiry none none) ids s).1 ∧
          s' = (callEach (fun id => upgradeToken env admin id label expiry none none) ids s).2 := by
      rw [batchUpgradeTokens_iff, and_iff_right ⟨config, hb⟩]
      refine returns_foldlM_iff (P := (Batchable env · admin config)) hb
        (fun id s n s' hP hr => hP.commit hr) fun b id s b' s' hP => ?_
      obtain ⟨ho, hc⟩ := call_congr (x := upgradeToken env admin id label expiry none none)
        (y := upgradeSingleForBatch env admin id label expiry) (s := s) fun n s' => by
          rw [upgradeToken_iff hP.authorised.2, and_iff_right ⟨config, hP⟩]
      rw [upgradeItem_iff, ho, hc]
    have hr := (hloop _ _).2 ⟨rfl, rfl⟩
    refine ⟨hr.commit_eq, fun results ho => ?_, fun ho => ?_⟩
    · rw [hr.outcome_eq] at ho
      exact (Option.some.inj ho).symm
    · rw [hr.outcome_eq] at ho
      cases ho
  · have hn : outcome (batchUpgradeTokens env admin ids label expiry) s = none :=
      outcome_eq_none.2 fun _ _ hr => hb (batchUpgradeTokens_iff.1 hr).1
    have heach : callEach (fun id => upgradeToken env admin id label expiry none none) ids s =
        (ids.map fun _ => none, s) :=
      callEach_of_fails fun _ _ _ hr => hb ((upgradeToken_iff ha).1 hr).1
    refine ⟨?_, fun results ho => ?_, fun _ => ?_⟩
    · rw [commit_of_outcome_eq_none hn, heach]
    · rw [hn] at ho
      cases ho
    · rw [heach]
      rintro _ ho
      obtain ⟨_, -, rfl⟩ := List.mem_map.1 ho
      rfl

end

/-! ## All batches -/

/-- **A batch of 1 to 50 mints or transfers goes through exactly if the single calls all do, one
    after the other, with their effect; a batch of upgrades has the effect of the admin's single
    upgrades, and reports the versions that they give.** -/
theorem batches_refine (env : HubEnv me) (s : State) :
    (∀ params : List BatchMintParams, 0 < params.length → params.length ≤ 50 →
      AllOrNothing (batchMint env params) (fun p => issueToken env p.id p.user p.expiryDate) params
        s) ∧
    (∀ params : List BatchTransferParams, 0 < params.length → params.length ≤ 50 →
      AllOrNothing (batchTransfer env params) (fun p => transferToken env p.id p.newUser) params
        s) ∧
    ∀ admin ids label expiry, s.get .admin = some admin →
      BestEffort (batchUpgradeTokens env admin ids label expiry)
        (fun id => upgradeToken env admin id label expiry none none) (upgradeResults ids) ids s :=
  ⟨fun _ => batchMint_allOrNothing, fun _ => batchTransfer_allOrNothing,
    fun _ _ _ _ => batchUpgradeTokens_bestEffort⟩

/-- After `issueCalls`, two tokens of which one exists are minted, the token is transferred twice,
    and is upgraded in a batch with a token that does not exist. -/
theorem batches_refine_issued :
    AllOrNothing (batchMint (hubEnv 3) [⟨2, ⟨3⟩, 100⟩, ⟨1, ⟨3⟩, 100⟩])
      (fun p : BatchMintParams => issueToken (hubEnv 3) p.id p.user p.expiryDate)
      [⟨2, ⟨3⟩, 100⟩, ⟨1, ⟨3⟩, 100⟩] (issueCalls.foldl next start).state ∧
    AllOrNothing (batchTransfer (hubEnv 3) [⟨1, ⟨3⟩⟩, ⟨1, ⟨4⟩⟩])
      (fun p : BatchTransferParams => transferToken (hubEnv 3) p.id p.newUser) [⟨1, ⟨3⟩⟩, ⟨1, ⟨4⟩⟩]
      (issueCalls.foldl next start).state ∧
    BestEffort (batchUpgradeTokens (hubEnv 3) ⟨1⟩ [1, 2, 1] none none)
      (fun id => upgradeToken (hubEnv 3) ⟨1⟩ id none none none none) (upgradeResults [1, 2, 1])
      [1, 2, 1] (issueCalls.foldl next start).state :=
  have h := batches_refine (hubEnv 3) (issueCalls.foldl next start).state
  ⟨h.1 _ (by decide) (by decide), h.2.1 _ (by decide) (by decide), h.2.2 _ _ _ _ (by decide)⟩

end ManageHub
