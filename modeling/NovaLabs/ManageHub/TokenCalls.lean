/-
  What the calls do to the tokens: whose they are, and how long they are valid.

  The calls that issue, transfer or renew tokens look up the pauses first, except for the
  recombination of fractions and the automatic renewal.
-/
import NovaLabs.ManageHub.FractionCalls
import NovaLabs.ManageHub.RenewalCalls
import NovaLabs.ManageHub.TransferCalls
import NovaLabs.ManageHub.UpgradeCalls

namespace ManageHub

open Lib Soroban

variable {me : Address}

/-! ## Users and pauses -/

def State.userOf (s : State) (id : TokenId) : Option Address := (s.get (.token id)).map (·.user)

/-- The users of all tokens are the same. -/
def SameUsers (s s' : State) : Prop := ∀ id, s'.userOf id = s.userOf id

/-- A pause stops the operations on the token: that of the contract, or its own. -/
def OpsPaused (env : HubEnv me) (s : State) (id : TokenId) : Prop :=
  isContractPaused s env.now = true ∨
    (isTokenPaused s id = true ∧ (s.get (.token id)).isSome)

section
variable {s s' s'' : State} {id : TokenId} {token token' : MembershipToken}

theorem SameUsers.rfl : SameUsers s s := fun _ => Eq.refl _

theorem SameUsers.trans (h : SameUsers s s') (h' : SameUsers s' s'') : SameUsers s s'' :=
  fun id => (h' id).trans (h id)

theorem userOf_some (h : s.get (.token id) = some token) : s.userOf id = some token.user := by
  rw [State.userOf, h, Option.map_some]

theorem userOf_congr (h : s'.get (.token id) = s.get (.token id)) : s'.userOf id = s.userOf id := by
  rw [State.userOf, h, State.userOf]

theorem sameUsers_of_returns (ks : List Kind) {x : Fn Unit} [Only ks x] {u : Unit}
    (h : Returns x s u s') (hk : Kind.token ∉ ks) : SameUsers s s' :=
  fun _ => userOf_congr (get_eq_of_returns ks h hk)

/-- A token gives way to one of the same user. -/
theorem sameUsers_put (h : s.get (.token id) = some token) (hu : token'.user = token.user) :
    SameUsers s (s.put (.token id) token') := fun id' => by
  by_cases he : id' = id
  · subst he
    rw [userOf_some h, userOf_some get_put_self, hu]
  · exact userOf_congr (get_put_ne (by simpa using he))

theorem isTokenPaused_congr (h : s'.get (.tokenPaused id) = s.get (.tokenPaused id)) :
    isTokenPaused s' id = isTokenPaused s id := by
  unfold isTokenPaused
  rw [h]

end

/-! ## Calls that look up the pauses -/

section
variable {env : HubEnv me} {s s' : State} {u : Unit} {id tokenId : TokenId}
  {user owner spender newUser : Address} {n : ℤ} {t : ℕ}

/-- The code leaves the token alone while its own pause is in effect. -/
def Spares (id : TokenId) (x : Fn Unit) : Prop :=
  ∀ s u s', Returns x s u s' → isTokenPaused s id = true → (s.get (.token id)).isSome →
    s'.get (.token id) = s.get (.token id)

theorem spares_internalIssueToken : Spares id (internalIssueToken env tokenId user t) := by
  intro s u s' h _ ht
  obtain ⟨⟨hn, -⟩, rfl⟩ := internalIssueToken_returns.1 h
  refine get_put_ne fun he => ?_
  cases he
  rw [hn] at ht
  cases ht

/-- What writes one token that is not paused spares all that are. -/
theorem spares_of_put (tokenId : TokenId) {x : Fn Unit}
    (hx : ∀ s u s', Returns x s u s' → isTokenPaused s tokenId = false ∧
      ∀ id ≠ tokenId, s'.get (.token id) = s.get (.token id)) : Spares id x := by
  intro s u s' h hp _
  obtain ⟨hn, hs⟩ := hx s u s' h
  refine hs id fun he => ?_
  rw [he, hn] at hp
  cases hp

theorem spares_internalTransferToken : Spares id (internalTransferToken env tokenId newUser) :=
  spares_of_put tokenId fun s u s' h => by
    obtain ⟨token, ⟨hm, -⟩, rfl⟩ := internalTransferToken_returns.1 h
    exact ⟨hm.unpaused, fun id hne => get_put_ne (by simpa using hne)⟩

theorem spares_forM {α : Type} {g : α → Fn Unit} [∀ a, Only [Kind.token] (g a)]
    (hg : ∀ a, Spares id (g a)) (l : List α) : Spares id (l.forM g) := by
  intro s u s' h hp ht
  refine (h.forM_keeps (P := fun s' => isTokenPaused s' id = true ∧
    s'.get (.token id) = s.get (.token id)) (fun a s₁ s₂ ⟨hp₁, he₁⟩ h₁ => ?_) ⟨hp, rfl⟩).2
  have hk : s₂.get (.tokenPaused id) = s₁.get (.tokenPaused id) :=
    get_eq_of_returns [.token] h₁ (by simp)
  exact ⟨(isTokenPaused_congr hk).trans hp₁, (hg a s₁ () s₂ h₁ hp₁ (he₁ ▸ ht)).trans he₁⟩

theorem spares_reads_bind {α : Type} {x : Fn α} [Only [] x] {f : α → Fn Unit}
    (hf : ∀ a, Spares id (f a)) : Spares id (x >>= f) := by
  intro s u s' h
  obtain ⟨a, -, hr⟩ := returns_reads_bind.1 h
  exact hf a s u s' hr

/-- Code behind the guard of the contract's pause. -/
theorem eq_of_guarded {x : Unit → Fn Unit} (hx : ∀ u, Spares id (x u)) (hp : OpsPaused env s id)
    (h : Returns (requireNotPaused env >>= x) s u s') :
    s'.get (.token id) = s.get (.token id) := by
  obtain ⟨hn, hr⟩ := (returns_bind_of_checks fun _ _ => requireNotPaused_returns).1 h
  rcases hp with hc | ⟨ht, hs⟩
  · rw [hn] at hc
    cases hc
  · exact hx () s u s' hr ht hs

theorem issueToken_paused (hp : OpsPaused env s id)
    (h : Returns (issueToken env tokenId user t) s u s') :
    s'.get (.token id) = s.get (.token id) :=
  eq_of_guarded (fun _ => spares_reads_bind fun _ => spares_internalIssueToken) hp h

theorem batchMint_paused {params : List BatchMintParams} (hp : OpsPaused env s id)
    (h : Returns (batchMint env params) s u s') : s'.get (.token id) = s.get (.token id) :=
  eq_of_guarded (fun _ => spares_reads_bind fun _ =>
    spares_forM (fun _ => spares_internalIssueToken) params) hp (returns_failIf_bind.1 h).2

theorem transferToken_paused (hp : OpsPaused env s id)
    (h : Returns (transferToken env tokenId newUser) s u s') :
    s'.get (.token id) = s.get (.token id) :=
  eq_of_guarded (fun _ => spares_internalTransferToken) hp h

theorem batchTransfer_paused {params : List BatchTransferParams} (hp : OpsPaused env s id)
    (h : Returns (batchTransfer env params) s u s') : s'.get (.token id) = s.get (.token id) :=
  eq_of_guarded (fun _ => spares_forM (fun _ => spares_internalTransferToken) params) hp
    (returns_failIf_bind.1 h).2

theorem transferTokenWithRoyalty_paused (hp : OpsPaused env s id)
    (h : Returns (transferTokenWithRoyalty env tokenId newUser n) s u s') :
    s'.get (.token id) = s.get (.token id) := by
  obtain ⟨_, s₁, h₁, h₂⟩ := returns_bind.1 h
  rw [Only.eq_of_returns h₂]
  exact transferToken_paused hp h₁

theorem transferFrom_paused (hp : OpsPaused env s id)
    (h : Returns (transferFrom env tokenId owner newUser spender n) s u s') :
    s'.get (.token id) = s.get (.token id) := by
  obtain ⟨token, allowance, hok, rfl⟩ := transferFrom_returns.1 h
  rcases hp with hc | ⟨ht, -⟩
  · rw [hok.unpaused] at hc
    cases hc
  · have hne : id ≠ tokenId := by
      rintro rfl
      rw [hok.movable.unpaused] at ht
      cases ht
    rw [get_put_ne (by simpa using hne), spent_get (by simp)]

theorem renewToken_paused {paymentToken : Address} {tierId : String} {cycle : BillingCycle}
    (hp : OpsPaused env s id)
    (h : Returns (renewToken env tokenId paymentToken tierId cycle) s u s') :
    s'.get (.token id) = s.get (.token id) := by
  obtain ⟨token, tier, hok, hr⟩ := renewToken_returns.1 h
  rcases hp with hc | ⟨ht, -⟩
  · rw [hok.unpaused.1] at hc
    cases hc
  · have hne : id ≠ tokenId := by
      rintro rfl
      rw [hok.unpaused.2] at ht
      cases ht
    rw [get_eq_of_returns [.renewalHistory] hr (by simp)]
    exact get_put_ne (by simpa using hne)

end

/-! ## Calls that do not -/

section
variable {env : HubEnv me} {s s' : State} {u : Unit} {id : TokenId} {holder : Address}

theorem recombineFractions_users {tokenId : TokenId}
    (h : Returns (recombineFractions env tokenId holder) s u s') :
    s'.userOf id = if id = tokenId then some holder else s.userOf id := by
  obtain ⟨info, shares, token, -, rfl⟩ := recombineFractions_returns.1 h
  rw [State.userOf, get_del_ne (by simp), get_del_ne (by simp), get_del_ne (by simp)]
  split_ifs with he
  · subst he
    rw [get_put_self, Option.map_some]
  · rw [get_put_ne (by simpa using he), State.userOf]

end

/-- The token is valid for longer than before. -/
def Extends (s s' : State) (id : TokenId) : Prop :=
  ∃ token token', s.get (.token id) = some token ∧ s'.get (.token id) = some token' ∧
    token.expiryDate < token'.expiryDate

theorem not_extends {s s' : State} {id : TokenId} (h : s'.get (.token id) = s.get (.token id)) :
    ¬ Extends s s' id := by
  rintro ⟨token, token', ht, ht', hlt⟩
  rw [h, ht] at ht'
  cases ht'
  exact absurd hlt (lt_irrefl _)

/-! ## Calls that keep the users -/

section
variable {env : HubEnv me} {s s' : State} {u : Unit} {id tokenId : TokenId} {n : ℕ}
  {admin caller : Address} {label tierId : Option String} {expiry : Option ℕ}

theorem processAutoRenewal_others (h : Returns (processAutoRenewal env tokenId) s u s')
    (hne : id ≠ tokenId) : s'.get (.token id) = s.get (.token id) := by
  obtain ⟨token, settings, tierId, tier, -, hr⟩ := processAutoRenewal_returns.1 h
  rw [get_eq_of_returns [.renewalHistory] hr (by simp)]
  exact get_put_ne (by simpa using hne)

theorem processAutoRenewal_users (h : Returns (processAutoRenewal env id) s u s') :
    SameUsers s s' := by
  obtain ⟨token, settings, tierId, tier, hok, hr⟩ := processAutoRenewal_returns.1 h
  refine (sameUsers_put hok.stored ?_).trans
    (sameUsers_of_returns [.renewalHistory] hr (by decide))
  rfl

theorem processAutoRenewal_extends (h : Returns (processAutoRenewal env id) s u s') :
    Extends s s' id := by
  obtain ⟨token, settings, tierId, tier, hok, hr⟩ := processAutoRenewal_returns.1 h
  have hs := get_eq_of_returns [.renewalHistory] (k := .token id) hr (by simp)
  exact ⟨token, _, hok.stored, hs.trans get_put_self, Nat.lt_add_of_pos_right (by decide)⟩

theorem checkAndApplyGracePeriod_users {token : MembershipToken}
    (h : Returns (checkAndApplyGracePeriod env id) s token s') : SameUsers s s' := by
  obtain ⟨token, ht, ⟨-, -, rfl⟩ | ⟨-, -, rfl⟩⟩ := checkAndApplyGracePeriod_returns.1 h
  · exact sameUsers_put ht rfl
  · exact .rfl

/-- A version of a token that keeps its user. -/
theorem sameUsers_versioned {token updated : MembershipToken} {isRollback : Bool}
    (ht : s.get (.token id) = some token) (hu : updated.user = token.user) :
    SameUsers s (s.versioned env caller id token updated label isRollback) := fun id' => by
  rw [State.userOf, versioned_token]
  split_ifs with he
  · rw [he, State.userOf, ht, Option.map_some, Option.map_some, hu]
  · rw [State.userOf]

theorem upgradeToken_users {status : Option MembershipStatus}
    (h : Returns (upgradeToken env caller id label expiry tierId status) s n s') :
    SameUsers s s' := by
  obtain ⟨config, admin, token, hok, -, rfl⟩ := upgradeToken_returns.1 h
  exact sameUsers_versioned hok.stored rfl

theorem upgraded_users : SameUsers s (s.upgraded env admin label expiry id) := by
  unfold State.upgraded
  cases h : (s.get (.token id)).filter (·.upgradable) with
  | none => exact .rfl
  | some token => exact sameUsers_versioned (Option.filter_eq_some_iff.1 h).1 rfl

theorem foldl_upgraded_users {ids : List TokenId} :
    SameUsers s (ids.foldl (fun s => s.upgraded env admin label expiry) s) :=
  foldl_upgraded_keeps (P := (SameUsers s ·)) (fun _ _ h => h.trans upgraded_users) ids .rfl

theorem batchUpgradeTokens_users {ids : List TokenId} {results : List BatchUpgradeResult}
    (h : Returns (batchUpgradeTokens env admin ids label expiry) s results s') :
    SameUsers s s' := by
  obtain ⟨-, rfl⟩ := batchUpgradeTokens_returns.1 ⟨results, h⟩
  exact foldl_upgraded_users

theorem rollbackTokenUpgrade_users {target : ℕ}
    (h : Returns (rollbackTokenUpgrade env admin id target) s n s') : SameUsers s s' := by
  obtain ⟨config, token, snapshot, hok, -, rfl⟩ := rollbackTokenUpgrade_returns.1 h
  exact sameUsers_versioned hok.stored rfl

theorem renewToken_users {paymentToken : Address} {tierId : String} {cycle : BillingCycle}
    (h : Returns (renewToken env tokenId paymentToken tierId cycle) s u s') : SameUsers s s' := by
  obtain ⟨token, tier, hok, hr⟩ := renewToken_returns.1 h
  refine (sameUsers_put hok.stored ?_).trans (sameUsers_of_returns [.renewalHistory] hr (by decide))
  rfl

end

/-! ## Steps -/

/-- The calls that issue tokens, or give them to other users. -/
def Call.assigns : Call → Bool
  | .issueToken .. | .batchMint .. | .transferToken .. | .batchTransfer ..
  | .transferTokenWithRoyalty .. | .transferFrom .. | .recombineFractions .. => true
  | _ => false

/-- All other calls keep the users of all tokens. -/
theorem Step.sameUsers {w w' : World} {i : Input me} (h : Step w i w')
    (ha : i.call.assigns = false) : SameUsers w.state w'.state := by
  have hof {x : Fn Unit} (he : entryPoint i.env i.call = liftM x)
      (hx : ∀ s', Returns x w.state () s' → SameUsers w.state s') : SameUsers w.state w'.state :=
    h.of_returns he (P := (SameUsers w.state ·)) .rfl hx
  cases hc : i.call with
  | renewToken tokenId paymentToken tierId cycle =>
    exact hof (by rw [hc]; rfl) fun s' hr => renewToken_users hr
  | processAutoRenewal tokenId =>
    exact hof (by rw [hc]; rfl) fun s' hr => processAutoRenewal_users hr
  | checkAndApplyGracePeriod tokenId =>
    exact hof (by rw [hc]; rfl) fun s' hr =>
      (returns_ignore.1 hr).elim fun _ hr => checkAndApplyGracePeriod_users hr
  | upgradeToken caller tokenId label expiry tierId status =>
    exact hof (by rw [hc]; rfl) fun s' hr =>
      (returns_ignore.1 hr).elim fun _ hr => upgradeToken_users hr
  | batchUpgradeTokens admin ids label expiry =>
    exact hof (by rw [hc]; rfl) fun s' hr =>
      (returns_ignore.1 hr).elim fun _ hr => batchUpgradeTokens_users hr
  | rollbackTokenUpgrade admin tokenId target =>
    exact hof (by rw [hc]; rfl) fun s' hr =>
      (returns_ignore.1 hr).elim fun _ hr => rollbackTokenUpgrade_users hr
  | issueToken | batchMint | transferToken | batchTransfer | transferTokenWithRoyalty
  | transferFrom | recombineFractions => rw [hc] at ha; cases ha
  | _ => exact fun _ => userOf_congr (h.frame (by rw [hc]; simp))

end ManageHub
