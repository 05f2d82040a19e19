/-
  What becomes of a token in any call but the upgrades and rollbacks.

  Such a call takes a token through a path of changes, each of which issues it, gives it to another
  user, renews it or puts it in a grace period.  No change touches the version.
-/
import NovaLabs.ManageHub.TokenCalls
import Mathlib.Logic.Relation

namespace ManageHub

open Lib Soroban

variable {me : Address}

/-! ## Changes -/

/-- One change of a token, that may not exist before. -/
inductive TokenChange : Option MembershipToken → Option MembershipToken → Prop
  | issued (now id user expiryDate) : TokenChange none (some (newToken now id user expiryDate))
  | given (token user) : TokenChange (some token) (some { token with user })
  | renewed (token now tierId cycle) :
    TokenChange (some token) (some (token.renewed now tierId cycle))
  | graced (token now expiresAt) : TokenChange (some token) (some (token.graced now expiresAt))
  | autoRenewed (token expiryDate renewalAttempts lastRenewalAttemptAt) :
    TokenChange (some token)
      (some { token with expiryDate, renewalAttempts, lastRenewalAttemptAt })

/-- Each token goes through some changes. -/
def TokensChange (s s' : State) : Prop :=
  ∀ id, Relation.ReflTransGen TokenChange (s.get (.token id)) (s'.get (.token id))

/-- The relation holds of each write to a token, but of renewals by its user only if they happen. -/
structure Writes (renews : Prop) (R : Option MembershipToken → Option MembershipToken → Prop) :
    Prop where
  issued : ∀ now id user expiryDate, R none (some (newToken now id user expiryDate))
  given : ∀ token user, R (some token) (some { token with user })
  renewed : renews → ∀ token now tierId cycle,
    R (some token) (some (token.renewed now tierId cycle))
  graced : ∀ token now expiresAt, token.status = .active →
    R (some token) (some (token.graced now expiresAt))
  autoRenewed : ∀ token expiryDate renewalAttempts lastRenewalAttemptAt,
    R (some token) (some { token with expiryDate, renewalAttempts, lastRenewalAttemptAt })

/-- Each token goes a path of the relation. -/
def TokensAlong (R : Option MembershipToken → Option MembershipToken → Prop) (s s' : State) :
    Prop :=
  ∀ id, Relation.ReflTransGen R (s.get (.token id)) (s'.get (.token id))

theorem tokenChange_writes {renews : Prop} : Writes renews TokenChange where
  issued := .issued
  given := .given
  renewed _ := .renewed
  graced token now expiresAt _ := .graced token now expiresAt
  autoRenewed := .autoRenewed

section
variable {R : Option MembershipToken → Option MembershipToken → Prop} {s s' s'' : State}
  {id : TokenId} {token : MembershipToken}

theorem TokensChange.rfl : TokensChange s s := fun _ => .refl

theorem TokensAlong.rfl : TokensAlong R s s := fun _ => .refl

theorem TokensAlong.trans (h : TokensAlong R s s') (h' : TokensAlong R s' s'') :
    TokensAlong R s s'' := fun id => (h id).trans (h' id)

theorem tokensAlong_of_eq (h : ∀ id, s'.get (.token id) = s.get (.token id)) :
    TokensAlong R s s' := fun id => by rw [h id]

theorem tokensAlong_put (h : R (s.get (.token id)) (some token)) :
    TokensAlong R s (s.put (.token id) token) := by
  intro id'
  by_cases he : id' = id
  · subst he
    rw [get_put_self]
    exact .single h
  · rw [get_put_ne (by simpa using he)]

theorem tokensAlong_of_returns (ks : List Kind) {x : Fn Unit} [Only ks x] {u : Unit}
    (h : Returns x s u s') (hk : Kind.token ∉ ks) : TokensAlong R s s' :=
  tokensAlong_of_eq fun _ => get_eq_of_returns ks h hk

end

/-! ## Calls -/

section
variable {renews : Prop} {R : Option MembershipToken → Option MembershipToken → Prop}
  {env : HubEnv me} {s s' : State} {u : Unit} {id : TokenId}
  {user owner spender newUser holder : Address} {n : ℤ} {t : ℕ}

theorem Writes.internalIssueToken (hw : Writes renews R)
    (h : Returns (internalIssueToken env id user t) s u s') : TokensAlong R s s' := by
  obtain ⟨⟨hn, -⟩, rfl⟩ := internalIssueToken_returns.1 h
  exact tokensAlong_put (hn ▸ hw.issued env.now id user t)

theorem Writes.internalTransferToken (hw : Writes renews R)
    (h : Returns (internalTransferToken env id newUser) s u s') : TokensAlong R s s' := by
  obtain ⟨token, ⟨hm, -⟩, rfl⟩ := internalTransferToken_returns.1 h
  exact tokensAlong_put (hm.stored ▸ hw.given token newUser)

theorem Writes.transferFrom (hw : Writes renews R)
    (h : Returns (transferFrom env id owner newUser spender n) s u s') : TokensAlong R s s' := by
  obtain ⟨token, allowance, hok, rfl⟩ := transferFrom_returns.1 h
  have ht : (s.spent env id owner spender allowance n).get (.token id) = some token :=
    (spent_get (by simp)).trans hok.movable.stored
  exact (tokensAlong_of_eq fun _ => spent_get (by simp)).trans
    (tokensAlong_put (ht ▸ hw.given token newUser))

theorem Writes.recombineFractions (hw : Writes renews R)
    (h : Returns (recombineFractions env id holder) s u s') : TokensAlong R s s' := by
  obtain ⟨info, shares, token, hok, rfl⟩ := recombineFractions_returns.1 h
  have hp : TokensAlong R s (s.put (.token id) { token with user := holder }) :=
    tokensAlong_put (hok.stored ▸ hw.given token holder)
  refine hp.trans (tokensAlong_of_eq fun _ => ?_)
  rw [get_del_ne (by simp), get_del_ne (by simp), get_del_ne (by simp)]

theorem Writes.renewToken {paymentToken : Address} {tierId : String} {cycle : BillingCycle}
    (hw : Writes renews R) (hr : renews)
    (h : Returns (renewToken env id paymentToken tierId cycle) s u s') : TokensAlong R s s' := by
  obtain ⟨token, tier, hok, h⟩ := renewToken_returns.1 h
  exact (tokensAlong_put (hok.stored ▸ hw.renewed hr token env.now tierId cycle)).trans
    (tokensAlong_of_returns [.renewalHistory] h (by decide))

/-- Only an active token enters a grace period. -/
theorem Writes.checkAndApplyGracePeriod {updated : MembershipToken} (hw : Writes renews R)
    (h : Returns (checkAndApplyGracePeriod env id) s updated s') : TokensAlong R s s' := by
  obtain ⟨token, ht, ⟨hl, -, rfl⟩ | ⟨-, -, rfl⟩⟩ := checkAndApplyGracePeriod_returns.1 h
  · exact tokensAlong_put (ht ▸ hw.graced token _ _ hl.1)
  · exact .rfl

theorem Writes.processAutoRenewal (hw : Writes renews R)
    (h : Returns (processAutoRenewal env id) s u s') : TokensAlong R s s' := by
  obtain ⟨token, settings, tierId, tier, hok, hr⟩ := processAutoRenewal_returns.1 h
  exact (tokensAlong_put (hok.stored ▸ hw.autoRenewed token _ _ _)).trans
    (tokensAlong_of_returns [.renewalHistory] hr (by decide))

/-- A loop whose rounds take the tokens along the relation does so. -/
theorem forM_along {α : Type} {g : α → Fn Unit} {l : List α}
    (hg : ∀ a s s', Returns (g a) s () s' → TokensAlong R s s') (h : Returns (l.forM g) s u s') :
    TokensAlong R s s' :=
  h.forM_keeps (P := (TokensAlong R s ·)) (fun a _ _ hc h => hc.trans (hg a _ _ h)) .rfl

end

/-! ## Steps -/

/-- The calls that put tokens at a new version. -/
def Call.versions : Call → Bool
  | .upgradeToken .. | .batchUpgradeTokens .. | .rollbackTokenUpgrade .. => true
  | _ => false

/-- The calls by which users renew tokens. -/
def Call.renews : Call → Bool
  | .renewToken .. => true
  | _ => false

/-- Any call but the upgrades and rollbacks takes each token along a relation of its writes. -/
theorem Step.tokensAlong {R : Option MembershipToken → Option MembershipToken → Prop}
    {w w' : World} {i : Input me} (h : Step w i w') (hw : Writes (i.call.renews = true) R)
    (hv : i.call.versions = false) : TokensAlong R w.state w'.state := by
  have hof {x : Fn Unit} (he : entryPoint i.env i.call = liftM x)
      (hx : ∀ s', Returns x w.state () s' → TokensAlong R w.state s') :
      TokensAlong R w.state w'.state :=
    h.of_returns he (P := (TokensAlong R w.state ·)) .rfl hx
  cases hc : i.call with
  | issueToken id user t =>
    refine hof (by rw [hc]; rfl) fun s' hr => ?_
    simp only [issueToken, returns_reads_bind] at hr
    obtain ⟨_, -, _, -, hr⟩ := hr
    exact hw.internalIssueToken hr
  | batchMint params =>
    refine hof (by rw [hc]; rfl) fun s' hr => ?_
    simp only [batchMint, batchIssueTokens, returns_reads_bind] at hr
    obtain ⟨_, -, _, -, _, -, hr⟩ := hr
    exact forM_along (fun _ _ _ => hw.internalIssueToken) hr
  | transferToken id newUser =>
    refine hof (by rw [hc]; rfl) fun s' hr => ?_
    obtain ⟨_, -, hr⟩ := returns_reads_bind.1 hr
    exact hw.internalTransferToken hr
  | batchTransfer params =>
    refine hof (by rw [hc]; rfl) fun s' hr => ?_
    simp only [batchTransfer, batchTransferTokens, returns_reads_bind] at hr
    obtain ⟨_, -, _, -, hr⟩ := hr
    exact forM_along (fun _ _ _ => hw.internalTransferToken) hr
  | transferTokenWithRoyalty id newUser salePrice =>
    refine hof (by rw [hc]; rfl) fun s' hr => ?_
    obtain ⟨_, s₁, h₁, h₂⟩ := returns_bind.1 hr
    obtain ⟨_, -, h₁⟩ := returns_reads_bind.1 h₁
    rw [Only.eq_of_returns h₂]
    exact hw.internalTransferToken h₁
  | transferFrom id owner toUser spender amount =>
    exact hof (by rw [hc]; rfl) fun s' hr => hw.transferFrom hr
  | recombineFractions id holder =>
    exact hof (by rw [hc]; rfl) fun s' hr => hw.recombineFractions hr
  | renewToken id paymentToken tierId cycle =>
    exact hof (by rw [hc]; rfl) fun s' hr => hw.renewToken (by rw [hc]; rfl) hr
  | processAutoRenewal id =>
    exact hof (by rw [hc]; rfl) fun s' hr => hw.processAutoRenewal hr
  | checkAndApplyGracePeriod id =>
    exact hof (by rw [hc]; rfl) fun s' hr =>
      (returns_ignore.1 hr).elim fun _ hr => hw.checkAndApplyGracePeriod hr
  | upgradeToken | batchUpgradeTokens | rollbackTokenUpgrade => rw [hc] at hv; cases hv
  | _ => exact tokensAlong_of_eq fun _ => h.frame (by rw [hc]; simp)

/-- **Any call but the upgrades and rollbacks takes each token through some changes.** -/
theorem Step.tokensChange {w w' : World} {i : Input me} (h : Step w i w')
    (hv : i.call.versions = false) : TokensChange w.state w'.state :=
  h.tokensAlong tokenChange_writes hv

end ManageHub
