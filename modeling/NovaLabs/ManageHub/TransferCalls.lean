/-
  What the calls that issue and transfer tokens, and grant allowances for transfers, check and
  write.
-/
import NovaLabs.ManageHub.Interface

namespace ManageHub

open Lib Soroban

variable {me : Address}

/-! ## Issue and transfer -/

/-- A new token of the user. -/
def newToken (now : ℕ) (id : TokenId) (user : Address) (expiryDate : ℕ) : MembershipToken :=
  { id, user, status := .active, issueDate := now, expiryDate, tierId := none
    gracePeriodEnteredAt := none, gracePeriodExpiresAt := none, renewalAttempts := 0
    lastRenewalAttemptAt := none, currentVersion := 0 }

/-- The token is whole, active and not paused. -/
structure Movable (s : State) (id : TokenId) (token : MembershipToken) : Prop where
  unpaused : isTokenPaused s id = false
  whole : s.get (.fractionInfo id) = none
  stored : s.get (.token id) = some token
  active : token.status = .active

section
variable {env : HubEnv me} {s s' : State} {u : Unit} {id : TokenId} {user newUser : Address}
  {t : ℕ} {token : MembershipToken}

theorem internalIssueToken_returns :
    Returns (internalIssueToken env id user t) s u s' ↔
      (s.get (.token id) = none ∧ env.now < t) ∧
        s' = s.put (.token id) (newToken env.now id user t) := by
  simp only [internalIssueToken, returns_load_bind, returns_failIf_bind, returns_store,
    Option.not_isSome_iff_eq_none, not_le, and_assoc, newToken]

theorem requireNotFractionalized_returns :
    Returns (requireNotFractionalized id) s u s' ↔
      s.get (.fractionInfo id) = none ∧ s' = s := by
  simp only [requireNotFractionalized, returns_load_bind, returns_failIf,
    Option.not_isSome_iff_eq_none]

theorem requireTransferable_returns :
    Returns (requireTransferable token) s u s' ↔ token.status = .active ∧ s' = s := by
  simp only [requireTransferable, returns_failIf_bind, returns_failIf, not_not]
  constructor
  · rintro ⟨-, ha, rfl⟩
    exact ⟨ha, rfl⟩
  · rintro ⟨ha, rfl⟩
    exact ⟨by rw [ha]; decide, ha, rfl⟩

theorem internalTransferToken_returns :
    Returns (internalTransferToken env id newUser) s u s' ↔ ∃ token,
      (Movable s id token ∧ token.user ∈ env.auths) ∧
        s' = s.put (.token id) { token with user := newUser } := by
  simp only [internalTransferToken,
    returns_bind_of_checks fun _ _ => requireTokenNotPaused_returns,
    returns_bind_of_checks fun _ _ => requireNotFractionalized_returns,
    returns_bind_of_reads fun _ _ => loadToken_returns,
    returns_bind_of_checks fun _ _ => requireTransferable_returns, returns_requireAuth_bind,
    returns_store]
  constructor
  · rintro ⟨hp, hw, token, ht, ha, hauth, rfl⟩
    exact ⟨token, ⟨⟨hp, hw, ht, ha⟩, hauth⟩, rfl⟩
  · rintro ⟨token, ⟨⟨hp, hw, ht, ha⟩, hauth⟩, rfl⟩
    exact ⟨hp, hw, token, ht, ha, hauth, rfl⟩

end

/-! ## Allowances -/

/-- The user of the token can approve the spender for the amount. -/
structure Approvable (env : HubEnv me) (s : State) (id : TokenId) (spender : Address) (amount : ℤ)
    (expiresAt : Option ℕ) (token : MembershipToken) : Prop where
  unpaused : isContractPaused s env.now = false
  movable : Movable s id token
  authorised : token.user ∈ env.auths
  amount : 0 < amount
  other : token.user ≠ spender
  expiry : ¬ expiresAt.any (· ≤ env.now)

/-- The spender can transfer the owner's token, on an allowance of the amount or more. -/
structure Spendable (env : HubEnv me) (s : State) (id : TokenId) (owner spender : Address)
    (amount : ℤ) (token : MembershipToken) (allowance : TokenAllowance) : Prop where
  unpaused : isContractPaused s env.now = false
  movable : Movable s id token
  authorised : spender ∈ env.auths
  owned : token.user = owner
  positive : 0 < amount
  granted : s.get (.allowance id owner spender) = some allowance
  current : allowance.isExpired env.now = false
  covered : amount ≤ allowance.amount
  fits : (fitI128 (allowance.amount - amount)).isSome

/-- The state after `amount` of an allowance is spent. -/
def State.spent (s : State) (env : HubEnv me) (id : TokenId) (owner spender : Address)
    (allowance : TokenAllowance) (amount : ℤ) : State :=
  if allowance.amount - amount = 0 then s.del (.allowance id owner spender)
  else
    s.put (.allowance id owner spender)
      { allowance with
        amount := allowance.amount - amount
        updatedAt := env.now }

section
variable {env : HubEnv me} {s s' : State} {u : Unit} {id : TokenId}
  {owner spender toUser : Address} {n : ℤ} {expiresAt : Option ℕ}

theorem fitI128_eq_some {n m : ℤ} : fitI128 n = some m ↔ (fitI128 n).isSome ∧ m = n := by
  constructor
  · intro h
    exact ⟨by rw [h, Option.isSome_some], eq_of_fitI128 h⟩
  · rintro ⟨h, rfl⟩
    obtain ⟨k, hk⟩ := Option.isSome_iff_exists.1 h
    rw [hk, eq_of_fitI128 hk]

/-- Spending an allowance writes nothing else. -/
theorem spent_get {allowance : TokenAllowance} {k : DataKey} (h : k ≠ .allowance id owner spender) :
    (s.spent env id owner spender allowance n).get k = s.get k := by
  unfold State.spent
  split_ifs
  · exact get_del_ne h
  · exact get_put_ne h

theorem approve_returns :
    Returns (approve env id spender n expiresAt) s u s' ↔ ∃ token,
      Approvable env s id spender n expiresAt token ∧
        s' = s.put (.allowance id token.user spender)
          { tokenId := id, owner := token.user, spender, amount := n, expiresAt
            updatedAt := env.now } := by
  simp only [approve, approveAllowance, returns_bind_of_checks fun _ _ => requireNotPaused_returns,
    returns_bind_of_checks fun _ _ => requireTokenNotPaused_returns,
    returns_bind_of_checks fun _ _ => requireNotFractionalized_returns,
    returns_bind_of_reads fun _ _ => loadToken_returns,
    returns_bind_of_checks fun _ _ => requireTransferable_returns, returns_requireAuth_bind,
    returns_failIf_bind, returns_store, not_le]
  constructor
  · rintro ⟨hc, hp, hw, token, ht, ha, hauth, hn, ho, he, rfl⟩
    exact ⟨token, ⟨hc, ⟨hp, hw, ht, ha⟩, hauth, hn, ho, he⟩, rfl⟩
  · rintro ⟨token, ⟨hc, ⟨hp, hw, ht, ha⟩, hauth, hn, ho, he⟩, rfl⟩
    exact ⟨hc, hp, hw, token, ht, ha, hauth, hn, ho, he, rfl⟩

theorem consumeAllowance_returns :
    Returns (consumeAllowance env id owner spender n) s u s' ↔ 0 < n ∧ ∃ allowance,
      s.get (.allowance id owner spender) = some allowance ∧
        allowance.isExpired env.now = false ∧ n ≤ allowance.amount ∧
          (fitI128 (allowance.amount - n)).isSome ∧
            s' = s.spent env id owner spender allowance n := by
  have hexp (p : Bool) (u : Unit) (t : State) :
      Returns (runIf p (remove (.allowance id owner spender) >>= fun _ =>
        throw (.err Error.unauthorized))) s u t ↔ p = false ∧ t = s := by
    rw [returns_runIf, returns_bind]
    simp
  simp only [consumeAllowance, returns_failIf_bind, returns_load_bind, returns_okOr_bind,
    returns_bind_of_checks fun _ _ => hexp _ _ _, not_le, not_lt, fitI128_eq_some, returns_ite,
    returns_remove, returns_store, State.spent]
  refine and_congr_right fun _ => exists_congr fun allowance => and_congr_right fun _ =>
    and_congr_right fun _ => and_congr_right fun _ => ?_
  constructor
  · rintro ⟨_, ⟨hf, rfl⟩, ⟨hz, rfl⟩ | ⟨hz, rfl⟩⟩
    · exact ⟨hf, by rw [if_pos hz]⟩
    · exact ⟨hf, by rw [if_neg hz]⟩
  · rintro ⟨hf, rfl⟩
    refine ⟨_, ⟨hf, rfl⟩, ?_⟩
    split_ifs with hz
    · exact Or.inl ⟨hz, rfl⟩
    · exact Or.inr ⟨hz, rfl⟩

theorem transferFrom_returns :
    Returns (transferFrom env id owner toUser spender n) s u s' ↔ ∃ token allowance,
      Spendable env s id owner spender n token allowance ∧
        s' = (s.spent env id owner spender allowance n).put (.token id)
          { token with user := toUser } := by
  simp only [transferFrom, returns_bind_of_checks fun _ _ => requireNotPaused_returns,
    returns_bind_of_checks fun _ _ => requireTokenNotPaused_returns,
    returns_bind_of_checks fun _ _ => requireNotFractionalized_returns,
    returns_failIf_bind, returns_requireAuth_bind,
    returns_bind_of_reads fun _ _ => loadToken_returns,
    returns_bind_of_checks fun _ _ => requireTransferable_returns, not_le, not_not]
  simp only [returns_bind, consumeAllowance_returns, returns_store]
  constructor
  · rintro ⟨hc, hp, hw, hn, hauth, token, ht, ho, ha, -, _, ⟨-, allowance, hal, hex, hle, hf, rfl⟩,
      rfl⟩
    exact ⟨token, allowance, ⟨hc, ⟨hp, hw, ht, ha⟩, hauth, ho, hn, hal, hex, hle, hf⟩, rfl⟩
  · rintro ⟨token, allowance, ⟨hc, ⟨hp, hw, ht, ha⟩, hauth, ho, hn, hal, hex, hle, hf⟩, rfl⟩
    exact ⟨hc, hp, hw, hn, hauth, token, ht, ho, ha, (), _, ⟨hn, allowance, hal, hex, hle, hf, rfl⟩,
      rfl⟩

theorem revokeAllowance_returns :
    Returns (revokeAllowance env id spender) s u s' ↔ ∃ token,
      (isContractPaused s env.now = false ∧ isTokenPaused s id = false ∧
        s.get (.token id) = some token ∧ token.user ∈ env.auths) ∧
      s' = s.del (.allowance id token.user spender) := by
  simp only [revokeAllowance, returns_bind_of_checks fun _ _ => requireNotPaused_returns,
    returns_bind_of_checks fun _ _ => requireTokenNotPaused_returns,
    returns_bind_of_reads fun _ _ => loadToken_returns, returns_requireAuth_bind, returns_remove]
  constructor
  · rintro ⟨hc, hp, token, ht, hauth, rfl⟩
    exact ⟨token, ⟨hc, hp, ht, hauth⟩, rfl⟩
  · rintro ⟨token, ⟨hc, hp, ht, hauth⟩, rfl⟩
    exact ⟨hc, hp, token, ht, hauth, rfl⟩

/-- The query removes an expired allowance. -/
theorem getAllowance_writes {o : Option TokenAllowance}
    (h : Returns (getAllowance env id owner spender) s o s') :
    s' = s ∨ s' = s.del (.allowance id owner spender) := by
  simp only [getAllowance, currentAllowance, returns_bind_of_reads fun _ _ => loadToken_returns,
    returns_ite, returns_load_bind, returns_remove_bind, returns_pure] at h
  obtain ⟨token, -, ⟨-, -, rfl⟩ | ⟨-, ⟨-, -, rfl⟩ | ⟨-, -, rfl⟩⟩⟩ := h
  · exact Or.inl rfl
  · exact Or.inr rfl
  · exact Or.inl rfl

end

end ManageHub
