/-
  What the calls on fractions check, and what they do to the shares of a token.

  A transfer takes the shares from the sender first, and reads the receiver's after that, so that a
  transfer to oneself is no special case.
-/
import NovaLabs.ManageHub.Interface

namespace ManageHub

open Lib Soroban

variable {me : Address}

/-! ## Shares -/

/-- Positive multiples of `unit`, of `total` in all. -/
structure SharesOf (unit total : ℤ) (shares : SortedMap Address ℤ) : Prop where
  positive : ∀ holder n, shares.get holder = some n → 0 < n
  multiple : ∀ holder n, shares.get holder = some n → unit ∣ n
  sum : shares.sum = total

/-- The shares without `n` of those of `src`, who had `k`. -/
def debitShares (shares : SortedMap Address ℤ) (src : Address) (k n : ℤ) : SortedMap Address ℤ :=
  if k - n = 0 then shares.remove src else shares.set src (k - n)

section
variable {unit total k n : ℤ} {shares : SortedMap Address ℤ} {src dst : Address}

theorem sharesOf_single (hn : 0 < n) (hu : unit ∣ n) : SharesOf unit n (SortedMap.set ∅ src n) where
  positive holder m h := by
    rw [SortedMap.get_set] at h
    split_ifs at h
    · exact Option.some.inj h ▸ hn
    · cases h
  multiple holder m h := by
    rw [SortedMap.get_set] at h
    split_ifs at h
    · exact Option.some.inj h ▸ hu
    · cases h
  sum := add_zero n

theorem sum_debitShares (hk : shares.get src = some k) :
    (debitShares shares src k n).sum = shares.sum - n := by
  have hs := SortedMap.sum_set (m := shares) (k := src) (v := k - n)
  have hr := SortedMap.sum_remove (m := shares) (k := src)
  rw [hk, Option.getD_some] at hs hr
  unfold debitShares
  split_ifs <;> omega

theorem SharesOf.debit (h : SharesOf unit total shares) (hk : shares.get src = some k)
    (hn : n ≤ k) (hu : unit ∣ n) : SharesOf unit (total - n) (debitShares shares src k n) := by
  have hget (holder : Address) (m : ℤ) (hm : (debitShares shares src k n).get holder = some m) :
      shares.get holder = some m ∨ (m = k - n ∧ k - n ≠ 0) := by
    unfold debitShares at hm
    split_ifs at hm with hz
    · rw [SortedMap.get_remove] at hm
      split_ifs at hm
      exact Or.inl hm
    · rw [SortedMap.get_set] at hm
      split_ifs at hm
      · exact Or.inr ⟨(Option.some.inj hm).symm, hz⟩
      · exact Or.inl hm
  refine ⟨fun holder m hm => ?_, fun holder m hm => ?_, by rw [sum_debitShares hk, h.sum]⟩
  · rcases hget holder m hm with hm | ⟨rfl, hz⟩
    · exact h.positive holder m hm
    · omega
  · rcases hget holder m hm with hm | ⟨rfl, -⟩
    · exact h.multiple holder m hm
    · exact Int.dvd_sub (h.multiple src k hk) hu

theorem SharesOf.credit (h : SharesOf unit total shares) (dst : Address) (hn : 0 < n) (hu : unit ∣ n) :
    SharesOf unit (total + n) (shares.credit dst n) := by
  have hold : 0 ≤ (shares.get dst).getD 0 ∧ unit ∣ (shares.get dst).getD 0 := by
    cases hd : shares.get dst with
    | none => exact ⟨le_rfl, dvd_zero unit⟩
    | some m => exact ⟨(h.positive dst m hd).le, h.multiple dst m hd⟩
  have hget (holder : Address) (m : ℤ) (hm : (shares.credit dst n).get holder = some m) :
      shares.get holder = some m ∨ m = (shares.get dst).getD 0 + n := by
    rw [SortedMap.get_credit] at hm
    split_ifs at hm
    · exact Or.inr (Option.some.inj hm).symm
    · exact Or.inl hm
  refine ⟨fun holder m hm => ?_, fun holder m hm => ?_, by rw [SortedMap.sum_credit, h.sum]⟩
  · rcases hget holder m hm with hm | rfl
    · exact h.positive holder m hm
    · exact add_pos_of_nonneg_of_pos hold.1 hn
  · rcases hget holder m hm with hm | rfl
    · exact h.multiple holder m hm
    · exact Int.dvd_add hold.2 hu

end

/-! ## What the calls do -/

/-- The owner of an active token that is not fractionalized may divide it into shares. -/
structure Fractionalizable (env : HubEnv me) (s : State) (id : TokenId) (total unit : ℤ)
    (token : MembershipToken) : Prop where
  shares : 1 < total ∧ 0 < unit ∧ unit ≤ total ∧ unit ∣ total
  whole : s.get (.fractionInfo id) = none
  stored : s.get (.token id) = some token
  active : token.status = .active
  authorised : token.user ∈ env.auths

/-- The holder of `k` shares of the token may transfer `n` of them. -/
structure SharesTransferable (env : HubEnv me) (s : State) (id : TokenId) (src : Address) (n k : ℤ)
    (info : FractionalTokenInfo) (shares : SortedMap Address ℤ) : Prop where
  fractions : s.get (.fractionInfo id) = some info ∧ s.get (.fractionShares id) = some shares
  amount : 0 < n ∧ info.minFractionSize ∣ n
  authorised : src ∈ env.auths
  held : shares.get src = some k ∧ n ≤ k

/-- The holder of all shares of the token may recombine them. -/
structure Recombinable (env : HubEnv me) (s : State) (id : TokenId) (holder : Address)
    (info : FractionalTokenInfo) (shares : SortedMap Address ℤ) (token : MembershipToken) :
    Prop where
  authorised : holder ∈ env.auths
  fractions : s.get (.fractionInfo id) = some info ∧ s.get (.fractionShares id) = some shares
  shares : shares.get holder = some info.totalShares
  stored : s.get (.token id) = some token

section
variable {env : HubEnv me} {s s' : State} {u : Unit} {id : TokenId} {total unit n : ℤ}
  {src dst holder : Address}

theorem fractionalizeToken_returns :
    Returns (fractionalizeToken env id total unit) s u s' ↔
      ∃ token, Fractionalizable env s id total unit token ∧
        s' = (s.put (.fractionInfo id) ⟨id, total, unit, env.now, token.user⟩).put
          (.fractionShares id) (SortedMap.set ∅ token.user total) := by
  simp only [fractionalizeToken, returns_failIf_bind, returns_load_bind, returns_requireAuth_bind,
    returns_bind_of_reads fun _ _ => loadToken_returns, returns_store_bind, returns_store, not_not,
    not_or, not_le, not_lt, Option.not_isSome_iff_eq_none, ← Int.dvd_iff_tmod_eq_zero]
  constructor
  · rintro ⟨h1, ⟨h2, h3⟩, h4, hw, token, ht, ha, hauth, rfl⟩
    exact ⟨token, ⟨⟨h1, h2, h3, h4⟩, hw, ht, ha, hauth⟩, rfl⟩
  · rintro ⟨token, ⟨⟨h1, h2, h3, h4⟩, hw, ht, ha, hauth⟩, rfl⟩
    exact ⟨h1, ⟨h2, h3⟩, h4, hw, token, ht, ha, hauth, rfl⟩

theorem getFractionInfo_returns {info : FractionalTokenInfo} :
    Returns (getFractionInfo id) s info s' ↔ s.get (.fractionInfo id) = some info ∧ s' = s := by
  simp only [getFractionInfo, returns_load_bind, returns_okOr]

theorem getFractionShares_returns {shares : SortedMap Address ℤ} :
    Returns (getFractionShares id) s shares s' ↔
      s.get (.fractionShares id) = some shares ∧ s' = s := by
  simp only [getFractionShares, returns_load_bind, returns_okOr]

theorem transferFraction_returns (h : Returns (transferFraction env id src dst n) s u s') :
    ∃ info shares k, SharesTransferable env s id src n k info shares ∧
      s' = s.put (.fractionShares id) ((debitShares shares src k n).credit dst n) := by
  simp only [transferFraction, returns_bind_of_reads fun _ _ => getFractionInfo_returns,
    returns_bind_of_reads fun _ _ => getFractionShares_returns, returns_okOr_bind,
    returns_failIf_bind, returns_requireAuth_bind, returns_store, not_not, not_le, not_lt,
    ← Int.dvd_iff_tmod_eq_zero] at h
  obtain ⟨info, hi, hn, -, hu, hauth, shares, hs, k, hk, hle, remaining, hr, -, received, hd, rfl⟩ := h
  obtain rfl := eq_of_fitI128 hr
  obtain rfl := eq_of_fitI128 hd
  exact ⟨info, shares, k, ⟨⟨hi, hs⟩, ⟨hn, hu⟩, hauth, hk, hle⟩, rfl⟩

theorem recombineFractions_returns :
    Returns (recombineFractions env id holder) s u s' ↔ ∃ info shares token,
      Recombinable env s id holder info shares token ∧
        s' = (((s.put (.token id) { token with user := holder }).del (.fractionInfo id)).del
          (.fractionShares id)).del (.pendingRewards id) := by
  simp only [recombineFractions, returns_bind_of_reads fun _ _ => getFractionInfo_returns,
    returns_bind_of_reads fun _ _ => getFractionShares_returns, returns_okOr_bind,
    returns_requireAuth_bind, returns_failIf_bind, not_not,
    returns_bind_of_reads fun _ _ => loadToken_returns, returns_store_bind, returns_remove_bind,
    returns_remove]
  constructor
  · rintro ⟨info, hi, hauth, shares, hs, _, hh, rfl, token, ht, rfl⟩
    exact ⟨info, shares, token, ⟨hauth, ⟨hi, hs⟩, hh, ht⟩, rfl⟩
  · rintro ⟨info, shares, token, ⟨hauth, ⟨hi, hs⟩, hh, ht⟩, rfl⟩
    exact ⟨info, hi, hauth, shares, hs, _, hh, rfl, token, ht, rfl⟩

theorem recombineFractions_passes :
    (∃ s', Returns (recombineFractions env id holder) s () s') ↔
      ∃ info shares token, Recombinable env s id holder info shares token := by
  simp only [recombineFractions_returns]
  constructor
  · rintro ⟨s', info, shares, token, hok, -⟩
    exact ⟨info, shares, token, hok⟩
  · rintro ⟨info, shares, token, hok⟩
    exact ⟨_, info, shares, token, hok, rfl⟩

end

end ManageHub
