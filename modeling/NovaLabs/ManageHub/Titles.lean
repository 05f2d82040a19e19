/-
  Nobody loses a token or a share of one without having agreed.

  The user of a token agrees to a transfer in the call itself, by an earlier grant to a spender, or by
  an earlier division of the token into shares, of which the one who recombines them holds all.
-/
import NovaLabs.ManageHub.Delegation
import NovaLabs.ManageHub.Ownership

namespace ManageHub

open Lib Soroban

variable {me : Address}

/-! ## Consent -/

/-- The user divides the token into shares. -/
def Fractionalizes (id : TokenId) (user : Address) (e : Ev me) : Prop :=
  (∃ total unit, e.inp.call = .fractionalizeToken id total unit) ∧ e.inp.ok e.pre = true ∧
    e.pre.state.userOf id = some user

/-- How the user has agreed to lose the token in an event after those of `tr`. -/
inductive Consents (tr : List (Ev me)) (e : Ev me) (id : TokenId) (user : Address) : Prop
  | now : user ∈ e.inp.env.auths → Consents tr e id user
  | delegated {spender n} : Spends id user spender n e → spender ∈ e.inp.env.auths →
      (∃ e' ∈ tr, Grants id user spender e' ∧ user ∈ e'.inp.env.auths) → Consents tr e id user
  | divided {holder info shares} : holder ∈ e.inp.env.auths →
      e.pre.state.get (.fractionInfo id) = some info →
      e.pre.state.get (.fractionShares id) = some shares →
      shares.get holder = some info.totalShares →
      (∃ e' ∈ tr, Fractionalizes id user e' ∧ user ∈ e'.inp.env.auths) → Consents tr e id user

/-- The shares of a holder of a token in fractions. -/
def State.sharesOf (s : State) (id : TokenId) (holder : Address) : ℤ :=
  ((s.get (.fractionInfo id)).bind fun _ =>
    (s.get (.fractionShares id)).bind fun shares => shares.get holder).getD 0

/-! ## Users -/

section
variable {env : HubEnv me} {s s' : State} {u : Unit} {id tokenId : TokenId} {a user newUser : Address}
  {t : ℕ} {n : ℤ}

/-- The token is the user's, or the user has authorised the call. -/
def KeptOrAgreed (env : HubEnv me) (s : State) (id : TokenId) (user : Address) : Prop :=
  s.userOf id = some user ∨ user ∈ env.auths

theorem keptOrAgreed_forM {α : Type} {g : α → Fn Unit} {l : List α}
    (hg : ∀ a s s', Returns (g a) s () s' → s.userOf id = some user → KeptOrAgreed env s' id user)
    (h : Returns (l.forM g) s u s') (hs : s.userOf id = some user) : KeptOrAgreed env s' id user :=
  h.forM_keeps (P := fun s => KeptOrAgreed env s id user)
    (fun a s s' hs h => hs.elim (hg a s s' h) Or.inr) (Or.inl hs)

theorem internalIssueToken_kept (h : Returns (internalIssueToken env tokenId newUser t) s u s')
    (hs : s.userOf id = some user) : s'.userOf id = some user := by
  obtain ⟨⟨hn, -⟩, rfl⟩ := internalIssueToken_returns.1 h
  have hne : id ≠ tokenId := by
    rintro rfl
    rw [State.userOf, hn] at hs
    cases hs
  rwa [userOf_congr (get_put_ne (by simpa using hne))]

theorem internalTransferToken_agreed
    (h : Returns (internalTransferToken env tokenId newUser) s u s')
    (hs : s.userOf id = some user) : KeptOrAgreed env s' id user := by
  obtain ⟨token, ⟨hm, hauth⟩, rfl⟩ := internalTransferToken_returns.1 h
  by_cases he : id = tokenId
  · subst he
    rw [userOf_some hm.stored] at hs
    cases hs
    exact Or.inr hauth
  · left
    rwa [userOf_congr (get_put_ne (by simpa using he))]

end

section
variable {w w' : World} {i : Input me} {id : TokenId} {user : Address}

/-- In a step, the token stays its user's, or the user agrees, or a spender or the holder of all
    shares takes it. -/
theorem Step.user_cases (h : Step w i w') (hu : w.state.userOf id = some user) :
    KeptOrAgreed i.env w'.state id user ∨
    (∃ spender n, Spends id user spender n ⟨w, i, w'⟩ ∧ spender ∈ i.env.auths) ∨
    ∃ holder info shares, holder ∈ i.env.auths ∧
      w.state.get (.fractionInfo id) = some info ∧
      w.state.get (.fractionShares id) = some shares ∧
      shares.get holder = some info.totalShares := by
  have hof {x : Fn Unit} (he : entryPoint i.env i.call = liftM x)
      (hx : ∀ s', Returns x w.state () s' → KeptOrAgreed i.env s' id user) :
      KeptOrAgreed i.env w'.state id user :=
    h.of_returns he (P := (KeptOrAgreed i.env · id user)) (Or.inl hu) hx
  cases hc : i.call with
  | issueToken tokenId user' t =>
    refine Or.inl (hof (by rw [hc]; rfl) fun s' hr => ?_)
    simp only [issueToken, returns_reads_bind] at hr
    obtain ⟨_, -, _, -, hr⟩ := hr
    exact Or.inl (internalIssueToken_kept hr hu)
  | batchMint params =>
    refine Or.inl (hof (by rw [hc]; rfl) fun s' hr => ?_)
    simp only [batchMint, batchIssueTokens, returns_reads_bind] at hr
    obtain ⟨_, -, _, -, _, -, hr⟩ := hr
    exact keptOrAgreed_forM (fun _ _ _ hr hs => Or.inl (internalIssueToken_kept hr hs)) hr hu
  | transferToken tokenId newUser =>
    refine Or.inl (hof (by rw [hc]; rfl) fun s' hr => ?_)
    obtain ⟨_, -, hr⟩ := returns_reads_bind.1 hr
    exact internalTransferToken_agreed hr hu
  | batchTransfer params =>
    refine Or.inl (hof (by rw [hc]; rfl) fun s' hr => ?_)
    simp only [batchTransfer, batchTransferTokens, returns_reads_bind] at hr
    obtain ⟨_, -, _, -, hr⟩ := hr
    exact keptOrAgreed_forM (fun _ _ _ => internalTransferToken_agreed) hr hu
  | transferTokenWithRoyalty tokenId newUser salePrice =>
    refine Or.inl (hof (by rw [hc]; rfl) fun s' hr => ?_)
    obtain ⟨_, s₁, h₁, h₂⟩ := returns_bind.1 hr
    obtain ⟨_, -, h₁⟩ := returns_reads_bind.1 h₁
    rw [Only.eq_of_returns h₂]
    exact internalTransferToken_agreed h₁ hu
  | transferFrom tokenId owner toUser spender amount =>
    by_cases hok : i.ok w = true
    swap
    · exact Or.inl (Or.inl (h.state_eq_of_not_ok hok ▸ hu))
    obtain ⟨token, allowance, hsp, hs'⟩ :=
      transferFrom_returns.1 ((h.ok_iff_returns (by rw [hc]; rfl)).1 hok)
    by_cases he : id = tokenId
    · subst he
      rw [userOf_some hsp.movable.stored, hsp.owned] at hu
      cases hu
      exact Or.inr (Or.inl ⟨spender, amount, ⟨⟨toUser, hc⟩, hok⟩, hsp.authorised⟩)
    · left
      left
      rw [hs', userOf_congr (get_put_ne (by simpa using he)), userOf_congr (spent_get (by simp)), hu]
  | recombineFractions tokenId holder =>
    by_cases hok : i.ok w = true
    swap
    · exact Or.inl (Or.inl (h.state_eq_of_not_ok hok ▸ hu))
    have hr := (h.ok_iff_returns (by rw [hc]; rfl)).1 hok
    by_cases he : id = tokenId
    · subst he
      obtain ⟨info, shares, token, hre, -⟩ := recombineFractions_returns.1 hr
      exact Or.inr (Or.inr ⟨holder, info, shares, hre.authorised, hre.fractions.1, hre.fractions.2,
        hre.shares⟩)
    · left
      left
      rw [recombineFractions_users hr, if_neg he, hu]
  | _ => exact Or.inl (Or.inl ((h.sameUsers (by rw [hc]; rfl) id).trans hu))

end

/-! ## Shares -/

section
variable {s s' : State} {id : TokenId} {a : Address} {info : FractionalTokenInfo}
  {shares : SortedMap Address ℤ}

theorem sharesOf_none (h : s.get (.fractionInfo id) = none) : s.sharesOf id a = 0 := by
  rw [State.sharesOf, h]
  rfl

theorem sharesOf_some (hi : s.get (.fractionInfo id) = some info)
    (hs : s.get (.fractionShares id) = some shares) : s.sharesOf id a = (shares.get a).getD 0 := by
  rw [State.sharesOf, hi, hs]
  rfl

theorem sharesOf_congr (hi : s'.get (.fractionInfo id) = s.get (.fractionInfo id))
    (hs : s'.get (.fractionShares id) = s.get (.fractionShares id)) :
    s'.sharesOf id a = s.sharesOf id a := by
  rw [State.sharesOf, hi, hs, State.sharesOf]

theorem not_fewer (hi : s'.get (.fractionInfo id) = s.get (.fractionInfo id))
    (hs : s'.get (.fractionShares id) = s.get (.fractionShares id)) :
    ¬ s'.sharesOf id a < s.sharesOf id a := (sharesOf_congr hi hs).not_lt

theorem SharesOf.nonneg {unit total : ℤ} (h : SharesOf unit total shares) :
    0 ≤ (shares.get a).getD 0 := by
  cases ha : shares.get a with
  | none => exact le_rfl
  | some n => exact (h.positive a n ha).le

/-- The holder of all shares is the only holder. -/
theorem SharesOf.sole {unit total : ℤ} {holder : Address} (h : SharesOf unit total shares)
    (hall : shares.get holder = some total) (hne : a ≠ holder) : (shares.get a).getD 0 = 0 := by
  cases ha : shares.get a with
  | none => rfl
  | some n =>
    have hle := SortedMap.add_le_sum (fun k v hk => (h.positive k v hk).le) hall ha hne
    have hpos := h.positive a n ha
    rw [h.sum] at hle
    omega

theorem SharesValid.nonneg (h : SharesValid s) : 0 ≤ s.sharesOf id a := by
  cases hi : s.get (.fractionInfo id) with
  | none => rw [sharesOf_none hi]
  | some info =>
    obtain ⟨shares, hs, hof⟩ := h id info hi
    rw [sharesOf_some hi hs]
    exact hof.nonneg

theorem debitShares_get {src : Address} {k n : ℤ} (hne : a ≠ src) :
    (debitShares shares src k n).get a = shares.get a := by
  unfold debitShares
  split_ifs
  · rw [SortedMap.get_remove, if_neg hne]
  · rw [SortedMap.get_set, if_neg hne]

end

/-- The step lemma: who has fewer shares after a call has authorised it. -/
theorem Step.shares_agreed {w w' : World} {i : Input me} {id : TokenId} {a : Address}
    (h : Step w i w') (hv : SharesValid w.state)
    (hlt : w'.state.sharesOf id a < w.state.sharesOf id a) : a ∈ i.env.auths := by
  have hpos : 0 < w.state.sharesOf id a := (h.sharesValid hv).nonneg.trans_lt hlt
  have hof {x : Fn Unit} (he : entryPoint i.env i.call = liftM x)
      (hx : ∀ s', Returns x w.state () s' → s'.sharesOf id a < w.state.sharesOf id a →
        a ∈ i.env.auths) : a ∈ i.env.auths :=
    h.of_returns he (P := fun s => s.sharesOf id a < w.state.sharesOf id a → a ∈ i.env.auths)
      (fun hlt => absurd hlt (lt_irrefl _)) hx hlt
  cases hc : i.call with
  | fractionalizeToken tokenId total unit =>
    refine hof (by rw [hc]; rfl) fun s' hr hlt => ?_
    obtain ⟨token, hf, rfl⟩ := fractionalizeToken_returns.1 hr
    by_cases he : id = tokenId
    · subst he
      rw [sharesOf_none hf.whole] at hpos
      cases hpos
    · exact absurd hlt (not_fewer (by rw [get_put_ne (by simp), get_put_ne (by simpa using he)])
        (by rw [get_put_ne (by simpa using he), get_put_ne (by simp)]))
  | transferFraction tokenId src dst n =>
    refine hof (by rw [hc]; rfl) fun s' hr hlt => ?_
    obtain ⟨info, shares, k, ht, rfl⟩ := transferFraction_returns hr
    by_cases he : id = tokenId
    · subst he
      by_cases hsrc : a = src
      · exact hsrc ▸ ht.authorised
      · rw [sharesOf_some ((get_put_ne (by simp)).trans ht.fractions.1) get_put_self,
          sharesOf_some ht.fractions.1 ht.fractions.2, SortedMap.get_credit] at hlt
        split_ifs at hlt with hdst
        · rw [hdst, debitShares_get (hdst ▸ hsrc), Option.getD_some] at hlt
          have hn := ht.amount.1
          omega
        · rw [debitShares_get hsrc] at hlt
          exact absurd hlt (lt_irrefl _)
    · exact absurd hlt (not_fewer (get_put_ne (by simp)) (get_put_ne (by simpa using he)))
  | recombineFractions tokenId holder =>
    refine hof (by rw [hc]; rfl) fun s' hr hlt => ?_
    obtain ⟨info, shares, token, hre, rfl⟩ := recombineFractions_returns.1 hr
    by_cases he : id = tokenId
    · subst he
      by_cases ha : a = holder
      · exact ha ▸ hre.authorised
      · obtain ⟨shares', hs', hof⟩ := hv id info hre.fractions.1
        obtain rfl := Option.some.inj (hre.fractions.2.symm.trans hs')
        rw [sharesOf_some hre.fractions.1 hre.fractions.2, hof.sole hre.shares ha] at hpos
        cases hpos
    · refine absurd hlt (not_fewer ?_ ?_)
      · rw [get_del_ne (by simp), get_del_ne (by simp), get_del_ne (by simpa using he),
          get_put_ne (by simp)]
      · rw [get_del_ne (by simp), get_del_ne (by simpa using he), get_del_ne (by simp),
          get_put_ne (by simp)]
  | _ => exact absurd hlt (not_fewer (h.frame (by rw [hc]; simp)) (h.frame (by rw [hc]; simp)))

/-! ## Divisions -/

section
variable {w₀ w w' : World} {i : Input me} {tr : List (Ev me)} {id : TokenId}

/-- The user of the token in fractions has divided it. -/
def DividedBy (id : TokenId) (tr : List (Ev me)) (s : State) : Prop :=
  (s.get (.fractionInfo id)).isSome → ∃ user, s.userOf id = some user ∧
    ∃ e ∈ tr, Fractionalizes id user e ∧ user ∈ e.inp.env.auths

/-- A token in fractions was so before the call, which does not recombine it, or the call divides
    it. -/
theorem Step.divided (h : Step w i w') (hd : (w'.state.get (.fractionInfo id)).isSome) :
    ((w.state.get (.fractionInfo id)).isSome ∧
      ∀ holder, i.call = .recombineFractions id holder → ¬ Succeeds i w w') ∨
    ∃ user, Fractionalizes id user ⟨w, i, w'⟩ ∧ user ∈ i.env.auths ∧
      w'.state.userOf id = some user := by
  by_cases hok : i.ok w = true
  swap
  · rw [h.state_eq_of_not_ok hok] at hd
    exact Or.inl ⟨hd, fun _ _ hs => hok (h.ok_iff.2 hs)⟩
  cases hc : i.call with
  | fractionalizeToken tokenId total unit =>
    obtain ⟨token, hf, hs'⟩ :=
      fractionalizeToken_returns.1 ((h.ok_iff_returns (by rw [hc]; rfl)).1 hok)
    by_cases he : id = tokenId
    · subst he
      have hu := userOf_some hf.stored
      refine Or.inr ⟨token.user, ⟨⟨total, unit, hc⟩, hok, hu⟩, hf.authorised, ?_⟩
      rwa [hs', userOf_congr (get_put_ne (by simp)), userOf_congr (get_put_ne (by simp))]
    · rw [hs', get_put_ne (by simp), get_put_ne (by simpa using he)] at hd
      exact Or.inl ⟨hd, fun _ hc' => by cases hc'⟩
  | recombineFractions tokenId holder =>
    obtain ⟨info, shares, token, hre, hs'⟩ :=
      recombineFractions_returns.1 ((h.ok_iff_returns (by rw [hc]; rfl)).1 hok)
    rw [hs', get_del_ne (by simp), get_del_ne (by simp)] at hd
    by_cases he : id = tokenId
    · subst he
      rw [get_del_self] at hd
      cases hd
    · rw [get_del_ne (by simpa using he), get_put_ne (by simp)] at hd
      refine Or.inl ⟨hd, fun holder' hc' => ?_⟩
      cases hc'
      exact absurd rfl he
  | _ =>
    rw [h.frame (by rw [hc]; simp)] at hd
    exact Or.inl ⟨hd, fun _ hc' => by cases hc'⟩

theorem dividedBy_of_run (h₀ : w₀.state = ∅) (h : Run Step w₀ tr w) : DividedBy id tr w.state := by
  refine h.history (P := fun tr w => DividedBy id tr w.state) (fun tr w i w' ih hs hd => ?_) ?_
  · rcases hs.divided hd with ⟨hd₀, hne⟩ | ⟨user, hdiv, hauth, hu⟩
    · obtain ⟨user, hu, e, he, hdiv⟩ := ih hd₀
      exact ⟨user, (hs.inFractions ⟨hd₀, hu⟩ hne).user, e, List.mem_append_left _ he, hdiv⟩
    · exact ⟨user, hu, _, List.mem_append_right _ (.head _), hdiv, hauth⟩
  · intro hd
    rw [h₀] at hd
    cases hd

/-- A grant is authorised by the user who makes it. -/
theorem Step.grants_authorised {owner spender : Address} (h : Step w i w')
    (hg : Grants id owner spender ⟨w, i, w'⟩) : owner ∈ i.env.auths := by
  obtain ⟨n, expiresAt, hc, hok, hu⟩ := hg
  obtain ⟨token, happ, -⟩ :=
    approve_returns.1 ((h.ok_iff_returns (by rw [show i.call = _ from hc]; rfl)).1 hok)
  obtain rfl := Option.some.inj (hu.symm.trans (userOf_some happ.movable.stored))
  exact happ.authorised

/-- Where the token leaves its user, the user has agreed. -/
theorem consents_of_run {e : Ev me} {tr₁ tr₂ : List (Ev me)} {user : Address} (h₀ : w₀.state = ∅)
    (h : Run Step w₀ (tr₁ ++ e :: tr₂) w) (hu : e.pre.state.userOf id = some user)
    (hlost : e.post.state.userOf id ≠ some user) : Consents tr₁ e id user := by
  obtain ⟨hrun, hstep, -⟩ := h.split
  rcases hstep.user_cases hu with (hkept | hauth) | ⟨spender, n, hspends, hauth⟩ |
    ⟨holder, info, shares, hauth, hi, hs, hall⟩
  · exact absurd hkept hlost
  · exact .now hauth
  · obtain ⟨-, allowance, hst, -⟩ := hstep.spends hspends
    obtain ⟨l₁, e', l₂, n', rfl, happ, -⟩ := leftOf_of_run h₀ hrun allowance hst
    have hg : Grants id user spender e' := ⟨n', _, happ⟩
    exact .delegated hspends hauth ⟨e', by simp, hg, hrun.split.2.1.grants_authorised hg⟩
  · have hby : DividedBy id tr₁ e.pre.state := dividedBy_of_run h₀ hrun
    obtain ⟨user', hu', hdiv⟩ := hby (hi ▸ rfl)
    obtain rfl := Option.some.inj (hu.symm.trans hu')
    exact .divided hauth hi hs hall hdiv

end

/-- **A token leaves its user only in a call that the user authorises, in one of a spender whom the
    user has granted an allowance of it, or in one of the holder of all its shares, into which the
    user has divided it; and nobody has fewer shares after a call without having authorised it.** -/
theorem no_dispossession {w₀ w : World} {tr : List (Ev me)} (h₀ : w₀.state = ∅)
    (h : Run Step w₀ tr w) {tr₁ tr₂ : List (Ev me)} {e : Ev me} (he : tr = tr₁ ++ e :: tr₂)
    (id : TokenId) (a : Address) :
    (e.pre.state.userOf id = some a → e.post.state.userOf id ≠ some a → Consents tr₁ e id a) ∧
    (e.post.state.sharesOf id a < e.pre.state.sharesOf id a → a ∈ e.inp.env.auths) := by
  subst he
  exact ⟨consents_of_run h₀ h, h.split.2.1.shares_agreed (sharesValid_of_run h.split.1 h₀)⟩

/-- `⟨2⟩` approves `⟨4⟩`. -/
def grantCalls : List (Input ⟨0⟩) := issueCalls ++ [hubCall 3 (.approve 1 ⟨4⟩ 1000 (some 100))]

/-- `⟨4⟩` transfers the token of `⟨2⟩`, whose authorisation it does not have. -/
def takeCall : Input ⟨0⟩ :=
  { hubCall 4 (.transferFrom 1 ⟨2⟩ ⟨3⟩ ⟨4⟩ 700) with
    env := { hubEnv 4 with auths := {⟨4⟩}, me_notMem := by decide } }

theorem no_dispossession_granted :
    let w := grantCalls.foldl next start
    Consents (eventsFrom next start grantCalls) ⟨w, takeCall, next w takeCall⟩ 1 ⟨2⟩ ∧
      ⟨2⟩ ∉ takeCall.env.auths :=
  ⟨(no_dispossession rfl (run_calls (grantCalls ++ [takeCall]) (by decide))
    (eventsFrom_append next grantCalls [takeCall] start) 1 ⟨2⟩).1 (by decide) (by decide),
    by decide⟩

end ManageHub
