/-
  Fractional ownership over whole runs.

  The shares of a token always add up to the whole, and whose token it is does not change until one
  holder of all its shares recombines them: the calls that transfer tokens refuse one in fractions,
  and all others keep the user.
-/
import NovaLabs.ManageHub.TokenCalls

namespace ManageHub

open Lib Soroban

variable {me : Address}

/-! ## The invariant -/

/-- The shares of each token in fractions are positive multiples of its minimum, and add up to its
    total. -/
def SharesValid (s : State) : Prop :=
  ∀ id info, s.get (.fractionInfo id) = some info → ∃ shares,
    s.get (.fractionShares id) = some shares ∧
      SharesOf info.minFractionSize info.totalShares shares

section
variable {env : HubEnv me} {s s' : State} {u : Unit} {id : TokenId} {total unit n : ℤ}
  {src dst holder : Address}

theorem SharesValid.congr (h : SharesValid s)
    (hi : ∀ id, s'.get (.fractionInfo id) = s.get (.fractionInfo id))
    (hs : ∀ id, s'.get (.fractionShares id) = s.get (.fractionShares id)) : SharesValid s' := by
  intro id info hinfo
  rw [hs]
  exact h id info (hi id ▸ hinfo)

theorem sharesValid_empty (h : s = ∅) : SharesValid s := by
  intro id info hi
  rw [h] at hi
  cases hi

theorem SharesValid.fractionalize (h : SharesValid s)
    (hr : Returns (fractionalizeToken env id total unit) s u s') : SharesValid s' := by
  obtain ⟨token, ⟨⟨h1, -, -, hu⟩, -, -, -, -⟩, rfl⟩ := fractionalizeToken_returns.1 hr
  intro id' info hi
  by_cases he : id' = id
  · subst he
    rw [get_put_ne (by simp), get_put_self] at hi
    cases hi
    exact ⟨_, get_put_self, sharesOf_single (zero_lt_one.trans h1) hu⟩
  · rw [get_put_ne (by simp), get_put_ne (by simpa using he)] at hi
    rw [get_put_ne (by simpa using he), get_put_ne (by simp)]
    exact h id' info hi

theorem SharesValid.transfer (h : SharesValid s)
    (hr : Returns (transferFraction env id src dst n) s u s') : SharesValid s' := by
  obtain ⟨info, shares, k, ⟨⟨hi, hs⟩, ⟨hn, hu⟩, -, hk, hle⟩, rfl⟩ := transferFraction_returns hr
  intro id' info' hi'
  rw [get_put_ne (by simp)] at hi'
  by_cases he : id' = id
  · subst he
    obtain rfl := Option.some.inj (hi.symm.trans hi')
    obtain ⟨shares', hs', hv⟩ := h id' info hi
    obtain rfl := Option.some.inj (hs.symm.trans hs')
    have hm := (hv.debit hk hle hu).credit dst hn hu
    rw [sub_add_cancel] at hm
    exact ⟨_, get_put_self, hm⟩
  · rw [get_put_ne (by simpa using he)]
    exact h id' info' hi'

theorem SharesValid.recombine (h : SharesValid s)
    (hr : Returns (recombineFractions env id holder) s u s') : SharesValid s' := by
  obtain ⟨info, shares, token, -, rfl⟩ := recombineFractions_returns.1 hr
  intro id' info' hi'
  rw [get_del_ne (by simp), get_del_ne (by simp)] at hi'
  obtain ⟨he, hi'⟩ := get_del_eq_some.1 hi'
  rw [get_put_ne (by simp)] at hi'
  rw [get_del_ne (by simp), get_del_ne (by simpa using he), get_del_ne (by simp),
    get_put_ne (by simp)]
  exact h id' info' hi'

end

/-- The step lemma of the shares. -/
theorem Step.sharesValid {w w' : World} {i : Input me} (h : Step w i w')
    (hv : SharesValid w.state) : SharesValid w'.state := by
  cases hc : i.call with
  | fractionalizeToken id total unit =>
    exact h.of_returns (by rw [hc]; rfl) hv fun s' hr => hv.fractionalize hr
  | transferFraction id src dst n =>
    exact h.of_returns (by rw [hc]; rfl) hv fun s' hr => hv.transfer hr
  | recombineFractions id holder =>
    exact h.of_returns (by rw [hc]; rfl) hv fun s' hr => hv.recombine hr
  | _ =>
    exact hv.congr (fun _ => h.frame (by rw [hc]; simp)) fun _ => h.frame (by rw [hc]; simp)

/-! ## The user of a token in fractions -/

/-- The token is in fractions, and is the user's. -/
structure InFractions (s : State) (id : TokenId) (user : Address) : Prop where
  divided : (s.get (.fractionInfo id)).isSome
  user : s.userOf id = some user

/-- The code keeps the user of a token in fractions. -/
def Freezes (id : TokenId) (x : Fn Unit) : Prop :=
  ∀ s u s' user, Returns x s u s' → InFractions s id user → s'.userOf id = some user

section
variable {env : HubEnv me} {s s' : State} {u : Unit} {id tokenId : TokenId} {n : ℤ} {t : ℕ}
  {user owner spender newUser : Address}

theorem InFractions.of_eq (h : InFractions s id user)
    (ht : s'.get (.token id) = s.get (.token id)) : s'.userOf id = some user :=
  (userOf_congr ht).trans h.user

theorem freezes_reads_bind {α : Type} {x : Fn α} [Only [] x] {f : α → Fn Unit}
    (hf : ∀ a, Freezes id (f a)) : Freezes id (x >>= f) := by
  intro s u s' user h
  obtain ⟨a, -, hr⟩ := returns_reads_bind.1 h
  exact hf a s u s' user hr

theorem freezes_forM {α : Type} {g : α → Fn Unit} [∀ a, Only [Kind.token] (g a)]
    (hg : ∀ a, Freezes id (g a)) (l : List α) : Freezes id (l.forM g) := by
  intro s u s' user h hf
  refine (h.forM_keeps (P := (InFractions · id user)) (fun a s s' hf h₁ => ⟨?_, ?_⟩) hf).user
  · have hk : s'.get (.fractionInfo id) = s.get (.fractionInfo id) :=
      get_eq_of_returns [.token] h₁ (by simp)
    rw [hk]
    exact hf.divided
  · exact hg a s () s' user h₁ hf

theorem freezes_internalIssueToken : Freezes id (internalIssueToken env tokenId user t) := by
  intro s u s' user' h hf
  obtain ⟨⟨hn, -⟩, rfl⟩ := internalIssueToken_returns.1 h
  refine hf.of_eq (get_put_ne fun he => ?_)
  cases he
  have hu := hf.user
  rw [State.userOf, hn] at hu
  cases hu

/-- What writes one token that is whole keeps the users of those in fractions. -/
theorem freezes_of_whole (tokenId : TokenId) {x : Fn Unit}
    (hx : ∀ s u s', Returns x s u s' → s.get (.fractionInfo tokenId) = none ∧
      ∀ id ≠ tokenId, s'.get (.token id) = s.get (.token id)) : Freezes id x := by
  intro s u s' user h hf
  obtain ⟨hn, hs⟩ := hx s u s' h
  refine hf.of_eq (hs id fun he => ?_)
  have hd := hf.divided
  rw [he, hn] at hd
  cases hd

theorem freezes_internalTransferToken :
    Freezes id (internalTransferToken env tokenId newUser) :=
  freezes_of_whole tokenId fun s u s' h => by
    obtain ⟨token, ⟨hm, -⟩, rfl⟩ := internalTransferToken_returns.1 h
    exact ⟨hm.whole, fun id hne => get_put_ne (by simpa using hne)⟩

theorem freezes_transferToken : Freezes id (transferToken env tokenId newUser) :=
  freezes_reads_bind fun _ => freezes_internalTransferToken

theorem freezes_transferTokenWithRoyalty :
    Freezes id (transferTokenWithRoyalty env tokenId newUser n) := by
  intro s u s' user h hf
  obtain ⟨_, s₁, h₁, h₂⟩ := returns_bind.1 h
  rw [Only.eq_of_returns h₂]
  exact freezes_transferToken s _ s₁ user h₁ hf

theorem freezes_transferFrom :
    Freezes id (transferFrom env tokenId owner newUser spender n) :=
  freezes_of_whole tokenId fun s u s' h => by
    obtain ⟨token, allowance, hok, rfl⟩ := transferFrom_returns.1 h
    refine ⟨hok.movable.whole, fun id hne => ?_⟩
    rw [get_put_ne (by simpa using hne), spent_get (by simp)]

end

section
variable {w w' : World} {i : Input me} {id : TokenId} {user : Address}

/-- Only the recombination of a token in fractions changes its user. -/
theorem Step.userOf_of_inFractions (h : Step w i w') (hf : InFractions w.state id user)
    (hne : ∀ holder, i.call ≠ .recombineFractions id holder) : w'.state.userOf id = some user := by
  have hof {x : Fn Unit} (he : entryPoint i.env i.call = liftM x) (hx : Freezes id x) :
      w'.state.userOf id = some user :=
    h.of_returns he (P := (·.userOf id = some user)) hf.user fun s' hr => hx _ _ _ _ hr hf
  cases hc : i.call with
  | recombineFractions tokenId holder =>
    refine h.of_returns (by rw [hc]; rfl) (P := (·.userOf id = some user)) hf.user fun s' hr => ?_
    rw [recombineFractions_users hr, if_neg, hf.user]
    rintro rfl
    exact hne holder hc
  | issueToken tokenId user' t =>
    exact hof (by rw [hc]; rfl) (freezes_reads_bind fun _ => freezes_reads_bind fun _ =>
      freezes_internalIssueToken)
  | batchMint params =>
    exact hof (by rw [hc]; rfl) (freezes_reads_bind fun _ => freezes_reads_bind fun _ =>
      freezes_reads_bind fun _ => freezes_forM (fun _ => freezes_internalIssueToken) params)
  | transferToken tokenId newUser => exact hof (by rw [hc]; rfl) freezes_transferToken
  | batchTransfer params =>
    exact hof (by rw [hc]; rfl) (freezes_reads_bind fun _ => freezes_reads_bind fun _ =>
      freezes_forM (fun _ => freezes_internalTransferToken) params)
  | transferTokenWithRoyalty tokenId newUser salePrice =>
    exact hof (by rw [hc]; rfl) freezes_transferTokenWithRoyalty
  | transferFrom tokenId owner toUser spender amount =>
    exact hof (by rw [hc]; rfl) freezes_transferFrom
  | _ => exact (h.sameUsers (by rw [hc]; rfl) id).trans hf.user

/-- The step lemma: a token stays in fractions, and its user's, unless it is recombined. -/
theorem Step.inFractions (h : Step w i w') (hf : InFractions w.state id user)
    (hne : ∀ holder, i.call = .recombineFractions id holder → ¬ Succeeds i w w') :
    InFractions w'.state id user := by
  rcases h.cases with hs | ⟨-, he, -⟩
  · have hne' : ∀ holder, i.call ≠ .recombineFractions id holder := fun holder hc =>
      hne holder hc hs
    refine ⟨?_, h.userOf_of_inFractions hf hne'⟩
    cases hc : i.call with
    | fractionalizeToken tokenId total unit =>
      refine h.of_returns (by rw [hc]; rfl) (P := fun s => (s.get (.fractionInfo id)).isSome)
        hf.divided fun s' hr => ?_
      obtain ⟨token, hok, rfl⟩ := fractionalizeToken_returns.1 hr
      have hid : id ≠ tokenId := by
        rintro rfl
        have hd := hf.divided
        rw [hok.whole] at hd
        cases hd
      rw [get_put_ne (by simp), get_put_ne (by simpa using hid)]
      exact hf.divided
    | recombineFractions tokenId holder =>
      refine h.of_returns (by rw [hc]; rfl) (P := fun s => (s.get (.fractionInfo id)).isSome)
        hf.divided fun s' hr => ?_
      obtain ⟨info, shares, token, -, rfl⟩ := recombineFractions_returns.1 hr
      have hid : id ≠ tokenId := fun he => hne' holder (he ▸ hc)
      rw [get_del_ne (by simp), get_del_ne (by simp), get_del_ne (by simpa using hid),
        get_put_ne (by simp)]
      exact hf.divided
    | _ => exact (h.frame (k := .fractionInfo id) (by rw [hc]; simp)) ▸ hf.divided
  · rw [he]
    exact hf

theorem Succeeds.inFractions {total unit : ℤ} (h : Succeeds i w w')
    (hc : i.call = .fractionalizeToken id total unit) :
    ∃ user, w.state.userOf id = some user ∧ InFractions w'.state id user := by
  rw [Succeeds, hc] at h
  obtain ⟨token, hok, hs⟩ := fractionalizeToken_returns.1 (completes_lift.1 h).1
  refine ⟨token.user, userOf_some hok.stored, ?_, ?_⟩
  · rw [hs, get_put_ne (by simp), get_put_self, Option.isSome_some]
  · rw [hs, userOf_congr (get_put_ne (by simp)), userOf_congr (get_put_ne (by simp)),
      State.userOf, hok.stored, Option.map_some]

theorem Succeeds.recombinable {holder : Address} (h : Succeeds i w w')
    (hc : i.call = .recombineFractions id holder) :
    ∃ info shares token, Recombinable i.env w.state id holder info shares token := by
  rw [Succeeds, hc] at h
  exact recombineFractions_passes.1 ⟨_, (completes_lift.1 h).1⟩

end

/-! ## Runs -/

theorem sharesValid_of_run {w₀ w : World} {tr : List (Ev me)} (h : Run Step w₀ tr w)
    (h₀ : w₀.state = ∅) : SharesValid w.state :=
  h.invariant' (P := fun w => SharesValid w.state) (fun _ _ _ hv hs => hs.sharesValid hv)
    (sharesValid_empty h₀)

/-- A token stays its user's until it is recombined. -/
theorem inFractions_of_run {w₀ w : World} {tr : List (Ev me)} {id : TokenId} {user : Address}
    (h : Run Step w₀ tr w) (hf : InFractions w₀.state id user)
    (hne : ∀ ev ∈ tr, ∀ holder, ev.inp.call = .recombineFractions id holder →
      ¬ Succeeds ev.inp ev.pre ev.post) : InFractions w.state id user :=
  h.invariant (P := fun w => InFractions w.state id user) (fun _ hf hs hne => hs.inFractions hf hne)
    hf hne

/-- **The shares of each token in fractions add up to its total, in positive multiples of the
    minimum; the token stays its user's from its fractionalization up to its recombination; and
    only the holder of all its shares recombines it.** -/
theorem fractional_ownership {w₀ w : World} {tr : List (Ev me)} (h₀ : w₀.state = ∅)
    (h : Run Step w₀ tr w) :
    SharesValid w.state ∧
      (∀ tr₁ ev tr₂ id total unit, tr = tr₁ ++ ev :: tr₂ →
        ev.inp.call = .fractionalizeToken id total unit → Succeeds ev.inp ev.pre ev.post →
        (∀ e ∈ tr₂, ∀ holder, e.inp.call = .recombineFractions id holder →
          ¬ Succeeds e.inp e.pre e.post) →
        ∃ user, ev.pre.state.userOf id = some user ∧ ev.post.state.userOf id = some user ∧
          ∀ e ∈ tr₂, e.post.state.userOf id = some user) ∧
      ∀ ev ∈ tr, ∀ id holder, ev.inp.call = .recombineFractions id holder →
        Succeeds ev.inp ev.pre ev.post → ∃ info shares,
          ev.pre.state.get (.fractionInfo id) = some info ∧
            ev.pre.state.get (.fractionShares id) = some shares ∧
              shares.get holder = some info.totalShares := by
  refine ⟨sharesValid_of_run h h₀, ?_, fun ev _ id holder hc hs => ?_⟩
  · rintro tr₁ ev tr₂ id total unit rfl hc hs hne
    obtain ⟨user, hu, hf⟩ := hs.inFractions hc
    refine ⟨user, hu, hf.user, fun e he => ?_⟩
    obtain ⟨l, l', rfl⟩ := List.append_of_mem he
    exact (inFractions_of_run h.split.2.2.upTo hf fun e he => hne e (by
      rw [List.mem_append, List.mem_singleton] at he
      rcases he with he | rfl
      · exact List.mem_append_left _ he
      · exact List.mem_append_right _ (.head _))).user
  · obtain ⟨info, shares, token, hok⟩ := hs.recombinable hc
    exact ⟨info, shares, hok.fractions.1, hok.fractions.2, hok.shares⟩

/-- The token of `⟨2⟩` is divided, some shares go to `⟨3⟩`, and `⟨2⟩` tries to transfer it. -/
def divideCalls : List (Input ⟨0⟩) :=
  issueCalls ++ [hubCall 3 (.fractionalizeToken 1 100 10),
    hubCall 4 (.transferFraction 1 ⟨2⟩ ⟨3⟩ 40), hubCall 5 (.transferToken 1 ⟨3⟩)]

theorem fractional_ownership_divided : SharesValid (divideCalls.foldl next start).state ∧
    (divideCalls.foldl next start).state.userOf 1 = some ⟨2⟩ :=
  ⟨(fractional_ownership rfl (run_calls divideCalls (by decide))).1, by decide⟩

end ManageHub
