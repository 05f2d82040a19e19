/-
  Delegated transfers of tokens over whole runs.

  An allowance is granted by the user of a token to a spender, who may transfer the token on it as
  long as it lasts.  What is stored of an allowance is what its grant has left: no more than was
  granted can be spent since, none of it after the expiry or a revocation.  The allowance stays
  where the token goes to another user and comes back.
-/
import NovaLabs.ManageHub.TransferCalls
import NovaLabs.ManageHub.TokenCalls

namespace ManageHub

open Lib Soroban

variable {me : Address}

/-! ## Events of an allowance -/

/-- The owner of the token grants the spender an allowance. -/
def Approves (id : TokenId) (owner spender : Address) (n : ℤ) (expiresAt : Option ℕ) (ev : Ev me) :
    Prop :=
  ev.inp.call = .approve id spender n expiresAt ∧ ev.inp.ok ev.pre = true ∧
    ev.pre.state.userOf id = some owner

/-- The owner of the token grants the spender some allowance. -/
def Grants (id : TokenId) (owner spender : Address) (ev : Ev me) : Prop :=
  ∃ n expiresAt, Approves id owner spender n expiresAt ev

/-- The owner of the token revokes the allowance of the spender. -/
def Revokes (id : TokenId) (owner spender : Address) (ev : Ev me) : Prop :=
  ev.inp.call = .revokeAllowance id spender ∧ ev.inp.ok ev.pre = true ∧
    ev.pre.state.userOf id = some owner

/-- The spender transfers the owner's token, and spends `n` of the allowance. -/
def Spends (id : TokenId) (owner spender : Address) (n : ℤ) (ev : Ev me) : Prop :=
  (∃ toUser, ev.inp.call = .transferFrom id owner toUser spender n) ∧ ev.inp.ok ev.pre = true

/-- What the spender spends of the owner's allowance in an event. -/
def spentIn (id : TokenId) (owner spender : Address) (ev : Ev me) : ℤ :=
  match ev.inp.call with
  | .transferFrom tokenId owner' _ spender' amount =>
    if ev.inp.ok ev.pre = true ∧ tokenId = id ∧ owner' = owner ∧ spender' = spender then amount
    else 0
  | _ => 0

/-- What the spender spends of the owner's allowance in some events. -/
def spentAlong (id : TokenId) (owner spender : Address) (tr : List (Ev me)) : ℤ :=
  (tr.map (spentIn id owner spender)).sum

section
variable {id : TokenId} {owner spender : Address} {n : ℤ} {ev : Ev me} {tr : List (Ev me)}

theorem Spends.spentIn_eq (h : Spends id owner spender n ev) : spentIn id owner spender ev = n := by
  obtain ⟨⟨toUser, hc⟩, hok⟩ := h
  rw [spentIn, hc]
  exact if_pos ⟨hok, rfl, rfl, rfl⟩

theorem spentIn_eq_zero (h : ∀ n, ¬ Spends id owner spender n ev) :
    spentIn id owner spender ev = 0 := by
  unfold spentIn
  split
  · rename_i tokenId owner' toUser spender' amount hc
    refine if_neg ?_
    rintro ⟨hok, rfl, rfl, rfl⟩
    exact h amount ⟨⟨toUser, hc⟩, hok⟩
  · rfl

@[simp] theorem spentAlong_nil : spentAlong id owner spender ([] : List (Ev me)) = 0 := rfl

theorem spentAlong_snoc :
    spentAlong id owner spender (tr ++ [ev]) =
      spentAlong id owner spender tr + spentIn id owner spender ev := by
  simp [spentAlong]

end

/-! ## The law -/

/-- What the spender does with a grant of `n` up to `expiresAt`, in the events `tr` since. -/
structure WithinGrant (id : TokenId) (owner spender : Address) (n : ℤ) (expiresAt : Option ℕ)
    (tr : List (Ev me)) : Prop where
  amount : spentAlong id owner spender tr ≤ n
  current : ∀ tr₁ ev tr₂ m, tr = tr₁ ++ ev :: tr₂ → Spends id owner spender m ev →
    (∀ t ∈ expiresAt, ev.inp.env.now < t) ∧ (∀ e ∈ tr₁, ¬ Revokes id owner spender e) ∧
      ev.pre.state.userOf id = some owner

/-- All delegated transfers stay within the last grant of the owner. -/
structure DelegatedTransfers (tr : List (Ev me)) : Prop where
  granted : ∀ tr₁ ev tr₂ id owner spender n, tr = tr₁ ++ ev :: tr₂ →
    Spends id owner spender n ev → ∃ e ∈ tr₁, Grants id owner spender e
  within : ∀ tr₁ ev tr₂ id owner spender n expiresAt, tr = tr₁ ++ ev :: tr₂ →
    Approves id owner spender n expiresAt ev → (∀ e ∈ tr₂, ¬ Grants id owner spender e) →
      WithinGrant id owner spender n expiresAt tr₂

/-- The owner keeps the token from the last grant up to each transfer. -/
def SameOwnership (tr : List (Ev me)) : Prop :=
  ∀ tr₁ ev tr₂ e tr₃ id owner spender n, tr = tr₁ ++ ev :: (tr₂ ++ e :: tr₃) →
    Grants id owner spender ev → (∀ e ∈ tr₂, ¬ Grants id owner spender e) →
      Spends id owner spender n e → ∀ e' ∈ tr₂, e'.pre.state.userOf id = some owner

/-! ## What a call does to an allowance -/

section
variable {env : HubEnv me} {s s' : State} {u : Unit} {id id' : TokenId}
  {owner spender owner' spender' toUser : Address} {n : ℤ} {expiresAt : Option ℕ}
  {allowance : TokenAllowance}

theorem approve_allowance (h : Returns (approve env id' spender' n expiresAt) s u s')
    (hs : s'.get (.allowance id owner spender) = some allowance) :
    ((id' = id ∧ spender' = spender ∧ s.userOf id = some owner) ∧
        n = allowance.amount ∧ expiresAt = allowance.expiresAt) ∨
      (¬ (id' = id ∧ spender' = spender ∧ s.userOf id = some owner) ∧
        s.get (.allowance id owner spender) = some allowance) := by
  obtain ⟨token, hok, rfl⟩ := approve_returns.1 h
  have hu := userOf_some hok.movable.stored
  by_cases he : DataKey.allowance id owner spender = .allowance id' token.user spender'
  · cases he
    rw [get_put_self, Option.some.injEq] at hs
    subst hs
    exact Or.inl ⟨⟨rfl, rfl, hu⟩, rfl, rfl⟩
  · rw [get_put_ne he] at hs
    refine Or.inr ⟨?_, hs⟩
    rintro ⟨rfl, rfl, hu'⟩
    obtain rfl := Option.some.inj (hu'.symm.trans hu)
    exact he rfl

/-- A revocation leaves no allowance of the owner and the spender. -/
theorem revokeAllowance_allowance (h : Returns (revokeAllowance env id' spender') s u s')
    (hs : s'.get (.allowance id owner spender) = some allowance) :
    ¬ (id' = id ∧ spender' = spender ∧ s.userOf id = some owner) ∧
      s.get (.allowance id owner spender) = some allowance := by
  obtain ⟨token, ⟨-, -, ht, -⟩, rfl⟩ := revokeAllowance_returns.1 h
  have hu := userOf_some ht
  obtain ⟨he, hs⟩ := get_del_eq_some.1 hs
  refine ⟨?_, hs⟩
  rintro ⟨rfl, rfl, hu'⟩
  obtain rfl := Option.some.inj (hu'.symm.trans hu)
  exact he rfl

theorem transferFrom_allowance
    (h : Returns (transferFrom env id' owner' toUser spender' n) s u s')
    (hs : s'.get (.allowance id owner spender) = some allowance) :
    ((id' = id ∧ owner' = owner ∧ spender' = spender) ∧ ∃ before,
        s.get (.allowance id owner spender) = some before ∧
          allowance.expiresAt = before.expiresAt ∧ allowance.amount + n = before.amount) ∨
      (¬ (id' = id ∧ owner' = owner ∧ spender' = spender) ∧
        s.get (.allowance id owner spender) = some allowance) := by
  obtain ⟨token, before, hok, rfl⟩ := transferFrom_returns.1 h
  rw [get_put_ne (by simp)] at hs
  by_cases he : DataKey.allowance id owner spender = .allowance id' owner' spender'
  · cases he
    unfold State.spent at hs
    split_ifs at hs with hz
    · rw [get_del_self] at hs
      cases hs
    · rw [get_put_self, Option.some.injEq] at hs
      subst hs
      exact Or.inl ⟨⟨rfl, rfl, rfl⟩, before, hok.granted, rfl, sub_add_cancel _ _⟩
  · rw [spent_get he] at hs
    refine Or.inr ⟨?_, hs⟩
    rintro ⟨rfl, rfl, rfl⟩
    exact he rfl

theorem getAllowance_allowance {o : Option TokenAllowance}
    (h : Returns (getAllowance env id' owner' spender') s o s')
    (hs : s'.get (.allowance id owner spender) = some allowance) :
    s.get (.allowance id owner spender) = some allowance := by
  rcases getAllowance_writes h with rfl | rfl
  · exact hs
  · exact (get_del_eq_some.1 hs).2

end

section
variable {w w' : World} {i : Input me} {id : TokenId} {owner spender : Address}
  {allowance : TokenAllowance}

/-- What an allowance is after a call that is neither a grant nor a revocation of it. -/
structure Draws (id : TokenId) (owner spender : Address) (ev : Ev me)
    (before after : TokenAllowance) : Prop where
  stored : ev.pre.state.get (.allowance id owner spender) = some before
  not_grants : ¬ Grants id owner spender ev
  not_revokes : ¬ Revokes id owner spender ev
  expiresAt : after.expiresAt = before.expiresAt
  amount : after.amount + spentIn id owner spender ev = before.amount

theorem not_grants (hc : ∀ n t, i.call ≠ .approve id spender n t) :
    ¬ Grants id owner spender ⟨w, i, w'⟩ := fun ⟨n, t, hc', _⟩ => hc n t hc'

theorem not_revokes (hc : i.call ≠ .revokeAllowance id spender) :
    ¬ Revokes id owner spender ⟨w, i, w'⟩ := fun ⟨hc', _⟩ => hc hc'

theorem not_spends (hc : ∀ toUser n, i.call ≠ .transferFrom id owner toUser spender n) (n : ℤ) :
    ¬ Spends id owner spender n ⟨w, i, w'⟩ := fun ⟨⟨toUser, hc'⟩, _⟩ => hc toUser n hc'

theorem draws_of_eq (hs : w.state.get (.allowance id owner spender) = some allowance)
    (hg : ¬ Grants id owner spender ⟨w, i, w'⟩) (hr : ¬ Revokes id owner spender ⟨w, i, w'⟩)
    (hn : ∀ n, ¬ Spends id owner spender n ⟨w, i, w'⟩) :
    Draws id owner spender ⟨w, i, w'⟩ allowance allowance :=
  ⟨hs, hg, hr, rfl, by rw [spentIn_eq_zero hn, add_zero]⟩

/-- **An allowance that is stored after a call is granted by it, or is what the call leaves of the
    one before.** -/
theorem Step.allowance_cases (h : Step w i w')
    (hs : w'.state.get (.allowance id owner spender) = some allowance) :
    Approves id owner spender allowance.amount allowance.expiresAt ⟨w, i, w'⟩ ∨
      ∃ before, Draws id owner spender ⟨w, i, w'⟩ before allowance := by
  by_cases hok : i.ok w = true
  swap
  · rw [h.state_eq_of_not_ok hok] at hs
    exact Or.inr ⟨allowance, draws_of_eq hs (fun ⟨_, _, _, hok', _⟩ => hok hok')
      (fun ⟨_, hok', _⟩ => hok hok') fun _ ⟨_, hok'⟩ => hok hok'⟩
  cases hc : i.call with
  | approve id' spender' n expiresAt =>
    have hr := (h.ok_iff_returns (by rw [hc]; rfl)).1 hok
    rcases approve_allowance hr hs with ⟨⟨rfl, rfl, hu⟩, rfl, rfl⟩ | ⟨hne, hs'⟩
    · exact Or.inl ⟨hc, hok, hu⟩
    · refine Or.inr ⟨allowance, draws_of_eq hs' ?_ (not_revokes (by rw [hc]; simp))
        (not_spends (by rw [hc]; simp))⟩
      rintro ⟨n', t', hc', -, hu⟩
      cases hc.symm.trans hc'
      exact hne ⟨rfl, rfl, hu⟩
  | transferFrom id' owner' toUser spender' n =>
    have hr := (h.ok_iff_returns (by rw [hc]; rfl)).1 hok
    have hg : ¬ Grants id owner spender ⟨w, i, w'⟩ := not_grants (by rw [hc]; simp)
    have hv : ¬ Revokes id owner spender ⟨w, i, w'⟩ := not_revokes (by rw [hc]; simp)
    rcases transferFrom_allowance hr hs with ⟨⟨rfl, rfl, rfl⟩, before, hb, ht, hn⟩ | ⟨hne, hs'⟩
    · have hspent : Spends id' owner' spender' n ⟨w, i, w'⟩ := ⟨⟨toUser, hc⟩, hok⟩
      exact Or.inr ⟨before, hb, hg, hv, ht, by rw [hspent.spentIn_eq, hn]⟩
    · refine Or.inr ⟨allowance, draws_of_eq hs' hg hv ?_⟩
      rintro n' ⟨⟨toUser', hc'⟩, -⟩
      cases hc.symm.trans hc'
      exact hne ⟨rfl, rfl, rfl⟩
  | revokeAllowance id' spender' =>
    have hr := (h.ok_iff_returns (by rw [hc]; rfl)).1 hok
    obtain ⟨hne, hs'⟩ := revokeAllowance_allowance hr hs
    refine Or.inr ⟨allowance, draws_of_eq hs' (not_grants (by rw [hc]; simp)) ?_
      (not_spends (by rw [hc]; simp))⟩
    rintro ⟨hc', -, hu⟩
    cases hc.symm.trans hc'
    exact hne ⟨rfl, rfl, hu⟩
  | getAllowance id' owner' spender' =>
    obtain ⟨o, hr⟩ := returns_ignore.1 ((h.ok_iff_returns (by rw [hc]; rfl)).1 hok)
    exact Or.inr ⟨allowance, draws_of_eq (getAllowance_allowance hr hs)
      (not_grants (by rw [hc]; simp)) (not_revokes (by rw [hc]; simp))
      (not_spends (by rw [hc]; simp))⟩
  | _ =>
    refine Or.inr ⟨allowance, draws_of_eq ?_ (not_grants (by rw [hc]; simp))
      (not_revokes (by rw [hc]; simp)) (not_spends (by rw [hc]; simp))⟩
    rwa [← h.frame (by rw [hc]; simp)]

end

/-! ## Runs -/

section
variable {w₀ w w' : World} {tr : List (Ev me)} {i : Input me} {id : TokenId}
  {owner spender : Address}

/-- The allowance is what is left of the last grant of it. -/
def LeftOf (id : TokenId) (owner spender : Address) (tr : List (Ev me))
    (allowance : TokenAllowance) : Prop :=
  ∃ tr₁ ev tr₂ n, tr = tr₁ ++ ev :: tr₂ ∧ Approves id owner spender n allowance.expiresAt ev ∧
    (∀ e ∈ tr₂, ¬ Grants id owner spender e ∧ ¬ Revokes id owner spender e) ∧
      allowance.amount + spentAlong id owner spender tr₂ = n

/-- The run lemma: what is stored of an allowance is what is left of its last grant. -/
theorem leftOf_of_run (h₀ : w₀.state = ∅) (h : Run Step w₀ tr w) (allowance : TokenAllowance)
    (hs : w.state.get (.allowance id owner spender) = some allowance) :
    LeftOf id owner spender tr allowance := by
  refine h.history (P := fun tr w => ∀ allowance,
    w.state.get (.allowance id owner spender) = some allowance →
      LeftOf id owner spender tr allowance) (fun tr w i w' ih hst allowance hs => ?_) ?_ allowance hs
  · rcases hst.allowance_cases hs with hap | ⟨before, hd⟩
    · exact ⟨tr, _, [], allowance.amount, rfl, hap, fun _ he => absurd he List.not_mem_nil,
        by simp⟩
    · obtain ⟨tr₁, ev, tr₂, n, rfl, hap, hnone, hsum⟩ := ih before hd.stored
      refine ⟨tr₁, ev, tr₂ ++ [⟨w, i, w'⟩], n, by simp, hd.expiresAt ▸ hap, fun e he => ?_, ?_⟩
      · rcases List.mem_append.1 he with he | he
        · exact hnone e he
        · obtain rfl := List.mem_singleton.1 he
          exact ⟨hd.not_grants, hd.not_revokes⟩
      · rw [spentAlong_snoc, ← hsum, ← hd.amount]
        omega
  · intro allowance hs
    rw [h₀] at hs
    cases hs

/-- What is spent is there. -/
theorem Step.spends (h : Step w i w') {m : ℤ} (hs : Spends id owner spender m ⟨w, i, w'⟩) :
    w.state.userOf id = some owner ∧ ∃ allowance,
      w.state.get (.allowance id owner spender) = some allowance ∧
        (∀ t ∈ allowance.expiresAt, i.env.now < t) ∧ m ≤ allowance.amount := by
  obtain ⟨⟨toUser, hc⟩, hok⟩ := hs
  obtain ⟨token, allowance, hsp, -⟩ :=
    transferFrom_returns.1 ((h.ok_iff_returns (by rw [show i.call = _ from hc]; rfl)).1 hok)
  refine ⟨?_, allowance, hsp.granted, fun t ht => ?_, hsp.covered⟩
  · rw [userOf_some hsp.movable.stored, hsp.owned]
  · have hx := hsp.current
    rw [TokenAllowance.isExpired, Option.any_eq_false] at hx
    simpa using hx t ht

theorem Step.approves_pos (h : Step w i w') {n : ℤ} {expiresAt : Option ℕ}
    (ha : Approves id owner spender n expiresAt ⟨w, i, w'⟩) : 0 < n := by
  obtain ⟨hc, hok, -⟩ := ha
  obtain ⟨token, happ, -⟩ :=
    approve_returns.1 ((h.ok_iff_returns (by rw [show i.call = _ from hc]; rfl)).1 hok)
  exact happ.amount

/-- A transfer spends what is left of the last grant. -/
theorem left_of_spends {tr₁ tr₂ tr₃ : List (Ev me)} {ev e : Ev me} {n m : ℤ}
    {expiresAt : Option ℕ} (h₀ : w₀.state = ∅)
    (h : Run Step w₀ (tr₁ ++ ev :: (tr₂ ++ e :: tr₃)) w)
    (ha : Approves id owner spender n expiresAt ev) (hl : ∀ x ∈ tr₂, ¬ Grants id owner spender x)
    (hs : Spends id owner spender m e) :
    spentAlong id owner spender tr₂ + m ≤ n ∧ (∀ t ∈ expiresAt, e.inp.env.now < t) ∧
      (∀ x ∈ tr₂, ¬ Revokes id owner spender x) ∧ e.pre.state.userOf id = some owner := by
  have hrun : Run Step w₀ ((tr₁ ++ ev :: tr₂) ++ e :: tr₃) w := by simpa using h
  obtain ⟨hu, allowance, hst, ht, hm⟩ := hrun.split.2.1.spends hs
  obtain ⟨tr₁', ev', tr₂', n', heq, ha', hl', hsum⟩ := leftOf_of_run h₀ hrun.split.1 allowance hst
  obtain ⟨rfl, rfl, rfl⟩ := append_cons_last_unique (P := Grants id owner spender) rfl heq
    ⟨_, _, ha⟩ ⟨_, _, ha'⟩ hl fun x hx => (hl' x hx).1
  cases ha.1.symm.trans ha'.1
  exact ⟨by omega, ht, fun x hx => (hl' x hx).2, hu⟩

/-- No more than the grant is spent of it. -/
theorem spentAlong_le {tr₁ tr₂ : List (Ev me)} {ev : Ev me} {n : ℤ} {expiresAt : Option ℕ}
    (h₀ : w₀.state = ∅) (h : Run Step w₀ (tr₁ ++ ev :: tr₂) w)
    (ha : Approves id owner spender n expiresAt ev)
    (hl : ∀ x ∈ tr₂, ¬ Grants id owner spender x) : spentAlong id owner spender tr₂ ≤ n := by
  induction tr₂ using List.reverseRecOn generalizing w with
  | nil => exact (h.split.2.1.approves_pos ha).le
  | append_singleton tr₂ e ih =>
    have hl' : ∀ x ∈ tr₂, ¬ Grants id owner spender x :=
      fun x hx => hl x (List.mem_append_left _ hx)
    rw [spentAlong_snoc]
    by_cases hs : ∃ m, Spends id owner spender m e
    · obtain ⟨m, hs⟩ := hs
      rw [hs.spentIn_eq]
      exact (left_of_spends h₀ h ha hl' hs).1
    · rw [spentIn_eq_zero (not_exists.1 hs), add_zero]
      have hrun : Run Step w₀ ((tr₁ ++ ev :: tr₂) ++ e :: []) w := by simpa using h
      exact ih hrun.split.1 hl'

end

/-- **No more than the amount granted last is spent in delegated transfers of a token, none of it at
    the expiry or later or after a revocation, and only while the token is the owner's.** -/
theorem delegated_transfers {w₀ w : World} {tr : List (Ev me)} (h₀ : w₀.state = ∅)
    (h : Run Step w₀ tr w) : DelegatedTransfers tr := by
  constructor
  · rintro tr₁ ev tr₂ id owner spender n rfl hs
    obtain ⟨-, allowance, hst, -⟩ := h.split.2.1.spends hs
    obtain ⟨tr₁, ev', tr₂', n', rfl, ha, -⟩ := leftOf_of_run h₀ h.split.1 allowance hst
    exact ⟨ev', by simp, _, _, ha⟩
  · rintro tr₁ ev tr₂ id owner spender n expiresAt rfl ha hl
    refine ⟨spentAlong_le h₀ h ha hl, ?_⟩
    rintro l₁ e l₂ m rfl hs
    exact (left_of_spends h₀ h ha (fun x hx => hl x (List.mem_append_left _ hx)) hs).2

/-- `⟨2⟩` approves `⟨4⟩`, that spends a part of the allowance without a transfer to another user,
    and the rest for one. -/
def delegateCalls : List (Input ⟨0⟩) :=
  issueCalls ++ [hubCall 3 (.approve 1 ⟨4⟩ 1000 (some 100)),
    hubCall 4 (.transferFrom 1 ⟨2⟩ ⟨2⟩ ⟨4⟩ 300), hubCall 5 (.transferFrom 1 ⟨2⟩ ⟨3⟩ ⟨4⟩ 700)]

theorem delegated_transfers_spent :
    DelegatedTransfers (eventsFrom next start delegateCalls) ∧
      (delegateCalls.foldl next start).state.userOf 1 = some ⟨3⟩ :=
  ⟨delegated_transfers rfl (run_calls delegateCalls (by decide)), by decide⟩

/-- `⟨2⟩` approves `⟨4⟩`, and transfers the token to `⟨3⟩`, from which it gets it back: the allowance
    is still there. -/
theorem delegated_after_return : ¬ ∀ (tr : List (Ev ⟨0⟩)) (w : World), Run Step start tr w →
    DelegatedTransfers tr ∧ SameOwnership tr := by
  intro h
  have hso := (h _ _ (run_calls (issueCalls ++ [hubCall 3 (.approve 1 ⟨4⟩ 1000 none),
    hubCall 4 (.transferToken 1 ⟨3⟩), hubCall 5 (.transferToken 1 ⟨2⟩),
    hubCall 6 (.transferFrom 1 ⟨2⟩ ⟨4⟩ ⟨4⟩ 300)]) (by decide))).2
  have hu := hso [_, _] _ [_, _] _ [] 1 ⟨2⟩ ⟨4⟩ 300 rfl ⟨1000, none, rfl, by decide, by decide⟩
    (List.forall_mem_cons.2 ⟨not_grants fun _ _ => nofun, List.forall_mem_singleton.2
      (not_grants fun _ _ => nofun)⟩) ⟨⟨⟨4⟩, rfl⟩, by decide⟩ _ (.tail _ (.head _))
  exact absurd hu (by decide)

end ManageHub
