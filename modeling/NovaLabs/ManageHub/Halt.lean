/-
  What the pauses halt, over whole runs.

  The pause of the contract and that of a token are to halt what creates, transfers and renews
  tokens, and the latter what writes metadata as well.  The recombination of fractions, the
  automatic renewal and the metadata calls look up no pause.
-/
import NovaLabs.ManageHub.MetadataCalls
import NovaLabs.ManageHub.TokenCalls

namespace ManageHub

open Lib Soroban

variable {me : Address}

/-! ## The law -/

/-- A manual or automatic renewal. -/
def Call.IsRenewal (c : Call) : Prop :=
  (∃ id paymentToken tierId cycle, c = .renewToken id paymentToken tierId cycle) ∨
    ∃ id, c = .processAutoRenewal id

/-- The event respects the pauses that were in effect before it. -/
structure Halted (ev : Ev me) : Prop where
  /-- no token is created, and none changes its user -/
  users : ∀ id, isContractPaused ev.pre.state ev.inp.env.now = true →
    ev.post.state.userOf id = ev.pre.state.userOf id
  tokenUsers : ∀ id user, isTokenPaused ev.pre.state id = true →
    ev.pre.state.userOf id = some user → ev.post.state.userOf id = some user
  renewals : ∀ id, isContractPaused ev.pre.state ev.inp.env.now = true ∨
    isTokenPaused ev.pre.state id = true → ev.inp.call.IsRenewal →
    ¬ Extends ev.pre.state ev.post.state id
  metadata : ∀ id, isTokenPaused ev.pre.state id = true →
    ev.post.state.get (.metadata id) = ev.pre.state.get (.metadata id)

/-- The call recombines the shares of the token, for another user than before. -/
def Recombines (env : HubEnv me) (s : State) (id : TokenId) (c : Call) : Prop :=
  ∃ holder info shares token, c = .recombineFractions id holder ∧
    Recombinable env s id holder info shares token ∧ token.user ≠ holder

/-- The call renews the token automatically. -/
def AutoRenews (env : HubEnv me) (s : State) (id : TokenId) (c : Call) : Prop :=
  ∃ token settings tierId tier, c = .processAutoRenewal id ∧
    AutoRenewable env s id token settings tierId tier

/-- The event is none of the calls that go through although a pause is in effect. -/
structure Heeds (ev : Ev me) : Prop where
  recombine : ∀ id, isContractPaused ev.pre.state ev.inp.env.now = true ∨
    isTokenPaused ev.pre.state id = true → ¬ Recombines ev.inp.env ev.pre.state id ev.inp.call
  renew : ∀ id, isContractPaused ev.pre.state ev.inp.env.now = true ∨
    isTokenPaused ev.pre.state id = true → ¬ AutoRenews ev.inp.env ev.pre.state id ev.inp.call
  metadata : ∀ id, isTokenPaused ev.pre.state id = true →
    ¬ WritesMetadata ev.inp.env ev.pre.state id ev.inp.call

/-! ## Steps -/

section
variable {w w' : World} {i : Input me} {id : TokenId}

theorem OpsPaused.of_stored {env : HubEnv me} {s : State} {token : MembershipToken}
    (hp : isContractPaused s env.now = true ∨ isTokenPaused s id = true)
    (ht : s.get (.token id) = some token) : OpsPaused env s id :=
  hp.imp_right fun h => ⟨h, by rw [ht, Option.isSome_some]⟩

/-- While a pause is in effect, only a recombination changes the user. -/
theorem Step.userOf_of_paused (h : Step w i w') (hp : OpsPaused i.env w.state id)
    (hne : ∀ tokenId holder, i.call ≠ .recombineFractions tokenId holder) :
    w'.state.userOf id = w.state.userOf id := by
  have hof {x : Fn Unit} (he : entryPoint i.env i.call = liftM x)
      (hx : ∀ s', Returns x w.state () s' → s'.userOf id = w.state.userOf id) :
      w'.state.userOf id = w.state.userOf id := h.of_returns he (P := (·.userOf id = _)) rfl hx
  cases hc : i.call with
  | recombineFractions tokenId holder => exact absurd hc (hne tokenId holder)
  | issueToken tokenId user t =>
    exact hof (by rw [hc]; rfl) fun s' hr => userOf_congr (issueToken_paused hp hr)
  | batchMint params =>
    exact hof (by rw [hc]; rfl) fun s' hr => userOf_congr (batchMint_paused hp hr)
  | transferToken tokenId newUser =>
    exact hof (by rw [hc]; rfl) fun s' hr => userOf_congr (transferToken_paused hp hr)
  | batchTransfer params =>
    exact hof (by rw [hc]; rfl) fun s' hr => userOf_congr (batchTransfer_paused hp hr)
  | transferTokenWithRoyalty tokenId newUser salePrice =>
    exact hof (by rw [hc]; rfl) fun s' hr => userOf_congr (transferTokenWithRoyalty_paused hp hr)
  | transferFrom tokenId owner toUser spender amount =>
    exact hof (by rw [hc]; rfl) fun s' hr => userOf_congr (transferFrom_paused hp hr)
  | _ => exact h.sameUsers (by rw [hc]; rfl) id

theorem Step.userOf_iff (h : Step w i w') (hp : OpsPaused i.env w.state id) :
    w'.state.userOf id ≠ w.state.userOf id ↔ Recombines i.env w.state id i.call := by
  by_cases hc : ∃ tokenId holder, i.call = .recombineFractions tokenId holder
  · obtain ⟨tokenId, holder, hc⟩ := hc
    have hiff := h.effect_iff (x := recombineFractions i.env tokenId holder) (by rw [hc]; rfl)
      (·.userOf id ≠ w.state.userOf id) (q := id = tokenId ∧ some holder ≠ w.state.userOf id)
      (not_not.2 rfl) recombineFractions_passes fun s' hr => by
        rw [recombineFractions_users hr]
        by_cases he : id = tokenId <;> simp [he]
    rw [hiff]
    constructor
    · rintro ⟨⟨rfl, hne⟩, info, shares, token, hok⟩
      refine ⟨holder, info, shares, token, hc, hok, fun he => hne ?_⟩
      rw [userOf_some hok.stored, he]
    · rintro ⟨holder', info, shares, token, he, hok, hne⟩
      rw [hc] at he
      cases he
      refine ⟨⟨rfl, fun hu => hne ?_⟩, info, shares, token, hok⟩
      rw [userOf_some hok.stored] at hu
      exact (Option.some.inj hu).symm
  · refine iff_of_false (not_not.2 (h.userOf_of_paused hp fun tokenId holder he =>
      hc ⟨tokenId, holder, he⟩)) ?_
    rintro ⟨holder, _, _, _, he, -⟩
    exact hc ⟨id, holder, he⟩

/-- While a pause is in effect, only the automatic renewal makes the token valid for longer. -/
theorem Step.extends_iff (h : Step w i w') (hp : OpsPaused i.env w.state id)
    (hc : i.call.IsRenewal) :
    Extends w.state w'.state id ↔ AutoRenews i.env w.state id i.call := by
  have hn : ¬ Extends w.state w.state id := not_extends rfl
  rcases hc with ⟨tokenId, paymentToken, tierId, cycle, hc⟩ | ⟨tokenId, hc⟩
  · refine iff_of_false ?_ fun ⟨_, _, _, _, he, _⟩ => by rw [hc] at he; cases he
    exact h.of_returns (x := renewToken i.env tokenId paymentToken tierId cycle) (by rw [hc]; rfl)
      (P := fun s' => ¬ Extends w.state s' id) hn fun s' hr =>
        not_extends (renewToken_paused hp hr)
  · have hiff := h.effect_iff (x := processAutoRenewal i.env tokenId) (by rw [hc]; rfl)
      (Extends w.state · id) (q := id = tokenId) hn processAutoRenewal_passes fun s' hr => by
        constructor
        · exact fun hext => by_contra fun hne => not_extends (processAutoRenewal_others hr hne) hext
        · rintro rfl
          exact processAutoRenewal_extends hr
    rw [hiff]
    constructor
    · rintro ⟨rfl, token, settings, tierId, tier, hok⟩
      exact ⟨token, settings, tierId, tier, hc, hok⟩
    · rintro ⟨token, settings, tierId, tier, he, hok⟩
      rw [hc] at he
      cases he
      exact ⟨rfl, token, settings, tierId, tier, hok⟩

/-- The step lemma: a step respects the pauses exactly if it is none of the calls that go through
    although one is in effect. -/
theorem Step.halted (h : Step w i w') : Halted ⟨w, i, w'⟩ ↔ Heeds ⟨w, i, w'⟩ := by
  constructor
  · intro hl
    refine ⟨fun id hp hrec => ?_, fun id hp hren => ?_, fun id hp hw =>
      h.metadata_iff.2 hw (hl.metadata id hp)⟩
    · have hcall := hrec
      obtain ⟨_, _, _, token, _, hok, _⟩ := hcall
      have hne := (h.userOf_iff (.of_stored hp hok.stored)).2 hrec
      have hu : w.state.userOf id = some token.user := by
        rw [State.userOf, hok.stored, Option.map_some]
      rcases hp with hp | hp
      · exact hne (hl.users id hp)
      · exact hne ((hl.tokenUsers id _ hp hu).trans hu.symm)
    · have hcall := hren
      obtain ⟨_, _, _, _, hc, hok⟩ := hcall
      have hext := (h.extends_iff (.of_stored hp hok.stored) (Or.inr ⟨id, hc⟩)).2 hren
      exact hl.renewals id hp (Or.inr ⟨id, hc⟩) hext
  · intro hh
    refine ⟨fun id hp => ?_, fun id user hp hu => ?_, fun id hp hc hext => ?_, fun id hp => ?_⟩
    · by_contra hne
      exact hh.recombine id (Or.inl hp) ((h.userOf_iff (Or.inl hp)).1 hne)
    · by_contra hne
      obtain ⟨token, ht, -⟩ := Option.map_eq_some_iff.1 hu
      exact hh.recombine id (Or.inr hp)
        ((h.userOf_iff (.of_stored (Or.inr hp) ht)).1 fun he => hne (he.trans hu))
    · have hstored := hext
      obtain ⟨token, _, ht, _⟩ := hstored
      exact hh.renew id hp ((h.extends_iff (.of_stored hp ht) hc).1 hext)
    · by_contra hne
      exact hh.metadata id hp (h.metadata_iff.1 hne)

end

/-! ## Runs -/

/-- **All calls of a run respect the pauses in effect exactly if none of them is a recombination, an
    automatic renewal or a metadata call that goes through although one is in effect.** -/
theorem halted_iff {w₀ w : World} {tr : List (Ev me)} (h : Run Step w₀ tr w) :
    (∀ ev ∈ tr, Halted ev) ↔ ∀ ev ∈ tr, Heeds ev :=
  forall₂_congr fun _ hev => (h.step_of_mem hev).halted

/-- Other calls than those that do not look up the pauses. -/
theorem heeds_of_call {ev : Ev me} (hw : Kind.metadata ∉ ev.inp.call.writes)
    (hrec : ∀ id holder, ev.inp.call ≠ .recombineFractions id holder)
    (hren : ∀ id, ev.inp.call ≠ .processAutoRenewal id) : Heeds ev where
  recombine id _ := by
    rintro ⟨holder, _, _, _, hc, -⟩
    exact hrec id holder hc
  renew id _ := by
    rintro ⟨_, _, _, _, hc, -⟩
    exact hren id hc
  metadata id _ hm := by
    cases hc : ev.inp.call with
    | setTokenMetadata | batchUpdate | updateTokenMetadata | removeMetadataAttributes =>
      rw [hc] at hw
      exact hw (.head _)
    | _ =>
      rw [hc] at hm
      exact hm

/-- Then the contract is paused, and `⟨2⟩` tries to transfer the token. -/
def transferCalls : List (Input ⟨0⟩) :=
  issueCalls ++ [hubCall 3 (.emergencyPause ⟨1⟩ none none none), hubCall 4 (.transferToken 1 ⟨3⟩)]

theorem transferCalls_heeds : ∀ ev ∈ eventsFrom next start transferCalls, Heeds ev := by
  intro ev hev
  have hi := inp_mem_of_eventsFrom hev
  simp only [transferCalls, issueCalls, List.cons_append, List.nil_append, List.mem_cons,
    List.not_mem_nil, or_false] at hi
  rcases hi with hi | hi | hi | hi <;> exact heeds_of_call (by rw [hi]; decide)
    (by rw [hi]; exact fun _ _ he => by cases he) (by rw [hi]; exact fun _ he => by cases he)

/-- The transfer is refused. -/
theorem halted_iff_refused : ∃ ev ∈ eventsFrom next start transferCalls,
    isContractPaused ev.pre.state ev.inp.env.now = true ∧ Halted ev :=
  ⟨_, .tail _ (.tail _ (.tail _ (.head _))), by decide,
    (halted_iff (run_calls transferCalls (by decide))).2 transferCalls_heeds _
      (.tail _ (.tail _ (.tail _ (.head _))))⟩

/-- While the contract is paused, the holder of all shares becomes the user of the token. -/
theorem halted_fails : ¬ ∀ (tr : List (Ev ⟨0⟩)) (w : World), Run Step start tr w →
    ∀ ev ∈ tr, Halted ev := by
  intro h
  have hl := h _ _ (run_calls (issueCalls ++ [hubCall 3 (.fractionalizeToken 1 100 1),
    hubCall 4 (.transferFraction 1 ⟨2⟩ ⟨3⟩ 100), hubCall 5 (.emergencyPause ⟨1⟩ none none none),
    hubCall 6 (.recombineFractions 1 ⟨3⟩)]) (by decide)) _
    (.tail _ (.tail _ (.tail _ (.tail _ (.tail _ (.head _))))))
  exact absurd (hl.users 1 (by decide)) (by decide)

end ManageHub
