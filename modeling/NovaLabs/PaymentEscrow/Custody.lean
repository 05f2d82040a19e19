/-
  Custody in payment_escrow over whole runs, with tokens that move exactly what is asked for or
  fail, and do not call back.

  A world is the contract's storage and the ledger of all balances.  `Effect` lists what a step can
  do to both; the invariant `Backed` and the claims on single steps follow from it by cases.
-/
import NovaLabs.Lib.Run
import NovaLabs.PaymentEscrow.Calls
import Mathlib.Tactic.Ring
import Mathlib.Tactic.Linarith

namespace PaymentEscrow

open Lib Soroban

/-! ## Worlds and steps -/

abbrev World := State × Ledger

/-- A call of the contract, with the transfers the tokens accept during it; or a movement of funds
    without the contract. -/
inductive Input (me : Address) where
  | call (env : Env me) (c : Call) (accepts : Transfer → Ledger → Bool)
  | outside (l : Ledger)

/-- Without the contract's authorisation its balances do not go down. -/
inductive Steps (me : Address) : World → Input me → World → Prop
  | call (w : World) (env : Env me) (c : Call) (accepts : Transfer → Ledger → Bool) :
      Steps me w (.call env c accepts) (commitIn (exactTokens accepts) (entryPoint env c) w.1 w.2)
  | outside (w : World) (l : Ledger) :
      (∀ token, w.2 token me ≤ l token me) → Steps me w (.outside l) (w.1, l)

variable {me : Address}

/-- The event is a successful call that pays out the escrow `id`. -/
def PaysFor (ev : Event World (Input me)) (id : String) : Prop :=
  ∃ env c accepts p, ev.inp = .call env c accepts ∧ c.payout = some (id, p) ∧
    ((entryPoint env c ev.pre.1).run (exactTokens accepts) ev.pre.2).isSome

/-- What a step does to the records and the ledger. -/
inductive Effect (me : Address) (w : World) (i : Input me) (w' : World) : Prop
  | idle : w'.1.escrows = w.1.escrows → (∀ token, w.2 token me ≤ w'.2 token me) →
      (∀ id, ¬ PaysFor ⟨w, i, w'⟩ id) → Effect me w i w'
  | dispute {env caller id accepts e} : i = .call env (.raiseDispute caller id) accepts →
      w.1.escrows.lookup id = some e → e.status = .pending →
      w'.1.escrows = w.1.escrows.insert e.id (e.dispute env.now) → w'.2 = w.2 → Effect me w i w'
  | create {env c accepts e} : i = .call env c accepts → c.payout = none → e.depositor ≠ me →
      0 < e.amount → w.1.escrows.lookup e.id = none → e.status = .pending →
      w'.1.escrows = w.1.escrows.insert e.id e →
      w'.2 = w.2.move ⟨e.paymentToken, e.depositor, me, e.amount⟩ → Effect me w i w'
  | pay {env c accepts id p e} : i = .call env c accepts → PaysFor ⟨w, i, w'⟩ id →
      c.payout = some (id, p) → (∀ caller b, c = .resolveDispute caller id b →
        w.1.admin = some caller ∧ caller ∈ env.auths) →
      w.1.escrows.lookup id = some e → e.status = p.before →
      w'.1.escrows = w.1.escrows.insert e.id (e.settle p.after env.now) →
      w'.2 = w.2.move ⟨e.paymentToken, me, e.recipient p.after, e.amount⟩ → Effect me w i w'

theorem not_paysFor_of_payout {w w' : World} {env : Env me} {c accepts} (h : c.payout = none)
    (id : String) : ¬ PaysFor ⟨w, .call env c accepts, w'⟩ id := by
  rintro ⟨_, _, _, p, hi, hp, -⟩
  cases hi
  rw [h] at hp; cases hp

/-- A step does one of the four things of `Effect`. -/
theorem Steps.effect {w w' : World} {i : Input me} (h : Steps me w i w') : Effect me w i w' := by
  cases h with
  | outside _ hl => exact .idle rfl hl fun id ⟨_, _, _, _, hi, _⟩ => by cases hi
  | call env c accepts =>
    rcases commitIn_cases (exactTokens accepts) (entryPoint env c) w.1 w.2 with
      ⟨hr, hw⟩ | ⟨_, s', hf, hw⟩ | ⟨q, s₁, k, l₁, _, s', l', hc, hq, hk, hw⟩ <;> rw [hw]
    · refine .idle rfl (fun _ => le_rfl) fun id ⟨_, _, _, _, hi, _, hs⟩ => ?_
      cases hi
      rw [hr] at hs; cases hs
    · cases finishes_cases hf with
      | config hp he => exact .idle he (fun _ => le_rfl) (not_paysFor_of_payout hp)
      | dispute he hs => exact .dispute rfl he hs rfl rfl
    · obtain ⟨-, rfl⟩ := exactTokens_eq_some hq
      rcases callsOut_cases hc with ⟨e, hce⟩ | ⟨id, p, e, hp⟩
      · rw [hce.rest, Act.run] at hk
        cases hk
        refine .create rfl (by rw [hce.call]; rfl) ?_ hce.pos hce.fresh hce.pending ?_ ?_
        · exact fun hd => env.me_notMem (hd ▸ hce.auth)
        · simp [hce.locked]
        · rw [hce.req]
      · rw [hp.rest, Act.run] at hk
        cases hk
        refine .pay rfl ⟨env, c, accepts, p, rfl, hp.payout, ?_⟩ hp.payout ?_ hp.stored hp.status ?_ ?_
        · change (Act.run _ (entryPoint env c w.1) _).isSome
          rw [show entryPoint env c w.1 = _ from hc]
          simp only [Act.run, hq, Option.bind_some, hp.rest, Option.isSome_some]
        · rintro caller b rfl; exact hp.admitted
        · simp [hp.locked, Escrow.settle]
        · rw [hp.req]

/-- A step that pays for an escrow settles it, with the one transfer the settlement asks for. -/
theorem Steps.pays {ev : Event World (Input me)} (h : Steps me ev.pre ev.inp ev.post) {id : String}
    (hp : PaysFor ev id) :
    ∃ (e : Escrow) (p : Payout) (now : ℕ), e.status = p.before ∧ p.before.Held ∧ ¬ p.after.Held ∧
      ev.pre.1.escrows.lookup id = some e ∧
      ev.post.1.escrows = ev.pre.1.escrows.insert e.id (e.settle p.after now) ∧
      ev.post.2 = ev.pre.2.move ⟨e.paymentToken, me, e.recipient p.after, e.amount⟩ := by
  obtain ⟨w, i, w'⟩ := ev
  have hp' := hp
  obtain ⟨_, _, _, _, rfl, hc, -⟩ := hp'
  cases h.effect with
  | idle _ _ hn => exact absurd hp (hn id)
  | dispute hi => cases hi; cases hc
  | create hi hn => cases hi; rw [hn] at hc; cases hc
  | @pay _ _ _ _ _ e hi _ hpay _ hs hb he hl =>
    cases hi
    rw [hpay] at hc; cases hc
    obtain ⟨h1, h2, -⟩ := payout_spec hpay
    exact ⟨e, _, _, hb, h1, h2, hs, he, hl⟩

/-! ## The invariant -/

/-- The amount held in `token` for an escrow. -/
def heldIn (token : Address) (_ : String) (e : Escrow) : ℤ :=
  if e.paymentToken = token ∧ e.status.Held then e.amount else 0

/-- Records are stored under their ids, with positive amounts, and the contract's balances cover
    what is held. -/
structure Backed (me : Address) (w : World) : Prop where
  keyed : ∀ id e, w.1.escrows.lookup id = some e → e.id = id
  pos : ∀ id e, w.1.escrows.lookup id = some e → 0 < e.amount
  covered : ∀ token, Store.total w.1.escrows (heldIn token) ≤ w.2 token me

theorem heldIn_settle (token : Address) (id : String) (e : Escrow) {st : EscrowStatus} (now : ℕ)
    (h : ¬ st.Held) : heldIn token id (e.settle st now) = 0 := by
  simp [heldIn, Escrow.settle, h]

theorem heldIn_of_held {token : Address} (id : String) {e : Escrow} (h : e.status.Held) :
    heldIn token id e = if e.paymentToken = token then e.amount else 0 := by
  simp [heldIn, h]

theorem lookup_insert_cases {s : Store String Escrow} {id k : String} {v e : Escrow}
    (h : (s.insert k v).lookup id = some e) : (id = k ∧ e = v) ∨ (id ≠ k ∧ s.lookup id = some e) := by
  rw [Store.lookup_insert_ite] at h
  split_ifs at h with hk
  · exact Or.inl ⟨hk, (Option.some.inj h).symm⟩
  · exact Or.inr ⟨hk, h⟩

/-- Where a record of a positive amount is put under its id, it is left to show that what is held is
    covered. -/
theorem Backed.insert {w w' : World} {e : Escrow} (hb : Backed me w) (ha : 0 < e.amount)
    (he : w'.1.escrows = w.1.escrows.insert e.id e)
    (hcovered : ∀ token, Store.total (w.1.escrows.insert e.id e) (heldIn token) ≤ w'.2 token me) :
    Backed me w' := by
  refine ⟨fun id' e' hs => ?_, fun id' e' hs => ?_, he ▸ hcovered⟩
  · rw [he] at hs
    rcases lookup_insert_cases hs with ⟨rfl, rfl⟩ | ⟨-, hs⟩
    · rfl
    · exact hb.keyed id' e' hs
  · rw [he] at hs
    rcases lookup_insert_cases hs with ⟨rfl, rfl⟩ | ⟨-, hs⟩
    · exact ha
    · exact hb.pos id' e' hs

/-- The step lemma of custody. -/
theorem Steps.backed {w w' : World} {i : Input me} (h : Steps me w i w') (hb : Backed me w) :
    Backed me w' := by
  cases h.effect with
  | idle he hl _ =>
    exact ⟨fun id e hs => hb.keyed id e (he ▸ hs), fun id e hs => hb.pos id e (he ▸ hs),
      fun token => by rw [he]; exact (hb.covered token).trans (hl token)⟩
  | @dispute env _ id _ e _ hs hp he hl =>
    have hid := hb.keyed id e hs
    refine hb.insert (e := e.dispute env.now) (hb.pos id e hs) he fun token => ?_
    have ht := Store.total_insert_old (hid ▸ hs) (e.dispute env.now) (heldIn token)
    have h1 : heldIn token e.id (e.dispute env.now) = heldIn token e.id e := by
      rw [heldIn_of_held _ (Or.inr rfl), heldIn_of_held _ (Or.inl hp)]; rfl
    change Store.total (w.1.escrows.insert e.id (e.dispute env.now)) _ ≤ _
    rw [hl]
    linarith [hb.covered token]
  | @create env _ _ e _ _ hd ha hf hp he hl =>
    refine hb.insert ha he fun token => ?_
    have ht := Store.total_insert_new hf e (heldIn token)
    rw [heldIn_of_held _ (Or.inl hp)] at ht
    rw [hl, ht, Ledger.move, gain_deposit hd]
    linarith [hb.covered token]
  | @pay env _ _ id p e _ _ hpay _ hs hst he hl =>
    have hid := hb.keyed id e hs
    obtain ⟨h1, h2, -⟩ := payout_spec hpay
    refine hb.insert (e := e.settle p.after env.now) (hb.pos id e hs) he fun token => ?_
    have ht := Store.total_insert_old (hid ▸ hs) (e.settle p.after env.now) (heldIn token)
    rw [heldIn_settle _ _ _ _ h2, heldIn_of_held _ (hst ▸ h1)] at ht
    have hg := gain_payout token e.paymentToken (e.recipient p.after) me (hb.pos id e hs).le
    change Store.total (w.1.escrows.insert e.id (e.settle p.after env.now)) _ ≤ _
    rw [hl, Ledger.move]
    linarith [hb.covered token]

/-! ## The life of one record -/

/-- What a step does to the record `e`. -/
inductive RecordStep (w : World) (i : Input me) (id : String) (e : Escrow) : Escrow → Prop
  | same : RecordStep w i id e e
  | dispute (now : ℕ) : e.status = .pending → RecordStep w i id e (e.dispute now)
  | settle (st : EscrowStatus) (now : ℕ) : e.status.Held → ¬ st.Held →
      (e.status = .disputed → ∃ env caller b accepts,
        i = .call env (.resolveDispute caller id b) accepts ∧ w.1.admin = some caller ∧
          caller ∈ env.auths) → RecordStep w i id e (e.settle st now)

theorem RecordStep.sameTerms {w : World} {i : Input me} {id : String} {e e' : Escrow}
    (h : RecordStep w i id e e') : e.SameTerms e' := by
  cases h with
  | same => exact .refl e
  | dispute now _ => exact e.sameTerms_dispute now
  | settle st now => exact e.sameTerms_settle st now

theorem RecordStep.final {w : World} {i : Input me} {id : String} {e e' : Escrow}
    (h : RecordStep w i id e e') (hf : ¬ e.status.Held) : e' = e := by
  cases h with
  | same => rfl
  | dispute _ hp => exact absurd (Or.inl hp) hf
  | settle _ _ hh => exact absurd hh hf

theorem Steps.record {w w' : World} {i : Input me} (h : Steps me w i w') (hb : Backed me w)
    {id : String} {e : Escrow} (hs : w.1.escrows.lookup id = some e) :
    ∃ e', w'.1.escrows.lookup id = some e' ∧ RecordStep w i id e e' := by
  cases h.effect with
  | idle he _ _ => exact ⟨e, he ▸ hs, .same⟩
  | @dispute env _ id₁ _ e₁ _ hs₁ hp he hl =>
    rw [he, Store.lookup_insert_ite, hb.keyed id₁ e₁ hs₁]
    split_ifs with hid
    · subst hid
      rw [hs₁] at hs; cases hs
      exact ⟨_, rfl, .dispute _ hp⟩
    · exact ⟨e, hs, .same⟩
  | @create _ _ _ e₁ _ _ _ _ hf _ he _ =>
    rw [he, Store.lookup_insert_ite]
    split_ifs with hid
    · rw [hid, hf] at hs; cases hs
    · exact ⟨e, hs, .same⟩
  | @pay env _ _ id₁ p e₁ hi _ hpay hadm hs₁ hst he hl =>
    rw [he, Store.lookup_insert_ite, hb.keyed id₁ e₁ hs₁]
    split_ifs with hid
    · subst hid
      rw [hs₁] at hs; cases hs
      obtain ⟨h1, h2, h3, -⟩ := payout_spec hpay
      refine ⟨_, rfl, .settle _ _ (hst ▸ h1) h2 fun hd => ?_⟩
      obtain ⟨caller, b, rfl⟩ := h3 (hst ▸ hd)
      obtain ⟨ha, hu⟩ := hadm caller b rfl
      exact ⟨_, caller, b, _, hi, ha, hu⟩
    · exact ⟨e, hs, .same⟩

/-- Only payouts lower a balance of the contract. -/
theorem Steps.outflow {w w' : World} {i : Input me} (h : Steps me w i w') {token : Address}
    (hlt : w'.2 token me < w.2 token me) : ∃ id, PaysFor ⟨w, i, w'⟩ id := by
  cases h.effect with
  | idle _ hl _ => exact absurd (hl token) (not_le.2 hlt)
  | dispute _ _ _ _ hl => rw [hl] at hlt; exact absurd hlt (lt_irrefl _)
  | @create _ _ _ e _ _ hd ha _ _ _ hl =>
    rw [hl, Ledger.move, gain_deposit hd] at hlt
    split_ifs at hlt <;> linarith
  | pay _ hp => exact ⟨_, hp⟩

/-! ## Runs -/

/-- Custody along the run `tr` that ends in `w`. -/
structure Custody (me : Address) (tr : List (Event World (Input me))) (w : World) : Prop where
  /-- the balances cover what is held -/
  covered : ∀ token, Store.total w.1.escrows (heldIn token) ≤ w.2 token me
  /-- a payout settles its escrow and moves exactly its amount to whom the new status says -/
  payout : ∀ ev ∈ tr, ∀ id, PaysFor ev id → ∃ (e : Escrow) (st : EscrowStatus) (now : ℕ),
    ev.pre.1.escrows.lookup id = some e ∧ e.status.Held ∧ (st = .released ∨ st = .refunded) ∧
      ev.post.1.escrows.lookup id = some (e.settle st now) ∧
      ev.post.2 = ev.pre.2.move ⟨e.paymentToken, me, e.recipient st, e.amount⟩
  /-- at most one call pays an escrow out -/
  once : ∀ tr₁ ev tr₂ id, tr = tr₁ ++ ev :: tr₂ → PaysFor ev id → ∀ ev' ∈ tr₂, ¬ PaysFor ev' id
  /-- nothing but a payout takes funds out of the contract -/
  outflow : ∀ ev ∈ tr, ∀ token, ev.post.2 token me < ev.pre.2 token me → ∃ id, PaysFor ev id
  final : ∀ ev ∈ tr, ∀ id e, ev.pre.1.escrows.lookup id = some e → ¬ e.status.Held →
    ev.post.1.escrows.lookup id = some e
  disputed : ∀ ev ∈ tr, ∀ id e, ev.pre.1.escrows.lookup id = some e → e.status = .disputed →
    ev.post.1.escrows.lookup id = some e ∨ ∃ env caller b accepts,
      ev.inp = .call env (.resolveDispute caller id b) accepts ∧
        ev.pre.1.admin = some caller ∧ caller ∈ env.auths
  terms : ∀ ev ∈ tr, ∀ id e, ev.pre.1.escrows.lookup id = some e →
    ∃ e', ev.post.1.escrows.lookup id = some e' ∧ e.SameTerms e'

theorem backed_start {l : Ledger} (h : ∀ token, 0 ≤ l token me) : Backed me ({}, l) :=
  ⟨fun _ _ hs => by simp at hs, fun _ _ hs => by simp at hs, fun token => by simpa using h token⟩

theorem backed_run {w w' : World} {tr : List (Event World (Input me))}
    (h : Run (Steps me) w tr w') (hb : Backed me w) : Backed me w' :=
  h.invariant' (fun _ _ _ hb hs => hs.backed hb) hb

theorem backed_of_mem {w w' : World} {tr : List (Event World (Input me))}
    (h : Run (Steps me) w tr w') (hb : Backed me w) {ev : Event World (Input me)} (he : ev ∈ tr) :
    Backed me ev.pre := by
  obtain ⟨tr₁, tr₂, rfl⟩ := List.append_of_mem he
  exact backed_run h.split.1 hb

/-- A settled escrow stays settled. -/
theorem settled_run {w w' : World} {tr : List (Event World (Input me))}
    (h : Run (Steps me) w tr w') (hb : Backed me w) {id : String} {e : Escrow}
    (hs : w.1.escrows.lookup id = some e) (hf : ¬ e.status.Held) :
    w'.1.escrows.lookup id = some e := by
  refine (h.invariant' (P := fun w => Backed me w ∧ w.1.escrows.lookup id = some e)
    (fun w i w' ⟨hb, hs⟩ hst => ⟨hst.backed hb, ?_⟩) ⟨hb, hs⟩).2
  obtain ⟨e', he', hr⟩ := hst.record hb hs
  rw [he', hr.final hf]

theorem paysFor_once {w w' : World} {tr₁ tr₂ : List (Event World (Input me))}
    {ev : Event World (Input me)} (h : Run (Steps me) w (tr₁ ++ ev :: tr₂) w') (hb : Backed me w)
    {id : String} (hp : PaysFor ev id) : ∀ ev' ∈ tr₂, ¬ PaysFor ev' id := by
  intro ev' he' hp'
  obtain ⟨h₁, hs, h₂⟩ := h.split
  have hb₁ := backed_run h₁ hb
  obtain ⟨e, p, now, -, -, hf, hl, he, -⟩ := hs.pays hp
  rw [hb₁.keyed id e hl] at he
  obtain ⟨tr₃, tr₄, rfl⟩ := List.append_of_mem he'
  obtain ⟨h₃, hs', -⟩ := h₂.split
  have hpost : ev.post.1.escrows.lookup id = some (e.settle p.after now) := by rw [he]; simp
  have hlater := settled_run h₃ (hs.backed hb₁) hpost hf
  obtain ⟨e', p', -, hst, hh, -, hl', -⟩ := hs'.pays hp'
  rw [hlater] at hl'; cases hl'
  rw [← hst] at hh
  exact hf hh

/-- **Custody over whole runs.** -/
theorem escrow_custody {l : Ledger} (h₀ : ∀ token, 0 ≤ l token me)
    {tr : List (Event World (Input me))} {w : World} (h : Run (Steps me) ({}, l) tr w) :
    Custody me tr w := by
  have hb := backed_start h₀
  refine ⟨(backed_run h hb).covered, fun ev he id hp => ?_, fun tr₁ ev tr₂ id htr hp => ?_,
    fun ev he token hlt => (h.step_of_mem he).outflow hlt, fun ev he id e hs hf => ?_,
    fun ev he id e hs hd => ?_, fun ev he id e hs => ?_⟩
  · obtain ⟨e, p, now, hst, hh, hf, hs, hpost, hl⟩ := (h.step_of_mem he).pays hp
    rw [(backed_of_mem h hb he).keyed id e hs] at hpost
    refine ⟨e, p.after, now, hs, hst ▸ hh, ?_, by rw [hpost]; simp, hl⟩
    cases hp' : p.after <;> simp [hp', EscrowStatus.Held] at hf ⊢
  · subst htr; exact paysFor_once h hb hp
  · obtain ⟨e', hs', hr⟩ := (h.step_of_mem he).record (backed_of_mem h hb he) hs
    rw [hs', hr.final hf]
  · obtain ⟨e', hs', hr⟩ := (h.step_of_mem he).record (backed_of_mem h hb he) hs
    cases hr with
    | same => exact Or.inl hs'
    | dispute _ hp => rw [hd] at hp; cases hp
    | settle _ _ _ _ hadm => exact Or.inr (hadm hd)
  · obtain ⟨e', hs', hr⟩ := (h.step_of_mem he).record (backed_of_mem h hb he) hs
    exact ⟨e', hs', hr.sameTerms⟩

/-- Custody along a run that sets the contract up, locks 40 units, and releases them. -/
theorem escrow_custody_release : ∃ tr w, Custody ⟨0⟩ tr w ∧ tr.length = 3 ∧
    (w.1.escrows.lookup "deposit").map (·.status) = some .released ∧ w.2 ⟨2⟩ ⟨4⟩ = 40 :=
  let funded : Transfer → Ledger → Bool := fun t l => 0 ≤ t.amount ∧ t.amount ≤ l t.token t.src
  ⟨_, _, escrow_custody (l := fun _ a => if a = ⟨3⟩ then 100 else 0) (fun _ => by simp)
    (((Run.nil.snoc (.call _ (sampleEnv 0) (.initializeContract ⟨1⟩ ⟨2⟩ 0) funded)).snoc
      (.call _ (sampleEnv 1) (.createEscrow ⟨3⟩ "deposit" ⟨4⟩ 40 "desk" 0) funded)).snoc
      (.call _ (sampleEnv 2) (.release ⟨1⟩ "deposit") funded)), rfl, by decide, by decide⟩

end PaymentEscrow
