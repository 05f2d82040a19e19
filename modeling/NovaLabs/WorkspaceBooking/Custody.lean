/-
  The funds of workspace_booking over whole runs, with a payment token that moves exactly a
  non-negative requested amount or fails, and does not call back.

  Each call changes at most one booking, and moves that booking's amount (`Effect`).  So the
  contract's balance covers the bookings that are not refunded (`Backed`).
-/
import NovaLabs.WorkspaceBooking.Capacity
import Mathlib.Algebra.Order.Floor.Div
import Mathlib.GroupTheory.GroupAction.Ring

namespace WorkspaceBooking

open Lib Soroban

variable {me : Address}

/-! ## Steps -/

/-- The token moves exactly the requested amount, which is not negative, or it fails. -/
def Exact (token : Transfer → Ledger → Option Ledger) : Prop :=
  ∀ t l l', token t l = some l' → 0 ≤ t.amount ∧ l' = l.move t

/-- The calls with an exact token, and movements of funds without the contract: those do not lower
    its balances. -/
inductive Moves (me : Address) : World → Option (Input me) → World → Prop
  | call (w : World) (i : Input me) : Exact i.token → Moves me w (some i) (next w i)
  | outside (w : World) (l : Ledger) : (∀ token, w.2 token me ≤ l token me) →
      Moves me w none (w.1, l)

abbrev Ev (me : Address) := Event World (Option (Input me))

/-- The event is a successful cancellation of the booking `id`. -/
def Refunds (ev : Ev me) (id : String) : Prop :=
  ∃ i caller, ev.inp = some i ∧ i.call = .cancelBooking caller id ∧
    ((entryPoint i.env i.call ev.pre.1).run i.token ev.pre.2).isSome

/-- The event makes the booking `b`, at the rate of that time, and takes its amount from the
    member. -/
structure Charges (ev : Ev me) (b : Booking) : Prop where
  call : ∃ i, ev.inp = some i ∧
    i.call = .bookWorkspace b.member b.id b.workspaceId b.startTime b.endTime b.seatCount
  fresh : ev.pre.1.bookings.lookup b.id = none
  stored : ev.post.1.bookings.lookup b.id ≠ none
  price : ∃ ws, ev.pre.1.workspaces.lookup b.workspaceId = some ws ∧
    b.amountPaid = ws.hourlyRate * ((b.endTime - b.startTime) ⌈/⌉ 3600)
  paid : ∃ token, ev.pre.1.paymentToken = some token ∧
    ev.post.2 = ev.pre.2.move ⟨token, b.member, me, b.amountPaid⟩

/-- What a booking keeps for good. -/
structure Booking.SameTerms (b b' : Booking) : Prop where
  id : b'.id = b.id
  workspaceId : b'.workspaceId = b.workspaceId
  member : b'.member = b.member
  startTime : b'.startTime = b.startTime
  endTime : b'.endTime = b.endTime
  seatCount : b'.seatCount = b.seatCount
  amountPaid : b'.amountPaid = b.amountPaid

/-- The payment token and the admin stay, and no lock is left behind. -/
structure Settled (s s' : State) : Prop where
  token : s'.paymentToken = s.paymentToken
  admin : s'.admin = s.admin
  locks : s'.locks ⊆ s.locks

theorem asI128_of_nonneg {n : ℕ} (hn : n < 2 ^ 128) (h : 0 ≤ asI128 n) :
    asI128 n = n ∧ n < 2 ^ 127 := by
  unfold asI128 at h ⊢
  rw [Int.bmod_def] at h ⊢
  norm_num at h ⊢
  split_ifs at h ⊢ <;> omega

theorem asI128_of_lt {n : ℕ} (hn : n < 2 ^ 127) : asI128 n = n := by
  unfold asI128
  rw [Int.bmod_def]
  norm_num
  split_ifs <;> omega

/-- What a step does to the bookings and the balances. -/
inductive Effect (me : Address) (w : World) (i : Option (Input me)) (w' : World) : Prop
  | idle : w'.1.bookings = w.1.bookings → Settled w.1 w'.1 →
      (∀ token, w.2 token me ≤ w'.2 token me) → (∀ id, ¬ Refunds ⟨w, i, w'⟩ id) → Effect me w i w'
  | config (admin token : Address) : w.1.admin = none →
      w'.1 = { w.1 with admin := some admin, paymentToken := some token } → w'.2 = w.2 →
      (∀ id, ¬ Refunds ⟨w, i, w'⟩ id) → Effect me w i w'
  | complete {id b} (now : ℕ) : w.1.bookings.lookup id = some b → b.status = .active →
      w'.1.bookings = w.1.bookings.insert id (b.complete now) → Settled w.1 w'.1 → w'.2 = w.2 →
      (∀ id, ¬ Refunds ⟨w, i, w'⟩ id) → Effect me w i w'
  | book {b token} : Charges ⟨w, i, w'⟩ b → b.status = .active → b.member ≠ me →
      b.amountPaid < 2 ^ 127 → w.1.paymentToken = some token →
      w'.1.bookings = w.1.bookings.insert b.id b → Settled w.1 w'.1 →
      w'.2 = w.2.move ⟨token, b.member, me, b.amountPaid⟩ →
      (∀ id, ¬ Refunds ⟨w, i, w'⟩ id) → Effect me w i w'
  | cancel {id b token} (now : ℕ) : Refunds ⟨w, i, w'⟩ id → (∀ id', Refunds ⟨w, i, w'⟩ id' → id' = id) →
      w.1.bookings.lookup id = some b → b.status = .active → w.1.paymentToken = some token →
      w'.1.bookings = w.1.bookings.insert id (b.cancel now) → Settled w.1 w'.1 →
      w'.2 = w.2.move ⟨token, me, b.member, asI128 b.amountPaid⟩ → Effect me w i w'

theorem not_refunds_of_call {w w' : World} {i : Input me}
    (h : ∀ caller id, i.call ≠ .cancelBooking caller id) (id : String) :
    ¬ Refunds ⟨w, some i, w'⟩ id := by
  rintro ⟨_, caller, hi, hc, -⟩
  cases hi
  exact h caller id hc

theorem not_finishes_cancel {env : Env me} {caller : Address} {id : String} {s s' : State}
    {u : Unit} : ¬ Finishes (entryPoint env (.cancelBooking caller id)) s u s' := by
  simp [entryPoint, cancelBooking]

/-- A call that ends without a transfer. -/
theorem effect_of_finishes {w : World} {i : Input me} {s' : State}
    (hf : Finishes (entryPoint i.env i.call) w.1 () s') : Effect me w (some i) (s', w.2) := by
  have hno (id : String) : ¬ Refunds ⟨w, some i, (s', w.2)⟩ id :=
    not_refunds_of_call (fun caller id hc => not_finishes_cancel (hc ▸ hf)) id
  obtain ⟨env, c, token⟩ := i
  cases finishes_cases hf with
  | config =>
    obtain ⟨hn, -, heq⟩ := initializeContract_returns.1 (finishes_lift.1 hf)
    exact .config _ _ hn heq rfl hno
  | register | workspace => exact .idle rfl ⟨rfl, rfl, subset_rfl⟩ (fun _ => le_rfl) hno
  | complete hs ha => exact .complete env.now hs ha rfl ⟨rfl, rfl, subset_rfl⟩ rfl hno

theorem lock_unlock_subset (s : State) (key : ReentrancyKey) :
    (insert key s.locks).erase key ⊆ s.locks := Finset.erase_insert_subset key s.locks

/-- A step does one of the five things of `Effect`. -/
theorem Moves.effect {w w' : World} {i : Option (Input me)} (h : Moves me w i w') :
    Effect me w i w' := by
  cases h with
  | outside _ hl =>
    refine .idle rfl ⟨rfl, rfl, subset_rfl⟩ hl fun id hrefunds => ?_
    obtain ⟨_, _, hi, _⟩ := hrefunds
    cases hi
  | call i hx =>
    rcases commitIn_cases i.token (entryPoint i.env i.call) w.1 w.2 with
      ⟨hr, hw⟩ | ⟨_, s', hf, hw⟩ | ⟨q, s₁, k, l₁, _, s', l', hc, hq, hk, hw⟩ <;>
      rw [next, hw]
    · refine .idle rfl ⟨rfl, rfl, subset_rfl⟩ (fun _ => le_rfl) fun id hrefunds => ?_
      obtain ⟨_, _, hi, _, hs⟩ := hrefunds
      cases hi
      rw [hr] at hs; cases hs
    · exact effect_of_finishes hf
    · obtain ⟨hnonneg, rfl⟩ := hx q _ _ hq
      rcases callsOut_cases hc with ⟨b, ws, hb⟩ | ⟨id, b, hb⟩
      · obtain ⟨token, ht, rfl⟩ := hb.req
        dsimp only at hnonneg
        obtain ⟨hamount, hlt⟩ := asI128_of_nonneg (hb.amount_lt hc) hnonneg
        rw [hb.rest, hb.locked, Act.run] at hk
        cases hk
        rw [hamount]
        refine .book ⟨⟨i, rfl, hb.call⟩, hb.fresh, ?_, ⟨ws, hb.stored, ?_⟩, token, ht, rfl⟩ hb.active
          (fun hme => i.env.me_notMem (hme ▸ hb.auth)) hlt ht rfl
          ⟨rfl, rfl, lock_unlock_subset _ _⟩ rfl
          (not_refunds_of_call fun caller id hcall => by rw [hb.call] at hcall; cases hcall)
        · change Finmap.lookup b.id (w.1.bookings.insert b.id b) ≠ none
          rw [Finmap.lookup_insert]
          exact Option.some_ne_none b
        · rw [hb.cost, Nat.ceilDiv_eq_add_pred_div]
          rfl
      · obtain ⟨token, ht, rfl⟩ := hb.req
        obtain ⟨caller, hcall, -⟩ := hb.call
        have hsome : ((entryPoint i.env i.call w.1).run i.token w.2).isSome := by
          rw [show entryPoint i.env i.call w.1 = _ from hc]
          simp only [Act.run, hq, Option.bind_some, hb.rest, Option.isSome_some]
        rw [hb.rest, hb.locked, Act.run] at hk
        cases hk
        refine .cancel i.env.now ⟨i, caller, rfl, hcall, hsome⟩ ?_ hb.stored hb.active ht rfl
          ⟨rfl, rfl, lock_unlock_subset _ _⟩ rfl
        rintro id' ⟨_, caller', hi, hcall', -⟩
        cases hi
        rw [hcall] at hcall'
        cases hcall'
        rfl

/-! ## The invariant -/

/-- What the contract holds for a booking. -/
def held (_ : String) (b : Booking) : ℤ :=
  if b.status = .active ∨ b.status = .completed then b.amountPaid else 0

/-- What the contract holds for its bookings, in `token`. -/
def owed (s : State) (token : Address) : ℤ :=
  if s.paymentToken = some token then Store.total s.bookings held else 0

/-- Records are stored under their ids, with amounts that fit a transfer; without a payment token
    there are none; between calls no lock is held, and the balances cover what is held. -/
structure Backed (me : Address) (w : World) : Prop where
  keyed : ∀ id b, w.1.bookings.lookup id = some b → b.id = id
  amounts : ∀ id b, w.1.bookings.lookup id = some b → b.amountPaid < 2 ^ 127
  unset : w.1.admin = none → w.1.paymentToken = none
  unpaid : w.1.paymentToken = none → w.1.bookings = ∅
  unlocked : w.1.locks = ∅
  covered : ∀ token, owed w.1 token ≤ w.2 token me

theorem held_active {id : String} {b : Booking} (h : b.status = .active) :
    held id b = b.amountPaid := if_pos (Or.inl h)

theorem held_nonneg (id : String) (b : Booking) : 0 ≤ held id b := by
  unfold held
  split_ifs
  · exact Int.natCast_nonneg _
  · exact le_rfl

theorem held_complete (id : String) (b : Booking) (now : ℕ) :
    held id (b.complete now) = b.amountPaid := if_pos (Or.inr rfl)

theorem held_cancel (id : String) (b : Booking) (now : ℕ) : held id (b.cancel now) = 0 :=
  if_neg fun h => by rcases h with h | h <;> cases h

theorem Settled.unlocked {s s' : State} (h : Settled s s') (hl : s.locks = ∅) : s'.locks = ∅ :=
  Finset.subset_empty.1 (hl ▸ h.locks)

/-- A record is written under its own id. -/
theorem Backed.write {w w' : World} (h : Backed me w) {id : String} {b : Booking}
    (he : w'.1.bookings = w.1.bookings.insert id b) (hs : Settled w.1 w'.1) (hid : b.id = id)
    (hlt : b.amountPaid < 2 ^ 127) (ht : w.1.paymentToken ≠ none)
    (hc : ∀ token, owed w'.1 token ≤ w'.2 token me) : Backed me w' where
  keyed id' b' hs' := by
    rw [he, Store.lookup_insert_ite] at hs'
    split_ifs at hs' with hk
    · cases hs'; exact hid.trans hk.symm
    · exact h.keyed id' b' hs'
  amounts id' b' hs' := by
    rw [he, Store.lookup_insert_ite] at hs'
    split_ifs at hs'
    · cases hs'; exact hlt
    · exact h.amounts id' b' hs'
  unset hn := by rw [hs.token]; exact h.unset (hs.admin ▸ hn)
  unpaid hn := absurd (hs.token ▸ hn) ht
  unlocked := hs.unlocked h.unlocked
  covered := hc

/-- The step lemma of custody. -/
theorem Moves.backed {w w' : World} {i : Option (Input me)} (h : Moves me w i w')
    (hb : Backed me w) : Backed me w' := by
  cases h.effect with
  | idle he hs hl _ =>
    refine ⟨he ▸ hb.keyed, he ▸ hb.amounts, fun hn => ?_, fun hn => ?_, hs.unlocked hb.unlocked,
      fun token => ?_⟩
    · rw [hs.token]; exact hb.unset (hs.admin ▸ hn)
    · rw [he]; exact hb.unpaid (hs.token ▸ hn)
    · rw [owed, he, hs.token]; exact (hb.covered token).trans (hl token)
  | config admin token hn he hl _ =>
    have hempty := hb.unpaid (hb.unset hn)
    refine ⟨?_, ?_, fun h => ?_, fun h => ?_, ?_, fun token' => ?_⟩
    · rw [he]; exact hb.keyed
    · rw [he]; exact hb.amounts
    · rw [he] at h; cases h
    · rw [he] at h; cases h
    · rw [he]; exact hb.unlocked
    · have hcov := hb.covered token'
      rw [owed, hempty, Store.total_empty, ite_self] at hcov
      rw [owed, he, hl, hempty, Store.total_empty, ite_self]
      exact hcov
  | @complete id b now hs ha he hset hl _ =>
    have hne : w.1.paymentToken ≠ none := fun hn => by
      rw [hb.unpaid hn] at hs; simp at hs
    refine hb.write he hset (hb.keyed id b hs) (hb.amounts id b hs) hne fun token => ?_
    have ht := Store.total_insert_old hs (b.complete now) held
    rw [held_complete, held_active ha, add_left_inj] at ht
    rw [owed, he, hset.token, hl, ht]
    exact hb.covered token
  | @book b token hch ha hme hlt htok he hset hl _ =>
    refine hb.write he hset rfl hlt (by simp [htok]) fun token' => ?_
    have ht := Store.total_insert_new hch.fresh b held
    have hcov := hb.covered token'
    rw [held_active ha] at ht
    rw [owed, htok] at hcov
    rw [owed, he, hset.token, htok, hl, ht, Ledger.move, gain_deposit hme]
    simp only [Option.some.injEq] at hcov ⊢
    split_ifs at hcov ⊢ <;> linarith
  | @cancel id b token now _ _ hs ha htok he hset hl =>
    refine hb.write he hset (hb.keyed id b hs) (hb.amounts id b hs) (by simp [htok])
      fun token' => ?_
    have ht := Store.total_insert_old hs (b.cancel now) held
    have hcov := hb.covered token'
    have hg := gain_payout token' token b.member me (Int.natCast_nonneg b.amountPaid)
    rw [held_cancel, held_active ha] at ht
    rw [owed, htok] at hcov
    rw [owed, he, hset.token, htok, hl, asI128_of_lt (hb.amounts id b hs), Ledger.move]
    simp only [Option.some.injEq] at hcov ⊢
    split_ifs at hcov hg ⊢ <;> linarith

/-! ## The life of one booking -/

theorem Booking.SameTerms.refl (b : Booking) : b.SameTerms b := ⟨rfl, rfl, rfl, rfl, rfl, rfl, rfl⟩

theorem Booking.sameTerms_complete (b : Booking) (now : ℕ) : b.SameTerms (b.complete now) :=
  ⟨rfl, rfl, rfl, rfl, rfl, rfl, rfl⟩

theorem Booking.sameTerms_cancel (b : Booking) (now : ℕ) : b.SameTerms (b.cancel now) :=
  ⟨rfl, rfl, rfl, rfl, rfl, rfl, rfl⟩

theorem Charges.same {ev : Ev me} {b b' : Booking} (h : Charges ev b) (hs : b.SameTerms b') :
    Charges ev b' := by
  obtain ⟨hcall, hfresh, hstored, hprice, hpaid⟩ := h
  obtain ⟨hid, hw, hm, hst, hen, hn, hamt⟩ := hs
  refine ⟨?_, ?_, ?_, ?_, ?_⟩
  · rw [hm, hid, hw, hst, hen, hn]; exact hcall
  · rw [hid]; exact hfresh
  · rw [hid]; exact hstored
  · rw [hw, hamt, hen, hst]; exact hprice
  · rw [hm, hamt]; exact hpaid

/-- A stored booking keeps its terms, and if it is not active, its record. -/
theorem Moves.record {w w' : World} {i : Option (Input me)} (h : Moves me w i w')
    {id : String} {b : Booking} (hs : w.1.bookings.lookup id = some b) :
    ∃ b', w'.1.bookings.lookup id = some b' ∧ b.SameTerms b' ∧ (b.status ≠ .active → b' = b) := by
  have hsame : ∃ b', some b = some b' ∧ b.SameTerms b' ∧ (b.status ≠ .active → b' = b) :=
    ⟨b, rfl, .refl b, fun _ => rfl⟩
  cases h.effect with
  | idle he => rw [he, hs]; exact hsame
  | config _ _ _ he => rw [he, hs]; exact hsame
  | @complete id₁ b₁ now hs₁ ha he =>
    rw [he, Store.lookup_insert_ite]
    split_ifs with hid
    · subst hid
      rw [hs₁] at hs; cases hs
      exact ⟨_, rfl, b.sameTerms_complete now, fun hn => absurd ha hn⟩
    · rw [hs]; exact hsame
  | @book b₁ _ hch _ _ _ _ he =>
    rw [he, Store.lookup_insert_ite]
    split_ifs with hid
    · have hfresh : w.1.bookings.lookup b₁.id = none := hch.fresh
      rw [hid, hfresh] at hs; cases hs
    · rw [hs]; exact hsame
  | @cancel id₁ b₁ _ now _ _ hs₁ ha _ he =>
    rw [he, Store.lookup_insert_ite]
    split_ifs with hid
    · subst hid
      rw [hs₁] at hs; cases hs
      exact ⟨_, rfl, b.sameTerms_cancel now, fun hn => absurd ha hn⟩
    · rw [hs]; exact hsame

/-- A booking that appears is charged for. -/
theorem Moves.charges {w w' : World} {i : Option (Input me)} (h : Moves me w i w')
    {id : String} {b : Booking} (hs : w.1.bookings.lookup id = none)
    (hs' : w'.1.bookings.lookup id = some b) : Charges ⟨w, i, w'⟩ b := by
  cases h.effect with
  | idle he => rw [he, hs] at hs'; cases hs'
  | config _ _ _ he => rw [he, hs] at hs'; cases hs'
  | complete now hs₁ _ he | cancel now _ _ hs₁ _ _ he =>
    rw [he, Store.lookup_insert_ite] at hs'
    split_ifs at hs' with hid
    · rw [hid, hs₁] at hs; cases hs
    · rw [hs] at hs'; cases hs'
  | book hch _ _ _ _ he =>
    rw [he, Store.lookup_insert_ite] at hs'
    split_ifs at hs'
    · cases hs'; exact hch
    · rw [hs] at hs'; cases hs'

/-- A refund ends an active booking, and pays its amount to its member. -/
theorem Moves.refunds {w w' : World} {i : Option (Input me)} (h : Moves me w i w')
    (hb : Backed me w) {id : String} (hr : Refunds ⟨w, i, w'⟩ id) :
    ∃ b token now, w.1.bookings.lookup id = some b ∧ b.status = .active ∧
      w.1.paymentToken = some token ∧ w'.1.bookings.lookup id = some (b.cancel now) ∧
      w'.2 = w.2.move ⟨token, me, b.member, b.amountPaid⟩ := by
  cases h.effect with
  | idle _ _ _ hn => exact absurd hr (hn id)
  | config _ _ _ _ _ hn => exact absurd hr (hn id)
  | complete _ _ _ _ _ _ hn => exact absurd hr (hn id)
  | book _ _ _ _ _ _ _ _ hn => exact absurd hr (hn id)
  | @cancel id₁ b token now _ honly hs ha ht he _ hl =>
    obtain rfl := honly id hr
    refine ⟨b, token, now, hs, ha, ht, by rw [he, Finmap.lookup_insert], ?_⟩
    rw [hl, asI128_of_lt (hb.amounts id b hs)]

/-- Only refunds lower a balance of the contract. -/
theorem Moves.outflow {w w' : World} {i : Option (Input me)} (h : Moves me w i w')
    {token : Address} (hlt : w'.2 token me < w.2 token me) : ∃ id, Refunds ⟨w, i, w'⟩ id := by
  cases h.effect with
  | idle _ _ hl => exact absurd (hl token) (not_le.2 hlt)
  | config _ _ _ _ hl => rw [hl] at hlt; exact absurd hlt (lt_irrefl _)
  | complete _ _ _ _ _ hl => rw [hl] at hlt; exact absurd hlt (lt_irrefl _)
  | @book b _ _ _ hme _ _ _ _ hl =>
    rw [hl, Ledger.move, gain_deposit hme] at hlt
    have hpos := Int.natCast_nonneg b.amountPaid
    split_ifs at hlt <;> linarith
  | cancel _ hr => exact ⟨_, hr⟩

/-! ## Runs -/

theorem backed_start {l : Ledger} (h : ∀ token, 0 ≤ l token me) : Backed me ({}, l) :=
  ⟨fun _ _ hs => by simp at hs, fun _ _ hs => by simp at hs, fun _ => rfl, fun _ => rfl, rfl,
    fun token => h token⟩

theorem backed_run {w w' : World} {tr : List (Ev me)} (h : Run (Moves me) w tr w')
    (hb : Backed me w) : Backed me w' :=
  h.invariant' (fun _ _ _ hb hs => hs.backed hb) hb

theorem ended_run {w w' : World} {tr : List (Ev me)} (h : Run (Moves me) w tr w') {id : String}
    {b : Booking} (hs : w.1.bookings.lookup id = some b) (hn : b.status ≠ .active) :
    w'.1.bookings.lookup id = some b := by
  refine h.invariant' (P := fun w => w.1.bookings.lookup id = some b) (fun w i w' hs hst => ?_) hs
  obtain ⟨b', hs', -, hend⟩ := hst.record hs
  rw [hs', hend hn]

theorem refunds_once {w w' : World} {tr₁ tr₂ : List (Ev me)} {ev : Ev me}
    (h : Run (Moves me) w (tr₁ ++ ev :: tr₂) w') (hb : Backed me w) {id : String}
    (hr : Refunds ev id) : ∀ ev' ∈ tr₂, ¬ Refunds ev' id := by
  intro ev' he' hr'
  obtain ⟨h₁, hs, h₂⟩ := h.split
  have hb₁ := backed_run h₁ hb
  obtain ⟨b, token, now, -, -, -, hpost, -⟩ := hs.refunds hb₁ hr
  obtain ⟨tr₃, tr₄, rfl⟩ := List.append_of_mem he'
  obtain ⟨h₃, hs', -⟩ := h₂.split
  have hend : (b.cancel now).status ≠ .active := by rintro ⟨⟩
  obtain ⟨b', _, _, hl, ha, -⟩ := hs'.refunds (backed_run h₃ (hs.backed hb₁)) hr'
  rw [ended_run h₃ hpost hend] at hl
  cases hl
  exact hend ha

theorem charged_run {l : Ledger} {w : World} {tr : List (Ev me)}
    (h : Run (Moves me) ({}, l) tr w) : ∀ id b, w.1.bookings.lookup id = some b →
      ∃ ev ∈ tr, Charges ev b := by
  refine h.history (P := fun tr w => ∀ id b, w.1.bookings.lookup id = some b →
    ∃ ev ∈ tr, Charges ev b) (fun tr w i w' ih hst id b hs' => ?_) fun id b hs => by simp at hs
  cases hs : w.1.bookings.lookup id with
  | none => exact ⟨_, List.mem_concat_self, hst.charges hs hs'⟩
  | some b₀ =>
    obtain ⟨b', hb', hterms, -⟩ := hst.record hs
    rw [hs'] at hb'
    cases hb'
    obtain ⟨ev, hev, hch⟩ := ih id b₀ hs
    exact ⟨ev, List.mem_append_left _ hev, hch.same hterms⟩

/-- A cancellation by the member or the admin goes through, if the token pays where the funds
    suffice. -/
theorem Backed.cancellable {w : World} (hb : Backed me w) {i : Input me} {caller : Address}
    {id : String} {b : Booking} (hs : w.1.bookings.lookup id = some b) (ha : b.status = .active)
    (hcall : i.call = .cancelBooking caller id) (hauth : caller ∈ i.env.auths)
    (hc : caller = b.member ∨ w.1.admin = some caller)
    (hpays : ∀ t l, 0 ≤ t.amount → t.amount ≤ l t.token t.src → (i.token t l).isSome) :
    Refunds ⟨w, some i, next w i⟩ id := by
  have htok : w.1.paymentToken ≠ none := fun hn => by rw [hb.unpaid hn] at hs; simp at hs
  obtain ⟨token, ht⟩ := Option.ne_none_iff_exists'.1 htok
  have hret := cancelChecks_passes hauth hs (fun hn => htok (hb.unset hn)) hc ha
  obtain ⟨k, hk⟩ := cancelBooking_callsOut hret (by rw [hb.unlocked]; simp) ht
  -- the funds suffice, since the balance covers this booking
  have hamt := asI128_of_lt (hb.amounts id b hs)
  have hfunds : (b.amountPaid : ℤ) ≤ w.2 token me := by
    have hcov := hb.covered token
    have hsplit := Store.total_erase hs held
    have hrest : 0 ≤ Store.total (w.1.bookings.erase id) held :=
      Finset.sum_nonneg fun k _ => by
        cases Finmap.lookup k (w.1.bookings.erase id) with
        | none => exact le_rfl
        | some b' => exact held_nonneg k b'
    rw [held_active ha] at hsplit
    rw [owed, if_pos ht] at hcov
    linarith
  refine ⟨i, caller, rfl, hcall, ?_⟩
  rcases callsOut_cases hk with ⟨_, _, hb⟩ | ⟨_, _, hb⟩
  · cases hb.call
  · rw [hcall, show entryPoint i.env (.cancelBooking caller id) w.1 = _ from hk]
    have hpaid := hpays ⟨token, me, b.member, b.amountPaid⟩ w.2 (Int.natCast_nonneg _) hfunds
    obtain ⟨l', hl'⟩ := Option.isSome_iff_exists.1 hpaid
    rw [← hamt] at hl'
    simp only [Act.run, hl', Option.bind_some, hb.rest, Option.isSome_some]

/-- Custody along the run `tr` that ends in `w`. -/
structure Custody (me : Address) (tr : List (Ev me)) (w : World) : Prop where
  /-- the balance covers the active and the completed bookings -/
  covered : ∀ token, w.1.paymentToken = some token →
    Store.total w.1.bookings held ≤ w.2 token me
  /-- each booking was paid for, at the rate of that time -/
  charged : ∀ id b, w.1.bookings.lookup id = some b → b.id = id ∧ ∃ ev ∈ tr, Charges ev b
  terms : ∀ ev ∈ tr, ∀ id b, ev.pre.1.bookings.lookup id = some b →
    ∃ b', ev.post.1.bookings.lookup id = some b' ∧ b.SameTerms b'
  /-- a refund pays an active booking's amount to its member -/
  refund : ∀ ev ∈ tr, ∀ id, Refunds ev id → ∃ b token now, ev.pre.1.bookings.lookup id = some b ∧
    b.status = .active ∧ ev.pre.1.paymentToken = some token ∧
    ev.post.1.bookings.lookup id = some (b.cancel now) ∧
    ev.post.2 = ev.pre.2.move ⟨token, me, b.member, b.amountPaid⟩
  once : ∀ tr₁ ev tr₂ id, tr = tr₁ ++ ev :: tr₂ → Refunds ev id → ∀ ev' ∈ tr₂, ¬ Refunds ev' id
  /-- nothing but refunds takes funds out of the contract -/
  outflow : ∀ ev ∈ tr, ∀ token, ev.post.2 token me < ev.pre.2 token me → ∃ id, Refunds ev id
  /-- the member and the admin can cancel an active booking -/
  cancellable : ∀ (i : Input me) caller id b, w.1.bookings.lookup id = some b →
    b.status = .active → i.call = .cancelBooking caller id → caller ∈ i.env.auths →
    (caller = b.member ∨ w.1.admin = some caller) →
    (∀ t l, 0 ≤ t.amount → t.amount ≤ l t.token t.src → (i.token t l).isSome) →
    Refunds ⟨w, some i, next w i⟩ id

/-- **Custody over whole runs.** -/
theorem booking_custody {l : Ledger} (h₀ : ∀ token, 0 ≤ l token me) {tr : List (Ev me)} {w : World}
    (h : Run (Moves me) ({}, l) tr w) : Custody me tr w := by
  have hb₀ := backed_start h₀
  have hb := backed_run h hb₀
  refine ⟨fun token ht => ?_, fun id b hs => ⟨hb.keyed id b hs, charged_run h id b hs⟩,
    fun ev he id b hs => ?_, fun ev he id hr => ?_, fun tr₁ ev tr₂ id htr hr => ?_,
    fun ev he token hlt => (h.step_of_mem he).outflow hlt,
    fun i caller id b hs ha hcall hauth hc hpays => hb.cancellable hs ha hcall hauth hc hpays⟩
  · have hcov := hb.covered token
    rw [owed, if_pos ht] at hcov
    exact hcov
  · obtain ⟨b', hs', hterms, -⟩ := (h.step_of_mem he).record hs
    exact ⟨b', hs', hterms⟩
  · obtain ⟨tr₁, tr₂, rfl⟩ := List.append_of_mem he
    exact h.split.2.1.refunds (backed_run h.split.1 hb₀) hr
  · subst htr; exact refunds_once h hb₀ hr

/-- A token that pays where the source has the funds. -/
def fundedToken : Transfer → Ledger → Option Ledger :=
  exactTokens fun t l => 0 ≤ t.amount ∧ t.amount ≤ l t.token t.src

theorem fundedToken_exact : Exact fundedToken := by
  intro t l l' h
  obtain ⟨ha, rfl⟩ := exactTokens_eq_some h
  rw [decide_eq_true_eq] at ha
  exact ⟨ha.1, rfl⟩

/-- A call at time `now`, with that token. -/
def fundedCall (now : ℕ) (call : Call) : Input ⟨0⟩ := ⟨sampleEnv now, call, fundedToken⟩

/-- Custody along a run in which a member books a room for two and a half hours, the rate goes up,
    and the member cancels. -/
theorem booking_custody_cancel : ∃ tr w, Custody ⟨0⟩ tr w ∧ tr.length = 5 ∧
    (w.1.bookings.lookup "first").map (·.amountPaid) = some 21 ∧ w.2 ⟨2⟩ ⟨3⟩ = 100 :=
  let step (w : World) (now : ℕ) (call : Call) :=
    Moves.call w (fundedCall now call) fundedToken_exact
  ⟨_, _, booking_custody (l := fun _ a => if a = ⟨3⟩ then 100 else 0)
    (fun _ => by simp) (((((Run.nil.snoc (step _ 0 (.initializeContract ⟨1⟩ ⟨2⟩))).snoc
      (step _ 1 (.registerWorkspace ⟨1⟩ "room" "Room" .meetingRoom 4 7))).snoc
      (step _ 2 (.bookWorkspace ⟨3⟩ "first" "room" 0 9000 2))).snoc
      (step _ 3 (.setWorkspaceRate ⟨1⟩ "room" 9))).snoc
      (step _ 4 (.cancelBooking ⟨3⟩ "first"))), rfl, by decide, by decide⟩

end WorkspaceBooking
