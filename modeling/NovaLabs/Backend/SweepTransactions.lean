/-
  What the transaction of a sweep writes, and what its session sees meanwhile.

  Bookings are expired first, and their payments released then.  In between, the session sees
  EXPIRED bookings with PENDING payments; no other session does.
-/
import NovaLabs.Backend.BookingStates

namespace Backend

open Lib

/-- No EXPIRED booking has a PENDING payment. -/
def Settled (db : Database) : Prop :=
  ∀ id payment booking, db.payment id = some payment → payment.status = .pending →
    db.booking payment.bookingId = some booking → booking.status ≠ .expired

/-- The booking is PENDING in one database, and EXPIRED in the other. -/
def Expires (db db' : Database) (bookingId : Uuid) : Prop :=
  (db.booking bookingId).map (·.status) = some .pending ∧
    (db'.booking bookingId).map (·.status) = some .expired

instance (db db' : Database) (bookingId : Uuid) : Decidable (Expires db db' bookingId) :=
  inferInstanceAs (Decidable (_ ∧ _))

/-- Each booking of the list is there, and is PENDING where it has a PENDING payment. -/
def SweepsPending (db : Database) (ids : List Uuid) : Prop :=
  ∀ bookingId ∈ ids, ∃ booking, db.booking bookingId = some booking ∧
    (booking.status ≠ .pending → ∀ id payment, db.payment id = some payment →
      payment.bookingId = bookingId → payment.status ≠ .pending)

/-! ## What sessions see -/

/-- The bookings that a sweep has expired, and not released yet. -/
def TxStage.expiring : TxStage → List Uuid
  | expired ids => ids
  | _ => []

/-- EXPIRED bookings with PENDING payments are in the list. -/
def SettledBut (ids : List Uuid) (db : Database) : Prop :=
  ∀ id payment booking, db.payment id = some payment → payment.status = .pending →
    db.booking payment.bookingId = some booking → booking.status = .expired →
      payment.bookingId ∈ ids

theorem settled_iff {db : Database} : Settled db ↔ SettledBut [] db := by
  simp only [Settled, SettledBut, List.not_mem_nil, imp_false, ne_eq]

section
variable {s s' : DbServer} {t t' : ℕ} {w : World} {op : Query} {a : Answer op} {q : PaymentStage}
  {qs : ℕ → Option PaymentStage} {id : Uuid} {payment : Payment} {booking : Booking}

/-- How a session comes to see a booking as EXPIRED. -/
theorem expired_before (hexec : exec t w s op = some (a, s')) (hp : q.permits op)
    (hop : op ≠ .rollback) (hb : (s'.view t).booking id = some booking)
    (he : booking.status = .expired) :
    (∃ old, (s.view t).booking id = some old ∧ old.status = .expired) ∨
      ∃ ids, q.tx = .opened ∧ op = .updateBookings ids .pending .expired ∧ id ∈ ids := by
  rw [Database.booking, exec_view hexec hop, Option.or_eq_some_iff] at hb
  rcases hb with hrow | ⟨-, hb⟩
  · rcases booking_row hrow with ⟨new, rfl, -, rfl⟩ | ⟨old, hold, hnew⟩
    · cases hp.2.2.2.symm.trans he
    rcases hnew with ⟨ids, source, target, rfl, hid, -, rfl⟩ | ⟨c, rfl, rfl⟩
    · obtain rfl : target = .expired := he
      obtain ⟨rfl, ⟨-, ⟨⟩⟩ | ⟨htx, -⟩⟩ := hp.2.2
      exact Or.inr ⟨ids, htx, rfl, hid⟩
    · refine Or.inl ⟨old, hold, ?_⟩
      cases hc : c.status with
      | none => rwa [Booking.set, hc] at he
      | some status =>
        rw [Booking.set, hc] at he
        exact absurd (hc.trans (congrArg some he)) hp.2.2.2
  · exact Or.inl ⟨booking, hb, he⟩

/-- A query makes a payment PENDING: it opens one, or saves one as PENDING. -/
def Query.Opens (db : Database) (id bookingId : Uuid) (op : Query) : Prop :=
  (∃ payment, op = .insertPayment payment ∧ payment.bookingId = bookingId) ∨
    ∃ c old, op = .updatePayment id c ∧ c.status = some .pending ∧ db.payment id = some old ∧
      old.bookingId = bookingId

/-- How a query writes a PENDING payment. -/
theorem pending_row (hp : q.permits op)
    (hrow : (op.rows w (s.view t)).lookup (.payment id) = some payment)
    (hpending : payment.status = .pending) :
    (∃ c old, op = .updatePayment id c ∧ (s.view t).payment id = some old ∧
      old.status = .pending ∧ old.bookingId = payment.bookingId) ∨
      op.Opens (s.view t) id payment.bookingId := by
  rcases payment_row hrow with ⟨rfl, -⟩ | ⟨old, hold, ⟨which, source, target, rfl, -, -, rfl⟩ |
    ⟨c, rfl, rfl⟩⟩
  · exact Or.inr (Or.inl ⟨payment, rfl, rfl⟩)
  · obtain rfl : target = .pending := hpending
    rcases hp.2.2 with ⟨-, hnext⟩ | ⟨-, -, -, -, ⟨⟩⟩
    exact absurd hnext PaymentStatus.not_next_pending
  · rw [Payment.set] at hpending
    cases hc : c.status with
    | none =>
      rw [hc] at hpending
      exact Or.inl ⟨c, old, rfl, hold, hpending, rfl⟩
    | some status =>
      rw [hc] at hpending
      exact Or.inr (Or.inr ⟨c, old, rfl, hc.trans (congrArg some hpending), hold, rfl⟩)

/-- How a session comes to see a payment as PENDING. -/
theorem pending_before (hexec : exec t w s op = some (a, s')) (hp : q.permits op)
    (hop : op ≠ .rollback) (hb : (s'.view t).payment id = some payment)
    (hpending : payment.status = .pending) :
    (∃ old, (s.view t).payment id = some old ∧ old.status = .pending ∧
      old.bookingId = payment.bookingId ∧ ∀ ids target,
        op = .updatePayments (.ofBookings ids) .pending target → payment.bookingId ∉ ids) ∨
      op.Opens (s.view t) id payment.bookingId := by
  rw [Database.payment, exec_view hexec hop, Option.or_eq_some_iff] at hb
  rcases hb with hrow | ⟨hnone, hb⟩
  · refine (pending_row hp hrow hpending).imp_left ?_
    rintro ⟨c, old, rfl, hold⟩
    exact ⟨old, hold.1, hold.2.1, hold.2.2, nofun⟩
  · refine Or.inl ⟨payment, hb, hpending, rfl, ?_⟩
    rintro ids target rfl hid
    rw [Query.rows, Storage.lookup_changes, Option.bind_eq_none_iff] at hnone
    have hno := hnone payment hb
    have hset : paymentUpdate (.ofBookings ids) .pending target (.payment id) payment =
        some { payment with status := target } := if_pos ⟨decide_eq_true hid, hpending⟩
    cases hno.symm.trans hset

/-- A booking stays in the list until its payments are released. -/
theorem expiring_after (hp : q.permits op) (hop : op ≠ .rollback) (hid : id ∈ q.tx.expiring)
    (hunreleased : ∀ ids target,
      op = .updatePayments (.ofBookings ids) .pending target → id ∉ ids) :
    id ∈ (q.tx.after op a).expiring := by
  obtain ⟨tx, save⟩ := q
  cases tx with
  | expired ids =>
    cases op with
    | rollback => exact absurd rfl hop
    | begin => cases hp.2.2.1
    | commit => exact absurd rfl (hp.2.2.2 ids)
    | insertBooking => cases hp.2.2.1
    | updateBookings => exact hp.2.2.2.elim (fun h => nomatch h.1) fun h => nomatch h.1
    | updatePayments which source target =>
      rcases hp.2.2 with ⟨⟨⟩, -⟩ | ⟨ids', heq, rfl, rfl, -⟩
      cases heq
      exact absurd hid (hunreleased ids target rfl)
    | _ => exact hid
  | outside | opened | booked | resaved | released => cases hid

/-- What a session sees stays settled, but for the bookings that it is expiring. -/
theorem settled_own (hexec : exec t w s op = some (a, s')) (hp : q.permits op)
    (hstored : Settled s.db) (hview : SettledBut q.tx.expiring (s.view t))
    (hopens : ∀ id bookingId, op.Opens (s.view t) id bookingId → ∀ booking,
      (s.view t).booking bookingId = some booking → booking.status ≠ .expired) :
    SettledBut (q.tx.after op a).expiring (s'.view t) := by
  by_cases hop : op = .rollback
  · subst hop
    rw [rollback_view hexec]
    exact settled_iff.1 hstored
  intro id payment booking hpayment hpending hbooking hexpired
  rcases expired_before hexec hp hop hbooking hexpired with ⟨old, hold, hexp⟩ | ⟨ids, htx, rfl, hid⟩
  · rcases pending_before hexec hp hop hpayment hpending with
      ⟨v, hv, hvp, hvb, hunreleased⟩ | hopen
    · have hin := hview id v old hv hvp (hvb.symm ▸ hold) hexp
      rw [hvb] at hin
      exact expiring_after hp hop hin hunreleased
    · exact absurd hexp (hopens _ _ hopen old hold)
  · rw [htx]
    exact hid

/-! ## What transactions write -/

def TxStage.isSweep : TxStage → Bool
  | expired _ | released => true
  | _ => false

/-- The payment that a session has inserted, and is about to save. -/
def SaveStage.saving : SaveStage → Option (Uuid × Payment)
  | inserted id held | answered id held _ | reread id held _ _ => some (id, held)
  | _ => none

/-- What a transaction at the stage has written, while `db` is committed. -/
structure Wrote (q : PaymentStage) (written db : Database) : Prop where
  opened : q.tx = .opened → ∀ id, written.booking id = none
  booked : ∀ id, q.tx = .booked id → db.booking id = none ∧
    ∃ booking, written.booking id = some booking ∧ booking.status ≠ .expired
  payments : ∀ id payment, written.payment id = some payment →
    (q.tx = .released ∧ payment.status = .failed ∧ (written.booking payment.bookingId).isSome) ∨
      (q.tx = .booked payment.bookingId ∧ payment.status ≠ .failed)
  saving : ∀ id held, q.save.saving = some (id, held) → (written.payment id).isSome
  expires : q.tx.isSweep → ∀ id, (written.booking id).isSome → Expires db written id
  listed : ∀ id ∈ q.tx.expiring, (db.booking id).isSome
  pending : ∀ id payment, db.payment id = some payment → payment.status = .pending →
    payment.bookingId ∈ q.tx.expiring → (written.booking payment.bookingId).isSome

theorem SaveStage.saving_after {save : SaveStage} {x : Uuid × Payment}
    (hop : ∀ payment, op ≠ .insertPayment payment) (h : (save.after op a).saving = some x) :
    save.saving = some x := by
  cases op with
  | insertPayment payment => exact absurd rfl (hop payment)
  | rollback => cases h
  | initializeTransaction =>
    cases a with
    | none => exact h
    | some checkout => cases save <;> exact h
  | findPayment which =>
    cases which with
    | pendingOf bookingId =>
      cases a with
      | none => exact h
      | some found => cases save <;> exact h
    | byId id =>
      cases save with
      | answered id' held reference =>
        simp only [SaveStage.after] at h
        split_ifs at h
        · unfold SaveStage.read at h
          split at h
          · cases h
          · split_ifs at h
            · cases h
            · exact h
        · exact h
      | _ => exact h
    | _ => exact h
  | updatePayment => cases save <;> first | exact h | cases h
  | _ => exact h

/-- How a transaction writes a payment. -/
theorem payment_row_tx (hp : q.permits op) (htx : q.tx ≠ .outside)
    (h : (op.rows w (s.view t)).lookup (.payment id) = some payment) :
    (op = .insertPayment payment ∧ q.tx = .booked payment.bookingId ∧ payment.status = .pending) ∨
    (∃ ids old, (s.view t).payment id = some old ∧ q.tx = .expired ids ∧
      op = .updatePayments (.ofBookings ids) .pending .failed ∧ old.bookingId ∈ ids ∧
      old.status = .pending ∧ payment = { old with status := .failed }) ∨
    ∃ held reference stored old, q.save = .reread id held reference stored ∧
      (s.view t).payment id = some old ∧
      op = .updatePayment id ((held.referring reference).changes stored) ∧
      payment = old.set ((held.referring reference).changes stored) := by
  rcases payment_row h with ⟨rfl, -⟩ | ⟨old, hold, ⟨which, source, target, rfl, hwhich, hs, rfl⟩ |
    ⟨c, rfl, rfl⟩⟩
  · exact Or.inl ⟨rfl, hp.2.2.2.1.resolve_left htx, hp.2.2.2.2.1⟩
  · obtain ⟨ids, hids, rfl, rfl, rfl⟩ := hp.2.2.resolve_left fun h => htx h.1
    exact Or.inr (Or.inl ⟨ids, old, hold, hids, rfl, of_decide_eq_true hwhich, hs, rfl⟩)
  · obtain ⟨held, reference, stored, hsave, rfl⟩ := hp.2.2
    exact Or.inr (Or.inr ⟨held, reference, stored, old, hsave, hold, rfl, rfl⟩)

/-- An open transaction stays open until it ends. -/
theorem exec_active {x₀ : Transaction Record} (hexec : exec t w s op = some (a, s'))
    (hx : s.active.lookup t = some x₀) (hc : op ≠ .commit) (hr : op ≠ .rollback) :
    ∃ x, s'.active.lookup t = some x := by
  rcases exec_cases hexec with ⟨-, hb⟩ | ⟨rfl, -⟩ | ⟨rfl, -⟩ | ⟨_, -, hl⟩ | ⟨-, rfl⟩
  · cases hx.symm.trans (Server.begin_eq_some.1 hb).1
  · exact absurd rfl hc
  · exact absurd rfl hr
  · obtain ⟨-, x, -, rfl⟩ := Server.lock_eq_some.1 hl
    exact ⟨_, Finmap.lookup_insert _⟩
  · rw [Server.put_active hx]
    exact ⟨_, Finmap.lookup_insert _⟩

/-- A transaction that has booked stays at the stage until it ends. -/
theorem stays_booked (hp : q.permits op) (hc : op ≠ .commit) (hr : op ≠ .rollback)
    (hq : q.tx = .booked id) : q.tx.after op a = .booked id := by
  obtain ⟨tx, save⟩ := q
  obtain rfl : tx = .booked id := hq
  cases op with
  | commit => exact absurd rfl hc
  | rollback => exact absurd rfl hr
  | begin => cases hp.2.2.1
  | insertBooking => cases hp.2.2.1
  | _ => rfl

/-- How a transaction comes to be booked. -/
theorem booked_of_after {tx : TxStage} (h : tx.after op a = .booked id) :
    tx = .booked id ∨ ∃ booking, op = .insertBooking booking := by
  cases op with
  | insertBooking booking => exact Or.inr ⟨booking, rfl⟩
  | begin | commit | rollback => cases h
  | updateBookings | updateBooking | updatePayments =>
    cases tx with
    | booked => exact Or.inl h
    | outside | opened | resaved | expired | released => cases h
  | _ => exact Or.inl h

/-- How a transaction comes to expire bookings. -/
theorem expiring_of_after {tx : TxStage} (h : id ∈ (tx.after op a).expiring) :
    id ∈ tx.expiring ∨
      ∃ ids source target, tx = .opened ∧ op = .updateBookings ids source target ∧ id ∈ ids := by
  cases op with
  | insertBooking | begin | commit | rollback => cases h
  | updateBookings ids source target =>
    cases tx with
    | opened => exact Or.inr ⟨ids, source, target, rfl, rfl, h⟩
    | _ => exact Or.inl h
  | updateBooking | updatePayments =>
    cases tx with
    | outside | booked | resaved | released => exact Or.inl h
    | opened => cases h
    | expired => first | exact Or.inl h | cases h
  | _ => exact Or.inl h

theorem isSweep_of_after {tx : TxStage} (h : (tx.after op a).isSweep) :
    tx.isSweep ∨ ∃ ids source target, tx = .opened ∧ op = .updateBookings ids source target := by
  cases op with
  | insertBooking | begin | commit | rollback => cases h
  | updateBookings ids source target =>
    cases tx with
    | opened => exact Or.inr ⟨ids, source, target, rfl, rfl⟩
    | _ => exact Or.inl h
  | updateBooking | updatePayments =>
    cases tx with
    | expired | released => exact Or.inl rfl
    | outside | opened | booked | resaved => cases h
  | _ => exact Or.inl h

end

/-! ## One query inside a transaction -/

/-- A query of a transaction that has written some rows, and those that it has written then. -/
structure Writes (s : DbServer) (t : ℕ) (w : World) (op : Query) (written written' : Database) :
    Prop where
  view : ∀ row, (s.view t).lookup row = (written.lookup row).or (s.db.lookup row)
  after : ∀ row, written'.lookup row =
    ((op.rows w (s.view t)).lookup row).or (written.lookup row)

section
variable {s s' : DbServer} {t : ℕ} {w : World} {op : Query} {a : Answer op} {q : PaymentStage}
  {written written' : Database} {id : Uuid}

theorem exec_writes {x : Transaction Record} (hexec : exec t w s op = some (a, s'))
    (hop : op ≠ .begin) (hx : s'.active.lookup t = some x) :
    ∃ x₀, s.active.lookup t = some x₀ ∧ s'.stored = s.stored ∧
      Writes s t w op x₀.written x.written := by
  obtain ⟨x₀, hx₀, hstored, hw⟩ := (exec_written hexec hx).resolve_left fun h => hop h.1
  exact ⟨x₀, hx₀, hstored, Server.lookup_view hx₀, hw⟩

theorem Writes.isSome (hw : Writes s t w op written written') {row : Row}
    (h : (written.lookup row).isSome) : (written'.lookup row).isSome := by
  rw [hw.after, Option.isSome_or, h, Bool.or_true]

/-- After its first write, a transaction writes no bookings. -/
theorem Writes.booking (hw : Writes s t w op written written') (hp : q.permits op)
    (htx : q.tx ≠ .outside) (hopened : q.tx ≠ .opened) (id : Uuid) :
    written'.booking id = written.booking id := by
  rw [Database.booking, hw.after]
  cases hrow : (op.rows w (s.view t)).lookup (.booking id) with
  | none => exact Option.none_or
  | some v => exact absurd (booking_row_tx hp htx hrow).1 hopened

/-- A transaction that has written no bookings sees the committed ones. -/
theorem Wrote.booking_view (h : Wrote q written s.db) (hw : Writes s t w op written written')
    (hopened : q.tx = .opened) (id : Uuid) : (s.view t).booking id = s.db.booking id := by
  rw [Database.booking, hw.view]
  exact (congrArg (Option.or · _) (h.opened hopened id)).trans Option.none_or

/-- Sweeps see the committed payments, until they release them. -/
theorem Wrote.payment_view (h : Wrote q written s.db) (hw : Writes s t w op written written')
    (hreleased : q.tx ≠ .released) (hbooked : ∀ id, q.tx ≠ .booked id) (id : Uuid) :
    (s.view t).payment id = s.db.payment id := by
  rw [Database.payment, hw.view]
  cases hrow : written.lookup (.payment id) with
  | none => exact Option.none_or
  | some payment =>
    rcases h.payments id payment hrow with ⟨hrel, -⟩ | ⟨hbook, -⟩
    · exact absurd hrel hreleased
    · exact absurd hbook (hbooked _)

/-- Inside a transaction, conditional updates expire bookings. -/
theorem sweep_of_permits {ids : List Uuid} {source target : BookingStatus}
    (hp : q.permits (.updateBookings ids source target)) (htx : q.tx = .opened) :
    source = .pending ∧ target = .expired := by
  refine ⟨hp.2.2.1, ?_⟩
  rcases hp.2.2.2 with ⟨hout, -⟩ | ⟨-, htarget⟩
  · cases htx.symm.trans hout
  · exact htarget

theorem Wrote.opened_after (h : Wrote q written s.db) (hw : Writes s t w op written written')
    (hp : q.permits op) (htx : q.tx ≠ .outside) (hop : op ≠ .begin)
    (hopened : q.tx.after op a = .opened) (id : Uuid) : written'.booking id = none := by
  rw [Database.booking, hw.after]
  cases hrow : (op.rows w (s.view t)).lookup (.booking id) with
  | none => exact h.opened (TxStage.opened_of_after hop hopened) id
  | some v => exact absurd hopened ((booking_row_tx hp htx hrow).2 a)

theorem Wrote.booked_after (h : Wrote q written s.db) (hw : Writes s t w op written written')
    (hexec : exec t w s op = some (a, s')) (hp : q.permits op) (htx : q.tx ≠ .outside)
    (hbooked : q.tx.after op a = .booked id) : s.db.booking id = none ∧
      ∃ booking, written'.booking id = some booking ∧ booking.status ≠ .expired := by
  rcases booked_of_after hbooked with hq | ⟨booking, rfl⟩
  · rw [hw.booking hp htx (fun hopened => by cases hq.symm.trans hopened)]
    exact h.booked id hq
  · have hfresh := (insertBooking_fresh hexec).1
    obtain ⟨_, -, heq⟩ := Option.map_eq_some_iff.1 hexec
    cases heq
    obtain rfl : w.id = id := TxStage.booked.inj hbooked
    refine ⟨?_, { booking with createdAt := w.now }, ?_, fun hexpired => ?_⟩
    · rw [← h.booking_view hw hp.2.2.1]
      exact Finmap.lookup_eq_none.2 hfresh
    · rw [Database.booking, hw.after]
      exact congrArg (Option.or · _) (Finmap.lookup_insert _)
    · cases hp.2.2.2.symm.trans hexpired

theorem Wrote.expires_after (h : Wrote q written s.db) (hw : Writes s t w op written written')
    (hp : q.permits op) (htx : q.tx ≠ .outside) (hsweep : (q.tx.after op a).isSweep)
    (hid : (written'.booking id).isSome) : Expires s.db written' id := by
  rcases isSweep_of_after hsweep with hq | ⟨ids, source, target, hq, rfl⟩
  · have hsame := hw.booking hp htx (fun hopened => by rw [hopened] at hq; cases hq) id
    rw [hsame] at hid
    rw [Expires, hsame]
    exact h.expires hq id hid
  · obtain ⟨rfl, rfl⟩ := sweep_of_permits hp hq
    obtain ⟨new, hnew⟩ := Option.isSome_iff_exists.1 hid
    have hrow := hnew
    rw [Database.booking, hw.after, Option.or_eq_some_iff] at hrow
    rcases hrow with hrow | ⟨-, hold⟩
    · rcases booking_row hrow with ⟨_, ⟨⟩, -⟩ | ⟨old, hold, ⟨_, _, _, ⟨⟩, -, hs, rfl⟩ | ⟨_, ⟨⟩, -⟩⟩
      rw [h.booking_view hw hq] at hold
      rw [Expires, hnew, hold]
      exact ⟨congrArg some hs, rfl⟩
    · cases (h.opened hq id).symm.trans hold

/-- What a session is saving, it has inserted just now, or was saving before. -/
theorem SaveStage.saving_cases (hexec : exec t w s op = some (a, s')) {held : Payment}
    (hsaving : (q.save.after op a).saving = some (id, held)) :
    (op = .insertPayment held ∧ id = w.id) ∨ q.save.saving = some (id, held) := by
  by_cases hop : ∃ payment, op = .insertPayment payment
  · obtain ⟨payment, rfl⟩ := hop
    obtain ⟨_, -, heq⟩ := Option.map_eq_some_iff.1 hexec
    cases heq
    cases hsaving
    exact Or.inl ⟨rfl, rfl⟩
  · exact Or.inr (SaveStage.saving_after (not_exists.1 hop) hsaving)

theorem Wrote.saving_after (h : Wrote q written s.db) (hw : Writes s t w op written written')
    (hexec : exec t w s op = some (a, s')) {held : Payment}
    (hsaving : (q.save.after op a).saving = some (id, held)) : (written'.payment id).isSome := by
  rcases SaveStage.saving_cases hexec hsaving with ⟨rfl, rfl⟩ | hold
  · rw [Database.payment, hw.after, Option.isSome_or]
    have hrow : (Query.rows w (s.view t) (.insertPayment held)).lookup (.payment w.id) =
        some held := Finmap.lookup_insert _
    rw [hrow]
    rfl
  · exact hw.isSome (h.saving id held hold)

theorem Wrote.payments_after (h : Wrote q written s.db) (hw : Writes s t w op written written')
    (hp : q.permits op) (htx : q.tx ≠ .outside) (hc : op ≠ .commit) (hr : op ≠ .rollback)
    (hheld : ∀ id held, q.save.saving = some (id, held) → held.status = .pending)
    {payment : Payment} (hnew : written'.payment id = some payment) :
    (q.tx.after op a = .released ∧ payment.status = .failed ∧
        (written'.booking payment.bookingId).isSome) ∨
      (q.tx.after op a = .booked payment.bookingId ∧ payment.status ≠ .failed) := by
  rw [Database.payment, hw.after, Option.or_eq_some_iff] at hnew
  have hbooked {id : Uuid} {payment : Payment} (hold : written.payment id = some payment) :
      q.tx = .booked payment.bookingId ∧ payment.status ≠ .failed := by
    refine (h.payments id payment hold).resolve_left fun hrel => hc (hp.1 ?_)
    rw [hrel.1]
    rfl
  rcases hnew with hrow | ⟨-, hold⟩
  · rcases payment_row_tx hp htx hrow with ⟨rfl, hq, hpending⟩ |
      ⟨ids, old, hold, hq, rfl, hid, hpending, rfl⟩ |
      ⟨held, reference, stored, old, hsave, hold, rfl, rfl⟩
    · exact Or.inr ⟨stays_booked hp hc hr hq, hpending ▸ PaymentStatus.noConfusion⟩
    · rw [h.payment_view hw (hq ▸ TxStage.noConfusion) (hq ▸ fun _ => TxStage.noConfusion)] at hold
      refine Or.inl ⟨?_, rfl, hw.isSome (h.pending id old hold hpending ?_)⟩
      · rw [hq]
        rfl
      · rw [hq]
        exact hid
    · have hsaving : q.save.saving = some (id, held) := by rw [hsave]; rfl
      obtain ⟨v, hv⟩ := Option.isSome_iff_exists.1 (h.saving id held hsaving)
      obtain rfl : v = old := by
        rw [Database.payment, hw.view] at hold
        have hv' : written.lookup (.payment id) = some v := hv
        rw [hv'] at hold
        exact Option.some.inj hold
      obtain ⟨hq, hlive⟩ := hbooked hv
      refine Or.inr ⟨stays_booked hp hc hr hq, ?_⟩
      rw [Payment.set]
      cases hs : ((held.referring reference).changes stored).status with
      | none => exact hlive
      | some status =>
        obtain ⟨-, rfl⟩ := differing_eq_some.1 hs
        exact fun hfailed => by cases (hheld id held hsaving).symm.trans hfailed
  · obtain ⟨hq, hlive⟩ := hbooked hold
    exact Or.inr ⟨stays_booked hp hc hr hq, hlive⟩

theorem Wrote.listed_after (h : Wrote q written s.db) (hw : Writes s t w op written written')
    (hp : q.permits op)
    (hlist : ∀ ids, op = .updateBookings ids .pending .expired → SweepsPending (s.view t) ids)
    (hid : id ∈ (q.tx.after op a).expiring) : (s.db.booking id).isSome := by
  rcases expiring_of_after hid with hq | ⟨ids, source, target, hq, rfl, hmem⟩
  · exact h.listed id hq
  · obtain ⟨rfl, rfl⟩ := sweep_of_permits hp hq
    obtain ⟨booking, hbooking, -⟩ := hlist ids rfl id hmem
    rw [← h.booking_view hw hq, hbooking]
    rfl

theorem Wrote.pending_after (h : Wrote q written s.db) (hw : Writes s t w op written written')
    (hp : q.permits op)
    (hlist : ∀ ids, op = .updateBookings ids .pending .expired → SweepsPending (s.view t) ids)
    {payment : Payment} (hpayment : s.db.payment id = some payment)
    (hpending : payment.status = .pending)
    (hid : payment.bookingId ∈ (q.tx.after op a).expiring) :
    (written'.booking payment.bookingId).isSome := by
  rcases expiring_of_after hid with hq | ⟨ids, source, target, hq, rfl, hmem⟩
  · exact hw.isSome (h.pending id payment hpayment hpending hq)
  · obtain ⟨rfl, rfl⟩ := sweep_of_permits hp hq
    obtain ⟨booking, hbooking, hnone⟩ := hlist ids rfl _ hmem
    have hview : (s.view t).payment id = some payment :=
      (h.payment_view hw (hq ▸ TxStage.noConfusion) (hq ▸ fun _ => TxStage.noConfusion) id).trans
        hpayment
    by_cases hb : booking.status = .pending
    · have hset : bookingUpdate ids .pending .expired (.booking payment.bookingId) booking =
          some { booking with status := .expired } := if_pos ⟨hmem, hb⟩
      rw [Database.booking, hw.after, Option.isSome_or, Query.rows, Storage.lookup_changes]
      have hold : (s.view t).lookup (.booking payment.bookingId) = some booking := hbooking
      rw [hold, Option.bind_some, hset]
      rfl
    · exact absurd hpending (hnone hb id payment hview rfl)

/-- What a transaction has written after one more query. -/
theorem Wrote.after (h : Wrote q written s.db) (hw : Writes s t w op written written')
    (hexec : exec t w s op = some (a, s')) (hp : q.permits op) (htx : q.tx ≠ .outside)
    (hop : op ≠ .begin) (hc : op ≠ .commit) (hr : op ≠ .rollback)
    (hheld : ∀ id held, q.save.saving = some (id, held) → held.status = .pending)
    (hlist : ∀ ids, op = .updateBookings ids .pending .expired → SweepsPending (s.view t) ids) :
    Wrote (q.after op a) written' s.db where
  opened hopened id := h.opened_after hw hp htx hop hopened id
  booked _ hbooked := h.booked_after hw hexec hp htx hbooked
  payments _ _ hnew := h.payments_after hw hp htx hc hr hheld hnew
  saving _ _ hsaving := h.saving_after hw hexec hsaving
  expires hsweep _ hid := h.expires_after hw hp htx hsweep hid
  listed _ hid := h.listed_after hw hp hlist hid
  pending _ _ hpayment hpending hid := h.pending_after hw hp hlist hpayment hpending hid

end

end Backend
