/-
  A delivery of `charge.success` and the sweeps around it: what each can do to the payment and its
  booking.

  Others may make a PENDING payment FAILED, and a PENDING booking EXPIRED.  The delivery's own
  queries are outside a transaction, or in the one that reactivates the booking.
-/
import NovaLabs.Backend.SweepSteps
import NovaLabs.Lib.Rely

namespace Backend

open Lib

/-! ## What is followed -/

/-- The payment is SUCCESS, and its booking CONFIRMED. -/
def Honoured (id bookingId : Uuid) (db : Database) : Prop :=
  (∃ v, db.payment id = some v ∧ v.status = .success) ∧
    ∃ v, db.booking bookingId = some v ∧ v.status = .confirmed

/-- The workspace has seats for the booking, besides those that are taken. -/
def SeatsFree (db : Database) (bookingId : Uuid) : Prop :=
  ∃ booking workspace, db.booking bookingId = some booking ∧
    db.workspace booking.workspaceId = some workspace ∧
    ((Storage.total db (seatsHeld booking.workspaceId booking.startDate booking.endDate
      (some bookingId)) : ℕ) : ℤ) + booking.seatCount ≤ workspace.totalSeats

instance (db : Database) (bookingId : Uuid) : Decidable (SeatsFree db bookingId) :=
  decidable_of_iff ((db.booking bookingId).any fun booking =>
      (db.workspace booking.workspaceId).any fun workspace =>
        ((Storage.total db (seatsHeld booking.workspaceId booking.startDate booking.endDate
          (some bookingId)) : ℕ) : ℤ) + booking.seatCount ≤ workspace.totalSeats) <| by
    simp only [Option.any_eq_true, decide_eq_true_eq, SeatsFree]
    exact exists_congr fun booking => ⟨fun ⟨hb, workspace, h⟩ => ⟨workspace, hb, h⟩,
      fun ⟨workspace, hb, h⟩ => ⟨hb, workspace, h⟩⟩

/-- The first look at the payment. -/
def Query.looksUp : Query → Bool
  | .findPayment (.byReference _) => true
  | _ => false

/-- A look at the payment finds it under its reference; an update to SUCCESS finds it PENDING; one
    to CONFIRMED finds the booking not EXPIRED. -/
def Query.finds (id bookingId : Uuid) (db : Database) : Query → Prop
  | .findPayment (.byReference reference) =>
    ∃ v, db.payment id = some v ∧ v.providerReference = some reference
  | .updatePayments _ .pending .success => ∃ v, db.payment id = some v ∧ v.status = .pending
  | .updateBookings _ .pending .confirmed =>
    ∀ v, db.booking bookingId = some v → v.status ≠ .expired
  | _ => True

instance (id bookingId : Uuid) (db : Database) (op : Query) :
    Decidable (op.finds id bookingId db) := by
  unfold Query.finds
  split
  · exact inferInstanceAs (Decidable (∃ v ∈ db.payment id, _))
  · exact inferInstanceAs (Decidable (∃ v ∈ db.payment id, _))
  · exact inferInstanceAs (Decidable (∀ v ∈ db.booking bookingId, _))
  · exact isTrue trivial

/-- The store; whether the delivery has looked its payment up; whether it has found its rows. -/
structure Watched where
  server : DbServer
  looked : Prop
  finds : Prop

/-- What other sessions do: a PENDING payment may become FAILED, and a PENDING booking EXPIRED. -/
structure Undisturbed (t : ℕ) (id bookingId : Uuid) (w w' : Watched) : Prop where
  active : w'.server.active.lookup t = w.server.active.lookup t
  kept : ∀ x k, w.server.active.lookup t = some x → x.Owns k →
    w'.server.db.lookup k = w.server.db.lookup k
  payment : ∀ v, w.server.db.payment id = some v → w'.server.db.payment id = some v ∨
    v.status = .pending ∧ w'.server.db.payment id = some { v with status := .failed }
  booking : ∀ v, w.server.db.booking bookingId = some v → w'.server.db.booking bookingId = some v ∨
    v.status = .pending ∧ w'.server.db.booking bookingId = some { v with status := .expired }
  looked : w'.looked ↔ w.looked
  finds : w'.finds ↔ w.finds

/-- The delivery makes a query, while the seats are free, and the reference is the payment's. -/
structure Makes (t : ℕ) (id bookingId : Uuid) (reference : String) (op : Query) (w : Watched)
    (a : Answer op) (w' : Watched) : Prop where
  exec : ∃ world, exec t world w.server op = some (a, w'.server)
  seats : SeatsFree w.server.db bookingId
  unique : ∀ id' v, w.server.db.payment id' = some v → v.providerReference = some reference →
    id' = id
  looked : w'.looked ↔ w.looked ∨ op.looksUp
  finds : w'.finds ↔ w.finds ∧ op.finds id bookingId w.server.db

/-- A delivery for the payment, among sweeps. -/
def capture (t : ℕ) (id bookingId : Uuid) (reference : String) : Rely Answer Watched where
  own := Makes t id bookingId reference
  others := Undisturbed t id bookingId
  refl _ := ⟨rfl, fun _ _ _ _ => rfl, fun _ hv => Or.inl hv, fun _ hv => Or.inl hv, Iff.rfl,
    Iff.rfl⟩
  trans {w w' w''} h h' := by
    refine ⟨h'.active.trans h.active, fun x k hx hk => ?_, fun v hv => ?_, fun v hv => ?_,
      h'.looked.trans h.looked, h'.finds.trans h.finds⟩
    · exact (h'.kept x k (h.active.trans hx) hk).trans (h.kept x k hx hk)
    · rcases h.payment v hv with hv' | ⟨hpending, hv'⟩
      · exact h'.payment v hv'
      · rcases h'.payment _ hv' with hv'' | ⟨⟨⟩, -⟩
        exact Or.inr ⟨hpending, hv''⟩
    · rcases h.booking v hv with hv' | ⟨hpending, hv'⟩
      · exact h'.booking v hv'
      · rcases h'.booking _ hv' with hv'' | ⟨⟨⟩, -⟩
        exact Or.inr ⟨hpending, hv''⟩

/-! ## What others leave true -/

/-- The session has no transaction open. -/
def Outside (t : ℕ) (s : DbServer) : Prop := s.active.lookup t = none

/-- The session has a transaction open, with the property. -/
def Inside (t : ℕ) (p : Transaction Record → Prop) (s : DbServer) : Prop :=
  ∃ x, s.active.lookup t = some x ∧ p x

def PaymentIs (id : Uuid) (p : Payment → Prop) (s : DbServer) : Prop :=
  ∃ v, s.db.payment id = some v ∧ p v

def BookingIs (id : Uuid) (p : Booking → Prop) (s : DbServer) : Prop :=
  ∃ v, s.db.booking id = some v ∧ p v

/-- As the operation that has issued a reference leaves the payment, or a sweep after it. -/
structure Payment.Awaited (bookingId : Uuid) (v : Payment) : Prop where
  booking : v.bookingId = bookingId
  status : v.status = .pending ∨ v.status = .failed

theorem Payment.Awaited.unmarked {bookingId : Uuid} {v : Payment} (h : v.Awaited bookingId) :
    v.status ≠ .success := by
  rcases h.status with hs | hs <;> rw [hs] <;> exact PaymentStatus.noConfusion

section
variable {t : ℕ} {id bookingId : Uuid} {reference : String} {w w' : Watched}

theorem stable_outside : (capture t id bookingId reference).Stable fun w => Outside t w.server :=
  fun _ _ h hx => h.active.trans hx

theorem stable_inside {p : Transaction Record → Prop} :
    (capture t id bookingId reference).Stable fun w => Inside t p w.server :=
  fun _ _ h ⟨x, hx, hp⟩ => ⟨x, h.active.trans hx, hp⟩

theorem stable_payment {p : Payment → Prop}
    (hp : ∀ v, p v → v.status = .pending → p { v with status := .failed }) :
    (capture t id bookingId reference).Stable fun w => PaymentIs id p w.server := by
  rintro w w' h ⟨v, hv, hpv⟩
  rcases h.payment v hv with hv' | ⟨hpending, hv'⟩
  · exact ⟨v, hv', hpv⟩
  · exact ⟨_, hv', hp v hpv hpending⟩

theorem stable_booking {p : Booking → Prop}
    (hp : ∀ v, p v → v.status = .pending → p { v with status := .expired }) :
    (capture t id bookingId reference).Stable fun w => BookingIs bookingId p w.server := by
  rintro w w' h ⟨v, hv, hpv⟩
  rcases h.booking v hv with hv' | ⟨hpending, hv'⟩
  · exact ⟨v, hv', hpv⟩
  · exact ⟨_, hv', hp v hpv hpending⟩

theorem stable_looked : (capture t id bookingId reference).Stable Watched.looked :=
  fun _ _ h => h.looked.2

theorem stable_not_looked : (capture t id bookingId reference).Stable fun w => ¬ w.looked :=
  fun _ _ h hw => hw ∘ h.looked.1

theorem stable_finds : (capture t id bookingId reference).Stable Watched.finds :=
  fun _ _ h => h.finds.2

theorem stable_not_finds : (capture t id bookingId reference).Stable fun w => ¬ w.finds :=
  fun _ _ h hw => hw ∘ h.finds.1

end

/-! ## What the delivery's own queries do -/

/-- Neither a payment's row nor a booking's status is written. -/
def Query.leavesStatus : Query → Bool
  | .updateBooking _ c => c.status = none
  | .findBooking _ | .findPayment (.byId _) => true
  | op => op.isAside

section
variable {s s' : DbServer} {t n : ℕ} {world : World} {id bookingId : Uuid} {reference : String}
  {w w' : Watched} {op : Query} {a : Answer op}

theorem update_affected {f : ∀ row, Record row → Option (Record row)}
    (h : s.update t f = some (n, s')) :
    n ≠ 0 ↔ ∃ row v, (s.view t).lookup row = some v ∧ (f row v).isSome := by
  obtain ⟨rfl, -, -⟩ := update_eq_some.1 h
  rw [Finset.card_ne_zero]
  constructor
  · rintro ⟨row, hrow⟩
    obtain ⟨new, hnew⟩ := Finmap.mem_iff.1 (Finmap.mem_keys.1 hrow)
    rw [Storage.lookup_changes, Option.bind_eq_some_iff] at hnew
    obtain ⟨v, hv, hf⟩ := hnew
    exact ⟨row, v, hv, Option.isSome_of_eq_some hf⟩
  · rintro ⟨row, v, hv, hf⟩
    obtain ⟨new, hnew⟩ := Option.isSome_iff_exists.1 hf
    refine ⟨row, Finmap.mem_keys.2 (Finmap.mem_iff.2 ⟨new, ?_⟩)⟩
    rw [Storage.lookup_changes, hv, Option.bind_some, hnew]

theorem updatePayments_affected {source target : PaymentStatus}
    (h : exec t world s (.updatePayments (.byId id) source target) = some (n, s')) :
    n ≠ 0 ↔ ∃ v, (s.view t).payment id = some v ∧ v.status = source := by
  rw [update_affected h]
  constructor
  · rintro ⟨row, v, hv, hf⟩
    cases row with
    | payment id' =>
      obtain ⟨new, hnew⟩ := Option.isSome_iff_exists.1 hf
      obtain ⟨⟨hid, hs⟩, -⟩ := Option.ite_none_right_eq_some.1 hnew
      obtain rfl : id' = id := of_decide_eq_true hid
      exact ⟨v, hv, hs⟩
    | workspace | booking | user => cases hf
  · rintro ⟨v, hv, hs⟩
    refine ⟨.payment id, v, hv, ?_⟩
    rw [paymentUpdate, if_pos ⟨decide_eq_true rfl, hs⟩]
    rfl

/-- A query that writes nothing leaves the store alone. -/
theorem Makes.reads (h : Makes t id bookingId reference op w a w') (hop : op.isPlain)
    (hrows : ∀ world db, op.rows world db = ∅) : w'.server = w.server := by
  obtain ⟨world, hexec⟩ := h.exec
  rw [exec_plain hexec hop, hrows, Server.put_empty]

/-- Outside a transaction, rows are committed at once. -/
theorem Makes.commits (h : Makes t id bookingId reference op w a w') (hop : op.isPlain)
    (hx : Outside t w.server) : Outside t w'.server ∧ ∃ world,
      Backend.exec t world w.server op = some (a, w'.server) ∧ ∀ k, w'.server.db.lookup k =
        ((op.rows world w.server.db).lookup k).or (w.server.db.lookup k) := by
  obtain ⟨world, hexec⟩ := h.exec
  have hs := exec_plain hexec hop
  rw [DbServer.view, Server.view_none hx, Server.put_none hx] at hs
  refine ⟨?_, world, hexec, fun k => ?_⟩
  · rw [Outside, hs]
    exact hx
  · rw [hs]
    exact Storage.lookup_union _ _ k

theorem leavesStatus_plain (hop : op.leavesStatus) (id bookingId : Uuid) (db : Database) :
    op.isPlain ∧ op.looksUp = false ∧ op.finds id bookingId db := by
  cases op with
  | findPayment which => cases which <;> first | exact ⟨rfl, rfl, trivial⟩ | cases hop
  | _ => first | exact ⟨rfl, rfl, trivial⟩ | cases hop

theorem leavesStatus_payment (hop : op.leavesStatus) (db : Database) :
    (op.rows world db).lookup (.payment id) = none := by
  refine Option.eq_none_iff_forall_not_mem.2 fun new hnew => ?_
  rcases payment_row hnew with ⟨rfl, -⟩ | ⟨old, -, ⟨which, source, target, rfl, -⟩ | ⟨c, rfl, -⟩⟩
  all_goals cases hop

theorem leavesStatus_booking (hop : op.leavesStatus) {db : Database} {new : Booking}
    (hnew : (op.rows world db).lookup (.booking bookingId) = some new) :
    ∃ old, db.booking bookingId = some old ∧ new.status = old.status := by
  rcases booking_row hnew with ⟨booking, rfl, -⟩ | ⟨old, hold, ⟨ids, source, target, rfl, -⟩ |
    ⟨c, rfl, rfl⟩⟩
  · cases hop
  · cases hop
  · have hc : c.status = none := of_decide_eq_true hop
    exact ⟨old, hold, by rw [Booking.set, hc]; rfl⟩

/-- The delivery has looked the payment up.  It has found its rows, and the payment is honoured; or
    it has not, and the payment is not marked, or the booking EXPIRED. -/
def Resolved (t : ℕ) (id bookingId : Uuid) (w : Watched) : Prop :=
  Outside t w.server ∧ w.looked ∧
    ((w.finds ∧ PaymentIs id (·.status = .success) w.server ∧
      BookingIs bookingId (·.status = .confirmed) w.server) ∨
    (¬ w.finds ∧ (PaymentIs id (·.status ≠ .success) w.server ∨
      BookingIs bookingId (·.status = .expired) w.server)))

theorem stable_status {status : PaymentStatus} (hs : status ≠ .pending) :
    (capture t id bookingId reference).Stable fun w => PaymentIs id (·.status = status) w.server :=
  stable_payment fun _ hv hpending => absurd (hv.symm.trans hpending) hs

theorem stable_bookingStatus {status : BookingStatus} (hs : status ≠ .pending) :
    (capture t id bookingId reference).Stable fun w =>
      BookingIs bookingId (·.status = status) w.server :=
  stable_booking fun _ hv hpending => absurd (hv.symm.trans hpending) hs

theorem stable_resolved : (capture t id bookingId reference).Stable (Resolved t id bookingId) :=
  stable_outside.and <| stable_looked.and <|
    (stable_finds.and ((stable_status PaymentStatus.noConfusion).and
      (stable_bookingStatus BookingStatus.noConfusion))).or
    (stable_not_finds.and ((stable_payment fun _ _ _ => PaymentStatus.noConfusion).or
      (stable_bookingStatus BookingStatus.noConfusion)))

theorem Makes.leaves (h : Makes t id bookingId reference op w a w') (hop : op.leavesStatus)
    (hx : Outside t w.server) : Outside t w'.server ∧ (w'.looked ↔ w.looked) ∧
      (w'.finds ↔ w.finds) ∧ (∀ p, PaymentIs id p w.server → PaymentIs id p w'.server) ∧
      ∀ p : BookingStatus → Prop, BookingIs bookingId (fun v => p v.status) w.server →
        BookingIs bookingId (fun v => p v.status) w'.server := by
  obtain ⟨hplain, hlooks, htime⟩ := leavesStatus_plain hop id bookingId w.server.db
  obtain ⟨hx', world, -, hrows⟩ := h.commits hplain hx
  refine ⟨hx', h.looked.trans (or_iff_left (Bool.not_eq_true _ ▸ hlooks)),
    h.finds.trans (and_iff_left htime), ?_, ?_⟩
  · rintro p ⟨v, hv, hp⟩
    refine ⟨v, ?_, hp⟩
    rw [Database.payment, hrows, leavesStatus_payment hop, Option.none_or]
    exact hv
  · rintro p ⟨v, hv, hp⟩
    cases hnew : (op.rows world w.server.db).lookup (.booking bookingId) with
    | none =>
      refine ⟨v, ?_, hp⟩
      rw [Database.booking, hrows, hnew, Option.none_or]
      exact hv
    | some new =>
      obtain ⟨old, hold, hsame⟩ := leavesStatus_booking hop hnew
      obtain rfl := Option.some.inj (hold.symm.trans hv)
      refine ⟨new, ?_, (congrArg p hsame).mpr hp⟩
      rw [Database.booking, hrows, hnew, Option.some_or]

theorem Resolved.step (hw : Resolved t id bookingId w)
    (h : Makes t id bookingId reference op w a w') (hop : op.leavesStatus) :
    Resolved t id bookingId w' := by
  obtain ⟨hx, hlooked, hw⟩ := hw
  obtain ⟨hx', hl, hin, hpayment, hbooking⟩ := h.leaves hop hx
  refine ⟨hx', hl.2 hlooked, ?_⟩
  rcases hw with ⟨ht, hp, hb⟩ | ⟨ht, hmissed⟩
  · exact Or.inl ⟨hin.2 ht, hpayment _ hp, hbooking (· = .confirmed) hb⟩
  · exact Or.inr ⟨ht ∘ hin.1, hmissed.imp (hpayment _) (hbooking (· = .expired))⟩

/-- Nothing that leaves the statuses alone changes what is resolved. -/
theorem resolved_only {α : Type} {x : Proc α} (hx : x.Only Query.leavesStatus)
    (hw : Resolved t id bookingId w) :
    Ensures (capture t id bookingId reference) (fun _ => Resolved t id bookingId) x w :=
  Ensures.only hx stable_resolved (fun _ _ _ _ hop hw h => hw.step h hop) hw

end

end Backend
