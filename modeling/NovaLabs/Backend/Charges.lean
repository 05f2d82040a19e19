/-
  What customers are charged.

  Prices and amounts are written once: every payment is for the price of its booking, and whatever
  Paystack is asked to charge is the amount of a payment.
-/
import NovaLabs.Backend.BillProtocol
import NovaLabs.Backend.References

namespace Backend

open Lib

/-! ## What is written once -/

/-- What a booking was made of. -/
def Booking.asMade (booking : Booking) : Booking :=
  { booking with status := .pending, sorobanEscrowId := none, createdAt := 0 }

/-- What a payment was made of. -/
def Payment.asMade (payment : Payment) : Payment :=
  { payment with status := .pending, providerReference := none }

@[simp] theorem Booking.asMade_userId (booking : Booking) :
    booking.asMade.userId = booking.userId := rfl

@[simp] theorem Booking.asMade_totalAmount (booking : Booking) :
    booking.asMade.totalAmount = booking.totalAmount := rfl

@[simp] theorem Payment.asMade_bookingId (payment : Payment) :
    payment.asMade.bookingId = payment.bookingId := rfl

@[simp] theorem Payment.asMade_userId (payment : Payment) :
    payment.asMade.userId = payment.userId := rfl

@[simp] theorem Payment.asMade_amount (payment : Payment) :
    payment.asMade.amount = payment.amount := rfl

/-- Bookings and payments stay as they were made. -/
def MadeAllow : ∀ row, Option (Record row) → Record row → Prop
  | .booking _, old, new => ∀ v, old = some v → new.asMade = v.asMade
  | .payment _, old, new => ∀ v, old = some v → new.asMade = v.asMade
  | .workspace _, _, _ | .user _, _, _ => True

def madeDiscipline : Discipline Record where
  allows _ := MadeAllow
  mono _ h := h
  trans {_ row _ _ _} h h' := by
    cases row with
    | booking | payment => exact fun v hv => (h' _ rfl).trans (h v hv)
    | workspace | user => trivial

/-- The rows may have changed from `db` to `db'`. -/
abbrev MadeMoves (locked : Finset Row) (db db' : Database) : Prop :=
  ∀ row, madeDiscipline.Moves locked row (db.lookup row) (db'.lookup row)

/-- The booking is there, as it was made. -/
def Booked (db : Database) (id : Uuid) (booking : Booking) : Prop :=
  ∃ v, db.booking id = some v ∧ v.asMade = booking.asMade

/-- The payment is there, as it was made. -/
def Charged (db : Database) (id : Uuid) (payment : Payment) : Prop :=
  ∃ v, db.payment id = some v ∧ v.asMade = payment.asMade

/-- Every payment is for a booking that is there. -/
def Billed (db : Database) : Prop :=
  ∀ id payment, db.payment id = some payment →
    ∃ booking, db.booking payment.bookingId = some booking ∧ BillsFor payment booking

section
variable {locked : Finset Row} {db db' : Database} {id : Uuid} {booking booking' : Booking}
  {payment payment' : Payment}

theorem Booked.moves (h : Booked db id booking) (hm : MadeMoves locked db db') :
    Booked db' id booking := by
  obtain ⟨v, hv, hmade⟩ := h
  rcases hm (.booking id) with hsame | ⟨v', hv', hallows⟩
  · exact ⟨v, hsame.trans hv, hmade⟩
  · exact ⟨v', hv', (hallows v hv).trans hmade⟩

theorem Charged.moves (h : Charged db id payment) (hm : MadeMoves locked db db') :
    Charged db' id payment := by
  obtain ⟨v, hv, hmade⟩ := h
  rcases hm (.payment id) with hsame | ⟨v', hv', hallows⟩
  · exact ⟨v, hsame.trans hv, hmade⟩
  · exact ⟨v', hv', (hallows v hv).trans hmade⟩

theorem BillsFor.congr (h : BillsFor payment booking) (hp : payment'.asMade = payment.asMade)
    (hb : booking'.asMade = booking.asMade) : BillsFor payment' booking' := by
  have hamount : payment'.amount = payment.amount := by simpa using congrArg Payment.amount hp
  have hpayer : payment'.userId = payment.userId := by simpa using congrArg Payment.userId hp
  have htotal : booking'.totalAmount = booking.totalAmount := by
    simpa using congrArg Booking.totalAmount hb
  have huser : booking'.userId = booking.userId := by simpa using congrArg Booking.userId hb
  exact ⟨by rw [hamount, htotal, h.1], by rw [hpayer, huser, h.2]⟩

/-- A payment bills for a booking as it was made. -/
theorem Billed.booked (h : Billed db) (hp : db.payment id = some payment)
    (hb : Booked db payment.bookingId booking) : BillsFor payment booking := by
  obtain ⟨v, hv, hbills⟩ := h id payment hp
  obtain ⟨v', hv', hmade⟩ := hb
  obtain rfl := Option.some.inj (hv.symm.trans hv')
  exact hbills.congr rfl hmade.symm

/-- A row that only moves still bills. -/
theorem Billed.moved (h : Billed db) (hm : MadeMoves locked db db')
    (hp : db.payment id = some payment) (hmade : payment'.asMade = payment.asMade) :
    ∃ booking, db'.booking payment'.bookingId = some booking ∧ BillsFor payment' booking := by
  obtain ⟨v, hv, hbills⟩ := h id payment hp
  obtain ⟨v', hv', hmade'⟩ := Booked.moves ⟨v, hv, rfl⟩ hm
  have hid : payment'.bookingId = payment.bookingId := by simpa using congrArg Payment.bookingId hmade
  exact ⟨v', hid ▸ hv', hbills.congr hmade hmade'⟩

end

/-! ## What sessions know -/

/-- What a stage says about the store. -/
def BillStage.Holds (s : DbServer) (t : ℕ) : BillStage → Prop
  | idle => True
  | offered id workspace =>
    .workspace id ∈ s.locks t ∧ (s.view t).workspace id = some workspace
  | priced id booking => Booked (s.view t) id booking
  | billed id booking paymentId => Booked (s.view t) id booking ∧
      ∃ payment, (s.view t).payment paymentId = some payment ∧ payment.bookingId = id
  | captured id payment => Charged (s.view t) id payment

section
variable {s s' : DbServer} {t t' : ℕ} {w : World} {op : Query} {a : Answer op} {q : BillStage}
  {cfg : Config} {id : Uuid} {locked : Finset Row}

/-- Bookings and payments stay as they were made. -/
theorem rows_as_made (hexec : exec t w s op = some (a, s')) (row : Row) (new : Record row)
    (hrow : (op.rows w (s.view t)).lookup row = some new) :
    MadeAllow row ((s.view t).lookup row) new := by
  cases row with
  | workspace | user => trivial
  | booking id =>
    intro v hv
    rcases booking_row hrow with ⟨booking, rfl, rfl, -⟩ | ⟨old, hold, hnew⟩
    · exact absurd (Finmap.mem_of_lookup_eq_some hv) (insertBooking_fresh hexec).1
    obtain rfl : v = old := Option.some.inj (hv.symm.trans hold)
    rcases hnew with ⟨ids, source, target, -, -, -, rfl⟩ | ⟨c, -, rfl⟩ <;> rfl
  | payment id =>
    intro v hv
    rcases payment_row hrow with ⟨rfl, rfl⟩ | ⟨old, hold, hnew⟩
    · exact absurd (Finmap.mem_of_lookup_eq_some hv) (insertPayment_fresh hexec).1
    obtain rfl : v = old := Option.some.inj (hv.symm.trans hold)
    rcases hnew with ⟨which, source, target, -, -, -, rfl⟩ | ⟨c, -, rfl⟩ <;> rfl

theorem change_made (hexec : exec t w s op = some (a, s')) : s.Change madeDiscipline t s' :=
  exec_change hexec (rows_as_made hexec)

theorem view_made (hexec : exec t w s op = some (a, s')) (hop : op ≠ .rollback) :
    MadeMoves (s.locks t) (s.view t) (s'.view t) :=
  view_moves hexec hop (rows_as_made hexec)

theorem workspace_row {db : Database} {new : Workspace}
    (h : (op.rows w db).lookup (.workspace id) = some new) : ∃ id c, op = .updateWorkspace id c := by
  cases op with
  | updateWorkspace id c => exact ⟨id, c, rfl⟩
  | insertBooking | insertPayment => cases (lookup_single_of_ne Row.noConfusion).symm.trans h
  | updateBookings | updateBooking | updatePayments | updatePayment | updateUser =>
    rw [Query.rows, Storage.lookup_changes, Option.bind_eq_some_iff] at h
    obtain ⟨_, -, hnew⟩ := h
    cases hnew
  | _ => cases h

/-- What a session knows stays true while others change the rows. -/
theorem BillStage.Holds.other (h : q.Holds s t') (hc : s.Change madeDiscipline t s')
    (hs : s.Sound madeDiscipline) (ht : t' ≠ t) : q.Holds s' t' := by
  have hm : MadeMoves (s.locks t) (s.view t') (s'.view t') := hc.view hs ht
  cases q with
  | idle => trivial
  | priced id booking => exact Booked.moves h hm
  | captured id payment => exact Charged.moves h hm
  | billed id booking paymentId =>
    obtain ⟨hbooked, payment, hpayment, hid⟩ := h
    obtain ⟨v, hv, hmade⟩ := Charged.moves ⟨payment, hpayment, rfl⟩ hm
    exact ⟨hbooked.moves hm, v, hv, (congrArg Payment.bookingId hmade).trans hid⟩
  | offered id workspace =>
    obtain ⟨hlock, hworkspace⟩ := h
    refine ⟨by rwa [hc.locks ht], ?_⟩
    obtain ⟨x, hx, hk⟩ := Server.mem_locks.1 hlock
    have hkept := hc.kept hs ht hx (Or.inr hk)
    rw [Database.workspace, DbServer.view, Server.lookup_view hx] at hworkspace
    rw [Database.workspace, DbServer.view, Server.lookup_view ((hc.active ht).trans hx), hkept]
    exact hworkspace

theorem BillStage.Holds.plain (h : q.Holds s t) (hexec : exec t w s op = some (a, s'))
    (hop : op.isPlain) (hp : q.permits cfg op) : q.Holds s' t := by
  have hm := view_made hexec (by rintro rfl; cases hop)
  cases q with
  | idle => trivial
  | priced id booking => exact Booked.moves h hm
  | captured id payment => exact Charged.moves h hm
  | billed id booking paymentId =>
    obtain ⟨hbooked, payment, hpayment, hid⟩ := h
    obtain ⟨v, hv, hmade⟩ := Charged.moves ⟨payment, hpayment, rfl⟩ hm
    exact ⟨hbooked.moves hm, v, hv, (congrArg Payment.bookingId hmade).trans hid⟩
  | offered id workspace =>
    obtain ⟨hlock, hworkspace⟩ := h
    refine ⟨by rwa [exec_plain hexec hop, Server.locks_put], ?_⟩
    rw [Database.workspace, exec_view hexec (by rintro rfl; cases hop)]
    cases hrow : (op.rows w (s.view t)).lookup (.workspace id) with
    | none => exact hworkspace
    | some new =>
      obtain ⟨id', c, rfl⟩ := workspace_row hrow
      cases hp

theorem BillStage.Holds.kept (h : q.Holds s t) (hexec : exec t w s op = some (a, s'))
    (hop : op ≠ .rollback) : q.kept.Holds s' t := by
  cases q with
  | captured id payment => exact Charged.moves h (view_made hexec hop)
  | idle | offered | priced | billed => trivial

/-- A lock shows the workspace. -/
theorem lockWorkspace_offered {workspace : Workspace}
    (hexec : exec t w s (.lockWorkspace id) = some (some workspace, s')) :
    BillStage.Holds s' t (.offered id workspace) ∧ s'.view t = s.view t ∧
      s.locks t ⊆ s'.locks t := by
  have hsome : (s.view t).workspace id = some workspace ∧ s.lock t (.workspace id) = some s' := by
    simp only [exec] at hexec
    split at hexec
    · next v hv =>
      obtain ⟨_, hl, heq⟩ := Option.map_eq_some_iff.1 hexec
      cases heq
      exact ⟨hv, hl⟩
    · cases hexec
  obtain ⟨hworkspace, hl⟩ := hsome
  obtain ⟨-, x, hx, rfl⟩ := Server.lock_eq_some.1 hl
  have hview := Server.view_lock (k := .workspace id) hx
  have hx' : (Finmap.insert t { x with locked := insert (.workspace id) x.locked }
    s.active).lookup t = _ := Finmap.lookup_insert _
  refine ⟨⟨?_, ?_⟩, hview, ?_⟩
  · rw [Server.locks_some hx']
    exact Finset.mem_insert_self _ _
  · rw [DbServer.view, hview]
    exact hworkspace
  · rw [Server.locks_some hx, Server.locks_some hx']
    exact Finset.subset_insert _ _

theorem BillStage.Holds.same (h : q.Holds s t) (hview : s'.view t = s.view t)
    (hlocks : s.locks t ⊆ s'.locks t) : q.Holds s' t := by
  cases q with
  | idle => trivial
  | offered => exact ⟨hlocks h.1, by rw [hview]; exact h.2⟩
  | priced | billed | captured => simpa only [BillStage.Holds, hview] using h

/-- What a session knows after its own query. -/
theorem BillStage.Holds.after (h : q.Holds s t) (hexec : exec t w s op = some (a, s'))
    (hp : q.permits cfg op) : (q.after op a).Holds s' t := by
  cases op with
  | begin | commit => exact h.kept hexec (by rintro ⟨⟩)
  | rollback => trivial
  | lockWorkspace id =>
    cases a with
    | none =>
      simp only [exec] at hexec
      split at hexec
      · obtain ⟨_, -, heq⟩ := Option.map_eq_some_iff.1 hexec
        cases heq
      · cases hexec
        exact h
    | some workspace =>
      obtain ⟨hoffered, hview, hlocks⟩ := lockWorkspace_offered hexec
      cases q with
      | idle => exact hoffered
      | offered | priced | billed | captured => exact h.same hview hlocks
  | findBooking id =>
    obtain ⟨rfl, rfl⟩ : (s.view t).booking id = a ∧ s = s' := by
      cases hexec
      exact ⟨rfl, rfl⟩
    cases hfound : (s.view t).booking id with
    | none => exact h
    | some booking =>
      cases q with
      | idle => exact ⟨booking, hfound, rfl⟩
      | offered | priced | billed | captured => exact h
  | insertBooking booking =>
    have hview := exec_view hexec (by rintro ⟨⟩)
    obtain ⟨_, -, heq⟩ := Option.map_eq_some_iff.1 hexec
    cases heq
    refine ⟨{ booking with createdAt := w.now }, (hview _).trans ?_, rfl⟩
    rw [Query.rows, Finmap.lookup_insert, Option.some_or]
  | insertPayment payment =>
    obtain ⟨booking, rfl, -⟩ := hp
    have hbooked : Booked (s'.view t) payment.bookingId booking :=
      Booked.moves h (view_made hexec (by rintro ⟨⟩))
    have hview := exec_view hexec (by rintro ⟨⟩)
    obtain ⟨_, -, heq⟩ := Option.map_eq_some_iff.1 hexec
    cases heq
    refine ⟨hbooked, payment, (hview _).trans ?_, rfl⟩
    rw [Query.rows, Finmap.lookup_insert, Option.some_or]
  | findPayment which =>
    have hplain := h.plain hexec rfl hp
    cases a with
    | none => exact hplain
    | some found =>
      obtain ⟨hfound, hselects⟩ := findPayment_some hexec
      obtain ⟨_, -, heq⟩ := Option.map_eq_some_iff.1 hexec
      cases heq
      cases q with
      | idle => exact ⟨found.2, hfound, rfl⟩
      | offered | billed | captured => exact hplain
      | priced bookingId booking =>
        cases which with
        | byId | byReference | ofBookings => exact hplain
        | pendingOf bookingId' =>
          simp only [BillStage.after, BillStage.find]
          split_ifs with hid
          · obtain ⟨hof, -⟩ : found.2.bookingId = bookingId' ∧ found.2.status = .pending :=
              of_decide_eq_true hselects
            exact ⟨hplain, found.2, hfound, hof.trans hid⟩
          · exact hplain
  | now | bookedSeats | findWorkspace | updateWorkspace | findBookings | updateBookings
  | updateBooking | updatePayments | updatePayment | findUser | updateUser
  | initializeTransaction | initiateRefund | createEscrow | start => exact h.plain hexec rfl hp

/-! ## Bills -/

/-- What the session sees stays billed. -/
theorem Billed.own (hb : Billed (s.view t)) (hexec : exec t w s op = some (a, s'))
    (hp : q.permits cfg op) (hq : q.Holds s t) (hop : op ≠ .rollback) : Billed (s'.view t) := by
  intro id v hv
  have hm := view_made hexec hop
  rw [Database.payment, exec_view hexec hop, Option.or_eq_some_iff] at hv
  rcases hv with hrow | ⟨-, hv⟩
  · rcases payment_row hrow with ⟨rfl, -⟩ | ⟨old, hold, hnew⟩
    · obtain ⟨booking, rfl, hbills⟩ := hp
      obtain ⟨booking', hbooking', hmade⟩ := Booked.moves hq hm
      exact ⟨booking', hbooking', hbills.congr rfl hmade⟩
    · refine hb.moved hm hold ?_
      rcases hnew with ⟨which, source, target, -, -, -, rfl⟩ | ⟨c, -, rfl⟩ <;> rfl
  · exact hb.moved hm hv rfl

/-- The committed payments are billed, and so is what every session sees. -/
structure AllBilled (s : DbServer) : Prop where
  stored : Billed s.stored
  views : ∀ t, Billed (s.view t)

theorem AllBilled.step (hb : AllBilled s) (hexec : exec t w s op = some (a, s'))
    (hp : q.permits cfg op) (hq : q.Holds s t) (hs : s.Sound madeDiscipline) : AllBilled s' := by
  have hc := change_made hexec
  have hown : Billed (s'.view t) := by
    by_cases hop : op = .rollback
    · subst hop
      rw [rollback_view hexec]
      exact hb.stored
    · exact (hb.views t).own hexec hp hq hop
  have hstored : Billed s'.stored := by
    cases hx : s.active.lookup t with
    | some x => rcases hc.stored_eq hx with h | h <;> rw [h]; exacts [hb.stored, hb.views t]
    | none =>
      by_cases hop : op = .begin
      · subst hop
        obtain ⟨_, hbegin, heq⟩ := Option.map_eq_some_iff.1 hexec
        cases heq
        obtain ⟨-, rfl⟩ := Server.begin_eq_some.1 hbegin
        exact hb.stored
      · rwa [DbServer.view, Server.view_none (exec_inactive hexec hop hx)] at hown
  refine ⟨hstored, fun t' => ?_⟩
  by_cases ht : t' = t
  · exact ht ▸ hown
  cases hx : s.active.lookup t' with
  | none =>
    rw [DbServer.view, Server.view_none ((hc.active ht).trans hx)]
    exact hstored
  | some x =>
    intro id v hv
    rw [Database.payment, DbServer.view, Server.lookup_view ((hc.active ht).trans hx),
      Option.or_eq_some_iff] at hv
    rcases hv with hwritten | ⟨-, hv⟩
    · have hbefore : (s.view t').payment id = some v := by
        rw [Database.payment, DbServer.view, Server.lookup_view hx, hwritten, Option.some_or]
      exact (hb.views t').moved (hc.view hs ht) hbefore rfl
    · exact hstored.moved ((hc.sound hs).moves_view t') hv rfl

end

/-! ## Runs -/

/-- What is asked for, in a database, is the price of a booking. -/
def Query.AsPriced (cfg : Config) (db : Database) : Query → Prop
  | .insertBooking booking => ∃ workspace, db.workspace booking.workspaceId = some workspace ∧
      BillStage.IsPrice cfg workspace booking
  | .initializeTransaction _ amount reference => ∃ payment booking,
      db.payment reference = some payment ∧ db.booking payment.bookingId = some booking ∧
        amount = payment.amount ∧ amount = booking.totalAmount
  | .createEscrow bookingId amount _ _ =>
    ∃ booking, db.booking bookingId = some booking ∧ amount = booking.totalAmount
  | _ => True

/-- A turn asks for prices, and leaves what is committed as it was made. -/
structure FairTurn (cfg : Config) (e : Ev) : Prop where
  bookings : ∀ id booking, e.pre.shared.db.booking id = some booking →
    Booked e.post.shared.db id booking
  payments : ∀ id payment, e.pre.shared.db.payment id = some payment →
    Charged e.post.shared.db id payment
  asked : OnQuery (fun t _ op => op.AsPriced cfg (e.pre.shared.view t)) e

structure ChargesSafe (cfg : Config) (tr : List Ev) (s : DbServer) (qs : ℕ → Option BillStage) :
    Prop where
  sound : s.Sound madeDiscipline
  billed : AllBilled s
  stages : ∀ t q, qs t = some q → q.Holds s t
  turns : ∀ e ∈ tr, FairTurn cfg e

section
variable {cfg : Config} {tr : List Ev} {e : Ev} {t : ℕ} {w : World} {op : Query} {a : Answer op}
  {q : BillStage} {qs : ℕ → Option BillStage} {s : DbServer}

/-- What a permitted query asks for is the price of a booking that the session sees. -/
theorem BillStage.Holds.asPriced (h : q.Holds s t) (hb : Billed (s.view t))
    (hp : q.permits cfg op) : op.AsPriced cfg (s.view t) := by
  cases op with
  | insertBooking booking =>
    obtain ⟨workspace, rfl, hprice⟩ := hp
    exact ⟨workspace, h.2, hprice⟩
  | initializeTransaction email amount reference =>
    obtain ⟨bookingId, booking, rfl, rfl⟩ := hp
    obtain ⟨hbooked, payment, hpayment, rfl⟩ := h
    obtain ⟨v, hv, hmade⟩ := hbooked
    have htotal : v.totalAmount = booking.totalAmount := by
      simpa using congrArg Booking.totalAmount hmade
    have hbills := hb.booked hpayment ⟨v, hv, hmade⟩
    exact ⟨payment, v, hpayment, hv, hbills.1.symm, htotal.symm⟩
  | createEscrow bookingId amount description releaseAfterUnix =>
    obtain ⟨id, payment, rfl, rfl, rfl⟩ := hp
    obtain ⟨v, hv, hmade⟩ := h
    obtain ⟨booking, hbooking, hbills⟩ := hb id v hv
    have hid : v.bookingId = payment.bookingId := by simpa using congrArg Payment.bookingId hmade
    have hamount : v.amount = payment.amount := by simpa using congrArg Payment.amount hmade
    exact ⟨booking, hid ▸ hbooking, hamount ▸ hbills.1⟩
  | _ => trivial

theorem ChargesSafe.call (h : ChargesSafe cfg tr e.pre.shared qs) {r : Request}
    (hinp : e.inp = .call t r) (hshared : e.post.shared = e.pre.shared) :
    ChargesSafe cfg (tr ++ [e]) e.post.shared (Function.update qs t (some .idle)) where
  sound := hshared.symm ▸ h.sound
  billed := hshared.symm ▸ h.billed
  stages t' q hq := by
    rw [hshared]
    rcases update_stage hq with ⟨-, rfl⟩ | ⟨-, hq⟩
    · trivial
    · exact h.stages t' q hq
  turns e' he' := by
    rcases List.mem_append.1 he' with he' | he'
    · exact h.turns e' he'
    · obtain rfl := List.mem_singleton.1 he'
      refine ⟨fun id booking hid => ⟨booking, hshared ▸ hid, rfl⟩,
        fun id payment hid => ⟨payment, hshared ▸ hid, rfl⟩, fun t' w op hstep _ => ?_⟩
      cases hinp.symm.trans hstep

theorem ChargesSafe.step (h : ChargesSafe cfg tr e.pre.shared qs)
    (hans : (backend cfg).Answered (billProtocol cfg) (fun _ _ => True) e qs t w q op a) :
    ChargesSafe cfg (tr ++ [e]) e.post.shared (Function.update qs t (some (q.after op a))) := by
  have hexec : exec t w e.pre.shared op = some (a, e.post.shared) := hans.exec
  have hp : q.permits cfg op := hans.permits
  have hq := h.stages t q hans.stage
  have hc := change_made hexec
  refine ⟨hc.sound h.sound, h.billed.step hexec hp hq h.sound, fun t' q' hq' => ?_, fun e' he' => ?_⟩
  · rcases update_stage hq' with ⟨rfl, rfl⟩ | ⟨ht, hq'⟩
    · exact hq.after hexec hp
    · exact (h.stages t' q' hq').other hc h.sound ht
  · rcases List.mem_append.1 he' with he' | he'
    · exact h.turns e' he'
    obtain rfl := List.mem_singleton.1 he'
    exact ⟨fun id booking hid => Booked.moves ⟨booking, hid, rfl⟩ (hc.stored h.sound),
      fun id payment hid => Charged.moves ⟨payment, hid, rfl⟩ (hc.stored h.sound),
      hans.onQuery_iff.2 (hq.asPriced (h.billed.views t) hp)⟩

theorem chargesSafe_idle {db : Database} (hdb : Billed db) :
    ChargesSafe cfg [] (idle db).shared fun _ => none where
  sound := Server.sound_idle db
  billed := ⟨hdb, fun _ => hdb⟩
  stages _ _ hq := by cases hq
  turns _ he := absurd he List.not_mem_nil

end

/-- **Every payment is for a stored booking, of its price and with its user as the payer.  What is
    stored of a booking or a payment stays as it was made; a new booking has the price at the rate of
    its workspace; and Paystack is asked for the amount of a payment, the price of its booking.** -/
theorem charged_as_priced {cfg : Config} {db : Database} {tr : List Ev} {p : Sessions}
    (h : Run (backend cfg).Steps (idle db) tr p) (hdb : Billed db) :
    Billed p.shared.db ∧ ∀ e ∈ tr, FairTurn cfg e := by
  obtain ⟨_, -, hJ⟩ := System.invariant (J := ChargesSafe cfg) (C := fun _ _ => True)
    (program_bills cfg) (fun tr e t r qs hinp _ hshared _ hJ => hJ.call hinp hshared)
    (fun tr e qs t w q op a hans _ hJ => hJ.step hans)
    h .idle (chargesSafe_idle hdb) (along_iff_forall.2 fun _ _ => trivial)
  exact ⟨hJ.billed.stored, hJ.turns⟩

theorem billed_payable : Billed payable := by
  have hnone : payable.All fun row _ => ¬ row.isPayment := by decide
  intro id v hv
  exact absurd rfl (of_decide_eq_true (Database.all_iff.1 hnone (.payment id) v hv))

/-- Paystack fails once; the second request asks for the same amount, of the payment that it finds. -/
theorem charged_as_priced_again : ∃ tr p, Run (backend plainConfig).Steps (idle payable) tr p ∧
    (p.shared.db.payment "p").isSome ∧ Billed p.shared.db ∧ ∀ e ∈ tr, FairTurn plainConfig e := by
  have hplay : ((backend plainConfig).play (idle payable)
      [.call 0 (.initializePayment "b" "u"), .step 0 {}, .step 0 {}, .step 0 {},
        .step 0 { id := "p" }, .step 0 {}, .call 1 (.initializePayment "b" "u"), .step 1 {},
        .step 1 { row := some "p" }, .step 1 {}, .step 1 { checkout := some ⟨"url", "p"⟩ }]).any
      fun x => (x.2.shared.db.payment "p").isSome := by decide
  obtain ⟨⟨tr, p⟩, hplay, hpayment⟩ := (Option.any_eq_true _ _).1 hplay
  exact ⟨tr, p, System.run_play hplay, hpayment,
    charged_as_priced (System.run_play hplay) billed_payable⟩

end Backend
