/-
  How the operations of the backend come to the amounts that they ask for.

  The price of a booking is computed from the rate of its workspace, whose row is locked.  A payment
  is inserted for a booking that is made or found, and Paystack is asked for its price.
-/
import NovaLabs.Backend.Effects

namespace Backend

open Lib

/-! ## The protocol -/

/-- The payment is for the price of the booking, and its payer is the booking's user. -/
def BillsFor (payment : Payment) (booking : Booking) : Prop :=
  payment.amount = booking.totalAmount ∧ payment.userId = booking.userId

/-- How far a session is with a bill: a workspace is locked; a booking is made or found; it has a
    payment.  A session may also start from a payment. -/
inductive BillStage where
  | idle
  | offered (workspaceId : Uuid) (workspace : Workspace)
  | priced (bookingId : Uuid) (booking : Booking)
  | billed (bookingId : Uuid) (booking : Booking) (paymentId : Uuid)
  | captured (paymentId : Uuid) (payment : Payment)

namespace BillStage

/-- What a session knows of committed rows. -/
def kept : BillStage → BillStage
  | captured id payment => captured id payment
  | _ => idle

/-- What the search shows, if it finds a payment. -/
def find (which : PaymentWhere) (id : Uuid) (payment : Payment) : BillStage → BillStage
  | idle => captured id payment
  | priced bookingId booking => match which with
    | .pendingOf bookingId' =>
      if bookingId' = bookingId then billed bookingId booking id else priced bookingId booking
    | _ => priced bookingId booking
  | q => q

/-- The price that is asked for a booking, at the rate of the workspace. -/
def IsPrice (cfg : Config) (workspace : Workspace) (booking : Booking) : Prop :=
  booking.totalAmount = calculateAmount cfg workspace.hourlyRate booking.planType booking.seatCount
    booking.startDate booking.endDate

def permits (cfg : Config) (q : BillStage) : Query → Prop
  | .insertBooking booking =>
    ∃ workspace, q = offered booking.workspaceId workspace ∧ IsPrice cfg workspace booking
  | .insertPayment payment =>
    ∃ booking, q = priced payment.bookingId booking ∧ BillsFor payment booking
  | .initializeTransaction _ amount reference =>
    ∃ bookingId booking, q = billed bookingId booking reference ∧ amount = booking.totalAmount
  | .createEscrow bookingId amount _ _ =>
    ∃ id payment, q = captured id payment ∧ bookingId = payment.bookingId ∧ amount = payment.amount
  | .updateWorkspace _ _ => q = idle
  | _ => True

def after (q : BillStage) : (op : Query) → Answer op → BillStage
  | .begin, _ | .commit, _ => q.kept
  | .rollback, _ => idle
  | .lockWorkspace id, some workspace => match q with
    | idle => offered id workspace
    | q => q
  | .findBooking id, some booking => match q with
    | idle => priced id booking
    | q => q
  | .insertBooking booking, (id, _) => priced id booking
  | .findPayment which, some (id, payment) => q.find which id payment
  | .insertPayment _, (id, _) => match q with
    | priced bookingId booking => billed bookingId booking id
    | q => q
  | _, _ => q

end BillStage

def billProtocol (cfg : Config) : Protocol Answer BillStage where
  permits := BillStage.permits cfg
  after := BillStage.after

@[simp] theorem billProtocol_permits (cfg : Config) (q : BillStage) (op : Query) :
    (billProtocol cfg).permits q op = q.permits cfg op := rfl

@[simp] theorem billProtocol_after (cfg : Config) (q : BillStage) (op : Query) (a : Answer op) :
    (billProtocol cfg).after q op a = q.after op a := rfl

/-- Queries that every stage permits, and that leave what a session knows of its payment. -/
def Query.keepsBill : Query → Bool
  | .insertBooking _ | .insertPayment _ | .initializeTransaction _ _ _ | .createEscrow _ _ _ _
  | .updateWorkspace _ _ | .rollback => false
  | _ => true

section
variable {α : Type} {cfg : Config} {q : BillStage} {op : Query} {id paymentId : Uuid}
  {payment : Payment}

theorem permits_of_keepsBill (q : BillStage) (op : Query) (h : op.keepsBill) :
    (billProtocol cfg).permits q op := by
  cases op <;> trivial

theorem keepsBill_of_isPersonal (op : Query) (h : op.isPersonal) : op.keepsBill := by
  cases op <;> first | rfl | cases h

theorem captured_passes :
    Passes (billProtocol cfg) (.captured paymentId payment) Query.keepsBill := by
  intro op hop
  refine ⟨permits_of_keepsBill _ op hop, fun a => ?_⟩
  cases op with
  | lockWorkspace | findBooking | findPayment => cases a <;> rfl
  | insertBooking | insertPayment | rollback => cases hop
  | _ => rfl

/-! ## The operations -/

/-- A session that knows a payment still knows it after a transaction that commits. -/
theorem transaction_bills {x : Proc α} (h : x.Only Query.keepsBill) :
    Meets (billProtocol cfg) q (transaction x) fun q' r =>
      ∀ paymentId payment a, q = .captured paymentId payment → r = .ok a → q' = q := by
  have hfree : Meets (billProtocol cfg) (q.after .begin ()) x fun _ _ => True :=
    h.permitted permits_of_keepsBill _
  cases q with
  | captured paymentId payment =>
    exact Meets.transaction trivial (h.meets captured_passes)
      (fun q a hq => ⟨trivial, fun _ _ _ _ _ => congrArg BillStage.kept hq⟩)
      fun q e _ => ⟨trivial, nofun⟩
  | idle | offered | priced | billed =>
    exact Meets.transaction trivial hfree (fun _ _ _ => ⟨trivial, nofun⟩) fun _ _ _ =>
      ⟨trivial, nofun⟩

theorem transaction_free {x : Proc α}
    (h : Meets (billProtocol cfg) (q.after .begin ()) x fun _ _ => True) :
    Meets (billProtocol cfg) q (transaction x) fun _ _ => True :=
  Meets.transaction trivial h (fun _ _ _ => ⟨trivial, trivial⟩) fun _ _ _ => ⟨trivial, trivial⟩

theorem lockActiveWorkspace_bills :
    Meets (billProtocol cfg) .idle (lockActiveWorkspace id) fun q r =>
      ∀ workspace, r = .ok workspace → q = .offered id workspace := by
  refine Meets.query trivial fun found => ?_
  cases found with
  | none => exact nofun
  | some workspace =>
    refine Meets.failIf (fun _ => nofun) fun _ => ?_
    rintro _ ⟨⟩
    rfl

theorem createBooking_bills {dto : CreateBookingDto} {userId : Uuid} :
    Meets (billProtocol cfg) .idle (createBooking cfg dto userId) fun _ _ => True := by
  refine Meets.failIf (fun _ => trivial) fun _ => transaction_free ?_
  refine Meets.seq lockActiveWorkspace_bills (fun q workspace hq => ?_) fun _ _ _ => trivial
  obtain rfl := hq workspace rfl
  refine Meets.query trivial fun alreadyBooked => Meets.failIf (fun _ => trivial) fun _ =>
    Meets.query trivial fun now => ?_
  exact Meets.query ⟨workspace, rfl, rfl⟩ fun saved => Meets.query trivial fun _ => trivial

theorem activateMembership_keepsBill (userId : Option Uuid) :
    (activateMembershipIfNeeded userId).Only Query.keepsBill :=
  (activateMembershipIfNeeded_only userId).mono keepsBill_of_isPersonal

theorem saveBooking_keepsBill (held : Booking) : (saveBooking id held).Only Query.keepsBill := by
  refine (Process.Only.query rfl).bind fun stored => ?_
  cases stored with
  | none => trivial
  | some stored => exact Process.Only.ite ((Process.Only.query rfl).bind fun _ => trivial) trivial

theorem savePayment_keepsBill (held : Payment) : (savePayment id held).Only Query.keepsBill := by
  refine (Process.Only.query rfl).bind fun stored => ?_
  cases stored with
  | none => trivial
  | some stored => exact Process.Only.ite ((Process.Only.query rfl).bind fun _ => trivial) trivial

theorem confirmBooking_keepsBill : (confirmBooking id).Only Query.keepsBill := by
  refine (Process.Only.query rfl).bind fun affected => Process.Only.ite ?_ ?_
  · exact (Process.Only.query rfl).bind fun found => Process.Only.okOr.bind fun current =>
      Process.Only.failIf.bind fun _ => trivial
  · exact (Process.Only.query rfl).bind fun found => Process.Only.okOr.bind fun booking =>
      (activateMembership_keepsBill _).bind fun _ => trivial

theorem reactivateExpired_bills :
    Meets (billProtocol cfg) q (reactivateExpired id) fun q' r =>
      ∀ paymentId payment a, q = .captured paymentId payment → r = .ok a → q' = q := by
  refine transaction_bills ?_
  refine (Process.Only.query rfl).bind fun found => Process.Only.okOr.bind fun booking =>
    Process.Only.ite (Process.Only.failIf.bind fun _ => trivial) ?_
  refine (Process.Only.query rfl).bind fun found => Process.Only.okOr.bind fun workspace =>
    (Process.Only.query rfl).bind fun alreadyBooked => Process.Only.ite trivial ?_
  exact (saveBooking_keepsBill _).bind fun _ => (activateMembership_keepsBill _).bind fun _ =>
    trivial

theorem cancelBooking_keepsBill {userId : Uuid} {userRole : UserRole} :
    (cancelBooking id userId userRole).Only Query.keepsBill := by
  refine (Process.Only.query rfl).bind fun found => Process.Only.okOr.bind fun booking =>
    Process.Only.failIf.bind fun _ => Process.Only.failIf.bind fun _ => ?_
  exact (saveBooking_keepsBill _).bind fun _ => (Process.Only.query rfl).bind fun _ => trivial

theorem completeBooking_keepsBill : (completeBooking id).Only Query.keepsBill := by
  refine (Process.Only.query rfl).bind fun found => Process.Only.okOr.bind fun booking =>
    Process.Only.failIf.bind fun _ => ?_
  exact (saveBooking_keepsBill _).bind fun _ => trivial

theorem refundPayment_keepsBill {requestingUserId : Uuid} {requestingUserRole : UserRole} :
    (refundPayment id requestingUserId requestingUserRole).Only Query.keepsBill := by
  refine (Process.Only.query rfl).bind fun found => Process.Only.okOr.bind fun payment =>
    Process.Only.failIf.bind fun _ => Process.Only.failIf.bind fun _ => ?_
  refine (Process.Only.query rfl).bind fun accepted => Process.Only.failIf.bind fun _ =>
    (Process.Only.query rfl).bind fun affected => (Process.Only.query rfl).bind fun current =>
      Process.Only.ite ?_ trivial
  cases current with
  | none => trivial
  | some current => exact Process.Only.failIf.bind fun _ => trivial

theorem expireStalePendingBookings_bills :
    Meets (billProtocol cfg) q (expireStalePendingBookings cfg) fun _ _ => True := by
  refine Meets.query trivial fun now => Meets.foldlM (fun q result planType _ => ?_) trivial _ _
  refine Meets.query trivial fun pendingBookings => Meets.ite (fun _ => trivial) fun _ => ?_
  refine Meets.seq (transaction_bills ?_) (fun _ _ _ => trivial) fun _ _ _ => trivial
  exact (Process.Only.query rfl).bind fun _ => (Process.Only.query rfl).bind fun _ => trivial

theorem saveWorkspace_bills (held : Workspace) :
    Meets (billProtocol cfg) .idle (saveWorkspace id held) fun _ _ => True := by
  refine Meets.query trivial fun stored => ?_
  cases stored with
  | none => trivial
  | some stored => exact Meets.ite (fun _ => Meets.query rfl fun _ => trivial) fun _ => trivial

theorem updateWorkspace_bills {dto : WorkspaceChanges} :
    Meets (billProtocol cfg) .idle (updateWorkspace id dto) fun _ _ => True := by
  refine Meets.query trivial fun found => Meets.okOr (fun _ => trivial) fun workspace _ => ?_
  exact Meets.seq (saveWorkspace_bills _) (fun _ _ _ => trivial) fun _ _ _ => trivial

/-- A day pass is charged with its booking's price. -/
theorem createDayPass_bills {dto : CreatePublicBookingDto} :
    Meets (billProtocol cfg) .idle (createDayPass cfg dto) fun _ _ => True := by
  refine Meets.query trivial fun today => Meets.failIf (fun _ => trivial) fun _ => transaction_free ?_
  refine Meets.seq lockActiveWorkspace_bills (fun q workspace hq => ?_) fun _ _ _ => trivial
  obtain rfl := hq workspace rfl
  refine Meets.query trivial fun alreadyBooked => Meets.failIf (fun _ => trivial) fun _ =>
    Meets.query trivial fun now => ?_
  refine Meets.query ⟨workspace, rfl, rfl⟩ fun saved => Meets.query ⟨_, rfl, rfl, rfl⟩ fun payment => ?_
  refine Meets.query ⟨_, _, rfl, rfl⟩ fun checkout => Meets.okOr (fun _ => trivial) fun data _ => ?_
  exact Meets.seq ((savePayment_keepsBill _).permitted permits_of_keepsBill _)
    (fun _ _ _ => trivial) fun _ _ _ => trivial

/-- The payment that is found for a booking is charged with the booking's price, as a new one. -/
theorem initializePayment_bills {bookingId userId : Uuid} :
    Meets (billProtocol cfg) .idle (initializePayment bookingId userId) fun _ _ => True := by
  refine Meets.query trivial fun found => Meets.okOr (fun _ => trivial) fun booking hbooking => ?_
  obtain ⟨rfl, huser⟩ := Option.filter_eq_some_iff.1 hbooking
  have hpayer : some userId = booking.userId := (of_decide_eq_true huser).symm
  refine Meets.failIf (fun _ => trivial) fun _ => Meets.query trivial fun existing => ?_
  cases existing with
  | some existing =>
    have hstage : (BillStage.priced bookingId booking).after (.findPayment (.pendingOf bookingId))
        (some existing) = .billed bookingId booking existing.1 := if_pos rfl
    refine Meets.query trivial fun user => Meets.okOr (fun _ => trivial) fun user _ => ?_
    refine Meets.query ⟨bookingId, booking, hstage, rfl⟩ fun checkout => ?_
    exact Meets.okOr (fun _ => trivial) fun _ _ => trivial
  | none =>
    refine Meets.query trivial fun user => Meets.query ⟨booking, rfl, rfl, hpayer⟩ fun payment => ?_
    refine Meets.okOr (fun _ => trivial) fun user _ => ?_
    refine Meets.query ⟨_, _, rfl, rfl⟩ fun checkout => Meets.okOr (fun _ => trivial) fun data _ => ?_
    exact Meets.seq ((savePayment_keepsBill _).permitted permits_of_keepsBill _)
      (fun _ _ _ => trivial) fun _ _ _ => trivial

theorem resolveBookingForSuccessfulPayment_bills :
    Meets (billProtocol cfg) (.captured paymentId payment)
      (resolveBookingForSuccessfulPayment payment)
      fun q r => ∀ booking, r = .ok (some booking) → q = .captured paymentId payment := by
  refine Meets.query trivial fun found => ?_
  cases found with
  | none => exact fun _ h => nomatch h
  | some booking =>
    refine Meets.ite (fun _ => ?_) fun _ => ?_
    · refine Meets.attempt reactivateExpired_bills fun q r hq => ?_
      cases r with
      | ok revived => exact fun _ _ => hq _ _ _ rfl rfl
      | error e => exact fun _ h => nomatch h
    · refine Meets.attempt (confirmBooking_keepsBill.meets captured_passes) fun q r hq => ?_
      cases r with
      | ok confirmed => exact fun _ _ => hq
      | error e => exact fun _ h => nomatch h

theorem settleBooking_bills {booking : Option Booking}
    (hq : ∀ b, booking = some b → q = .captured paymentId payment) :
    Meets (billProtocol cfg) q (settleBooking paymentId payment booking) fun _ _ => True := by
  cases booking with
  | none => trivial
  | some booking =>
    obtain rfl := hq booking rfl
    refine Meets.ite (fun _ => Meets.query ⟨_, _, rfl, rfl, rfl⟩ fun txHash => ?_) fun _ =>
      Meets.query trivial fun _ => trivial
    cases txHash with
    | none => exact Meets.query trivial fun _ => trivial
    | some txHash => exact Meets.query trivial fun _ => Meets.query trivial fun _ => trivial

theorem notifyPayer_bills {email : Task} {notification : Uuid → Task} :
    Meets (billProtocol cfg) q (notifyPayer email notification payment) fun _ _ => True :=
  (notifyPayer_only rfl (fun _ => rfl) payment).permitted permits_of_keepsBill q

theorem handleChargeSuccess_bills {reference : String} :
    Meets (billProtocol cfg) .idle (handleChargeSuccess reference) fun _ _ => True := by
  refine Meets.query trivial fun found => ?_
  cases found with
  | none => trivial
  | some found =>
    refine Meets.query trivial fun affected => Meets.ite (fun _ => ?_) fun _ => ?_
    · exact Meets.query trivial fun _ => trivial
    refine Meets.seq resolveBookingForSuccessfulPayment_bills (fun q booking hq => ?_) fun _ _ _ =>
      trivial
    refine Meets.seq (settleBooking_bills fun b hb => hq b (congrArg Except.ok hb))
      (fun _ _ _ => notifyPayer_bills) fun _ _ _ => trivial

theorem handleChargeFailed_bills {reference : String} :
    Meets (billProtocol cfg) q (handleChargeFailed reference) fun _ _ => True := by
  refine Meets.query trivial fun found => ?_
  cases found with
  | none => trivial
  | some found =>
    refine Meets.query trivial fun affected => Meets.ite (fun _ => ?_) fun _ => notifyPayer_bills
    exact Meets.query trivial fun _ => trivial

theorem handleWebhook_bills {d : Delivery} :
    Meets (billProtocol cfg) .idle (handleWebhook cfg d) fun _ _ => True := by
  have hpersonal : Passes (billProtocol cfg) .idle Query.isPersonal := by
    intro op hop
    cases op <;> first | exact ⟨trivial, fun _ => rfl⟩ | cases hop
  refine Meets.failIf (fun _ => trivial) fun _ => ?_
  refine Meets.seq (checkWebhookAge_quiet hpersonal _ _) (fun q _ hq => ?_) fun _ _ _ => trivial
  obtain rfl : q = .idle := hq
  cases cfg.parseBody d.rawBody with
  | malformed | null => trivial
  | event eventType reference =>
    dsimp only
    split
    · trivial
    · refine Meets.ite (fun _ => handleChargeSuccess_bills) fun _ => ?_
      exact Meets.ite (fun _ => handleChargeFailed_bills) fun _ => trivial

end

/-- **Every operation asks for the prices and the amounts that it has read.** -/
theorem program_bills (cfg : Config) (request : Request) :
    Meets (billProtocol cfg) .idle (request.program cfg) fun _ _ => True := by
  have hreturn {α : Type} {x : Proc α} {f : α → Response}
      (h : Meets (billProtocol cfg) .idle x fun _ _ => True) :
      Meets (billProtocol cfg) .idle (x >>= fun a => pure (f a)) fun _ _ => True :=
    h.seq (fun _ _ _ => trivial) fun _ _ _ => trivial
  cases request with
  | createBooking => exact hreturn createBooking_bills
  | createDayPass => exact hreturn createDayPass_bills
  | confirmBooking => exact hreturn (confirmBooking_keepsBill.permitted permits_of_keepsBill _)
  | cancelBooking => exact hreturn (cancelBooking_keepsBill.permitted permits_of_keepsBill _)
  | completeBooking => exact hreturn (completeBooking_keepsBill.permitted permits_of_keepsBill _)
  | expireStalePendingBookings => exact hreturn expireStalePendingBookings_bills
  | reactivateExpired => exact hreturn (reactivateExpired_bills.mono fun _ _ _ => trivial)
  | updateWorkspace => exact hreturn updateWorkspace_bills
  | initializePayment => exact hreturn initializePayment_bills
  | handleWebhook => exact hreturn handleWebhook_bills
  | refundPayment => exact hreturn (refundPayment_keepsBill.permitted permits_of_keepsBill _)

end Backend
