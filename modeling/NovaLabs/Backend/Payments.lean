/-
  The payment operations of the backend (backend/src/payments/providers), and the requests that the
  backend serves.
-/
import NovaLabs.Backend.Bookings

namespace Backend

open Lib Process

/-! ## Initialisation -/

structure InitializedPayment where
  paymentId : Uuid
  authorizationUrl : String
  reference : String

/-- `InitializePaymentProvider.initialize`. -/
def initializePayment (bookingId userId : Uuid) : Proc InitializedPayment := do
  let found ← ask (.findBooking bookingId)
  let booking ← okOr (found.filter fun booking => booking.userId = some userId)
    (.notFound s!"Booking \"{bookingId}\" not found")
  failIf (booking.status ≠ .pending) (.badRequest
    s!"Only PENDING bookings can be paid. This booking is: {booking.status.text}")
  match ← ask (.findPayment (.pendingOf bookingId)) with
  | some (existingId, _) =>
    -- this branch returns a reference without saving it
    let user ← okOr (← ask (.findUser userId)) .typeError
    let paystackData ← okOr
      (← ask (.initializeTransaction user.email booking.totalAmount existingId)) .requestFailed
    return { paymentId := existingId, authorizationUrl := paystackData.authorizationUrl,
             reference := paystackData.reference }
  | none =>
    let user ← ask (.findUser userId)
    let (paymentId, payment) ← ask (.insertPayment
      { bookingId, userId := some userId, amount := booking.totalAmount, provider := .paystack,
        status := .pending })
    let user ← okOr user .typeError
    let paystackData ← okOr
      (← ask (.initializeTransaction user.email booking.totalAmount paymentId)) .requestFailed
    savePayment paymentId { payment with providerReference := some paystackData.reference }
    return { paymentId, authorizationUrl := paystackData.authorizationUrl,
             reference := paystackData.reference }

/-! ## Webhooks -/

structure Delivery where
  rawBody : String
  signature : String
  requestTime : Option String

/-- `PaystackProvider.verifyWebhookSignature`. -/
def verifyWebhookSignature (cfg : Config) (rawBody signature : String) : Bool :=
  cfg.hmac rawBody = signature

/-- The age of a delivery in milliseconds is at most this. -/
def maxWebhookAgeMs : ℤ := 5 * 60 * 1000

def longTermPlans : List PlanType := [.monthly, .quarterly, .yearly]

/-- The booking side of a successful charge; `none` where the booking is not honoured. -/
def resolveBookingForSuccessfulPayment (payment : Payment) : Proc (Option Booking) := do
  match ← ask (.findBooking payment.bookingId) with
  | none => return none
  | some booking =>
    if booking.status = .expired then
      match ← (reactivateExpired payment.bookingId).attempt with
      | .ok revived => return revived
      | .error _ => return none
    else
      match ← (confirmBooking payment.bookingId).attempt with
      | .ok confirmed => return some confirmed
      | .error _ => return none

def recordSorobanEscrow (payment : Payment) (booking : Booking) : Proc Unit := do
  let bookingId := payment.bookingId
  let releaseAfterUnix := booking.endDate * 86400 + 86400
  match ← ask (.createEscrow bookingId payment.amount s!"Booking {bookingId}" releaseAfterUnix) with
  | some txHash =>
    let _ ← ask (.updateBooking bookingId { sorobanEscrowId := some (some txHash) })
  | none => pure ()

/-- The escrow and the invoice of a booking that is honoured. -/
def settleBooking (paymentId : Uuid) (payment : Payment) : Option Booking → Proc Unit
  | none => pure ()
  | some booking => do
    if booking.planType ∈ longTermPlans ∧ booking.sorobanEscrowId.getD "" = "" then
      recordSorobanEscrow payment booking
    ask (.start (.generateInvoice paymentId))

/-- The processes that a transition starts; a guest gets no notification. -/
def notifyPayer (email : Task) (notification : Uuid → Task) (payment : Payment) : Proc Unit := do
  ask (.start email)
  match payment.userId with
  | some userId => ask (.start (notification userId))
  | none => pure ()

def handleChargeSuccess (reference : String) : Proc Unit := do
  let (paymentId, payment) ← okOr (← ask (.findPayment (.byReference reference)))
    (.badRequest s!"No payment found for reference {reference}")
  let affected : ℕ ← ask (.updatePayments (.byId paymentId) .pending .success)
  if affected = 0 then
    let _ ← ask (.findPayment (.byId paymentId))
  else
    let booking ← resolveBookingForSuccessfulPayment payment
    settleBooking paymentId payment booking
    notifyPayer (.paymentSuccessEmail paymentId) (.paymentSuccessNotification · paymentId) payment

def handleChargeFailed (reference : String) : Proc Unit := do
  match ← ask (.findPayment (.byReference reference)) with
  | none => pure ()
  | some (paymentId, payment) =>
    let affected : ℕ ← ask (.updatePayments (.byId paymentId) .pending .failed)
    if affected = 0 then
      let _ ← ask (.findPayment (.byId paymentId))
    else
      notifyPayer (.paymentFailedEmail paymentId) (.paymentFailedNotification · paymentId) payment

/-- The age check of a delivery that says when it was made. -/
def checkWebhookAge (cfg : Config) (requestTime : Option String) : Proc Unit := do
  match requestTime.filter (· ≠ "") with
  | none => pure ()
  | some requestTime =>
    let deliveredAt ← okOr (cfg.parseDate requestTime) (.badRequest "Invalid webhook timestamp")
    let now : Time ← ask .now
    let age := now - deliveredAt
    failIf (age > maxWebhookAgeMs) (.badRequest "Webhook timestamp too old")
    failIf (age < -maxWebhookAgeMs) (.badRequest "Webhook timestamp is in the future")

/-- `HandleWebhookProvider.handle`. -/
def handleWebhook (cfg : Config) (d : Delivery) : Proc Unit := do
  failIf (¬ verifyWebhookSignature cfg d.rawBody d.signature)
    (.unauthorized "Invalid Paystack webhook signature")
  checkWebhookAge cfg d.requestTime
  match cfg.parseBody d.rawBody with
  | .malformed => throw (.badRequest "Malformed webhook payload")
  | .null => throw .typeError
  | .event eventType reference =>
    match reference.filter (· ≠ "") with
    | none => pure ()
    | some reference =>
      if eventType = "charge.success" then handleChargeSuccess reference
      else if eventType = "charge.failed" then handleChargeFailed reference

/-! ## Refunds -/

/-- `RefundPaymentProvider.refund`. -/
def refundPayment (paymentId requestingUserId : Uuid) (requestingUserRole : UserRole) :
    Proc (Option (Uuid × Payment)) := do
  let (_, payment) ← okOr (← ask (.findPayment (.byId paymentId)))
    (.notFound s!"Payment \"{paymentId}\" not found")
  let isAdmin := requestingUserRole = .admin ∨ requestingUserRole = .superAdmin
  failIf (¬ isAdmin ∧ payment.userId ≠ some requestingUserId)
    (.forbidden "You can only refund your own payments")
  failIf (payment.status ≠ .success) (.badRequest
    s!"Only SUCCESS payments can be refunded. Current status: {payment.status.text}")
  let accepted : Bool ← ask (.initiateRefund payment.providerReference)
  failIf (¬ accepted) .requestFailed
  let affected : ℕ ← ask (.updatePayments (.byId paymentId) .success .refunded)
  let current ← ask (.findPayment (.byId paymentId))
  if affected = 0 then
    match current with
    | some (id, current) =>
      failIf (current.status ≠ .refunded) (.badRequest
        s!"Payment \"{paymentId}\" is no longer in a refundable state ({current.status.text})")
      return some (id, current)
    | none => throw (.badRequest
        s!"Payment \"{paymentId}\" is no longer in a refundable state (undefined)")
  else
    return current

/-! ## Requests -/

inductive Request where
  | createBooking (dto : CreateBookingDto) (userId : Uuid)
  | createDayPass (dto : CreatePublicBookingDto)
  | confirmBooking (bookingId : Uuid)
  | cancelBooking (bookingId userId : Uuid) (userRole : UserRole)
  | completeBooking (bookingId : Uuid)
  | expireStalePendingBookings
  | reactivateExpired (bookingId : Uuid)
  | updateWorkspace (id : Uuid) (dto : WorkspaceChanges)
  | initializePayment (bookingId userId : Uuid)
  | handleWebhook (delivery : Delivery)
  | refundPayment (paymentId requestingUserId : Uuid) (requestingUserRole : UserRole)

inductive Response where
  | created (id : Uuid) (booking : Booking)
  | dayPass (dayPass : DayPass)
  | booking (booking : Booking)
  | reactivated (booking : Option Booking)
  | swept (result : ExpirySweepResult)
  | workspace (workspace : Workspace)
  | initialized (payment : InitializedPayment)
  | handled
  | refunded (payment : Option (Uuid × Payment))

def Request.program (cfg : Config) : Request → Proc Response
  | .createBooking dto userId => do
    let (id, booking) ← Backend.createBooking cfg dto userId
    return .created id booking
  | .createDayPass dto => return .dayPass (← Backend.createDayPass cfg dto)
  | .confirmBooking id => return .booking (← Backend.confirmBooking id)
  | .cancelBooking id userId userRole => return .booking (← Backend.cancelBooking id userId userRole)
  | .completeBooking id => return .booking (← Backend.completeBooking id)
  | .expireStalePendingBookings => return .swept (← Backend.expireStalePendingBookings cfg)
  | .reactivateExpired id => return .reactivated (← Backend.reactivateExpired id)
  | .updateWorkspace id dto => return .workspace (← Backend.updateWorkspace id dto)
  | .initializePayment bookingId userId =>
    return .initialized (← Backend.initializePayment bookingId userId)
  | .handleWebhook delivery => do
    Backend.handleWebhook cfg delivery
    return .handled
  | .refundPayment id userId userRole =>
    return .refunded (← Backend.refundPayment id userId userRole)

/-- The backend: any number of requests, over one database. -/
def backend (cfg : Config) : System Answer DbServer Request World HttpError Response where
  program := Request.program cfg
  exec := exec

abbrev Sessions := Pool Answer DbServer HttpError Response

abbrev Ev := Event Sessions (Turn Request World)

/-- A database that no request works on. -/
def idle (db : Database) : Sessions := { shared := { stored := db } }

/-- A database for examples: a booking that its user has yet to pay. -/
def payable : Database :=
  let workspace : Workspace := { totalSeats := 1, hourlyRate := 500, isActive := true }
  let user : User := { email := "u@x", memberSince := none, membershipStatus := .inactive }
  let booking : Booking :=
    { userId := some "u", workspaceId := "w", planType := .daily, startDate := 10, endDate := 11,
      totalAmount := 4000, status := .pending, paymentDeadline := some 100, seatCount := 1 }
  Finmap.insert (.workspace "w") workspace
    (Finmap.insert (.user "u") user (Finmap.insert (.booking "b") booking ∅))

/-- A database for examples: the booking's payment has been initialized. -/
def chargeable : Database :=
  let payment : Payment :=
    { bookingId := "b", userId := some "u", amount := 4000, provider := .paystack,
      providerReference := some "p", status := .pending }
  Finmap.insert (.payment "p") payment payable

end Backend
