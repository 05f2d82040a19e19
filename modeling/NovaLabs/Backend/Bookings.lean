/-
  The booking operations of the backend (backend/src/bookings/providers), as programs over queries.
-/
import NovaLabs.Backend.Queries

namespace Backend

open Lib Process

inductive HttpError where
  | badRequest (message : String)
  | unauthorized (message : String)
  | forbidden (message : String)
  | notFound (message : String)
  | conflict (message : String)
  /-- A property of a missing row was read. -/
  | typeError
  /-- A call to Paystack failed. -/
  | requestFailed

abbrev Proc (α : Type) := Process Answer HttpError α

def ask (q : Query) : Proc (Answer q) := Process.query q

/-- `dataSource.transaction`. -/
def transaction {α : Type} (x : Proc α) : Proc α := do
  ask .begin
  match ← x.attempt with
  | .ok a => do
    ask .commit
    return a
  | .error e => do
    ask .rollback
    throw e

/-! ## Saves -/

def saveBooking (id : Uuid) (held : Booking) : Proc Unit := do
  match ← ask (.findBooking id) with
  | some stored =>
    let changes := held.changes stored
    if changes ≠ {} then
      let _ ← ask (.updateBooking id changes)
  | none => pure ()

def saveUser (id : Uuid) (held : User) : Proc Unit := do
  match ← ask (.findUser id) with
  | some stored =>
    let changes := held.changes stored
    if changes ≠ {} then
      let _ ← ask (.updateUser id changes)
  | none => pure ()

def saveWorkspace (id : Uuid) (held : Workspace) : Proc Unit := do
  match ← ask (.findWorkspace id) with
  | some stored =>
    let changes := held.changes stored
    if changes ≠ {} then
      let _ ← ask (.updateWorkspace id changes)
  | none => pure ()

def savePayment (id : Uuid) (held : Payment) : Proc Unit := do
  match ← ask (.findPayment (.byId id)) with
  | some (_, stored) =>
    let changes := held.changes stored
    if changes ≠ {} then
      let _ ← ask (.updatePayment id changes)
  | none => pure ()

/-! ## Creation -/

/-- Lock the workspace row, of an active workspace. -/
def lockActiveWorkspace (workspaceId : Uuid) : Proc Workspace := do
  let workspace ← okOr (← ask (.lockWorkspace workspaceId))
    (.notFound s!"Workspace \"{workspaceId}\" not found")
  failIf (¬ workspace.isActive) (.badRequest "Workspace is not active")
  return workspace

structure CreateBookingDto where
  workspaceId : Uuid
  planType : PlanType
  startDate : Day
  endDate : Day
  seatCount : ℕ

/-- `CreateBookingProvider.create`. -/
def createBooking (cfg : Config) (dto : CreateBookingDto) (userId : Uuid) :
    Proc (Uuid × Booking) := do
  failIf (dto.endDate ≤ dto.startDate) (.badRequest "endDate must be after startDate")
  transaction do
    let workspace ← lockActiveWorkspace dto.workspaceId
    let alreadyBooked ← ask (.bookedSeats dto.workspaceId dto.startDate dto.endDate none)
    failIf ((alreadyBooked : ℤ) + dto.seatCount > workspace.totalSeats)
      (.conflict
        s!"Only {workspace.totalSeats - alreadyBooked} seat(s) available for the requested dates")
    let totalAmount := calculateAmount cfg workspace.hourlyRate dto.planType dto.seatCount
      dto.startDate dto.endDate
    let now ← ask .now
    let saved ← ask (.insertBooking
      { userId := some userId
        workspaceId := dto.workspaceId
        planType := dto.planType
        startDate := dto.startDate
        endDate := dto.endDate
        totalAmount
        status := .pending
        paymentDeadline := some (deadlineFor cfg dto.planType now)
        seatCount := dto.seatCount })
    ask (.start (.bookingCreatedEmail saved.1))
    return saved

structure CreatePublicBookingDto where
  guestName : String
  guestEmail : String
  guestPhone : String
  workspaceId : Uuid
  date : Day

structure DayPass where
  bookingId : Uuid
  paymentId : Uuid
  authorizationUrl : String
  reference : String

/-- `CreatePublicDayPassProvider.create`. -/
def createDayPass (cfg : Config) (dto : CreatePublicBookingDto) : Proc DayPass := do
  let today : Time ← ask .now
  failIf (dto.date < today / 86400000) (.badRequest "date must be today or a future date")
  transaction do
    let workspace ← lockActiveWorkspace dto.workspaceId
    let alreadyBooked ← ask (.bookedSeats dto.workspaceId dto.date dto.date none)
    failIf ((alreadyBooked : ℤ) + 1 > workspace.totalSeats)
      (.conflict "No seats available for the requested date")
    let totalAmount := calculateAmount cfg workspace.hourlyRate .daily 1 dto.date dto.date
    let now ← ask .now
    let (bookingId, _) ← ask (.insertBooking
      { userId := none
        workspaceId := dto.workspaceId
        planType := .daily
        startDate := dto.date
        endDate := dto.date
        totalAmount
        status := .pending
        paymentDeadline := some (deadlineFor cfg .daily now)
        seatCount := 1
        isGuestBooking := true
        guestInfo := some { name := dto.guestName, email := dto.guestEmail, phone := dto.guestPhone } })
    let (paymentId, payment) ← ask (.insertPayment
      { bookingId, userId := none, amount := totalAmount, provider := .paystack, status := .pending })
    let paystackData ← okOr
      (← ask (.initializeTransaction dto.guestEmail totalAmount paymentId)) .requestFailed
    savePayment paymentId { payment with providerReference := some paystackData.reference }
    return { bookingId, paymentId, authorizationUrl := paystackData.authorizationUrl,
             reference := paystackData.reference }

/-! ## Confirmation -/

def activateMembershipIfNeeded (userId : Option Uuid) : Proc Unit := do
  match userId with
  | none => pure ()
  | some userId =>
    match ← ask (.findUser userId) with
    | some user =>
      if user.memberSince = none then
        let now ← ask .now
        saveUser userId { user with memberSince := some now, membershipStatus := .active }
    | none => pure ()

/-- `ConfirmBookingProvider.confirm`. -/
def confirmBooking (bookingId : Uuid) : Proc Booking := do
  let affected : ℕ ← ask (.updateBookings [bookingId] .pending .confirmed)
  if affected = 0 then
    let current ← okOr (← ask (.findBooking bookingId))
      (.notFound s!"Booking \"{bookingId}\" not found")
    failIf (current.status ≠ .confirmed)
      (.badRequest s!"Only PENDING bookings can be confirmed (current: {current.status.text})")
    return current
  else
    let booking ← okOr (← ask (.findBooking bookingId))
      (.notFound s!"Booking \"{bookingId}\" not found")
    activateMembershipIfNeeded booking.userId
    return booking

/-- `ReactivateExpiredBookingProvider.reactivateExpired`; `none` where the seats are taken. -/
def reactivateExpired (bookingId : Uuid) : Proc (Option Booking) :=
  transaction do
    let booking ← okOr (← ask (.findBooking bookingId))
      (.notFound s!"Booking \"{bookingId}\" not found")
    if booking.status ≠ .expired then
      failIf (booking.status ≠ .confirmed)
        (.notFound s!"Booking \"{bookingId}\" is {booking.status.text}, expected EXPIRED")
      return some booking
    else
      let workspace ← okOr (← ask (.lockWorkspace booking.workspaceId))
        (.notFound s!"Workspace \"{booking.workspaceId}\" not found")
      let alreadyBooked ← ask
        (.bookedSeats booking.workspaceId booking.startDate booking.endDate (some bookingId))
      if (alreadyBooked : ℤ) + booking.seatCount > workspace.totalSeats then
        return none
      else
        let saved := { booking with status := .confirmed }
        saveBooking bookingId saved
        activateMembershipIfNeeded saved.userId
        return some saved

/-! ## Cancellation and completion -/

/-- `CancelBookingProvider.cancel`. -/
def cancelBooking (bookingId userId : Uuid) (userRole : UserRole) : Proc Booking := do
  let booking ← okOr (← ask (.findBooking bookingId))
    (.notFound s!"Booking \"{bookingId}\" not found")
  let isAdmin := userRole = .admin ∨ userRole = .superAdmin ∨ userRole = .staff
  failIf (¬ isAdmin ∧ booking.userId ≠ some userId)
    (.forbidden "You can only cancel your own bookings")
  failIf (booking.status ≠ .pending ∧ booking.status ≠ .confirmed)
    (.badRequest "Only PENDING or CONFIRMED bookings can be cancelled")
  let saved := { booking with status := .cancelled }
  saveBooking bookingId saved
  ask (.start (.bookingCancelledEmail bookingId))
  return saved

/-- `CompleteBookingProvider.complete`. -/
def completeBooking (bookingId : Uuid) : Proc Booking := do
  let booking ← okOr (← ask (.findBooking bookingId))
    (.notFound s!"Booking \"{bookingId}\" not found")
  failIf (booking.status ≠ .confirmed) (.badRequest "Only CONFIRMED bookings can be completed")
  let saved := { booking with status := .completed }
  saveBooking bookingId saved
  return saved

/-! ## Expiry -/

structure ExpirySweepResult where
  expiredBookings : ℕ
  releasedPayments : ℕ

/-- The bookings among those read whose deadline has passed. -/
def staleIds (cfg : Config) (now : Time) (pendingBookings : List (Uuid × Booking)) : List Uuid :=
  (pendingBookings.filter fun (_, booking) => effectiveDeadline cfg booking ≤ now).map Prod.fst

/-- The transaction of the sweep, for the bookings of one plan. -/
def expireBookings (ids : List Uuid) : Proc ExpirySweepResult :=
  transaction do
    let expiredBookings ← ask (.updateBookings ids .pending .expired)
    let releasedPayments ← ask (.updatePayments (.ofBookings ids) .pending .failed)
    return { expiredBookings, releasedPayments }

/-- One round of the loop of the sweep. -/
def expirePlan (cfg : Config) (now : Time) (result : ExpirySweepResult) (planType : PlanType) :
    Proc ExpirySweepResult := do
  let pendingBookings ← ask (.findBookings .pending planType)
  let ids := staleIds cfg now pendingBookings
  if ids.length = 0 then
    return result
  else
    let planResult ← expireBookings ids
    return { expiredBookings := result.expiredBookings + planResult.expiredBookings,
             releasedPayments := result.releasedPayments + planResult.releasedPayments }

/-- `BookingExpiryService.expireStalePendingBookings`. -/
def expireStalePendingBookings (cfg : Config) : Proc ExpirySweepResult := do
  let now ← ask .now
  PlanType.values.foldlM (expirePlan cfg now) { expiredBookings := 0, releasedPayments := 0 }

/-! ## Workspaces -/

/-- `UpdateWorkspaceProvider.update`. -/
def updateWorkspace (id : Uuid) (dto : WorkspaceChanges) : Proc Workspace := do
  let workspace ← okOr (← ask (.findWorkspace id))
    (.notFound s!"Workspace with id \"{id}\" not found")
  let saved := workspace.set dto
  saveWorkspace id saved
  return saved

end Backend
