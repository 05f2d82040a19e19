/-
  What the backend's operations ask of the database and of the services around it, and how this is
  answered.

  Every statement sees the rows that are committed when it runs, and its own transaction's; an
  UPDATE waits while another transaction holds one of its rows.  No code path deletes rows.
-/
import NovaLabs.Backend.Entities
import NovaLabs.Lib.Process

namespace Backend

open Lib

/-! ## Saved columns

`save` reads the row again and writes the columns in which the held entity differs.  The columns
that no code path changes after the insert are left out of the comparison. -/

/-- What a save writes, by column. -/
structure BookingChanges where
  status : Option BookingStatus := none
  sorobanEscrowId : Option (Option String) := none
  deriving DecidableEq

structure PaymentChanges where
  providerReference : Option (Option String) := none
  status : Option PaymentStatus := none
  deriving DecidableEq

structure UserChanges where
  memberSince : Option (Option Time) := none
  membershipStatus : Option MembershipStatus := none
  deriving DecidableEq

structure WorkspaceChanges where
  totalSeats : Option ℤ := none
  hourlyRate : Option ℕ := none
  isActive : Option Bool := none
  deriving DecidableEq

/-- A column of the held entity, where it differs from the stored one. -/
def differing {α : Type} [DecidableEq α] (held stored : α) : Option α :=
  if held = stored then none else some held

theorem differing_eq_some {α : Type} [DecidableEq α] {held stored a : α} :
    differing held stored = some a ↔ held ≠ stored ∧ a = held := by
  unfold differing
  split_ifs with h <;> simp [h, eq_comm]

theorem differing_eq_none {α : Type} [DecidableEq α] {held stored : α} :
    differing held stored = none ↔ held = stored := by
  unfold differing
  split_ifs with h <;> simp [h]

def Booking.changes (held stored : Booking) : BookingChanges where
  status := differing held.status stored.status
  sorobanEscrowId := differing held.sorobanEscrowId stored.sorobanEscrowId

def Booking.set (booking : Booking) (c : BookingChanges) : Booking :=
  { booking with
    status := c.status.getD booking.status
    sorobanEscrowId := c.sorobanEscrowId.getD booking.sorobanEscrowId }

def Payment.changes (held stored : Payment) : PaymentChanges where
  providerReference := differing held.providerReference stored.providerReference
  status := differing held.status stored.status

def Payment.set (payment : Payment) (c : PaymentChanges) : Payment :=
  { payment with
    providerReference := c.providerReference.getD payment.providerReference
    status := c.status.getD payment.status }

def User.changes (held stored : User) : UserChanges where
  memberSince := differing held.memberSince stored.memberSince
  membershipStatus := differing held.membershipStatus stored.membershipStatus

def User.set (user : User) (c : UserChanges) : User :=
  { user with
    memberSince := c.memberSince.getD user.memberSince
    membershipStatus := c.membershipStatus.getD user.membershipStatus }

def Workspace.changes (held stored : Workspace) : WorkspaceChanges where
  totalSeats := differing held.totalSeats stored.totalSeats
  hourlyRate := differing held.hourlyRate stored.hourlyRate
  isActive := differing held.isActive stored.isActive

def Workspace.set (workspace : Workspace) (c : WorkspaceChanges) : Workspace where
  totalSeats := c.totalSeats.getD workspace.totalSeats
  hourlyRate := c.hourlyRate.getD workspace.hourlyRate
  isActive := c.isActive.getD workspace.isActive

/-! ## Conditions -/

/-- Pending and confirmed bookings hold their seats. -/
def BookingStatus.holdsSeats (status : BookingStatus) : Bool :=
  status = .pending ∨ status = .confirmed

/-- The seats that a row holds of a workspace in a window, unless it is the excluded booking. -/
def seatsHeld (workspaceId : Uuid) (startDate endDate : Day) (excluded : Option Uuid) :
    ∀ row, Record row → ℕ
  | .booking id, booking =>
    if booking.workspaceId = workspaceId ∧ excluded ≠ some id ∧ booking.status.holdsSeats ∧
      booking.startDate ≤ endDate ∧ startDate ≤ booking.endDate then booking.seatCount else 0
  | _, _ => 0

/-- Which payments a statement is about. -/
inductive PaymentWhere where
  | byId (id : Uuid)
  | byReference (providerReference : String)
  | pendingOf (bookingId : Uuid)
  | ofBookings (bookingIds : List Uuid)

def PaymentWhere.selects : PaymentWhere → Uuid → Payment → Bool
  | .byId id, id', _ => id' = id
  | .byReference providerReference, _, payment => payment.providerReference = some providerReference
  | .pendingOf bookingId, _, payment => payment.bookingId = bookingId ∧ payment.status = .pending
  | .ofBookings bookingIds, _, payment => payment.bookingId ∈ bookingIds

/-- The statement is not about the row. -/
def PaymentWhere.spares (which : PaymentWhere) : ∀ row, Record row → Bool
  | .payment id, payment => ¬ which.selects id payment
  | _, _ => true

/-- The list has the row, if it is a booking with the properties. -/
def listsBooking (status : BookingStatus) (planType : PlanType) (ids : List Uuid) :
    ∀ row, Record row → Bool
  | .booking id, booking => id ∈ ids ↔ booking.status = status ∧ booking.planType = planType
  | _, _ => true

/-- All rows have the property. -/
def Database.All (db : Database) (p : ∀ row, Record row → Bool) : Prop :=
  ∀ row ∈ db.keys, (db.lookup row).all (p row)

instance (db : Database) (p : ∀ row, Record row → Bool) : Decidable (db.All p) :=
  inferInstanceAs (Decidable (∀ row ∈ db.keys, _))

theorem Database.all_iff {db : Database} {p : ∀ row, Record row → Bool} :
    db.All p ↔ ∀ row v, db.lookup row = some v → p row v := Storage.all_iff

/-! ## Queries -/

/-- The processes that an operation starts without waiting for them. -/
inductive Task where
  | bookingCreatedEmail (bookingId : Uuid)
  | bookingCancelledEmail (bookingId : Uuid)
  | paymentSuccessEmail (paymentId : Uuid)
  | paymentFailedEmail (paymentId : Uuid)
  | paymentSuccessNotification (userId paymentId : Uuid)
  | paymentFailedNotification (userId paymentId : Uuid)
  | generateInvoice (paymentId : Uuid)
  deriving DecidableEq

/-- What Paystack answers to `initializeTransaction`. -/
structure Checkout where
  authorizationUrl : String
  reference : String
  deriving DecidableEq

inductive Query where
  | begin
  | commit
  | rollback
  | now
  | lockWorkspace (id : Uuid)
  | bookedSeats (workspaceId : Uuid) (startDate endDate : Day) (excluded : Option Uuid)
  | findWorkspace (id : Uuid)
  | updateWorkspace (id : Uuid) (changes : WorkspaceChanges)
  | findBooking (id : Uuid)
  | findBookings (status : BookingStatus) (planType : PlanType)
  | insertBooking (booking : Booking)
  | updateBookings (ids : List Uuid) (source target : BookingStatus)
  | updateBooking (id : Uuid) (changes : BookingChanges)
  | findPayment (which : PaymentWhere)
  | insertPayment (payment : Payment)
  | updatePayments (which : PaymentWhere) (source target : PaymentStatus)
  | updatePayment (id : Uuid) (changes : PaymentChanges)
  | findUser (id : Uuid)
  | updateUser (id : Uuid) (changes : UserChanges)
  | initializeTransaction (email : String) (amountKobo : ℕ) (reference : String)
  | initiateRefund (transactionReference : Option String)
  | createEscrow (bookingId : Uuid) (amount : ℕ) (description : String) (releaseAfterUnix : ℤ)
  | start (task : Task)

/-- An update answers with the number of rows it changed; a service, with nothing where it fails. -/
@[reducible] def Answer : Query → Type
  | .begin | .commit | .rollback | .start _ => Unit
  | .now => Time
  | .lockWorkspace _ | .findWorkspace _ => Option Workspace
  | .bookedSeats _ _ _ _ => ℕ
  | .findBooking _ => Option Booking
  | .findBookings _ _ => List (Uuid × Booking)
  | .insertBooking _ => Uuid × Booking
  | .findPayment _ => Option (Uuid × Payment)
  | .insertPayment _ => Uuid × Payment
  | .findUser _ => Option User
  | .updateWorkspace _ _ | .updateBookings _ _ _ | .updateBooking _ _ | .updatePayments _ _ _
  | .updatePayment _ _ | .updateUser _ _ => ℕ
  | .initializeTransaction _ _ _ => Option Checkout
  | .initiateRefund _ => Bool
  | .createEscrow _ _ _ _ => Option String

/-- What the world adds to an answer: the time, the id of a new row, the row that a search finds
    first, the order in which it finds them all, and the replies of services. -/
structure World where
  now : Time := 0
  id : Uuid := ""
  row : Option Uuid := none
  rows : List Uuid := []
  checkout : Option Checkout := none
  refunded : Bool := true
  escrow : Option String := none

/-! ## Rows that a statement changes -/

/-- `UPDATE bookings ... WHERE id IN (...) AND status = ...`. -/
def bookingUpdate (ids : List Uuid) (source target : BookingStatus) :
    ∀ row, Record row → Option (Record row)
  | .booking id, booking =>
    if id ∈ ids ∧ booking.status = source then some { booking with status := target } else none
  | .workspace _, _ | .payment _, _ | .user _, _ => none

/-- `UPDATE payments ... WHERE ... AND status = ...`. -/
def paymentUpdate (which : PaymentWhere) (source target : PaymentStatus) :
    ∀ row, Record row → Option (Record row)
  | .payment id, payment =>
    if which.selects id payment ∧ payment.status = source then
      some { payment with status := target }
    else none
  | .workspace _, _ | .booking _, _ | .user _, _ => none

/-- The one row that a save updates. -/
def bookingSave (id : Uuid) (c : BookingChanges) : ∀ row, Record row → Option (Record row)
  | .booking id', booking => if id' = id then some (booking.set c) else none
  | .workspace _, _ | .payment _, _ | .user _, _ => none

def paymentSave (id : Uuid) (c : PaymentChanges) : ∀ row, Record row → Option (Record row)
  | .payment id', payment => if id' = id then some (payment.set c) else none
  | .workspace _, _ | .booking _, _ | .user _, _ => none

def userSave (id : Uuid) (c : UserChanges) : ∀ row, Record row → Option (Record row)
  | .user id', user => if id' = id then some (user.set c) else none
  | .workspace _, _ | .booking _, _ | .payment _, _ => none

def workspaceSave (id : Uuid) (c : WorkspaceChanges) : ∀ row, Record row → Option (Record row)
  | .workspace id', workspace => if id' = id then some (workspace.set c) else none
  | .booking _, _ | .payment _, _ | .user _, _ => none

abbrev DbServer := Server Record

namespace DbServer
variable (s : DbServer) (t : ℕ)

/-- The committed rows. -/
abbrev db : Database := Server.stored s

abbrev view : Database := Server.view s t

/-- No committed or pending row has the id. -/
def Fresh (row : Row) : Prop := row ∉ s.view t ∧ s.Free t row

instance (row : Row) : Decidable (Fresh s t row) := inferInstanceAs (Decidable (_ ∧ _))

def insert (row : Row) (record : Record row) : Option DbServer :=
  if Fresh s t row then s.write t (Finmap.insert row record ∅) else none

/-- An UPDATE, with the number of rows that it changes. -/
def update (f : ∀ row, Record row → Option (Record row)) : Option (ℕ × DbServer) :=
  let rows := (s.view t).changes f
  (s.write t rows).map fun s' => (rows.keys.card, s')

/-- A payment that the statement is about, if there is one. -/
def findPayment (which : PaymentWhere) : Option Uuid → Option (Option (Uuid × Payment))
  | some id => ((s.view t).payment id).bind fun payment =>
      if which.selects id payment then some (some (id, payment)) else none
  | none => if (s.view t).All (which.spares) then some none else none

/-- All bookings with the properties, in the order of `ids`. -/
def findBookings (status : BookingStatus) (planType : PlanType) (ids : List Uuid) :
    Option (List (Uuid × Booking)) :=
  if ids.Nodup ∧ (∀ id ∈ ids, ((s.view t).booking id).isSome) ∧
      (s.view t).All (listsBooking status planType ids)
  then some (ids.filterMap fun id => ((s.view t).booking id).map (id, ·)) else none

end DbServer

/-- How a query of session `t` is answered, unless it has to wait. -/
def exec (t : ℕ) (w : World) (s : DbServer) : (q : Query) → Option (Answer q × DbServer)
  | .begin => (s.begin t).map ((), ·)
  | .commit => (s.commit t).map ((), ·)
  | .rollback => (s.rollback t).map ((), ·)
  | .now => some (w.now, s)
  | .lockWorkspace id =>
    match (s.view t).workspace id with
    | some workspace => (s.lock t (.workspace id)).map (some workspace, ·)
    | none => some (none, s)
  | .bookedSeats workspaceId startDate endDate excluded =>
    some (Storage.total (s.view t) (seatsHeld workspaceId startDate endDate excluded), s)
  | .findWorkspace id => some ((s.view t).workspace id, s)
  | .updateWorkspace id c => s.update t (workspaceSave id c)
  | .findBooking id => some ((s.view t).booking id, s)
  | .findBookings status planType => (s.findBookings t status planType w.rows).map (·, s)
  | .insertBooking booking =>
    let saved := { booking with createdAt := w.now }
    (s.insert t (.booking w.id) saved).map ((w.id, saved), ·)
  | .updateBookings ids source target => s.update t (bookingUpdate ids source target)
  | .updateBooking id c => s.update t (bookingSave id c)
  | .findPayment which => (s.findPayment t which w.row).map (·, s)
  | .insertPayment payment => (s.insert t (.payment w.id) payment).map ((w.id, payment), ·)
  | .updatePayments which source target => s.update t (paymentUpdate which source target)
  | .updatePayment id c => s.update t (paymentSave id c)
  | .findUser id => some ((s.view t).user id, s)
  | .updateUser id c => s.update t (userSave id c)
  | .initializeTransaction _ _ _ => some (w.checkout, s)
  | .initiateRefund _ => some (w.refunded, s)
  | .createEscrow _ _ _ _ => some (w.escrow, s)
  | .start _ => some ((), s)

end Backend
