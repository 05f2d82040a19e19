/-
  The workspace_booking contract (contracts/workspace_booking/src): records, storage, entry points.
-/
import NovaLabs.Lib.Store
import NovaLabs.Lib.Saturating
import NovaLabs.Soroban.Host
import NovaLabs.Soroban.CallOut

namespace WorkspaceBooking

open Lib Soroban

/-! ## Types -/

/-- The errors that the entry points return. -/
inductive Error where
  | adminNotSet
  | unauthorized
  | alreadyInitialized
  | paymentTokenNotSet
  | invalidCapacity
  | invalidRate
  | invalidTimeRange
  | invalidSeatCount
  | bookingNotFound
  | bookingAlreadyExists
  | bookingNotActive
  | insufficientCapacity
  | workspaceNotFound
  | workspaceAlreadyExists
  | workspaceUnavailable
  | reentrancyLock
  deriving DecidableEq

/-- Category of workspace being registered. -/
inductive WorkspaceType where
  | hotDesk
  | dedicatedDesk
  | privateOffice
  | meetingRoom
  | virtual
  | hybrid
  deriving DecidableEq

inductive UnavailabilityReason where
  | maintenance
  | decommissioned
  | adminHold
  deriving DecidableEq

inductive WorkspaceAvailability where
  | available
  | unavailable (reason : UnavailabilityReason)
  deriving DecidableEq

/-- Lifecycle state of a booking. -/
inductive BookingStatus where
  | active
  | completed
  | cancelled
  | noShow
  | expired
  deriving DecidableEq

/-- A workspace that can be booked; `capacity` is a `u32`, `hourlyRate` a `u128`. -/
structure Workspace where
  id : String
  name : String
  workspaceType : WorkspaceType
  capacity : ℕ
  hourlyRate : ℕ
  availability : WorkspaceAvailability
  createdAt : ℕ
  deriving DecidableEq

/-- A reservation of `seatCount` seats (a `u32`) over `[startTime, endTime)`. -/
structure Booking where
  id : String
  workspaceId : String
  member : Address
  startTime : ℕ
  endTime : ℕ
  status : BookingStatus
  seatCount : ℕ
  amountPaid : ℕ
  createdAt : ℕ
  cancelledAt : Option ℕ
  completedAt : Option ℕ
  deriving DecidableEq

/-- One lock per guarded entry point. -/
inductive ReentrancyKey where
  | book
  | cancel
  deriving DecidableEq

/-- The contract's storage, one field per key; `locks` are the lock symbols present. -/
structure State where
  admin : Option Address := none
  paymentToken : Option Address := none
  workspaces : Store String Workspace := ∅
  workspaceList : List String := []
  bookings : Store String Booking := ∅
  memberBookings : Store Address (List String) := ∅
  workspaceBookings : Store String (List String) := ∅
  locks : Finset ReentrancyKey := ∅

abbrev Fn (α : Type) := Code State Error α

abbrev EntryPoint := Entry State Transfer Error Unit

/-- The ids of the bookings of a workspace, in booking order. -/
def State.bookingIds (s : State) (workspaceId : String) : List String :=
  (s.workspaceBookings.lookup workspaceId).getD []

/-! ## Internal helpers -/

section
variable {me : Address} (env : Env me)

def getAdmin : Fn Address := do
  okOr (← get).admin .adminNotSet

def requireAdmin (caller : Address) : Fn Unit := do
  let admin ← getAdmin
  failIf (caller ≠ admin) .unauthorized
  requireAuth env caller

def getPaymentToken : Fn Address := do
  okOr (← get).paymentToken .paymentTokenNotSet

def loadWorkspace (workspaceId : String) : Fn Workspace := do
  okOr ((← get).workspaces.lookup workspaceId) .workspaceNotFound

def loadBooking (bookingId : String) : Fn Booking := do
  okOr ((← get).bookings.lookup bookingId) .bookingNotFound

/-- The existing booking `b` starts before the slot `[startTime, endTime)` ends and ends after it
    starts. -/
def Booking.Overlaps (b : Booking) (startTime endTime : ℕ) : Prop :=
  b.startTime < endTime ∧ b.endTime > startTime

instance (b : Booking) (startTime endTime : ℕ) : Decidable (b.Overlaps startTime endTime) :=
  inferInstanceAs (Decidable (_ ∧ _))

/-- Seats of the active bookings of a workspace that overlap the slot, added with `u32`
    saturation. -/
def bookedSeatsInSlot (s : State) (workspaceId : String) (startTime endTime : ℕ) : ℕ :=
  (s.bookingIds workspaceId).foldl (fun bookedSeats bid =>
    match s.bookings.lookup bid with
    | none => bookedSeats
    | some booking =>
      if booking.status ≠ .active then bookedSeats
      else if booking.Overlaps startTime endTime then saturatingAdd 32 bookedSeats booking.seatCount
      else bookedSeats) 0

/-- Take the lock `key`, or stop if it is held. -/
def reentrancyProtect (key : ReentrancyKey) : Fn Unit := do
  failIf (key ∈ (← get).locks) .reentrancyLock
  modify fun s => { s with locks := insert key s.locks }

/-- `ReentrancyGuard::drop`. -/
def dropGuard (key : ReentrancyKey) : Fn Unit :=
  modify fun s => { s with locks := s.locks.erase key }

/-- The record is stored under the id `id`. -/
def saveBooking (id : String) (booking : Booking) : Fn Unit :=
  modify fun s => { s with bookings := s.bookings.insert id booking }

def saveWorkspace (id : String) (workspace : Workspace) : Fn Unit :=
  modify fun s => { s with workspaces := s.workspaces.insert id workspace }

/-! ## Initialisation and workspace management -/

/-- `initialize`. -/
def initializeContract (admin paymentToken : Address) : Fn Unit := do
  failIf (← get).admin.isSome .alreadyInitialized
  requireAuth env admin
  modify fun s => { s with admin := some admin, paymentToken := some paymentToken }

def registerWorkspace (caller : Address) (id name : String) (workspaceType : WorkspaceType)
    (capacity hourlyRate : ℕ) : Fn Unit := do
  requireAdmin env caller
  failIf (capacity = 0) .invalidCapacity
  failIf (hourlyRate = 0) .invalidRate
  failIf ((← get).workspaces.lookup id).isSome .workspaceAlreadyExists
  saveWorkspace id
    { id, name, workspaceType, capacity, hourlyRate, availability := .available,
      createdAt := env.now }
  modify fun s => { s with workspaceList := s.workspaceList ++ [id] }

def setWorkspaceAvailability (caller : Address) (workspaceId : String) (isAvailable : Bool) :
    Fn Unit := do
  requireAdmin env caller
  let workspace ← loadWorkspace workspaceId
  saveWorkspace workspaceId { workspace with
    availability := if isAvailable then .available else .unavailable .adminHold }

def setWorkspaceRate (caller : Address) (workspaceId : String) (hourlyRate : ℕ) : Fn Unit := do
  requireAdmin env caller
  failIf (hourlyRate = 0) .invalidRate
  let workspace ← loadWorkspace workspaceId
  saveWorkspace workspaceId { workspace with hourlyRate }

/-! ## Booking -/

/-- The amount of a transfer: `amount as i128`. -/
def asI128 (amount : ℕ) : ℤ := (amount : ℤ).bmod (2 ^ 128)

/-- Cost of a slot: the rate times the hours begun, a `u128`. -/
def slotCost (hourlyRate startTime endTime : ℕ) : Fn ℕ :=
  checked 128 (hourlyRate * ((endTime - startTime + 3599) / 3600))

/-- What `book_workspace` checks before it takes its lock; it returns the amount to pay. -/
def bookChecks (member : Address) (bookingId workspaceId : String)
    (startTime endTime seatCount : ℕ) : Fn ℕ := do
  requireAuth env member
  failIf ((← get).bookings.lookup bookingId).isSome .bookingAlreadyExists
  failIf (startTime ≥ endTime ∨ endTime ≤ env.now) .invalidTimeRange
  failIf (seatCount = 0) .invalidSeatCount
  let workspace ← loadWorkspace workspaceId
  failIf (workspace.availability ≠ .available) .workspaceUnavailable
  let bookedSeats := bookedSeatsInSlot (← get) workspaceId startTime endTime
  failIf (saturatingAdd 32 bookedSeats seatCount > workspace.capacity) .insufficientCapacity
  slotCost workspace.hourlyRate startTime endTime

/-- The two indexes of `book_workspace`. -/
def indexBooking (booking : Booking) : Fn Unit := do
  modify fun s => { s with
    workspaceBookings := s.workspaceBookings.insert booking.workspaceId
      (s.bookingIds booking.workspaceId ++ [booking.id]) }
  modify fun s => { s with
    memberBookings := s.memberBookings.insert booking.member
      ((s.memberBookings.lookup booking.member).getD [] ++ [booking.id]) }

def bookWorkspace (member : Address) (bookingId workspaceId : String)
    (startTime endTime seatCount : ℕ) : EntryPoint := do
  let amount ← bookChecks env member bookingId workspaceId startTime endTime seatCount
  reentrancyProtect .book
  let paymentToken ← getPaymentToken
  request ⟨paymentToken, member, me, asI128 amount⟩
  let booking : Booking :=
    { id := bookingId, workspaceId, member, startTime, endTime, status := .active, seatCount,
      amountPaid := amount, createdAt := env.now, cancelledAt := none, completedAt := none }
  saveBooking bookingId booking
  indexBooking booking
  dropGuard .book

/-- What `cancel_booking` checks before it takes its lock. -/
def cancelChecks (caller : Address) (bookingId : String) : Fn Booking := do
  requireAuth env caller
  let booking ← loadBooking bookingId
  let admin ← getAdmin
  failIf (caller ≠ booking.member ∧ caller ≠ admin) .unauthorized
  failIf (booking.status ≠ .active) .bookingNotActive
  return booking

def cancelBooking (caller : Address) (bookingId : String) : EntryPoint := do
  let booking ← cancelChecks env caller bookingId
  reentrancyProtect .cancel
  let paymentToken ← getPaymentToken
  request ⟨paymentToken, me, booking.member, asI128 booking.amountPaid⟩
  saveBooking bookingId { booking with status := .cancelled, cancelledAt := some env.now }
  dropGuard .cancel

def completeBooking (caller : Address) (bookingId : String) : Fn Unit := do
  requireAdmin env caller
  let booking ← loadBooking bookingId
  failIf (booking.status ≠ .active) .bookingNotActive
  saveBooking bookingId { booking with status := .completed, completedAt := some env.now }

end

/-! ## The contract interface -/

/-- The public entry points that write storage. -/
inductive Call where
  | initializeContract (admin paymentToken : Address)
  | registerWorkspace (caller : Address) (id name : String) (workspaceType : WorkspaceType)
      (capacity hourlyRate : ℕ)
  | setWorkspaceAvailability (caller : Address) (workspaceId : String) (isAvailable : Bool)
  | setWorkspaceRate (caller : Address) (workspaceId : String) (hourlyRate : ℕ)
  | bookWorkspace (member : Address) (bookingId workspaceId : String)
      (startTime endTime seatCount : ℕ)
  | cancelBooking (caller : Address) (bookingId : String)
  | completeBooking (caller : Address) (bookingId : String)

def entryPoint {me : Address} (env : Env me) : Call → EntryPoint
  | .initializeContract admin paymentToken => liftM (initializeContract env admin paymentToken)
  | .registerWorkspace caller id name workspaceType capacity hourlyRate =>
    liftM (registerWorkspace env caller id name workspaceType capacity hourlyRate)
  | .setWorkspaceAvailability caller id isAvailable =>
    liftM (setWorkspaceAvailability env caller id isAvailable)
  | .setWorkspaceRate caller id hourlyRate => liftM (setWorkspaceRate env caller id hourlyRate)
  | .bookWorkspace member id workspaceId startTime endTime seatCount =>
    bookWorkspace env member id workspaceId startTime endTime seatCount
  | .cancelBooking caller id => cancelBooking env caller id
  | .completeBooking caller id => liftM (completeBooking env caller id)

end WorkspaceBooking
