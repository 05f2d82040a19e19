/-
  The rows of the backend's tables (backend/src: workspaces, bookings, payments and users entities),
  and what the services compute from them: payment deadlines and prices.

  Dates are calendar days, counted from the epoch; times are in milliseconds.
-/
import NovaLabs.Lib.Transactions
import Mathlib.Data.Rat.Floor

namespace Backend

open Lib

abbrev Uuid := String
abbrev Day := ℤ
abbrev Time := ℤ

inductive PlanType where
  | daily
  | weekly
  | monthly
  | quarterly
  | yearly
  deriving DecidableEq

/-- `Object.values(PlanType)`. -/
def PlanType.values : List PlanType := [.daily, .weekly, .monthly, .quarterly, .yearly]

inductive BookingStatus where
  | pending
  | confirmed
  | cancelled
  | completed
  | expired
  deriving DecidableEq

inductive PaymentProvider where
  | paystack
  | soroban
  deriving DecidableEq

inductive PaymentStatus where
  | pending
  | success
  | failed
  | refunded
  deriving DecidableEq

inductive UserRole where
  | superAdmin
  | admin
  | staff
  | user
  deriving DecidableEq

inductive MembershipStatus where
  | active
  | inactive
  | suspended
  deriving DecidableEq

/-- How the enums read in messages. -/
def BookingStatus.text : BookingStatus → String
  | .pending => "pending"
  | .confirmed => "confirmed"
  | .cancelled => "cancelled"
  | .completed => "completed"
  | .expired => "expired"

def PaymentStatus.text : PaymentStatus → String
  | .pending => "pending"
  | .success => "success"
  | .failed => "failed"
  | .refunded => "refunded"

/-! ## Rows -/

structure Workspace where
  totalSeats : ℤ
  hourlyRate : ℕ
  isActive : Bool
  deriving DecidableEq

structure GuestInfo where
  name : String
  email : String
  phone : String
  deriving DecidableEq

/-- `createdAt` is set by the insert. -/
structure Booking where
  userId : Option Uuid
  workspaceId : Uuid
  planType : PlanType
  startDate : Day
  endDate : Day
  totalAmount : ℕ
  status : BookingStatus
  paymentDeadline : Option Time
  seatCount : ℕ
  sorobanEscrowId : Option String := none
  isGuestBooking : Bool := false
  guestInfo : Option GuestInfo := none
  createdAt : Time := 0
  deriving DecidableEq

structure Payment where
  bookingId : Uuid
  userId : Option Uuid
  amount : ℕ
  provider : PaymentProvider
  providerReference : Option String := none
  status : PaymentStatus
  deriving DecidableEq

structure User where
  email : String
  memberSince : Option Time
  membershipStatus : MembershipStatus
  deriving DecidableEq

/-- A row, by its table and its id. -/
inductive Row where
  | workspace (id : Uuid)
  | booking (id : Uuid)
  | payment (id : Uuid)
  | user (id : Uuid)
  deriving DecidableEq

/-- What a row of each table holds. -/
@[reducible] def Record : Row → Type
  | .workspace _ => Workspace
  | .booking _ => Booking
  | .payment _ => Payment
  | .user _ => User

abbrev Database := Storage Record

namespace Database
variable (db : Database) (id : Uuid)

def workspace : Option Workspace := db.lookup (.workspace id)
def booking : Option Booking := db.lookup (.booking id)
def payment : Option Payment := db.lookup (.payment id)
def user : Option User := db.lookup (.user id)

end Database

/-! ## Deadlines and prices -/

/-- The body of a webhook request, as JSON. -/
inductive Payload where
  | malformed
  | null
  | event (eventType : String) (reference : Option String)

/-- What the environment configures and the runtime computes. -/
structure Config where
  /-- BOOKING_PAYMENT_TTL_<PLAN>_MINUTES, where it is set to a finite number. -/
  paymentTtlMinutes : PlanType → Option ℚ
  /-- `Math.floor(gross * (1 - discount))` for the plans with a discount. -/
  discounted : PlanType → ℕ → ℕ
  /-- The HMAC-SHA512 of a body under the secret key. -/
  hmac : String → String
  /-- `new Date(text).getTime()`, where it is not NaN. -/
  parseDate : String → Option Time
  /-- `JSON.parse`. -/
  parseBody : String → Payload

/-- Nothing is configured; bodies carry their reference, and are their own signature. -/
def plainConfig : Config where
  paymentTtlMinutes _ := none
  discounted _ gross := gross
  hmac body := body
  parseDate _ := none
  parseBody body := .event "charge.success" (some body)

def defaultPaymentTtlMinutes : PlanType → ℤ
  | .daily => 60
  | .weekly => 360
  | .monthly => 1440
  | .quarterly => 2880
  | .yearly => 4320

section
variable (cfg : Config)

def ttlMinutesFor (planType : PlanType) : ℤ :=
  match cfg.paymentTtlMinutes planType with
  | some parsed => if 1 ≤ parsed then ⌊parsed⌋ else defaultPaymentTtlMinutes planType
  | none => defaultPaymentTtlMinutes planType

def deadlineFor (planType : PlanType) (created : Time) : Time :=
  created + ttlMinutesFor cfg planType * 60000

def effectiveDeadline (booking : Booking) : Time :=
  booking.paymentDeadline.getD (deadlineFor cfg booking.planType booking.createdAt)

/-- The fixed multipliers of the plans; a daily plan counts the days between its dates. -/
def planDays (planType : PlanType) (startDate endDate : Day) : ℕ :=
  match planType with
  | .daily => (max 1 (endDate - startDate)).toNat
  | .weekly => 5
  | .monthly => 22
  | .quarterly => 66
  | .yearly => 264

/-- The booking amount in kobo, at 8 working hours a day. -/
def calculateAmount (hourlyRate : ℕ) (planType : PlanType) (seatCount : ℕ)
    (startDate endDate : Day) : ℕ :=
  let gross := hourlyRate * 8 * planDays planType startDate endDate * seatCount
  match planType with
  | .daily => gross
  | planType => cfg.discounted planType gross

end

end Backend
