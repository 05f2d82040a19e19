/-
  The e-mails that the webhook of a payment triggers (backend/src/payments/providers and
  backend/src/invoices/providers), as programs over queries.

  A search by an id that is null is a search without a condition.
-/
import NovaLabs.Backend.Entities
import NovaLabs.Lib.Alone
import NovaLabs.Lib.Searches

namespace PaymentMail

open Lib Process
open Backend (Uuid Time Day PlanType GuestInfo Booking)

/-! ## Rows -/

/-- `fullName` is what the getter makes of the names. -/
structure User where
  email : String
  fullName : String
  deriving DecidableEq

structure Payment extends Backend.Payment where
  currency : String := "NGN"
  paidAt : Option Time := none
  deriving DecidableEq

structure Workspace where
  name : String
  deriving DecidableEq

structure LineItem where
  description : String
  startDate : Option Day
  endDate : Option Day
  seatCount : ℕ
  amountKobo : ℕ
  deriving DecidableEq

structure Invoice where
  invoiceNumber : String
  userId : Option Uuid
  bookingId : Uuid
  paymentId : Uuid
  amountKobo : ℕ
  currency : String
  paidAt : Option Time
  lineItems : List LineItem
  deriving DecidableEq

structure Database where
  users : Store Uuid User := ∅
  bookings : Store Uuid Booking := ∅
  payments : Store Uuid Payment := ∅
  invoices : Store Uuid Invoice := ∅
  workspaces : Store Uuid Workspace := ∅

/-! ## E-mails -/

/-- What a template is filled in with. -/
inductive MailData where
  | paymentSuccess (bookingId workspaceName amountNaira paidAt invoiceNumber : String)
  | paymentFailed (paymentReference amountNaira : String)
  | invoiceReady (invoiceNumber amountNaira paidAt : String)
  deriving DecidableEq

structure Mail where
  recipient : String
  fullName : String
  data : MailData
  deriving DecidableEq

/-! ## Queries -/

inductive Query where
  | findUser (id : Condition Uuid)
  | findBooking (id : Uuid)
  | findPayment (id : Uuid)
  | findInvoice (paymentId : Uuid)
  | findWorkspace (id : Uuid)
  | nextval
  | insertInvoice (invoice : Invoice)
  | generatePdf (invoice : Invoice)
  | send (mail : Mail)

/-- An insert, a PDF and an e-mail may fail. -/
@[reducible] def Answer : Query → Type
  | .findUser _ => Option User
  | .findBooking _ => Option Booking
  | .findPayment _ => Option Payment
  | .findInvoice _ => Option Invoice
  | .findWorkspace _ => Option Workspace
  | .nextval => ℕ
  | .insertInvoice _ | .generatePdf _ | .send _ => Bool

/-- What the world adds to an answer. -/
structure World where
  row : Option Uuid := none
  id : Uuid := ""
  number : ℕ := 0
  fails : Bool := false

/-- The database, and the e-mails that are queued, the last one first. -/
structure Server where
  db : Database
  queued : List Mail := []

/-- How a query is answered. The `userId` of an invoice is NOT NULL. -/
def exec (w : World) (s : Server) : (q : Query) → Option (Answer q × Server)
  | .findUser id => (s.db.users.findOne (fun key _ => id.admits (some key)) w.row).map fun found =>
      (found.map Prod.snd, s)
  | .findBooking id => some (s.db.bookings.lookup id, s)
  | .findPayment id => some (s.db.payments.lookup id, s)
  | .findInvoice paymentId =>
    (s.db.invoices.findOne (fun _ invoice => invoice.paymentId = paymentId) w.row).map fun found =>
      (found.map Prod.snd, s)
  | .findWorkspace id => some (s.db.workspaces.lookup id, s)
  | .nextval => some (w.number, s)
  | .insertInvoice invoice =>
    if invoice.userId = none ∨ w.fails then some (false, s)
    else if s.db.invoices.lookup w.id = none then
      some (true, { s with db.invoices := s.db.invoices.insert w.id invoice })
    else none
  | .generatePdf _ => some (¬ w.fails, s)
  | .send mail =>
    some (if w.fails then (false, s) else (true, { s with queued := mail :: s.queued }))

/-! ## Operations -/

abbrev Proc (α : Type) := Process Answer String α

def ask (q : Query) : Proc (Answer q) := Process.query q

structure Config where
  /-- `toLocaleString`. -/
  localeString : Time → String

/-- `(kobo / 100).toFixed(2)`. -/
def naira (kobo : ℕ) : String :=
  toString (kobo / 100) ++ "." ++ String.leftpad 2 '0' (toString (kobo % 100))

def paidAtText (cfg : Config) (paidAt : Option Time) : String := paidAt.elim "" cfg.localeString

/-- The guest of a guest booking. -/
def guestOf (bk : Option Booking) : Option GuestInfo :=
  bk.bind fun booking => if booking.isGuestBooking then booking.guestInfo else none

/-- The e-mail and the name of the user that has been found, or else of the guest. -/
def successRecipient (user : Option User) (bk : Option Booking) : Option (String × String) :=
  let emailRecipient := (user.map (·.email)).or ((guestOf bk).map (·.email))
  let displayName := (user.map (·.fullName)).or ((guestOf bk).map (·.name))
  match emailRecipient.filter (· ≠ ""), displayName.filter (· ≠ "") with
  | some emailRecipient, some displayName => some (emailRecipient, displayName)
  | _, _ => none

/-- Send the e-mail, if there is a recipient; where it is not queued, this is logged. -/
def sendTo (recipient : Option (String × String)) (data : MailData) : Proc Unit :=
  match recipient with
  | some (email, name) => do
    let _ ← ask (.send { recipient := email, fullName := name, data })
  | none => pure ()

def paymentSuccessData (cfg : Config) (payment : Payment) (bk : Option Booking) : MailData :=
  .paymentSuccess payment.bookingId (bk.elim "" (·.workspaceId)) (naira payment.amount)
    (paidAtText cfg payment.paidAt) ""

/-- The e-mail that `handleChargeSuccess` starts. -/
def paymentSuccessEmail (cfg : Config) (payment : Payment) : Proc Unit := do
  let user ← ask (.findUser (.ofNullable payment.userId))
  let bk ← ask (.findBooking payment.bookingId)
  sendTo (successRecipient user bk) (paymentSuccessData cfg payment bk)

/-- The user of the payment, or else the guest of the booking. An id is not the empty string. -/
def failedRecipient (payment : Payment) : Proc (Option (String × String)) :=
  match payment.userId with
  | some userId => do
    let user ← ask (.findUser (.equal userId))
    return user.map fun user => (user.email, user.fullName)
  | none => do
    let bk ← ask (.findBooking payment.bookingId)
    let guest := (bk.bind (·.guestInfo)).filter (·.email ≠ "")
    return guest.map fun guest => (guest.email, guest.name)

/-- The e-mail that `handleChargeFailed` starts. -/
def paymentFailedEmail (paymentId : Uuid) (payment : Payment) : Proc Unit := do
  let recipient ← failedRecipient payment
  sendTo recipient
    (.paymentFailed (payment.providerReference.getD paymentId) (naira payment.amount))

def planText : PlanType → String
  | .daily => "daily"
  | .weekly => "weekly"
  | .monthly => "monthly"
  | .quarterly => "quarterly"
  | .yearly => "yearly"

def lineItem (payment : Payment) (booking : Option (Uuid × Booking))
    (workspace : Option Workspace) : LineItem where
  description := match workspace, booking with
    | some workspace, some (_, booking) =>
      workspace.name ++ " — " ++ planText booking.planType ++ " booking"
    | _, _ => "Booking " ++ booking.elim "" (·.1)
  startDate := booking.map (·.2.startDate)
  endDate := booking.map (·.2.endDate)
  seatCount := booking.elim 1 (·.2.seatCount)
  amountKobo := payment.amount

def invoiceOf (paymentId : Uuid) (payment : Payment) (booking : Option Booking)
    (workspace : Option Workspace) (number : ℕ) : Invoice where
  invoiceNumber := "INV-" ++ String.leftpad 5 '0' (toString number)
  userId := payment.userId
  bookingId := payment.bookingId
  paymentId := paymentId
  amountKobo := payment.amount
  currency := payment.currency
  paidAt := payment.paidAt
  lineItems := [lineItem payment (booking.map (payment.bookingId, ·)) workspace]

/-- The e-mail with the PDF; where there is none, this is logged. -/
def invoiceReadyEmail (cfg : Config) (invoice : Invoice) (user : User) : Proc Unit := do
  if ← ask (.generatePdf invoice) then
    sendTo (user.email, user.fullName)
      (.invoiceReady invoice.invoiceNumber (naira invoice.amountKobo)
        (paidAtText cfg invoice.paidAt))

/-- What `generateForPayment` does with what it has found. -/
def issueInvoice (cfg : Config) (paymentId : Uuid) (payment : Payment) (booking : Option Booking)
    (user : Option User) (workspace : Option Workspace) : Proc Invoice := do
  let number ← ask .nextval
  let invoice := invoiceOf paymentId payment booking workspace number
  let saved ← ask (.insertInvoice invoice)
  failIf (¬ saved) "QueryFailedError"
  match user with
  | some user => invoiceReadyEmail cfg invoice user
  | none => pure ()
  return invoice

def generateForPayment (cfg : Config) (paymentId : Uuid) : Proc Invoice := do
  match ← ask (.findInvoice paymentId) with
  | some existing => return existing
  | none =>
    let payment ← okOr (← ask (.findPayment paymentId)) s!"Payment \"{paymentId}\" not found"
    let booking ← ask (.findBooking payment.bookingId)
    let user ← ask (.findUser (.ofNullable payment.userId))
    match booking with
    | some found =>
      let workspace ← ask (.findWorkspace found.workspaceId)
      issueInvoice cfg paymentId payment booking user workspace
    | none => issueInvoice cfg paymentId payment none user none

/-! ## Tasks -/

/-- What a webhook starts that may send an e-mail. -/
inductive Task where
  | paymentSuccess
  | paymentFailed
  | invoice
  deriving DecidableEq

def Task.program (cfg : Config) (paymentId : Uuid) (payment : Payment) : Task → Proc Unit
  | .paymentSuccess => paymentSuccessEmail cfg payment
  | .paymentFailed => paymentFailedEmail paymentId payment
  | .invoice => do
    let _ ← generateForPayment cfg paymentId

end PaymentMail
