/-
  What members can read of the backend (backend/src: the find providers of bookings, payments,
  invoices and notifications, the member's dashboard, check-ins and the data export), as programs over
  queries, next to the writes of all other services.

  There are no transactions: each statement is committed at once.  The queries that `Promise.all`
  starts at the same time are requests of their own.
-/
import NovaLabs.Backend.Entities
import NovaLabs.Lib.Process
import NovaLabs.Lib.Searches

namespace MemberViews

open Lib Process
open Backend (Uuid Day Time BookingStatus PaymentStatus PaymentProvider UserRole)

/-! ## Entities -/

/-- Each row holds the columns that the queries look at or name, and `further` ones of any type. -/
structure User (X : Type) where
  firstname : String
  lastname : String
  email : String
  further : X

inductive WorkspaceType where
  | hotDesk
  | dedicatedDesk
  | privateOffice
  | meetingRoom
  | virtual
  | hybrid
  deriving DecidableEq

structure Workspace (X : Type) where
  name : String
  type : WorkspaceType
  further : X

structure Booking (X : Type) where
  userId : Option Uuid
  workspaceId : Uuid
  status : BookingStatus
  startDate : Day
  endDate : Day
  createdAt : Time
  further : X

structure Payment (X : Type) where
  bookingId : Uuid
  userId : Option Uuid
  amount : ℕ
  provider : PaymentProvider
  status : PaymentStatus
  createdAt : Time
  further : X

inductive InvoiceStatus where
  | pending
  | paid
  | void
  deriving DecidableEq

structure Invoice (X : Type) where
  userId : Uuid
  bookingId : Uuid
  status : InvoiceStatus
  createdAt : Time
  further : X

inductive NotificationType where
  | bookingConfirmed
  | bookingCancelled
  | bookingCompleted
  | paymentSuccess
  | paymentFailed
  | paymentRefunded
  | invoiceGenerated
  | general
  deriving DecidableEq

structure CreateNotificationInput (X : Type) where
  userId : Uuid
  type : NotificationType
  title : String
  message : String
  metadata : Option X

structure Notification (X : Type) extends CreateNotificationInput X where
  isRead : Bool
  createdAt : Time

structure WorkspaceLog (X : Type) where
  userId : Uuid
  workspaceId : Uuid
  checkedInAt : Time
  checkedOutAt : Option Time
  further : X

/-! ## Tables -/

inductive Table where
  | users
  | workspaces
  | bookings
  | payments
  | invoices
  | notifications
  | workspaceLogs
  deriving DecidableEq

@[reducible] def Table.Row (X : Type) : Table → Type
  | .users => User X
  | .workspaces => Workspace X
  | .bookings => Booking X
  | .payments => Payment X
  | .invoices => Invoice X
  | .notifications => Notification X
  | .workspaceLogs => WorkspaceLog X

abbrev Database (X : Type) := ∀ t : Table, Store Uuid (t.Row X)

variable {X : Type}

/-- The time by which lists are ordered. -/
def Table.time : (t : Table) → t.Row X → Time
  | .users, _ | .workspaces, _ => 0
  | .bookings, b => Booking.createdAt b
  | .payments, p => Payment.createdAt p
  | .invoices, i => Invoice.createdAt i
  | .notifications, n => Notification.createdAt n
  | .workspaceLogs, log => WorkspaceLog.checkedInAt log

/-- The relations of a row that a query may join. -/
inductive Relation where
  | user
  | workspace
  | booking
  deriving DecidableEq

def Table.link : (t : Table) → t.Row X → Relation → Option Uuid
  | .bookings, b, .user => Booking.userId b
  | .bookings, b, .workspace => some (Booking.workspaceId b)
  | .payments, p, .user => Payment.userId p
  | .payments, p, .booking => some (Payment.bookingId p)
  | _, _, _ => none

/-- A row with the rows that are joined to it. -/
structure Joined (X : Type) (t : Table) where
  id : Uuid
  row : t.Row X
  user : Option (Uuid × User X)
  workspace : Option (Uuid × Workspace X)
  booking : Option (Uuid × Booking X)

namespace Database
variable (db : Database X)

def entry (t : Table) (id : Uuid) : Option (Uuid × t.Row X) := ((db t).lookup id).map (id, ·)

/-- `LEFT JOIN` for the relations. -/
def join (t : Table) (relations : List Relation) (id : Uuid) (row : t.Row X) : Joined X t where
  id
  row
  user := if .user ∈ relations then (t.link row .user).bind (db.entry .users) else none
  workspace :=
    if .workspace ∈ relations then (t.link row .workspace).bind (db.entry .workspaces) else none
  booking := if .booking ∈ relations then (t.link row .booking).bind (db.entry .bookings) else none

def set (t : Table) (rows : Store Uuid (t.Row X)) : Database X := Function.update db t rows

/-- `UPDATE notifications SET isRead = true WHERE ...`. -/
def markRead (selects : Uuid → Notification X → Bool) : Database X :=
  db.set .notifications (Storage.changes (db .notifications) (fun id n =>
    if selects id n then some { n with isRead := true } else none) ∪ db .notifications)

end Database

/-- What is pushed to a client. -/
structure Push where
  id : Uuid
  type : NotificationType
  title : String
  message : String
  createdAt : Time
  deriving DecidableEq

structure Delivery where
  client : String
  userId : Uuid
  push : Push
  deriving DecidableEq

/-- The tables, the clients in the rooms of users, and what they have been sent. -/
structure Shared (X : Type) where
  db : Database X
  rooms : List (String × Uuid) := []
  delivered : List Delivery := []

/-! ## Queries -/

inductive Query (X : Type) where
  | count (t : Table) (selects : Uuid → t.Row X → Bool)
  /-- The newest first. -/
  | page (t : Table) (relations : List Relation) (selects : Uuid → t.Row X → Bool) (skip take : ℕ)
  | all (t : Table) (selects : Uuid → t.Row X → Bool)
  | one (t : Table) (relations : List Relation) (selects : Uuid → t.Row X → Bool)
  | sumAmount (selects : Uuid → Payment X → Bool)
  | insertNotification (input : CreateNotificationInput X)
  | markRead (id userId : Uuid)
  | markAllRead (userId : Uuid)
  | emit (userId : Uuid) (push : Push)
  | join (client : String) (userId : Uuid)
  | leave (client : String)
  /-- Other services insert, update and delete rows. -/
  | put (t : Table) (id : Uuid) (row : t.Row X)
  | erase (t : Table) (id : Uuid)

@[reducible] def Answer : Query X → Type
  | .count _ _ | .sumAmount _ => ℕ
  | .page t _ _ _ _ => List (Joined X t)
  | .all t _ => List (Uuid × t.Row X)
  | .one t _ _ => Option (Joined X t)
  | .insertNotification _ => Uuid × Notification X
  | _ => Unit

/-- What the world adds to an answer: the order of rows, a choice among them, and what the database
    generates. -/
structure World where
  rows : List Uuid := []
  row : Option Uuid := none
  id : Uuid := ""
  now : Time := 0

namespace Shared
variable (s : Shared X)

def setDb (db : Database X) : Shared X := { s with db }

/-- Each client in the room is sent the push. -/
def emit (userId : Uuid) (push : Push) : Shared X :=
  { s with
    delivered := s.delivered ++
      (s.rooms.filter fun r => r.2 = userId).map fun r => ⟨r.1, userId, push⟩ }

end Shared

/-- How a query is answered. -/
def exec (w : World) (s : Shared X) : (q : Query X) → Option (Answer q × Shared X)
  | .count t selects => some ((s.db t).count selects, s)
  | .page t relations selects skip take =>
    ((s.db t).findMany selects w.rows).bind fun found =>
      if found.Pairwise fun a b => t.time b.2 ≤ t.time a.2 then
        some (((found.drop skip).take take).map fun e => s.db.join t relations e.1 e.2, s)
      else none
  | .all t selects => ((s.db t).findMany selects w.rows).map (·, s)
  | .one t relations selects => ((s.db t).findOne selects w.row).map fun found =>
      (found.map fun e => s.db.join t relations e.1 e.2, s)
  | .sumAmount selects =>
    some ((s.db .payments).total fun id p => if selects id p then p.amount else 0, s)
  | .insertNotification input =>
    if (s.db .notifications).lookup w.id = none then
      let row : Notification X := { input with isRead := false, createdAt := w.now }
      some ((w.id, row), s.setDb (s.db.set .notifications ((s.db .notifications).insert w.id row)))
    else none
  | .markRead id userId => some ((), s.setDb (s.db.markRead fun id' n =>
      id' = id ∧ n.userId = userId))
  | .markAllRead userId => some ((), s.setDb (s.db.markRead fun _ n =>
      n.userId = userId ∧ n.isRead = false))
  | .emit userId push => some ((), s.emit userId push)
  | .join client userId => some ((), { s with rooms := s.rooms ++ [(client, userId)] })
  | .leave client => some ((), { s with rooms := s.rooms.filter fun r => r.1 ≠ client })
  | .put t id row => some ((), s.setDb (s.db.set t ((s.db t).insert id row)))
  | .erase t id => some ((), s.setDb (s.db.set t ((s.db t).erase id)))

/-! ## Operations -/

inductive HttpError where
  | notFound (message : String)
  | unauthorized (message : String)
  deriving DecidableEq

abbrev Proc (X α : Type) := @Process (Query X) Answer HttpError α

def ask (q : Query X) : Proc X (Answer q) := Process.query q

/-- Staff see all rows, other users only their own. -/
def isAdmin (role : UserRole) : Bool := role = .admin ∨ role = .superAdmin ∨ role = .staff

/-- `Math.ceil(total / limit)`. -/
def totalPages (total limit : ℕ) : ℕ := (total + limit - 1) / limit

/-! ### Bookings -/

structure BookingQuery where
  page : ℕ := 1
  limit : ℕ := 20
  status : Option BookingStatus := none
  workspaceId : Option Uuid := none
  userId : Option Uuid := none
  startDate : Option Day := none
  endDate : Option Day := none

/-- A booking with the columns that the list shows of its workspace and its user. -/
structure BookingItem (X : Type) where
  id : Uuid
  booking : Booking X
  workspace : Option (Uuid × String × WorkspaceType)
  user : Option (Uuid × String × String × String)

def BookingItem.of (b : Joined X .bookings) : BookingItem X where
  id := b.id
  booking := b.row
  workspace := b.workspace.map fun w => (w.1, w.2.name, w.2.type)
  user := b.user.map fun u => (u.1, u.2.firstname, u.2.lastname, u.2.email)

structure PaginatedBookings (X : Type) where
  data : List (BookingItem X)
  total : ℕ
  page : ℕ
  limit : ℕ
  totalPages : ℕ

def BookingQuery.selects (query : BookingQuery) (userId : Uuid) (role : UserRole)
    (booking : Booking X) : Bool :=
  (if ¬ isAdmin role then decide (booking.userId = some userId)
    else query.userId.all (booking.userId = some ·)) ∧
  query.status.all (booking.status = ·) ∧ query.workspaceId.all (booking.workspaceId = ·) ∧
  query.startDate.all (· ≤ booking.startDate) ∧ query.endDate.all (booking.endDate ≤ ·)

/-- `FindBookingsProvider.findAll`. -/
def findBookings (query : BookingQuery) (userId : Uuid) (role : UserRole) :
    Proc X (PaginatedBookings X) := do
  let selects : Uuid → Booking X → Bool := fun _ => query.selects userId role
  let total ← ask (.count .bookings selects)
  let data ← ask (.page .bookings [.workspace, .user] selects ((query.page - 1) * query.limit)
    query.limit)
  return { data := data.map BookingItem.of, total, page := query.page, limit := query.limit
           totalPages := totalPages total query.limit }

/-- `FindBookingsProvider.findById`: the row is read whoever owns it. -/
def findBooking (bookingId userId : Uuid) (role : UserRole) : Proc X (Joined X .bookings) := do
  let booking ← okOr (← ask (.one .bookings [.workspace, .user] fun id _ => id = bookingId))
    (.notFound s!"Booking \"{bookingId}\" not found")
  failIf (¬ isAdmin role ∧ booking.row.userId ≠ some userId)
    (.notFound s!"Booking \"{bookingId}\" not found")
  return booking

/-! ### Payments -/

structure PaymentQuery where
  page : Option ℕ := none
  limit : Option ℕ := none
  bookingId : Option Uuid := none
  status : Option PaymentStatus := none
  provider : Option PaymentProvider := none
  from_ : Option Time := none
  to_ : Option Time := none

/-- A page of a list, with the number of all rows of the list. -/
structure Page (A : Type) where
  data : List A
  total : ℕ
  page : ℕ
  limit : ℕ

def PaymentQuery.selects (query : PaymentQuery) (userId : Uuid) (role : UserRole)
    (payment : Payment X) : Bool :=
  (¬ isAdmin role → payment.userId = some userId) ∧
  query.bookingId.all (payment.bookingId = ·) ∧ query.status.all (payment.status = ·) ∧
  query.provider.all (payment.provider = ·) ∧ query.from_.all (· ≤ payment.createdAt) ∧
  query.to_.all (payment.createdAt ≤ ·)

/-- `FindPaymentsProvider.findAll`. -/
def findPayments (query : PaymentQuery) (userId : Uuid) (role : UserRole) :
    Proc X (Page (Joined X .payments)) := do
  let page := query.page.getD 1
  let limit := min (query.limit.getD 20) 100
  let selects : Uuid → Payment X → Bool := fun _ => query.selects userId role
  let data ← ask (.page .payments [.user, .booking] selects ((page - 1) * limit) limit)
  let total ← ask (.count .payments selects)
  return { data, total, page, limit }

/-- `PaymentsService.findById`. -/
def findPayment (paymentId userId : Uuid) (role : UserRole) : Proc X (Joined X .payments) := do
  let payment ← ask (.one .payments [] fun id payment =>
    id = paymentId ∧ (¬ isAdmin role → payment.userId = some userId))
  okOr payment (.notFound s!"Payment \"{paymentId}\" not found")

/-! ### Invoices -/

structure InvoiceQuery where
  page : Option ℕ := none
  limit : Option ℕ := none
  status : Option InvoiceStatus := none
  bookingId : Option Uuid := none

def InvoiceQuery.selects (query : InvoiceQuery) (userId : Uuid) (role : UserRole)
    (invoice : Invoice X) : Bool :=
  (¬ isAdmin role → invoice.userId = userId) ∧ query.status.all (invoice.status = ·) ∧
  query.bookingId.all (invoice.bookingId = ·)

/-- `FindInvoicesProvider.findAll`. -/
def findInvoices (query : InvoiceQuery) (userId : Uuid) (role : UserRole) :
    Proc X (Page (Joined X .invoices)) := do
  let page := query.page.getD 1
  let limit := min (query.limit.getD 20) 100
  let selects : Uuid → Invoice X → Bool := fun _ => query.selects userId role
  let data ← ask (.page .invoices [] selects ((page - 1) * limit) limit)
  let total ← ask (.count .invoices selects)
  return { data, total, page, limit }

/-- `FindInvoicesProvider.findById`. -/
def findInvoice (invoiceId userId : Uuid) (role : UserRole) : Proc X (Joined X .invoices) := do
  let invoice ← ask (.one .invoices [] fun id invoice =>
    id = invoiceId ∧ (¬ isAdmin role → invoice.userId = userId))
  okOr invoice (.notFound s!"Invoice \"{invoiceId}\" not found")

/-! ### Notifications -/

structure NotificationQuery where
  page : Option ℕ := none
  limit : Option ℕ := none
  isRead : Option Bool := none

/-- `FindNotificationsProvider.findAll`: the list, and the number of unread notifications. -/
def findNotifications (userId : Uuid) (query : NotificationQuery) :
    Proc X (Page (Joined X .notifications) × ℕ) := do
  let page := query.page.getD 1
  let limit := min (query.limit.getD 20) 100
  let selects : Uuid → Notification X → Bool := fun _ n =>
    n.userId = userId ∧ query.isRead.all (n.isRead = ·)
  let data ← ask (.page .notifications [] selects ((page - 1) * limit) limit)
  let total ← ask (.count .notifications selects)
  let unreadCount ← ask (.count .notifications fun _ n => n.userId = userId ∧ n.isRead = false)
  return ({ data, total, page, limit }, unreadCount)

/-- `CreateNotificationProvider.create`. -/
def createNotification (input : CreateNotificationInput X) : Proc X (Uuid × Notification X) := do
  let (id, saved) ← ask (.insertNotification input)
  ask (.emit input.userId ⟨id, saved.type, saved.title, saved.message, saved.createdAt⟩)
  return (id, saved)

/-! ### The dashboard of a member, check-ins and the data export -/

/-- The first number of `getMemberStats`. -/
def countActiveBookings (userId : Uuid) : Proc X ℕ :=
  ask (.count .bookings fun _ b =>
    b.userId = some userId ∧ (b.status = .confirmed ∨ b.status = .pending))

def sumSpent (userId : Uuid) : Proc X ℕ :=
  ask (.sumAmount fun _ p => p.userId = some userId ∧ p.status = .success)

def countInvoices (userId : Uuid) : Proc X ℕ :=
  ask (.count .invoices fun _ i => i.userId = userId)

def lastCheckIn (userId : Uuid) : Proc X (Option Time) := do
  let logs ← ask (.page .workspaceLogs [] (fun _ log => log.userId = userId) 0 1)
  return logs.head?.map fun log => log.row.checkedInAt

/-- A page of the rows of one table that are the member's. -/
def memberPage (t : Table) (mine : t.Row X → Bool) (page limit : ℕ) :
    Proc X (Page (Joined X t) × ℕ) := do
  let data ← ask (.page t [] (fun _ => mine) ((page - 1) * limit) limit)
  let total ← ask (.count t fun _ => mine)
  return ({ data, total, page, limit }, totalPages total limit)

def getMemberBookings (userId : Uuid) : ℕ → ℕ → Proc X (Page (Joined X .bookings) × ℕ) :=
  memberPage .bookings fun b => b.userId = some userId

def getMemberPayments (userId : Uuid) : ℕ → ℕ → Proc X (Page (Joined X .payments) × ℕ) :=
  memberPage .payments fun p => p.userId = some userId

def getMemberInvoices (userId : Uuid) : ℕ → ℕ → Proc X (Page (Joined X .invoices) × ℕ) :=
  memberPage .invoices fun i => i.userId = userId

def getMemberCheckIns (userId : Uuid) (limit : ℕ) : Proc X (List (Joined X .workspaceLogs)) :=
  ask (.page .workspaceLogs [] (fun _ log => log.userId = userId) 0 limit)

/-- `CheckInProvider.getActiveCheckIn`. -/
def getActiveCheckIn (userId : Uuid) (workspaceId : Option Uuid) :
    Proc X (Option (Joined X .workspaceLogs)) :=
  ask (.one .workspaceLogs [] fun _ log => log.userId = userId ∧ log.checkedOutAt = none ∧
    workspaceId.all (log.workspaceId = ·))

structure ExportedData (X : Type) where
  profile : Joined X .users
  bookings : List (Uuid × Booking X)
  payments : List (Uuid × Payment X)
  checkIns : List (Uuid × WorkspaceLog X)

/-- `UsersService.exportUserData`. -/
def exportUserData (userId : Uuid) : Proc X (ExportedData X) := do
  let profile ← okOr (← ask (.one .users [] fun id _ => id = userId))
    (.unauthorized "Credentials are not valid")
  let bookings ← ask (.all .bookings fun _ b => b.userId = some userId)
  let payments ← ask (.all .payments fun _ p => p.userId = some userId)
  let checkIns ← ask (.all .workspaceLogs fun _ log => log.userId = userId)
  return { profile, bookings, payments, checkIns }

/-! ## Requests -/

/-- What a member asks for, and what the services do. -/
inductive Request (X : Type) where
  | findBookings (query : BookingQuery) (userId : Uuid) (role : UserRole)
  | findBooking (bookingId userId : Uuid) (role : UserRole)
  | findPayments (query : PaymentQuery) (userId : Uuid) (role : UserRole)
  | findPayment (paymentId userId : Uuid) (role : UserRole)
  | findInvoices (query : InvoiceQuery) (userId : Uuid) (role : UserRole)
  | findInvoice (invoiceId userId : Uuid) (role : UserRole)
  | findNotifications (userId : Uuid) (query : NotificationQuery)
  | markRead (notificationId userId : Uuid)
  | markAllRead (userId : Uuid)
  | countActiveBookings (userId : Uuid)
  | sumSpent (userId : Uuid)
  | countInvoices (userId : Uuid)
  | lastCheckIn (userId : Uuid)
  | getMemberBookings (userId : Uuid) (page limit : ℕ)
  | getMemberPayments (userId : Uuid) (page limit : ℕ)
  | getMemberInvoices (userId : Uuid) (page limit : ℕ)
  | getMemberCheckIns (userId : Uuid) (limit : ℕ)
  | getActiveCheckIn (userId : Uuid) (workspaceId : Option Uuid)
  | exportUserData (userId : Uuid)
  | createNotification (input : CreateNotificationInput X)
  /-- `NotificationsGateway` has let a client of the user in. -/
  | connect (client : String) (userId : Uuid)
  | disconnect (client : String)
  | put (t : Table) (id : Uuid) (row : t.Row X)
  | erase (t : Table) (id : Uuid)

inductive Response (X : Type) where
  | bookings (bookings : PaginatedBookings X)
  | booking (booking : Joined X .bookings)
  | page (t : Table) (page : Page (Joined X t)) (further : ℕ)
  | row (t : Table) (row : Option (Joined X t))
  | rows (t : Table) (rows : List (Joined X t))
  | number (n : ℕ)
  | time (time : Option Time)
  | data (data : ExportedData X)
  | notification (id : Uuid) (notification : Notification X)
  | done

def program : Request X → Proc X (Response X)
  | .findBookings query userId role => .bookings <$> findBookings query userId role
  | .findBooking bookingId userId role => .booking <$> findBooking bookingId userId role
  | .findPayments query userId role => (.page _ · 0) <$> findPayments query userId role
  | .findPayment paymentId userId role => (.row _ <| some ·) <$> findPayment paymentId userId role
  | .findInvoices query userId role => (.page _ · 0) <$> findInvoices query userId role
  | .findInvoice invoiceId userId role => (.row _ <| some ·) <$> findInvoice invoiceId userId role
  | .findNotifications userId query =>
    (fun r => .page _ r.1 r.2) <$> findNotifications userId query
  | .markRead notificationId userId => (fun _ => .done) <$> ask (.markRead notificationId userId)
  | .markAllRead userId => (fun _ => .done) <$> ask (.markAllRead userId)
  | .countActiveBookings userId => .number <$> countActiveBookings userId
  | .sumSpent userId => .number <$> sumSpent userId
  | .countInvoices userId => .number <$> countInvoices userId
  | .lastCheckIn userId => .time <$> lastCheckIn userId
  | .getMemberBookings userId page limit =>
    (fun r => .page _ r.1 r.2) <$> getMemberBookings userId page limit
  | .getMemberPayments userId page limit =>
    (fun r => .page _ r.1 r.2) <$> getMemberPayments userId page limit
  | .getMemberInvoices userId page limit =>
    (fun r => .page _ r.1 r.2) <$> getMemberInvoices userId page limit
  | .getMemberCheckIns userId limit => .rows _ <$> getMemberCheckIns userId limit
  | .getActiveCheckIn userId workspaceId => .row _ <$> getActiveCheckIn userId workspaceId
  | .exportUserData userId => .data <$> exportUserData userId
  | .createNotification input =>
    (fun r => .notification r.1 r.2) <$> createNotification input
  | .connect client userId => (fun _ => .done) <$> ask (.join client userId)
  | .disconnect client => (fun _ => .done) <$> ask (.leave client)
  | .put t id row => (fun _ => .done) <$> ask (.put t id row)
  | .erase t id => (fun _ => .done) <$> ask (.erase t id)

/-- The services, over any number of sessions. -/
def services : @System (Query X) Answer (Shared X) (Request X) World HttpError (Response X) where
  program
  exec _ := exec

end MemberViews
