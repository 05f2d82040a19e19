/-
  What the operations on users ask of the database, and how this is answered.

  A statement that breaks a constraint fails, and writes nothing.  A statement of a transaction sees
  what the transaction has written; the audit log is written on a connection of its own.
-/
import NovaLabs.Users.Entities
import NovaLabs.Backend.Queries

namespace Users

open Lib
open Backend (Uuid Time UserRole)

/-! ## Saved columns -/

/-- The columns in which a held entity differs from the stored row: those that a save writes. -/
def User.changed (held stored : User) : List Column := Column.all.filter fun c => held c ≠ stored c

/-- The row, with some columns of a held entity. -/
def User.set (user held : User) (columns : List Column) : User :=
  fun c => if c ∈ columns then held c else user c

/-! ## Queries -/

/-- Which users a search is about. -/
inductive UserWhere where
  | byId (id : Uuid)
  | byEmail (email : String)

/-- A search leaves out the rows with `deletedAt`. -/
def UserWhere.selects : UserWhere → Uuid → User → Bool
  | .byId id, id', user => id' = id ∧ user .deletedAt = none
  | .byEmail email, _, user => user .email = some email ∧ user .deletedAt = none

inductive Query where
  | begin
  | commit
  | rollback
  | now
  | randomBytes
  | hashPassword (plain : String)
  | findUser (which : UserWhere)
  /-- The read of a save. -/
  | reloadUser (id : Uuid)
  | insertUser (user : User)
  /-- A save of an entity that is not stored any more. -/
  | restoreUser (id : Uuid) (user : User)
  | updateUser (id : Uuid) (held : User) (columns : List Column)
  | deleteUser (id : Uuid)
  /-- The count of the other active administrators. -/
  | countAdmins (id : Uuid)
  | deleteTokens (userId : Uuid)
  | deleteLogs (userId : Uuid)
  | clearBookings (userId : Uuid)
  | clearPayments (userId : Uuid)
  | createAudit (log : AuditLog)

/-- An INSERT or an UPDATE of users, and a DELETE, answer with nothing, or with false, where they
    break a constraint; a DELETE answers with the number of rows. -/
@[reducible] def Answer : Query → Type
  | .now => Time
  | .randomBytes | .hashPassword _ => String
  | .findUser _ => Option (Uuid × StoredUser)
  | .reloadUser _ => Option StoredUser
  | .insertUser _ => Option Uuid
  | .restoreUser _ _ | .updateUser _ _ _ => Bool
  | .deleteUser _ => Option ℕ
  | .countAdmins _ => ℕ
  | .begin | .commit | .rollback | .deleteTokens _ | .deleteLogs _ | .clearBookings _
  | .clearPayments _ | .createAudit _ => Unit

/-- What the world adds to an answer: the time, the id of a new row, the row that a search finds, what
    is drawn at random, and whether other tables (invoices) refer to a user. -/
structure World where
  now : Time := 0
  id : Uuid := ""
  row : Option Uuid := none
  text : String := ""
  referenced : Bool := false

/-! ## Conditions -/

/-- A search for a user does not find the row. -/
def UserWhere.spares (which : UserWhere) : ∀ row, Cell row → Bool
  | .user id, some user => ¬ which.selects id user.1
  | _, _ => true

/-- The unique index on the e-mail admits the entity beside the row. -/
def admits (id : Uuid) (user : User) : ∀ row, Cell row → Bool
  | .user id', some user' => id' = id ∨ user'.1 .email ≠ user .email
  | _, _ => true

/-- The row does not keep the user from being deleted. -/
def sparesUser (id : Uuid) : ∀ row, Cell row → Bool
  | .log _, some log => log.userId ≠ id
  | .booking _, some booking => booking.userId ≠ some id
  | .payment _, some payment => payment.userId ≠ some id
  | _, _ => true

/-- What a row adds to the count of the active administrators other than the user. -/
def countsAsAdmin (id : Uuid) : ∀ row, Cell row → ℕ
  | .user id', some user => if id' ≠ id ∧ user.1.IsActiveAdmin then 1 else 0
  | _, _ => 0

namespace Database
variable (db : Database)

/-- A user that the search is about, if there is one. -/
def findUser (which : UserWhere) : Option Uuid → Option (Option (Uuid × StoredUser))
  | some id => (db.user id).bind fun user =>
      if which.selects id user.1 then some (some (id, user)) else none
  | none => if Storage.All db which.spares then some none else none

/-- The entity can be stored under the id: it meets the schema, and no other user has its e-mail. -/
def Accepts (id : Uuid) (user : User) : Prop := user.MeetsSchema ∧ Storage.All db (admits id user)

instance (id : Uuid) (user : User) : Decidable (db.Accepts id user) :=
  inferInstanceAs (Decidable (_ ∧ _))

def remainingAdmins (id : Uuid) : ℕ := Storage.total db (countsAsAdmin id)

end Database

/-! ## Rows that a statement changes -/

/-- The deletion of a user, and of the refresh tokens with it. -/
def userDeletion (id : Uuid) : ∀ row, Cell row → Option (Cell row)
  | .user id', some _ => if id' = id then some none else none
  | .token _, some token => if token.userId = id then some none else none
  | _, _ => none

def tokenDeletion (userId : Uuid) : ∀ row, Cell row → Option (Cell row)
  | .token _, some token => if token.userId = userId then some none else none
  | _, _ => none

def logDeletion (userId : Uuid) : ∀ row, Cell row → Option (Cell row)
  | .log _, some log => if log.userId = userId then some none else none
  | _, _ => none

def bookingClearing (userId : Uuid) : ∀ row, Cell row → Option (Cell row)
  | .booking _, some booking =>
    if booking.userId = some userId then some (some { booking with userId := none }) else none
  | _, _ => none

def paymentClearing (userId : Uuid) : ∀ row, Cell row → Option (Cell row)
  | .payment _, some payment =>
    if payment.userId = some userId then some (some { payment with userId := none }) else none
  | _, _ => none

abbrev DbServer := Server Cell

namespace DbServer
variable (s : DbServer) (t : ℕ)

/-- The committed rows. -/
abbrev db : Database := Server.stored s

abbrev view : Database := Server.view s t

/-- Store an entity under the id, if it can be. -/
def putUser (id : Uuid) (user : User) : Option (Bool × DbServer) :=
  if h : (s.view t).Accepts id user then
    (s.write t (Finmap.insert (.user id) (some ⟨user, h.1⟩) ∅)).map (true, ·)
  else some (false, s)

def insertUser (id : Uuid) (user : User) : Option (Option Uuid × DbServer) :=
  if (s.view t).user id = none then
    (s.putUser t id user).map fun (stored, s') => (if stored then some id else none, s')
  else none

/-- An INSERT with the id that the user had: where this is taken, it fails. -/
def restoreUser (id : Uuid) (user : User) : Option (Bool × DbServer) :=
  if (s.view t).user id = none then s.putUser t id user else some (false, s)

def updateUser (id : Uuid) (held : User) (columns : List Column) : Option (Bool × DbServer) :=
  match (s.view t).user id with
  | some user => s.putUser t id (user.1.set held columns)
  | none => some (true, s)

def deleteUser (referenced : Bool) (id : Uuid) : Option (Option ℕ × DbServer) :=
  if (s.view t).user id = none then some (some 0, s)
  else if referenced ∨ ¬ Storage.All (s.view t) (sparesUser id) then some (none, s)
  else (s.write t ((s.view t).changes (userDeletion id))).map (some 1, ·)

def change (f : ∀ row, Cell row → Option (Cell row)) : Option (Unit × DbServer) :=
  (s.write t ((s.view t).changes f)).map ((), ·)

/-- Whatever transaction is open, the row is committed at once. -/
def createAudit (id : Uuid) (log : AuditLog) : Option (Unit × DbServer) :=
  if s.db.record (.audit id) = none then
    some ((), { s with stored := Finmap.insert (.audit id) (some log) s.db })
  else none

end DbServer

/-- How a query of session `t` is answered, unless it has to wait. -/
def exec (cfg : Config) (t : ℕ) (w : World) (s : DbServer) :
    (q : Query) → Option (Answer q × DbServer)
  | .begin => (s.begin t).map ((), ·)
  | .commit => (s.commit t).map ((), ·)
  | .rollback => (s.rollback t).map ((), ·)
  | .now => some (w.now, s)
  | .randomBytes => some (w.text, s)
  | .hashPassword plain => some (cfg.bcrypt w.text plain, s)
  | .findUser which => ((s.view t).findUser which w.row).map (·, s)
  | .reloadUser id => some ((s.view t).user id, s)
  | .insertUser user => s.insertUser t w.id user
  | .restoreUser id user => s.restoreUser t id user
  | .updateUser id held columns => s.updateUser t id held columns
  | .deleteUser id => s.deleteUser t w.referenced id
  | .countAdmins id => some ((s.view t).remainingAdmins id, s)
  | .deleteTokens userId => s.change t (tokenDeletion userId)
  | .deleteLogs userId => s.change t (logDeletion userId)
  | .clearBookings userId => s.change t (bookingClearing userId)
  | .clearPayments userId => s.change t (paymentClearing userId)
  | .createAudit log => s.createAudit w.id log

end Users
