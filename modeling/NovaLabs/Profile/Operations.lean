/-
  What an account's data is shown as (backend/src/users: the users service and its controller).

  The user entity is an instance of a class, and its secret columns are excluded where it is
  serialized.  A copy of it without its password is a plain object.
-/
import NovaLabs.Lib.Alone
import NovaLabs.Lib.JsInstance
import NovaLabs.Lib.Searches
import NovaLabs.Users.Entities

namespace Profile

open Lib Process
open Backend (Uuid Time UserRole MembershipStatus)
open Users (Column StoredUser isAdminLike)

/-! ## Entities -/

/-- The classes of the rows that are read. -/
inductive Entity where
  | user
  | booking
  | payment
  | workspaceLog
  deriving DecidableEq

abbrev Data := JsInstance Entity

/-- A row of the users table. -/
structure User where
  columns : StoredUser
  createdAt : Time
  updatedAt : Time
  profileCompleteness : ℤ := 0
  hubId : Option Uuid := none

/-- A property of the user entity; its relations are not loaded. -/
inductive Property where
  | id
  | column (c : Column)
  | createdAt
  | updatedAt
  | profileCompleteness
  | hubId
  deriving DecidableEq

def columnName : Column → String
  | .firstname => "firstname"
  | .lastname => "lastname"
  | .username => "username"
  | .email => "email"
  | .password => "password"
  | .role => "role"
  | .passwordResetToken => "passwordResetToken"
  | .passwordResetExpiresIn => "passwordResetExpiresIn"
  | .lastPasswordResetSentAt => "lastPasswordResetSentAt"
  | .verificationToken => "verificationToken"
  | .verificationTokenExpiry => "verificationTokenExpiry"
  | .lastVerificationEmailSent => "lastVerificationEmailSent"
  | .verificationCode => "verificationCode"
  | .verificationCodeExpiresAt => "verificationCodeExpiresAt"
  | .passwordResetCode => "passwordResetCode"
  | .passwordResetCodeExpiresAt => "passwordResetCodeExpiresAt"
  | .isVerified => "isVerified"
  | .isActive => "isActive"
  | .isDeleted => "isDeleted"
  | .isSuspended => "isSuspended"
  | .profilePicture => "profilePicture"
  | .phone => "phone"
  | .twoFactorEnabled => "twoFactorEnabled"
  | .totpSecret => "totpSecret"
  | .totpBackupCodes => "totpBackupCodes"
  | .passkeyCredentials => "passkeyCredentials"
  | .membershipStatus => "membershipStatus"
  | .memberSince => "memberSince"
  | .deletedAt => "deletedAt"

namespace Property

def all : List Property :=
  [id, column .firstname, column .lastname, column .username, column .email, column .password,
    column .role, column .passwordResetToken, column .passwordResetExpiresIn,
    column .lastPasswordResetSentAt, column .verificationToken, column .verificationTokenExpiry,
    column .lastVerificationEmailSent, column .verificationCode, column .verificationCodeExpiresAt,
    column .passwordResetCode, column .passwordResetCodeExpiresAt, column .isVerified,
    column .isActive, column .isDeleted, column .isSuspended, column .profilePicture, column .phone,
    createdAt, updatedAt, column .twoFactorEnabled, column .totpSecret, column .totpBackupCodes,
    column .passkeyCredentials, column .membershipStatus, column .memberSince, profileCompleteness,
    column .deletedAt, hubId]

def name : Property → String
  | id => "id"
  | column c => columnName c
  | createdAt => "createdAt"
  | updatedAt => "updatedAt"
  | profileCompleteness => "profileCompleteness"
  | hubId => "hubId"

end Property

/-- The columns marked `@Exclude`. -/
def secretColumns : List Column :=
  [.password, .passwordResetToken, .passwordResetExpiresIn, .lastPasswordResetSentAt,
    .verificationToken, .verificationTokenExpiry, .lastVerificationEmailSent, .verificationCode,
    .verificationCodeExpiresAt, .passwordResetCode, .passwordResetCodeExpiresAt, .totpSecret,
    .totpBackupCodes, .passkeyCredentials]

/-- What the classes exclude. -/
def excluded : Entity → String → Bool
  | .user, key => key ∈ secretColumns.map columnName ∨ key = "refreshTokens"
  | .booking, _ | .payment, _ | .workspaceLog, _ => false

/-! ## The data of an entity -/

def roleText : UserRole → String
  | .superAdmin => "super_admin"
  | .admin => "admin"
  | .staff => "staff"
  | .user => "user"

def membershipText : MembershipStatus → String
  | .active => "active"
  | .inactive => "inactive"
  | .suspended => "suspended"

def credentialData (credential : Auth.PasskeyCredential) : Data :=
  .object none
    [("id", .string credential.id), ("publicKey", .string credential.publicKey),
      ("counter", .number credential.counter),
      ("transports", .array (credential.transports.map .string))]

def valueData : (c : Column) → c.Value → Data
  | .firstname, s | .lastname, s | .username, s | .email, s | .password, s
  | .passwordResetToken, s | .verificationToken, s | .verificationCode, s | .passwordResetCode, s
  | .profilePicture, s | .phone, s | .totpSecret, s => .string s
  | .passwordResetExpiresIn, time | .lastPasswordResetSentAt, time
  | .verificationTokenExpiry, time | .lastVerificationEmailSent, time
  | .verificationCodeExpiresAt, time | .passwordResetCodeExpiresAt, time | .memberSince, time
  | .deletedAt, time => .date time
  | .isVerified, b | .isActive, b | .isDeleted, b | .isSuspended, b
  | .twoFactorEnabled, b => .bool b
  | .role, role => .string (roleText role)
  | .totpBackupCodes, codes => .array (codes.map .string)
  | .passkeyCredentials, credentials => .array (credentials.map credentialData)
  | .membershipStatus, status => .string (membershipText status)

def columnData (c : Column) (value : Option c.Value) : Data := value.elim .null (valueData c)

def propertyData (id : Uuid) (user : User) : Property → Data
  | .id => .string id
  | .column c => columnData c (user.columns.1 c)
  | .createdAt => .date user.createdAt
  | .updatedAt => .date user.updatedAt
  | .profileCompleteness => .number user.profileCompleteness
  | .hubId => user.hubId.elim .null .string

def userFields (id : Uuid) (user : User) : List (String × Data) :=
  Property.all.map fun p => (p.name, propertyData id user p)

/-- The entity, as it is read. -/
def userEntity (id : Uuid) (user : User) : Data := .object (some .user) (userFields id user)

/-- `const { password, ...userWithoutPassword } = user`. -/
def userWithoutPassword (id : Uuid) (user : User) : Data :=
  .object none ((userFields id user).filter (·.1 ≠ "password"))

/-! ## Queries -/

/-- A row that is exported as it is, of a table whose rows refer to users. -/
structure OwnedRow where
  userId : Option Uuid
  fields : List (String × Data)

structure Database where
  users : Store Uuid User := ∅
  bookings : Store Uuid OwnedRow := ∅
  payments : Store Uuid OwnedRow := ∅
  workspaceLogs : Store Uuid OwnedRow := ∅

/-- A search leaves out users with `deletedAt`. -/
def Database.user (db : Database) (id : Uuid) : Option User :=
  (db.users.lookup id).filter fun user => user.columns.1 .deletedAt = none

inductive Query where
  | findUser (id : Uuid)
  | findBookings (userId : Uuid)
  | findPayments (userId : Uuid)
  | findWorkspaceLogs (userId : Uuid)

@[reducible] def Answer : Query → Type
  | .findUser _ => Option User
  | .findBookings _ | .findPayments _ | .findWorkspaceLogs _ => List OwnedRow

/-- The order in which rows are found. -/
abbrev World := List Uuid

/-- The rows of the user. -/
def findOwned (rows : Store Uuid OwnedRow) (userId : Uuid) (order : World) :
    Option (List OwnedRow) :=
  (rows.findMany (fun _ row => (Condition.equal userId).admits row.userId) order).map
    (·.map Prod.snd)

def exec (order : World) (db : Database) : (q : Query) → Option (Answer q × Database)
  | .findUser id => some (db.user id, db)
  | .findBookings userId => (findOwned db.bookings userId order).map (·, db)
  | .findPayments userId => (findOwned db.payments userId order).map (·, db)
  | .findWorkspaceLogs userId => (findOwned db.workspaceLogs userId order).map (·, db)

/-! ## Operations -/

inductive HttpError where
  | unauthorized (message : String)
  | notFound (message : String)
  deriving DecidableEq

abbrev Proc (α : Type) := Process Answer HttpError α

def ask (q : Query) : Proc (Answer q) := Process.query q

def findUserById (id : Uuid) : Proc User := do
  okOr (← ask (.findUser id)) (.unauthorized "Credentials are not valid")

/-- There always is a user where none is missing. -/
def findOnePublicById (id : Uuid) : Proc Data := do
  let user ← findUserById id
  return userWithoutPassword id user

/-- What the serializer makes of what a handler returns. -/
def serialize (response : Data) : Data := (response.toPlain excluded).stringify

/-- The body of `GET /users/:id`. -/
def findOne (id currentUserId : Uuid) (currentUserRole : Option UserRole) : Proc Data := do
  failIf (currentUserId ≠ id ∧ ¬ isAdminLike currentUserRole)
    (.notFound s!"User with ID {id} not found")
  let user ← findOnePublicById id
  return serialize
    (.object none [("message", .string "User retrieved successfully"), ("data", user)])

/-- The exported rows of a table. -/
def exported (cls : Entity) (rows : List OwnedRow) : Data :=
  (JsInstance.array (rows.map fun row => .object (some cls) row.fields)).stringify

/-- The files of the archive. -/
def exportUserData (userId : Uuid) : Proc (List (String × Data)) := do
  let user ← findUserById userId
  let bookings ← ask (.findBookings userId)
  let payments ← ask (.findPayments userId)
  let workspaceLogs ← ask (.findWorkspaceLogs userId)
  return [("user-profile.json", (userWithoutPassword userId user).stringify),
    ("bookings.json", exported .booking bookings),
    ("payments.json", exported .payment payments),
    ("check-ins.json", exported .workspaceLog workspaceLogs)]

end Profile
