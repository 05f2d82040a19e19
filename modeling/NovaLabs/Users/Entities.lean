/-
  The users table (backend/src: the user entity and the baseline migration) and the rows that refer
  to users.

  An entity has a value or null in each column.  A stored row meets the schema: the columns that the
  migration declares NOT NULL are set.
-/
import NovaLabs.Auth.Entities

namespace Users

open Lib
open Backend (Uuid Time UserRole MembershipStatus)

/-! ## Columns -/

inductive Column where
  | firstname
  | lastname
  | username
  | email
  | password
  | role
  | passwordResetToken
  | passwordResetExpiresIn
  | lastPasswordResetSentAt
  | verificationToken
  | verificationTokenExpiry
  | lastVerificationEmailSent
  | verificationCode
  | verificationCodeExpiresAt
  | passwordResetCode
  | passwordResetCodeExpiresAt
  | isVerified
  | isActive
  | isDeleted
  | isSuspended
  | profilePicture
  | phone
  | twoFactorEnabled
  | totpSecret
  | totpBackupCodes
  | passkeyCredentials
  | membershipStatus
  | memberSince
  | deletedAt
  deriving DecidableEq

namespace Column

@[reducible] def Value : Column → Type
  | firstname | lastname | username | email | password | passwordResetToken | verificationToken
  | verificationCode | passwordResetCode | profilePicture | phone | totpSecret => String
  | passwordResetExpiresIn | lastPasswordResetSentAt | verificationTokenExpiry
  | lastVerificationEmailSent | verificationCodeExpiresAt | passwordResetCodeExpiresAt | memberSince
  | deletedAt => Time
  | isVerified | isActive | isDeleted | isSuspended | twoFactorEnabled => Bool
  | role => UserRole
  | totpBackupCodes => List String
  | passkeyCredentials => List Auth.PasskeyCredential
  | membershipStatus => MembershipStatus

instance : ∀ c : Column, DecidableEq c.Value
  | firstname | lastname | username | email | password | passwordResetToken | verificationToken
  | verificationCode | passwordResetCode | profilePicture | phone | totpSecret =>
    inferInstanceAs (DecidableEq String)
  | passwordResetExpiresIn | lastPasswordResetSentAt | verificationTokenExpiry
  | lastVerificationEmailSent | verificationCodeExpiresAt | passwordResetCodeExpiresAt | memberSince
  | deletedAt => inferInstanceAs (DecidableEq ℤ)
  | isVerified | isActive | isDeleted | isSuspended | twoFactorEnabled =>
    inferInstanceAs (DecidableEq Bool)
  | role => inferInstanceAs (DecidableEq UserRole)
  | totpBackupCodes => inferInstanceAs (DecidableEq (List String))
  | passkeyCredentials => inferInstanceAs (DecidableEq (List Auth.PasskeyCredential))
  | membershipStatus => inferInstanceAs (DecidableEq MembershipStatus)

/-- The columns of the table. -/
def all : List Column :=
  [firstname, lastname, username, email, password, role, passwordResetToken, passwordResetExpiresIn,
    lastPasswordResetSentAt, verificationToken, verificationTokenExpiry, lastVerificationEmailSent,
    verificationCode, verificationCodeExpiresAt, passwordResetCode, passwordResetCodeExpiresAt,
    isVerified, isActive, isDeleted, isSuspended, profilePicture, phone, twoFactorEnabled, totpSecret,
    totpBackupCodes, passkeyCredentials, membershipStatus, memberSince, deletedAt]

/-- The columns that are NOT NULL in `CREATE TABLE "users"`. -/
def notNull : List Column :=
  [firstname, lastname, email, password, role, isVerified, isActive, isDeleted, isSuspended,
    twoFactorEnabled, membershipStatus]

theorem mem_all (c : Column) : c ∈ all := by cases c <;> decide

end Column

/-! ## Rows -/

/-- An entity, by column; null is `none`. -/
abbrev User := ∀ c : Column, Option c.Value

def User.MeetsSchema (user : User) : Prop := ∀ c ∈ Column.notNull, (user c).isSome

instance (user : User) : Decidable user.MeetsSchema :=
  inferInstanceAs (Decidable (∀ c ∈ Column.notNull, _))

/-- A row of the table. -/
abbrev StoredUser := {user : User // user.MeetsSchema}

structure WorkspaceLog where
  userId : Uuid
  workspaceId : Uuid
  deriving DecidableEq

inductive AuditMetadata where
  | anonymisation (reason : Option String) (originalEmailHash : String) (anonymisedAtHint : Time)
  | roleChange (previousRole newRole : Option UserRole)
  deriving DecidableEq

structure AuditLog where
  actorId : Uuid
  actorEmail : Option String
  actorRole : Option UserRole
  action : String
  targetType : String
  targetId : Uuid
  metadata : Option AuditMetadata := none
  deriving DecidableEq

/-- A row, by its table and its id. -/
inductive Row where
  | user (id : Uuid)
  | token (id : Uuid)
  | log (id : Uuid)
  | booking (id : Uuid)
  | payment (id : Uuid)
  | audit (id : Uuid)
  deriving DecidableEq

@[reducible] def Record : Row → Type
  | .user _ => StoredUser
  | .token _ => Auth.RefreshToken
  | .log _ => WorkspaceLog
  | .booking _ => Backend.Booking
  | .payment _ => Backend.Payment
  | .audit _ => AuditLog

/-- What is stored under a row's id: the row, or nothing once it is deleted. -/
abbrev Cell (row : Row) := Option (Record row)

abbrev Database := Storage Cell

namespace Database
variable (db : Database)

def record (row : Row) : Option (Record row) := (db.lookup row).join

def user (id : Uuid) : Option StoredUser := db.record (.user id)

end Database

/-! ## Administrators -/

def isAdminLike (role : Option UserRole) : Bool := role = some .admin ∨ role = some .superAdmin

/-- What the count of administrators asks of a row; a search leaves out rows with `deletedAt`. -/
def User.IsActiveAdmin (user : User) : Prop :=
  user .isActive = some true ∧ user .isDeleted = some false ∧ isAdminLike (user .role) ∧
    user .deletedAt = none

instance (user : User) : Decidable user.IsActiveAdmin := inferInstanceAs (Decidable (_ ∧ _))

/-- An administrator that is active and not deleted is stored. -/
def Database.HasAdmin (db : Database) : Prop :=
  ∃ id user, db.user id = some user ∧ user.1.IsActiveAdmin

/-- What the environment configures, and what the libraries compute. -/
structure Config where
  /-- The SHA-256, in hexadecimal. -/
  sha256 : String → String
  /-- `bcrypt.hash`, by the salt. -/
  bcrypt : String → String → String
  trim : String → String
  toLowerCase : String → String

/-- Texts stay as they are. -/
def plainConfig : Config where
  sha256 text := text
  bcrypt _ plain := plain
  trim text := text
  toLowerCase text := text

end Users
