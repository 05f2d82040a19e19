/-
  The operations on users (backend/src/users/providers and backend/src/auth/sso), as programs over
  queries, and the routes that lead to them.
-/
import NovaLabs.Users.Queries

namespace Users

open Lib Process
open Backend (Uuid Time UserRole MembershipStatus)

inductive HttpError where
  | badRequest (message : String)
  | forbidden (message : String)
  | notFound (message : String)
  | internalServerError (message : String)
  /-- Another error, with its message. -/
  | error (message : String)
  /-- A statement broke a constraint. -/
  | queryFailed

abbrev Proc (α : Type) := Process Answer HttpError α

def ask (q : Query) : Proc (Answer q) := Process.query q

/-- `ErrorCatch`: errors that are not for clients become internal ones. -/
def errorCatch {α : Type} (message : String) (x : Proc α) : Proc α := do
  match ← x.attempt with
  | .ok a => return a
  | .error .queryFailed | .error (.error _) =>
    throw (.internalServerError s!"{message}: Internal server error")
  | .error e => throw e

/-- `dataSource.transaction`. -/
def transaction {α : Type} (x : Proc α) : Proc α := do
  ask .begin
  match ← x.attempt with
  | .ok a => do
    ask .commit
    return a
  | .error e => do
    ask .rollback
    throw e

/-- A save of a held entity. -/
def saveUser (id : Uuid) (held : User) : Proc Unit := do
  match ← ask (.reloadUser id) with
  | some stored =>
    let columns := held.changed stored.1
    if columns ≠ [] then
      let saved ← ask (.updateUser id held columns)
      failIf (saved = false) .queryFailed
  | none => do
    let saved ← ask (.restoreUser id held)
    failIf (saved = false) .queryFailed

/-! ## UpdateUserProvider -/

/-- Who makes a request, as the access token says. -/
structure Actor where
  id : Uuid
  role : Option UserRole
  email : Option String

/-- The fields that `PATCH /api/users/:id` takes, and no others. -/
def updateFields : List Column :=
  [.firstname, .lastname, .username, .email, .password, .role, .verificationToken,
    .verificationTokenExpiry, .passwordResetToken, .passwordResetExpiresIn, .lastPasswordResetSentAt,
    .lastVerificationEmailSent, .isVerified, .isActive]

/-- Each field is left out, or is null, or has a value.  A role that is none of the enum is as bad as
    null. -/
structure UpdateUserDto where
  fields : ∀ c : Column, Option (Option c.Value)
  whitelisted : ∀ c, (fields c).isSome → c ∈ updateFields

def adminOnlyUpdateFields : List (Column × String) :=
  [(.role, "role"), (.isVerified, "isVerified"), (.isActive, "isActive"),
    (.verificationToken, "verificationToken"), (.verificationTokenExpiry, "verificationTokenExpiry"),
    (.passwordResetToken, "passwordResetToken"), (.passwordResetExpiresIn, "passwordResetExpiresIn"),
    (.lastPasswordResetSentAt, "lastPasswordResetSentAt"),
    (.lastVerificationEmailSent, "lastVerificationEmailSent")]

def canMutateUser (actor : Actor) (targetUserId : Uuid) : Bool :=
  actor.id = targetUserId ∨ isAdminLike actor.role

def findAdminOnlyFields (dto : UpdateUserDto) : List String :=
  (adminOnlyUpdateFields.filter fun field => (dto.fields field.1).isSome).map Prod.snd

/-- `Object.assign(user, updateData)`. -/
def User.assign (user : User) (fields : ∀ c : Column, Option (Option c.Value)) : User :=
  fun c => (fields c).getD (user c)

/-- The fields, with the password hashed. -/
def hashField (fields : ∀ c : Column, Option (Option c.Value)) :
    Proc (∀ c : Column, Option (Option c.Value)) := do
  match fields .password with
  | some (some plain) =>
    if plain ≠ "" then do
      let hash : String ← ask (.hashPassword plain)
      return Function.update fields .password (some (some hash))
    else return fields
  | _ => return fields

def updateUser (id : Uuid) (dto : UpdateUserDto) (actor : Actor) : Proc User :=
  errorCatch "Failed to update user" do
    let (_, ⟨user, _⟩) ← okOr (← ask (.findUser (.byId id))) (.notFound s!"User with ID {id} not found")
    failIf (∀ c ∈ updateFields, dto.fields c = none)
      (.badRequest "No fields provided for update")
    failIf (¬ canMutateUser actor id)
      (.forbidden "You do not have permission to update this user")
    let attemptedAdminFields := findAdminOnlyFields dto
    failIf (attemptedAdminFields ≠ [] ∧ ¬ isAdminLike actor.role) (.forbidden
      ("Field(s) not allowed for self-service updates: " ++ ", ".intercalate attemptedAdminFields))
    let fields ← hashField dto.fields
    let roleChangeRequested := (dto.fields .role).any (· ≠ user .role)
    failIf (roleChangeRequested ∧ actor.id = id)
      (.forbidden "You cannot change your own role; ask another administrator")
    if roleChangeRequested ∧ isAdminLike (user .role) ∧
        ¬ (dto.fields .role).any fun role => isAdminLike role then do
      let remainingAdmins : ℕ ← ask (.countAdmins id)
      failIf (remainingAdmins = 0) (.badRequest "Cannot demote the last active administrator")
    let assigned := user.assign fields
    saveUser id assigned
    if roleChangeRequested then
      ask (.createAudit
        { actorId := actor.id, actorEmail := actor.email, actorRole := actor.role
          action := "users.role_change", targetType := "user", targetId := id
          metadata := some (.roleChange (user .role) (assigned .role)) })
    return assigned

/-! ## UpdateMemberStatusProvider -/

/-- The entity, with a membership status. -/
def User.withStatus (user : User) (status : MembershipStatus) (now : Time) : User
  | .membershipStatus => some status
  | .isSuspended => some (status = .suspended)
  | .isActive => some (status ≠ .suspended)
  | .memberSince => if status = .active then user .memberSince <|> some now else user .memberSince
  | c => user c

def updateStatus (memberId : Uuid) (status : MembershipStatus) : Proc User := do
  let (_, ⟨user, _⟩) ← okOr (← ask (.findUser (.byId memberId)))
    (.notFound ("Member with id \"" ++ memberId ++ "\" not found"))
  let now : Time ← ask .now
  let held := user.withStatus status now
  saveUser memberId held
  return held

/-! ## DeleteUserProvider -/

def deleteUser (id : Uuid) (actor : Actor) : Proc Unit :=
  errorCatch "Failed to delete user" do
    failIf (¬ isAdminLike actor.role) (.forbidden "Only administrators can delete user accounts")
    let affected ← okOr (← ask (.deleteUser id)) .queryFailed
    failIf (affected = 0) (.notFound s!"User with ID {id} not found")
    ask (.createAudit
      { actorId := actor.id, actorEmail := actor.email, actorRole := actor.role
        action := "users.admin_delete", targetType := "user", targetId := id })

/-! ## SamlUserProvisioningService -/

structure SamlAssertionProfile where
  nameID : Option String
  email : Option String
  firstName : Option String
  lastName : Option String

/-- A new user of the staff, with the defaults of the other columns. -/
def newStaff (email firstname lastname password : String) : User
  | .email => some email
  | .firstname => some firstname
  | .lastname => some lastname
  | .password => some password
  | .role => some .staff
  | .isVerified | .isActive => some true
  | .isDeleted | .isSuspended | .twoFactorEnabled => some false
  | .membershipStatus => some .inactive
  | _ => none

/-- A user of the staff. -/
def User.asStaff (user : User) : User
  | .role => some .staff
  | c => user c

section
variable (cfg : Config)

/-- `name?.trim() || fallback`. -/
def trimmedOr (name : Option String) (fallback : String) : String :=
  match name.map cfg.trim with
  | some "" | none => fallback
  | some text => text

def unusablePasswordHash : Proc String := do
  let random : String ← ask .randomBytes
  return "$2b$10$" ++ String.ofList (random.toList.take 53)

/-- The user, and whether it is new. -/
def provision (profile : SamlAssertionProfile) : Proc (User × Bool) := do
  let email := cfg.toLowerCase (cfg.trim ((profile.email <|> profile.nameID).getD ""))
  failIf (email = "") (.error "SAML assertion missing email/nameID — cannot provision user")
  match ← ask (.findUser (.byEmail email)) with
  | none => do
    let password ← unusablePasswordHash
    let user := newStaff email (trimmedOr cfg profile.firstName "Staff")
      (trimmedOr cfg profile.lastName "") password
    let _ ← okOr (← ask (.insertUser user)) .queryFailed
    return (user, true)
  | some (id, ⟨user, _⟩) =>
    if user .role ≠ some .staff then do
      saveUser id user.asStaff
      return (user.asStaff, false)
    else return (user, false)

/-! ## AnonymiseUserProvider -/

/-- The entity that takes the place of the user. -/
def User.anonymised (id : Uuid) (user : User) (originalEmailHash : String) (now : Time) : User
  | .email => some s!"{originalEmailHash}@deleted.novalabs.internal"
  | .firstname => some ("deleted-user-" ++ (id.splitOn "-").headD "")
  | .lastname => some ""
  | .twoFactorEnabled | .isVerified | .isActive | .isSuspended => some false
  | .isDeleted => some true
  | .deletedAt => some now
  | .phone | .profilePicture | .password | .passwordResetToken | .passwordResetExpiresIn
  | .lastPasswordResetSentAt | .verificationToken | .verificationTokenExpiry
  | .lastVerificationEmailSent | .verificationCode | .verificationCodeExpiresAt | .passwordResetCode
  | .passwordResetCodeExpiresAt | .totpSecret | .totpBackupCodes | .passkeyCredentials => none
  | c => user c

def anonymise (userId : Uuid) (reason : Option String) : Proc Unit := do
  let (_, ⟨user, _⟩) ← okOr (← ask (.findUser (.byId userId)))
    (.notFound s!"User with ID {userId} not found")
  if user .isDeleted = some true then return
  let salt : String ← ask .randomBytes
  let originalEmailHash := cfg.sha256 ((user .email).getD "null" ++ "::" ++ salt)
  transaction do
    let anonymisedAtHint : Time ← ask .now
    ask (.createAudit
      { actorId := userId, actorEmail := user .email, actorRole := user .role
        action := "users.anonymise", targetType := "user", targetId := userId
        metadata := some (.anonymisation reason originalEmailHash anonymisedAtHint) })
    ask (.deleteTokens userId)
    ask (.deleteLogs userId)
    ask (.clearBookings userId)
    ask (.clearPayments userId)
    let now : Time ← ask .now
    saveUser userId (user.anonymised userId originalEmailHash now)
  ask (.deleteTokens userId)
  ask (.deleteLogs userId)

/-! ## Routes -/

/-- `RolesGuard`, for the lowest of the roles that a route asks for. -/
def rolesGuard (actor : Actor) (roles : List UserRole) : Proc Unit :=
  failIf (actor.role.all (· ∉ roles))
    (.forbidden "You do not have permission to perform this action")

inductive Request where
  | updateUser (id : Uuid) (dto : UpdateUserDto) (actor : Actor)
  | updateStatus (id : Uuid) (status : MembershipStatus) (actor : Actor)
  | deleteUser (id : Uuid) (actor : Actor)
  | provision (profile : SamlAssertionProfile)
  | anonymise (actor : Actor) (reason : Option String)

def program : Request → Proc Unit
  | .updateUser id dto actor => do
    let _ ← updateUser id dto actor
  | .updateStatus id status actor => do
    rolesGuard actor [.staff, .admin, .superAdmin]
    let _ ← updateStatus id status
  | .deleteUser id actor => do
    rolesGuard actor [.admin, .superAdmin]
    deleteUser id actor
  | .provision profile => do
    let _ ← provision cfg profile
  | .anonymise actor reason => anonymise cfg actor.id reason

def system : System Answer DbServer Request World HttpError Unit where
  program := program cfg
  exec := exec cfg

end

end Users
