/-
  What the authentication services ask of the database and of the libraries around them, and how this
  is answered.

  The services use no transactions: each statement is committed at once.
-/
import NovaLabs.Auth.Entities
import NovaLabs.Backend.Queries

namespace Auth

open Lib
open Backend (Uuid Time UserRole differing)

/-! ## Saved columns -/

/-- What a save of a user writes, by column. -/
structure UserChanges where
  password : Option String := none
  isVerified : Option Bool := none
  verificationCode : Option (Option String) := none
  verificationCodeExpiresAt : Option (Option Time) := none
  passwordResetCode : Option (Option String) := none
  passwordResetCodeExpiresAt : Option (Option Time) := none
  twoFactorEnabled : Option Bool := none
  totpSecret : Option (Option String) := none
  totpBackupCodes : Option (Option (List String)) := none
  passkeyCredentials : Option (Option (List PasskeyCredential)) := none
  deriving DecidableEq

/-- The columns that are undefined in a held entity: a save leaves them as they are stored. -/
structure Undefined where
  verificationCodeExpiresAt : Bool := false
  passwordResetCode : Bool := false
  passwordResetCodeExpiresAt : Bool := false

/-- A column that may be undefined. -/
def differingUnless {α : Type} [DecidableEq α] (undefined : Bool) (held stored : α) : Option α :=
  if undefined then none else differing held stored

def User.changes (held : User) (undefined : Undefined) (stored : User) : UserChanges where
  password := differing held.password stored.password
  isVerified := differing held.isVerified stored.isVerified
  verificationCode := differing held.verificationCode stored.verificationCode
  verificationCodeExpiresAt := differingUnless undefined.verificationCodeExpiresAt
    held.verificationCodeExpiresAt stored.verificationCodeExpiresAt
  passwordResetCode := differingUnless undefined.passwordResetCode
    held.passwordResetCode stored.passwordResetCode
  passwordResetCodeExpiresAt := differingUnless undefined.passwordResetCodeExpiresAt
    held.passwordResetCodeExpiresAt stored.passwordResetCodeExpiresAt
  twoFactorEnabled := differing held.twoFactorEnabled stored.twoFactorEnabled
  totpSecret := differing held.totpSecret stored.totpSecret
  totpBackupCodes := differing held.totpBackupCodes stored.totpBackupCodes
  passkeyCredentials := differing held.passkeyCredentials stored.passkeyCredentials

def User.set (user : User) (c : UserChanges) : User :=
  { user with
    password := c.password.getD user.password
    isVerified := c.isVerified.getD user.isVerified
    verificationCode := c.verificationCode.getD user.verificationCode
    verificationCodeExpiresAt := c.verificationCodeExpiresAt.getD user.verificationCodeExpiresAt
    passwordResetCode := c.passwordResetCode.getD user.passwordResetCode
    passwordResetCodeExpiresAt := c.passwordResetCodeExpiresAt.getD user.passwordResetCodeExpiresAt
    twoFactorEnabled := c.twoFactorEnabled.getD user.twoFactorEnabled
    totpSecret := c.totpSecret.getD user.totpSecret
    totpBackupCodes := c.totpBackupCodes.getD user.totpBackupCodes
    passkeyCredentials := c.passkeyCredentials.getD user.passkeyCredentials }

/-! ## Queries -/

/-- Which users a search is about. -/
inductive UserWhere where
  | byId (id : Uuid)
  | byEmail (email : String)
  | byResetCode (passwordResetCode : String)

def UserWhere.selects : UserWhere → Uuid → User → Bool
  | .byId id, id', _ => id' = id
  | .byEmail email, _, user => user.email = email
  | .byResetCode code, _, user => user.passwordResetCode = some code

inductive Mail where
  | verification (email code : String)
  | passwordReset (email code : String)
  | familyRevoked (email : String)

inductive Query where
  | now
  | random (bound : ℕ)
  | generateSecret
  | randomBytes
  | generateFamilyId
  | generateChallenge
  | hashPassword (plain : String)
  | passwordBreached (password : String)
  | sign (secret : Secret) (payload : JwtPayload) (expiresIn : ℤ)
  | verify (secret : Secret) (token : String)
  | verifyTotp (token secret : String)
  | verifyAuthentication (challenge : String) (credential : PasskeyCredential)
  | findUser (which : UserWhere)
  /-- The read of a save. -/
  | reloadUser (id : Uuid)
  | insertUser (user : User)
  | updateUser (id : Uuid) (changes : UserChanges)
  | findToken (token : String)
  | insertToken (row : RefreshToken)
  | consumeToken (id : Uuid)
  | revokeFamily (familyId : String)
  | auditFamilyRevoked (actorId familyId revokedTokenId : String)
  | findChallenge (key : String)
  | setChallenge (key challenge : String)
  | deleteChallenge (key : String)
  | send (mail : Mail)

/-- An insert answers with nothing where it breaks a unique index; a verification, where it fails. -/
@[reducible] def Answer : Query → Type
  | .now => Time
  | .random _ => ℕ
  | .generateSecret | .randomBytes | .generateFamilyId | .generateChallenge | .hashPassword _
  | .sign _ _ _ => String
  | .passwordBreached _ | .verifyTotp _ _ => Bool
  | .verify _ _ => Option JwtClaims
  | .verifyAuthentication _ _ => Option ℕ
  | .findUser _ => Option (Uuid × User)
  | .reloadUser _ => Option User
  | .insertUser _ => Option Uuid
  | .findToken _ => Option (Uuid × RefreshToken)
  | .insertToken _ => Option Uuid
  | .findChallenge _ => Option String
  | .updateUser _ _ | .consumeToken _ | .revokeFamily _ | .auditFamilyRevoked _ _ _
  | .setChallenge _ _ | .deleteChallenge _ | .send _ => Unit

/-- What the world adds to an answer: the time, the id of a new row, the row that a search finds, what
    is drawn at random, and the replies of services. -/
structure World where
  now : Time := 0
  id : Uuid := ""
  row : Option Uuid := none
  drawn : ℕ := 0
  text : String := ""
  breached : Bool := false
  counter : Option ℕ := none

/-! ## Searches and unique indexes -/

/-- A search for a user does not find the row. -/
def UserWhere.spares (which : UserWhere) : ∀ row, Record row → Bool
  | .user id, user => ¬ which.selects id user
  | .token _, _ | .challenge _, _ => true

/-- The row does not have the hash. -/
def sparesToken (token : String) : ∀ row, Record row → Bool
  | .token _, row => row.token ≠ token
  | .user _, _ | .challenge _, _ => true

/-- The unique indexes on `token` and on `familyId` with `version` admit a new row beside the row. -/
def admits (new : RefreshToken) : ∀ row, Record row → Bool
  | .token _, row => row.token ≠ new.token ∧
      ¬ (row.familyId = new.familyId ∧ row.version = new.version)
  | .user _, _ | .challenge _, _ => true

namespace Database
variable (db : Database)

/-- A user that the search is about, if there is one. -/
def findUser (which : UserWhere) : Option Uuid → Option (Option (Uuid × User))
  | some id => (db.user id).bind fun user =>
      if which.selects id user then some (some (id, user)) else none
  | none => if Storage.All db which.spares then some none else none

/-- The row with the hash, if there is one. -/
def findToken (token : String) : Option Uuid → Option (Option (Uuid × RefreshToken))
  | some id => (db.token id).bind fun row => if row.token = token then some (some (id, row)) else none
  | none => if Storage.All db (sparesToken token) then some none else none

def insertUser (id : Uuid) (user : User) : Option (Option Uuid × Database) :=
  if ¬ Storage.All db (UserWhere.byEmail user.email).spares then some (none, db)
  else if db.user id = none then some (some id, Finmap.insert (.user id) user db)
  else none

def insertToken (id : Uuid) (row : RefreshToken) : Option (Option Uuid × Database) :=
  if ¬ Storage.All db (admits row) then some (none, db)
  else if db.token id = none then some (some id, Finmap.insert (.token id) row db)
  else none

/-- An UPDATE. -/
def update (f : ∀ row, Record row → Option (Record row)) : Database := Storage.changes db f ∪ db

end Database

/-! ## Rows that a statement changes -/

def userSave (id : Uuid) (c : UserChanges) : ∀ row, Record row → Option (Record row)
  | .user id', user => if id' = id then some (user.set c) else none
  | .token _, _ | .challenge _, _ => none

/-- `UPDATE refresh_tokens SET consumedAt = ... WHERE id = ...`. -/
def tokenConsumption (id : Uuid) (now : Time) : ∀ row, Record row → Option (Record row)
  | .token id', row => if id' = id then some { row with consumedAt := some now } else none
  | .user _, _ | .challenge _, _ => none

/-- `UPDATE refresh_tokens SET revoked, consumedAt WHERE familyId = ... AND revoked = false`. -/
def familyRevocation (familyId : String) (now : Time) : ∀ row, Record row → Option (Record row)
  | .token _, row =>
    if row.familyId = familyId ∧ row.revoked = false then
      some { row with revoked := true, consumedAt := some now }
    else none
  | .user _, _ | .challenge _, _ => none

/-- How a query is answered. -/
def exec (cfg : Config) (w : World) (db : Database) : (q : Query) → Option (Answer q × Database)
  | .now => some (w.now, db)
  | .random bound => some (w.drawn % bound, db)
  | .generateSecret | .randomBytes | .generateFamilyId | .generateChallenge => some (w.text, db)
  | .hashPassword plain => some (cfg.bcrypt w.text plain, db)
  | .passwordBreached _ => some (w.breached, db)
  | .sign secret payload expiresIn => some (signAt cfg secret payload expiresIn w.now, db)
  | .verify secret token => some (verifyAt cfg secret token w.now, db)
  | .verifyTotp token secret => some (cfg.verifyTotp token secret w.now, db)
  | .verifyAuthentication _ _ => some (w.counter, db)
  | .findUser which => (db.findUser which w.row).map (·, db)
  | .reloadUser id => some (db.user id, db)
  | .insertUser user => db.insertUser w.id user
  | .updateUser id c => some ((), db.update (userSave id c))
  | .findToken token => (db.findToken token w.row).map (·, db)
  | .insertToken row => db.insertToken w.id row
  | .consumeToken id => some ((), db.update (tokenConsumption id w.now))
  | .revokeFamily familyId => some ((), db.update (familyRevocation familyId w.now))
  | .auditFamilyRevoked _ _ _ => some ((), db)
  | .findChallenge key => some (db.challenge key, db)
  | .setChallenge key challenge => some ((), Finmap.insert (.challenge key) challenge db)
  | .deleteChallenge key => some ((), Finmap.erase (.challenge key) db)
  | .send _ => some ((), db)

end Auth
