/-
  The rows of the authentication services (backend/src: the users and refresh_tokens entities), and
  the tokens that these services sign.

  Times are in milliseconds; those in tokens, in seconds.
-/
import NovaLabs.Backend.Entities

namespace Auth

open Lib
open Backend (Uuid Time UserRole)

/-! ## Rows -/

structure PasskeyCredential where
  id : String
  publicKey : String
  counter : ℕ
  transports : List String := []
  deriving DecidableEq

/-- `password` and the backup codes are hashes. -/
structure User where
  email : String
  firstname : String
  lastname : String
  password : String
  role : UserRole := .user
  hubId : Option Uuid := none
  isVerified : Bool := false
  verificationCode : Option String := none
  verificationCodeExpiresAt : Option Time := none
  passwordResetCode : Option String := none
  passwordResetCodeExpiresAt : Option Time := none
  twoFactorEnabled : Bool := false
  totpSecret : Option String := none
  totpBackupCodes : Option (List String) := none
  passkeyCredentials : Option (List PasskeyCredential) := none
  deriving DecidableEq

/-- `token` is the hash of the token that the client has. -/
structure RefreshToken where
  userId : Uuid
  token : String
  familyId : String
  version : ℕ
  expiresAt : Option Time
  revoked : Bool := false
  consumedAt : Option Time := none
  deriving DecidableEq

/-- A row, by its table and its id, or an entry of the challenge store of passkeys, by its key. -/
inductive Row where
  | user (id : Uuid)
  | token (id : Uuid)
  | challenge (key : String)
  deriving DecidableEq

@[reducible] def Record : Row → Type
  | .user _ => User
  | .token _ => RefreshToken
  | .challenge _ => String

abbrev Database := Storage Record

namespace Database
variable (db : Database) (id : Uuid)

def user : Option User := db.lookup (.user id)
def token : Option RefreshToken := db.lookup (.token id)
def challenge (key : String) : Option String := db.lookup (.challenge key)

end Database

/-! ## Signed tokens -/

/-- The secrets `JWT_SECRET` and `JWT_REFRESH_SECRET`. -/
inductive Secret where
  | access
  | refresh
  deriving DecidableEq

structure JwtPayload where
  sub : Uuid
  email : Option String := none
  fullName : Option String := none
  role : Option UserRole := none
  hubId : Option Uuid := none
  type : Option String := none
  iss : Option String := none
  aud : Option String := none
  deriving DecidableEq

/-- A payload, with the second when it was signed and that of its expiry. -/
structure JwtClaims extends JwtPayload where
  iat : ℤ
  exp : ℤ
  deriving DecidableEq

/-- What the environment configures, and what the runtime and the libraries compute. -/
structure Config where
  /-- HS256. -/
  sign : Secret → JwtClaims → String
  /-- The claims of a token whose signature is valid. -/
  decode : Secret → String → Option JwtClaims
  /-- The SHA-256 of a token, in hexadecimal. -/
  hashRefreshToken : String → String
  /-- `bcrypt.hash`, by the salt. -/
  bcrypt : String → String → String
  /-- `bcrypt.compare`, of a plain text and a hash. -/
  compare : String → String → Bool
  /-- Whether a TOTP code is valid for a secret. -/
  verifyTotp : String → String → Time → Bool
  trim : String → String
  /-- JWT_EXPIRATION and JWT_REFRESH_EXPIRATION, in seconds. -/
  accessExpiresIn : ℤ
  refreshExpiresIn : ℤ
  /-- JWT_REFRESH_EXPIRATION, where it is a number of milliseconds. -/
  refreshExpiryMs : Option ℤ
  issuer : String
  audience : String
  defaultHubId : Option Uuid

section
variable (cfg : Config)

def User.fullName (user : User) : String := cfg.trim s!"{user.firstname} {user.lastname}"

def accessPayload (id : Uuid) (user : User) : JwtPayload where
  sub := id
  email := some user.email
  fullName := some (user.fullName cfg)
  role := some user.role
  hubId := user.hubId <|> cfg.defaultHubId
  iss := some cfg.issuer
  aud := some cfg.audience

def refreshPayload (id : Uuid) (user : User) : JwtPayload where
  sub := id
  email := some user.email
  fullName := some (user.fullName cfg)
  iss := some cfg.issuer
  aud := some cfg.audience

def tempPayload (id : Uuid) : JwtPayload where
  sub := id
  type := some "2fa_pending"

/-- `jwtService.sign`, at a time. -/
def signAt (secret : Secret) (payload : JwtPayload) (expiresIn : ℤ) (now : Time) : String :=
  cfg.sign secret { payload with iat := now / 1000, exp := now / 1000 + expiresIn }

/-- `jwtService.verify`, at a time. -/
def verifyAt (secret : Secret) (token : String) (now : Time) : Option JwtClaims :=
  (cfg.decode secret token).filter fun claims => now / 1000 < claims.exp

end

/-! ## Passwords and codes -/

/-- The length in UTF-16 code units. -/
def jsLength (text : String) : ℕ := (text.toList.map fun c => if c.toNat < 65536 then 1 else 2).sum

def isValidPassword (password : String) : Bool :=
  8 ≤ jsLength password ∧ password.any Char.isUpper ∧ password.any Char.isLower ∧
    password.any Char.isDigit

/-- The four digits for a number drawn below 9000. -/
def verificationCode (drawn : ℕ) : String := toString (drawn % 9000 + 1000)

end Auth
