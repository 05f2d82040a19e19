/-
  The authentication operations of the backend (backend/src/auth), as programs over queries.
-/
import NovaLabs.Auth.Queries

namespace Auth

open Lib Process
open Backend (Uuid Time UserRole)

inductive HttpError where
  | badRequest (message : String)
  | unauthorized (message : String)
  | notFound (message : String)
  | conflict (message : String)
  /-- A statement broke a unique index. -/
  | queryFailed

abbrev Proc (α : Type) := Process Answer HttpError α

def ask (q : Query) : Proc (Answer q) := Process.query q

/-! ## Messages -/

namespace UserMessages

def emailAlreadyExist := "user already in exist, please login"
def invalidCredentials := "Invalid credentials or account not exists"
def invalidRefreshToken := "Invalid or expired refresh token"
def userNotFound := "User not found."
def otpSent := "An Otp Code has been sent to your Email"
def otpRequired := "Verification code is required"
def otpVerified := "OTP verified successfully"
def isValidPassword := "Password must be at least 8 characters long, contain uppercase and lowercase letters, and at least one digit."
def invalidOtp := "Invalid otp code"
def otpExpired := "Otp code has Expired"
def emailRequired := "Email is required"
def passwordsDoNotMatch := "New Password and Confirm Password must Match."
def passwordsResetSuccessful := "Password reset successfully"

end UserMessages

/-! ## Helpers -/

/-- A save of a held entity. -/
def saveUser (id : Uuid) (held : User) (undefined : Undefined) : Proc Unit := do
  match ← ask (.reloadUser id) with
  | some stored =>
    let changes := held.changes undefined stored
    if changes ≠ {} then ask (.updateUser id changes)
  | none => pure ()

def generateVerificationCode : Proc String := do return verificationCode (← ask (.random 9000))

/-- `moment().add(10, 'minutes')`. -/
def inTenMinutes : Proc Time := do
  let now : Time ← ask .now
  return now + 600000

/-- `PasswordBreachService.checkPassword`. -/
def checkPassword (password : String) : Proc Unit := do
  let breached ← ask (.passwordBreached password)
  failIf (breached = true) (.badRequest
    "This password has appeared in a known data breach. Please choose a different password.")

structure Tokens where
  accessToken : String
  refreshToken : String

section
variable (cfg : Config)

/-! ### JwtHelper -/

def validateRefreshToken (refreshToken : String) : Proc Uuid := do
  let claims ← okOr (← ask (.verify .refresh refreshToken))
    (.unauthorized UserMessages.invalidRefreshToken)
  return claims.sub

def generateAccessToken (id : Uuid) (user : User) : Proc String :=
  ask (.sign .access (accessPayload cfg id user) cfg.accessExpiresIn)

def generateRefreshToken (id : Uuid) (user : User) : Proc String :=
  ask (.sign .refresh (refreshPayload cfg id user) cfg.refreshExpiresIn)

def generateTokens (id : Uuid) (user : User) : Proc Tokens := do
  let accessToken ← generateAccessToken cfg id user
  let refreshToken ← generateRefreshToken cfg id user
  return { accessToken, refreshToken }

def generateTempToken (id : Uuid) : Proc String := ask (.sign .access (tempPayload id) 300)

def verifyTempToken (token : String) : Proc Uuid := do
  let claims ← okOr (← ask (.verify .access token)) (.unauthorized "Invalid or expired 2FA token")
  failIf (claims.type ≠ some "2fa_pending") (.unauthorized "Invalid or expired 2FA token")
  return claims.sub

/-! ### RefreshTokenRepositoryOperations -/

def computeExpiryFromEnv : Proc (Option Time) :=
  match cfg.refreshExpiryMs with
  | some ms => do
    let now : Time ← ask .now
    return some (now + ms)
  | none => return none

def createRefreshToken (userId : Uuid) (token familyId : String) (version : ℕ) : Proc Uuid := do
  let expiresAt ← computeExpiryFromEnv cfg
  okOr (← ask (.insertToken
    { userId, token := cfg.hashRefreshToken token, familyId, version, expiresAt })) .queryFailed

def saveRefreshToken (userId : Uuid) (token : String) : Proc Uuid := do
  let familyId ← ask .generateFamilyId
  createRefreshToken cfg userId token familyId 1

/-! ## AuthService -/

structure CreateUserDto where
  email : String
  firstname : String
  lastname : String
  password : String

structure RegisteredUser where
  id : Uuid
  accessToken : String

def createUser (dto : CreateUserDto) : Proc RegisteredUser := do
  let existingUser ← ask (.findUser (.byEmail dto.email))
  failIf (existingUser.isSome) (.conflict UserMessages.emailAlreadyExist)
  failIf (¬ isValidPassword dto.password) (.conflict UserMessages.isValidPassword)
  checkPassword dto.password
  let hashedPassword ← ask (.hashPassword dto.password)
  let code ← generateVerificationCode
  let expiration ← inTenMinutes
  let newUser : User :=
    { email := dto.email
      firstname := dto.firstname
      lastname := dto.lastname
      password := hashedPassword
      role := .user
      verificationCode := some code
      verificationCodeExpiresAt := some expiration
      isVerified := false }
  let id ← okOr (← ask (.insertUser newUser)) .queryFailed
  ask (.send (.verification newUser.email code))
  let accessToken ← generateAccessToken cfg id newUser
  return { id, accessToken }

/-- An administrator has no e-mail address to verify. -/
def createAdminUser (dto : CreateUserDto) : Proc RegisteredUser := do
  let existingUser ← ask (.findUser (.byEmail dto.email))
  failIf (existingUser.isSome) (.conflict UserMessages.emailAlreadyExist)
  failIf (¬ isValidPassword dto.password) (.conflict UserMessages.isValidPassword)
  checkPassword dto.password
  let hashedPassword ← ask (.hashPassword dto.password)
  let newUser : User :=
    { email := dto.email
      firstname := dto.firstname
      lastname := dto.lastname
      password := hashedPassword
      role := .admin }
  let id ← okOr (← ask (.insertUser newUser)) .queryFailed
  let accessToken ← generateAccessToken cfg id newUser
  return { id, accessToken }

/-- The tokens of a new session, with its refresh token stored. -/
def startSession (id : Uuid) (user : User) : Proc Tokens := do
  let tokens ← generateTokens cfg id user
  let _ ← saveRefreshToken cfg id tokens.refreshToken
  return tokens

structure VerifyOtpDto where
  email : String
  otp : String

/-- A code is there until its expiry, that included. -/
def failIfExpired (expiresAt : Option Time) : Proc Unit := do
  match expiresAt with
  | none => throw (.unauthorized UserMessages.otpExpired)
  | some expiresAt =>
    let now : Time ← ask .now
    failIf (expiresAt < now) (.unauthorized UserMessages.otpExpired)

def verifyOtp (dto : VerifyOtpDto) : Proc (Uuid × Tokens) := do
  failIf (dto.email = "") (.badRequest UserMessages.emailRequired)
  failIf (dto.otp = "") (.badRequest UserMessages.otpRequired)
  let (id, user) ← okOr (← ask (.findUser (.byEmail dto.email)))
    (.unauthorized UserMessages.userNotFound)
  failIf (user.verificationCode ≠ some dto.otp) (.unauthorized UserMessages.invalidOtp)
  failIfExpired user.verificationCodeExpiresAt
  saveUser id { user with isVerified := true, verificationCode := some "" }
    { verificationCodeExpiresAt := true }
  let tokens ← startSession cfg id user
  return (id, tokens)

def resendVerificationOtp (email : String) : Proc Unit := do
  failIf (email = "") (.badRequest UserMessages.emailRequired)
  let (id, user) ← okOr (← ask (.findUser (.byEmail email))) (.notFound UserMessages.userNotFound)
  let code ← generateVerificationCode
  let expiration ← inTenMinutes
  saveUser id
    { user with verificationCode := some code, verificationCodeExpiresAt := some expiration } {}
  ask (.send (.verification user.email code))

structure LoginUserDto where
  email : String
  password : String

inductive LoginResult where
  | unverified
  | requiresTwoFactor (tempToken : String)
  | loggedIn (id : Uuid) (tokens : Tokens)

def login (dto : LoginUserDto) : Proc LoginResult := do
  let found ← ask (.findUser (.byEmail dto.email))
  let (id, user) ← okOr (found.filter fun (_, user) => cfg.compare dto.password user.password)
    (.unauthorized UserMessages.invalidCredentials)
  if ¬ user.isVerified then
    resendVerificationOtp dto.email
    return .unverified
  else if user.twoFactorEnabled then
    return .requiresTwoFactor (← generateTempToken id)
  else
    return .loggedIn id (← startSession cfg id user)

def refreshToken (token : String) : Proc Tokens := do
  let userId ← validateRefreshToken token
  let (userId, user) ← okOr (← ask (.findUser (.byId userId)))
    (.unauthorized UserMessages.invalidRefreshToken)
  let (tokenId, storedToken) ← okOr (← ask (.findToken (cfg.hashRefreshToken token)))
    (.unauthorized UserMessages.invalidRefreshToken)
  if storedToken.revoked ∨ storedToken.consumedAt.isSome then
    -- reuse: the whole family is revoked
    ask (.revokeFamily storedToken.familyId)
    ask (.auditFamilyRevoked userId storedToken.familyId tokenId)
    ask (.send (.familyRevoked user.email))
    throw (.unauthorized UserMessages.invalidRefreshToken)
  else
    match storedToken.expiresAt with
    | some expiresAt =>
      let now : Time ← ask .now
      failIf (expiresAt < now) (.unauthorized UserMessages.invalidRefreshToken)
    | none => pure ()
    ask (.consumeToken tokenId)
    let tokens ← generateTokens cfg userId user
    let _ ← createRefreshToken cfg userId tokens.refreshToken storedToken.familyId
      (storedToken.version + 1)
    return tokens

def mintAuthTokensForUser (id : Uuid) (user : User) : Proc Tokens := startSession cfg id user

/-! ### Password reset -/

/-- A new reset code for the user with the e-mail: `requestResetPasswordOtp` and
    `resendResetPasswordVerificationOtp`. -/
def sendResetCode (email : String) : Proc Unit := do
  failIf (email = "") (.badRequest UserMessages.emailRequired)
  let (id, user) ← okOr (← ask (.findUser (.byEmail email))) (.notFound UserMessages.userNotFound)
  let otp ← generateVerificationCode
  let expiration ← inTenMinutes
  saveUser id
    { user with passwordResetCode := some otp, passwordResetCodeExpiresAt := some expiration } {}
  ask (.send (.passwordReset user.email otp))

def requestResetPasswordOtp (email : String) : Proc Unit := sendResetCode email

def resendResetPasswordVerificationOtp (email : String) : Proc Unit := sendResetCode email

def verifyResetPasswordOtp (dto : VerifyOtpDto) : Proc Unit := do
  failIf (dto.email = "") (.badRequest UserMessages.emailRequired)
  failIf (dto.otp = "") (.badRequest UserMessages.otpRequired)
  let (id, user) ← okOr (← ask (.findUser (.byEmail dto.email)))
    (.notFound UserMessages.userNotFound)
  failIf (user.passwordResetCode ≠ some dto.otp) (.unauthorized UserMessages.invalidOtp)
  failIfExpired user.passwordResetCodeExpiresAt
  saveUser id user {}

structure ResetPasswordDto where
  otp : String
  newPassword : String
  confirmNewPassword : String

def resetPassword (dto : ResetPasswordDto) : Proc Unit := do
  let (id, user) ← okOr (← ask (.findUser (.byResetCode dto.otp)))
    (.notFound UserMessages.userNotFound)
  failIfExpired user.passwordResetCodeExpiresAt
  failIf (¬ isValidPassword dto.newPassword) (.badRequest UserMessages.isValidPassword)
  failIf (dto.newPassword ≠ dto.confirmNewPassword)
    (.badRequest UserMessages.passwordsDoNotMatch)
  checkPassword dto.newPassword
  let password ← ask (.hashPassword dto.newPassword)
  -- the code and its expiry are set to undefined, which a save passes over
  saveUser id { user with password, passwordResetCode := none, passwordResetCodeExpiresAt := none }
    { passwordResetCode := true, passwordResetCodeExpiresAt := true }

/-! ## Two-factor authentication -/

/-- The secret, unless it is missing or empty. -/
def User.secret (user : User) : Option String := user.totpSecret.filter (· ≠ "")

structure VerifyTotpDto where
  token : String
  tempToken : String

def verifyTotpLogin (dto : VerifyTotpDto) : Proc (Uuid × Tokens) := do
  let userId ← verifyTempToken dto.tempToken
  let (id, user) ← okOr (← ask (.findUser (.byId userId)))
    (.unauthorized "User not found or 2FA not set up")
  let secret ← okOr user.secret (.unauthorized "User not found or 2FA not set up")
  let valid ← ask (.verifyTotp dto.token secret)
  failIf (valid = false) (.unauthorized "Invalid TOTP code")
  let tokens ← generateTokens cfg id user
  return (id, tokens)

structure UseBackupCodeDto where
  backupCode : String
  tempToken : String

structure BackupLogin where
  id : Uuid
  tokens : Tokens
  backupCodesRemaining : ℕ

def verifyBackupCode (dto : UseBackupCodeDto) : Proc BackupLogin := do
  let userId ← verifyTempToken dto.tempToken
  let (id, user) ← okOr (← ask (.findUser (.byId userId)))
    (.unauthorized "User not found or no backup codes available")
  let codes ← okOr (user.totpBackupCodes.filter (· ≠ []))
    (.unauthorized "User not found or no backup codes available")
  let matchedIndex ← okOr (codes.findIdx? (cfg.compare dto.backupCode))
    (.unauthorized "Invalid backup code")
  let remaining := codes.eraseIdx matchedIndex
  let held := { user with totpBackupCodes := some remaining }
  saveUser id held {}
  let tokens ← generateTokens cfg id held
  return { id, tokens, backupCodesRemaining := remaining.length }

def initiate2faSetup (userId : Uuid) : Proc String := do
  let (id, user) ← okOr (← ask (.findUser (.byId userId))) (.unauthorized "User not found")
  let secret ← ask .generateSecret
  saveUser id { user with totpSecret := some secret } {}
  return secret

def confirm2faSetup (userId : Uuid) (token : String) : Proc (List String) := do
  let found ← ask (.findUser (.byId userId))
  let (id, user) ← okOr found (.unauthorized "2FA setup not initiated")
  let secret ← okOr user.secret (.unauthorized "2FA setup not initiated")
  let valid ← ask (.verifyTotp token secret)
  failIf (valid = false) (.unauthorized "Invalid TOTP code")
  let plainCodes ← (List.replicate 8 ()).mapM fun _ => ask .randomBytes
  let hashedCodes ← plainCodes.mapM fun code => ask (.hashPassword code)
  saveUser id { user with twoFactorEnabled := true, totpBackupCodes := some hashedCodes } {}
  return plainCodes

def disable2fa (userId : Uuid) (password : String) : Proc Unit := do
  let (id, user) ← okOr (← ask (.findUser (.byId userId))) (.unauthorized "User not found")
  failIf (¬ cfg.compare password user.password) (.unauthorized "Invalid password")
  saveUser id { user with twoFactorEnabled := false, totpSecret := none, totpBackupCodes := none } {}

/-! ## Passkeys -/

def createAssertionOptions (email : String) : Proc String := do
  let (_, user) ← okOr (← ask (.findUser (.byEmail email))) (.notFound "User not found")
  failIf (user.passkeyCredentials.getD [] = [])
    (.badRequest "No passkey registered for this account")
  let challenge ← ask .generateChallenge
  ask (.setChallenge s!"assert:{email}" challenge)
  return challenge

/-- The credentials, with a new counter for the first one with the id. -/
def countCredential (id : String) (counter : ℕ) :
    List PasskeyCredential → List PasskeyCredential
  | [] => []
  | credential :: rest =>
    if credential.id = id then { credential with counter } :: rest
    else credential :: countCredential id counter rest

def verifyAssertionResponse (email responseId : String) : Proc (Uuid × Tokens) := do
  let pending ← ask (.findChallenge s!"assert:{email}")
  let challenge ← okOr (pending.filter (· ≠ "")) (.badRequest "No passkey assertion challenge found")
  let (id, user) ← okOr (← ask (.findUser (.byEmail email))) (.notFound "User not found")
  let credentials := user.passkeyCredentials.getD []
  let credential ← okOr (credentials.find? (·.id = responseId))
    (.unauthorized "This passkey is not registered for this account")
  let newCounter ← okOr (← ask (.verifyAuthentication challenge credential))
    (.unauthorized "Passkey assertion failed")
  let held := { user with
    passkeyCredentials := some (countCredential responseId newCounter credentials) }
  saveUser id held {}
  ask (.deleteChallenge s!"assert:{email}")
  let tokens ← generateTokens cfg id held
  return (id, tokens)

/-! ## Requests -/

inductive Request where
  | createUser (dto : CreateUserDto)
  | createAdminUser (dto : CreateUserDto)
  | verifyOtp (dto : VerifyOtpDto)
  | resendVerificationOtp (email : String)
  | login (dto : LoginUserDto)
  | refreshToken (token : String)
  | mintAuthTokensForUser (id : Uuid) (user : User)
  | requestResetPasswordOtp (email : String)
  | resendResetPasswordVerificationOtp (email : String)
  | verifyResetPasswordOtp (dto : VerifyOtpDto)
  | resetPassword (dto : ResetPasswordDto)
  | verifyTotpLogin (dto : VerifyTotpDto)
  | verifyBackupCode (dto : UseBackupCodeDto)
  | initiate2faSetup (userId : Uuid)
  | confirm2faSetup (userId : Uuid) (token : String)
  | disable2fa (userId : Uuid) (password : String)
  | createAssertionOptions (email : String)
  | verifyAssertionResponse (email responseId : String)

inductive Response where
  | message (text : String)
  | registered (user : RegisteredUser)
  | login (result : LoginResult)
  | verified (id : Uuid) (tokens : Tokens)
  | refreshed (tokens : Tokens)
  | minted (tokens : Tokens)
  | totpLogin (id : Uuid) (tokens : Tokens)
  | backupLogin (login : BackupLogin)
  | passkeyLogin (id : Uuid) (tokens : Tokens)
  | secret (secret : String)
  | backupCodes (codes : List String)
  | challenge (challenge : String)

def Request.program : Request → Proc Response
  | .createUser dto => return .registered (← Auth.createUser cfg dto)
  | .createAdminUser dto => return .registered (← Auth.createAdminUser cfg dto)
  | .verifyOtp dto => do
    let (id, tokens) ← Auth.verifyOtp cfg dto
    return .verified id tokens
  | .resendVerificationOtp email => do
    Auth.resendVerificationOtp email
    return .message UserMessages.otpSent
  | .login dto => return .login (← Auth.login cfg dto)
  | .refreshToken token => return .refreshed (← Auth.refreshToken cfg token)
  | .mintAuthTokensForUser id user => return .minted (← Auth.mintAuthTokensForUser cfg id user)
  | .requestResetPasswordOtp email => do
    Auth.requestResetPasswordOtp email
    return .message UserMessages.otpSent
  | .resendResetPasswordVerificationOtp email => do
    Auth.resendResetPasswordVerificationOtp email
    return .message UserMessages.otpSent
  | .verifyResetPasswordOtp dto => do
    Auth.verifyResetPasswordOtp dto
    return .message UserMessages.otpVerified
  | .resetPassword dto => do
    Auth.resetPassword dto
    return .message UserMessages.passwordsResetSuccessful
  | .verifyTotpLogin dto => do
    let (id, tokens) ← Auth.verifyTotpLogin cfg dto
    return .totpLogin id tokens
  | .verifyBackupCode dto => return .backupLogin (← Auth.verifyBackupCode cfg dto)
  | .initiate2faSetup userId => return .secret (← Auth.initiate2faSetup userId)
  | .confirm2faSetup userId token => return .backupCodes (← Auth.confirm2faSetup userId token)
  | .disable2fa userId password => do
    Auth.disable2fa cfg userId password
    return .message "2FA has been disabled"
  | .createAssertionOptions email => return .challenge (← Auth.createAssertionOptions email)
  | .verifyAssertionResponse email responseId => do
    let (id, tokens) ← Auth.verifyAssertionResponse cfg email responseId
    return .passkeyLogin id tokens

end

/-- The authentication services: any number of requests, over one database. -/
def service (cfg : Config) : System Answer Database Request World HttpError Response where
  program := Request.program cfg
  exec _ := exec cfg

abbrev Sessions := Pool Answer Database HttpError Response

abbrev Ev := Event Sessions (Turn Request World)

/-- A database that no request works on. -/
def idle (db : Database) : Sessions := { shared := db }

end Auth
