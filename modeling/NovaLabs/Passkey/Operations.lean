/-
  Registering passkeys and logging in with them (backend/src/auth/passkey/passkey.service.ts), as
  programs over queries.

  The service keeps its challenges in a map; between its awaits other requests run.
-/
import NovaLabs.Auth.Operations
import NovaLabs.Lib.Base64
import NovaLabs.Lib.Embedding

namespace Passkey

open Lib Process
open Backend (Uuid)
open Auth (User PasskeyCredential HttpError Tokens)

/-! ## Data -/

/-- What an authenticator sends. -/
structure AuthenticatorResponse where
  id : String
  /-- The challenge that it was made for. -/
  challenge : String
  transports : List String := []

/-- `registrationInfo.credential`, of a registration that is verified. -/
structure RegisteredCredential where
  id : String
  publicKey : List UInt8
  counter : ℕ
  deriving DecidableEq

/-- The credential that an assertion is verified with. -/
structure WebAuthnCredential where
  id : String
  publicKey : List UInt8
  counter : ℕ
  transports : List String
  deriving DecidableEq

/-- A credential that an authenticator may use. -/
structure Descriptor where
  id : String
  transports : List String
  deriving DecidableEq

/-! ## Queries -/

inductive Query where
  | auth (q : Auth.Query)
  | generateRegistrationOptions (userID userName userDisplayName : String)
  | generateAuthenticationOptions (allowCredentials : List Descriptor)
  | verifyRegistration (response : AuthenticatorResponse) (expectedChallenge : String)
  | verifyAuthentication (response : AuthenticatorResponse) (expectedChallenge : String)
      (credential : WebAuthnCredential)

/-- Options come with a challenge; a verification that fails answers with nothing. -/
@[reducible] def Answer : Query → Type
  | .auth q => Auth.Answer q
  | .generateRegistrationOptions _ _ _ | .generateAuthenticationOptions _ => String
  | .verifyRegistration _ _ => Option RegisteredCredential
  | .verifyAuthentication _ _ _ => Option ℕ

structure World extends Auth.World where
  publicKey : List UInt8 := []
  newCounter : ℕ := 0

/-- The database with the map of challenges, the challenges generated so far, and the credentials
    that assertions were verified with, the last one first. -/
structure Server where
  db : Auth.Database
  issued : List String := []
  passed : List WebAuthnCredential := []

/-- A challenge that has not been generated before. -/
def Server.generate (s : Server) (challenge : String) : Option (String × Server) :=
  if challenge ≠ "" ∧ challenge ∉ s.issued then
    some (challenge, { s with issued := challenge :: s.issued })
  else none

/-- How a query is answered. The responses that are made for the expected challenge are verified. -/
def exec (cfg : Auth.Config) (w : World) (s : Server) : (q : Query) → Option (Answer q × Server)
  | .auth q => (Auth.exec cfg w.toWorld s.db q).map fun (a, db) => (a, { s with db })
  | .generateRegistrationOptions _ _ _ | .generateAuthenticationOptions _ => s.generate w.text
  | .verifyRegistration response expectedChallenge =>
    some (if response.challenge = expectedChallenge then
      some { id := response.id, publicKey := w.publicKey, counter := w.newCounter } else none, s)
  | .verifyAuthentication response expectedChallenge credential =>
    some (if response.challenge = expectedChallenge then some w.newCounter else none,
      { s with passed := credential :: s.passed })

/-! ## Operations -/

abbrev Proc (α : Type) := Process Answer HttpError α

def ask (q : Query) : Proc (Answer q) := Process.query q

/-- A program of the authentication services. -/
def ofAuth {α : Type} (x : Auth.Proc α) : Proc α := Process.embed Query.auth x

/-- The display name falls back to the e-mail. -/
def displayName (cfg : Auth.Config) (user : User) : String :=
  if user.fullName cfg ≠ "" then user.fullName cfg else user.email

def registerKey (userId : Uuid) : String := s!"register:{userId}"

def assertKey (email : String) : String := s!"assert:{email}"

def createRegistrationOptions (cfg : Auth.Config) (userId : Uuid) : Proc String := do
  let (id, user) ← okOr (← ask (.auth (.findUser (.byId userId)))) (.notFound "User not found")
  let challenge ← ask (.generateRegistrationOptions id user.email (displayName cfg user))
  ask (.auth (.setChallenge (registerKey id) challenge))
  return challenge

/-- The credential as it is stored. -/
def storedCredential (response : AuthenticatorResponse) (credential : RegisteredCredential) :
    PasskeyCredential where
  id := Base64.encode (utf8 credential.id)
  publicKey := Base64.encode credential.publicKey
  counter := credential.counter
  transports := response.transports.filter (· ≠ "")

/-- The credentials of the user. -/
def credentials (user : User) : List PasskeyCredential := user.passkeyCredentials.getD []

def verifyRegistrationResponse (userId : Uuid) (response : AuthenticatorResponse) :
    Proc (Uuid × User) := do
  let pending ← ask (.auth (.findChallenge (registerKey userId)))
  let challenge ← okOr (pending.filter (· ≠ ""))
    (.badRequest "No passkey registration challenge found")
  let (id, user) ← okOr (← ask (.auth (.findUser (.byId userId)))) (.notFound "User not found")
  let credential ← okOr (← ask (.verifyRegistration response challenge))
    (.unauthorized "Passkey registration failed")
  let held := { user with
    passkeyCredentials := some (credentials user ++ [storedCredential response credential]) }
  ofAuth (Auth.saveUser id held {})
  ask (.auth (.deleteChallenge (registerKey id)))
  return (id, held)

structure AssertionOptions where
  challenge : String
  allowCredentials : List Descriptor

def allowCredentials (user : User) : List Descriptor :=
  (credentials user).map fun credential => ⟨credential.id, credential.transports⟩

def createAssertionOptions (email : String) : Proc AssertionOptions := do
  let (_, user) ← okOr (← ask (.auth (.findUser (.byEmail email)))) (.notFound "User not found")
  failIf (credentials user = []) (.badRequest "No passkey registered for this account")
  let challenge ← ask (.generateAuthenticationOptions (allowCredentials user))
  ask (.auth (.setChallenge (assertKey email) challenge))
  return { challenge, allowCredentials := allowCredentials user }

/-- The credential that an assertion is verified with, out of the stored one. -/
def verificationCredential (responseId : String) (credential : PasskeyCredential) :
    WebAuthnCredential where
  id := responseId
  publicKey := Base64.decode credential.publicKey
  counter := credential.counter
  transports := credential.transports.filter (· ≠ "")

def verifyAssertionResponse (cfg : Auth.Config) (email : String)
    (response : AuthenticatorResponse) : Proc (Uuid × User × Tokens) := do
  let pending ← ask (.auth (.findChallenge (assertKey email)))
  let challenge ← okOr (pending.filter (· ≠ "")) (.badRequest "No passkey assertion challenge found")
  let (id, user) ← okOr (← ask (.auth (.findUser (.byEmail email)))) (.notFound "User not found")
  let matchingCredential ← okOr ((credentials user).find? (·.id = response.id))
    (.unauthorized "This passkey is not registered for this account")
  let newCounter ← okOr (← ask (.verifyAuthentication response challenge
      (verificationCredential response.id matchingCredential)))
    (.unauthorized "Passkey assertion failed")
  let held := { user with
    passkeyCredentials := some (Auth.countCredential response.id newCounter (credentials user)) }
  ofAuth (Auth.saveUser id held {})
  ask (.auth (.deleteChallenge (assertKey email)))
  let tokens ← ofAuth (Auth.generateTokens cfg id held)
  return (id, held, tokens)

/-! ## Requests -/

inductive Request where
  | createRegistrationOptions (userId : Uuid)
  | verifyRegistrationResponse (userId : Uuid) (response : AuthenticatorResponse)
  | createAssertionOptions (email : String)
  | verifyAssertionResponse (email : String) (response : AuthenticatorResponse)

inductive Response where
  | registrationOptions (challenge : String)
  | registered (id : Uuid) (user : User)
  | assertionOptions (options : AssertionOptions)
  | loggedIn (id : Uuid) (user : User) (tokens : Tokens)

def Request.program (cfg : Auth.Config) : Request → Proc Response
  | .createRegistrationOptions userId =>
    return .registrationOptions (← Passkey.createRegistrationOptions cfg userId)
  | .verifyRegistrationResponse userId response => do
    let (id, user) ← Passkey.verifyRegistrationResponse userId response
    return .registered id user
  | .createAssertionOptions email =>
    return .assertionOptions (← Passkey.createAssertionOptions email)
  | .verifyAssertionResponse email response => do
    let (id, user, tokens) ← Passkey.verifyAssertionResponse cfg email response
    return .loggedIn id user tokens

/-- The passkey service: any number of requests, over one server. -/
def service (cfg : Auth.Config) : System Answer Server Request World HttpError Response where
  program := Request.program cfg
  exec _ := exec cfg

abbrev Sessions := Pool Answer Server HttpError Response

abbrev Ev := Event Sessions (Turn Request World)

end Passkey
