/-
  Subscriptions to the newsletter (backend/src/newsletter), as programs over queries.

  The row of a subscriber is pending until its subscription is confirmed.  It stays when the
  subscription ends, and is pending again after the next subscription.
-/
import NovaLabs.Backend.Entities
import NovaLabs.Lib.Alone
import NovaLabs.Lib.JsString
import NovaLabs.Lib.Searches

namespace Newsletter

open Lib Process
open Backend (Uuid Time)

/-! ## Texts -/

/-- What the environment configures, and what the language computes. -/
structure Config where
  frontendUrl : Option String := none
  toLowerCase : String → String
  getFullYear : Time → ℤ

/-- `\s`. -/
def isSpace (c : Char) : Bool := c.toNat < 0x10000 ∧ JsString.isSpace (codeUnit c)

def trim (text : String) : String :=
  .ofList ((text.toList.dropWhile isSpace).rdropWhile isSpace)

/-- `text.split('@')`. -/
def splitAtSign (text : String) : List String := (text.toList.splitOn '@').map .ofList

def hexDigits (byte : UInt8) : List Char :=
  ((Nat.toDigits 16 byte.toNat).leftpad 2 '0').map Char.toUpper

def encodeURIComponent (text : String) : String :=
  .ofList (text.toList.flatMap fun c =>
    if c.isAlphanum ∨ c ∈ "-_.!~*'()".toList then [c]
    else (String.utf8EncodeChar c).flatMap fun byte => '%' :: hexDigits byte)

/-- The configured URL without its last slash, followed by the path. -/
def Config.buildFrontendUrl (cfg : Config) (path : String) : String :=
  let base := (trim (cfg.frontendUrl.getD "")).toList
  let base := if base.getLast? = some '/' then base.dropLast else base
  let path := if path.toList.head? = some '/' then path else "/" ++ path
  .ofList base ++ path

def safeNameFromEmail (email : String) : String :=
  let raw := trim ((splitAtSign email).head?.getD "there")
  let cleaned := (raw.toList.filter fun c =>
    c.isAlphanum ∨ c ∈ ['.', '_', '-'] ∨ isSpace c).take 40
  if cleaned.length ≠ 0 then .ofList cleaned else "there"

def Config.isDisposableEmail (cfg : Config) (email : String) : Bool :=
  cfg.toLowerCase ((splitAtSign email)[1]?.getD "") ∈
    ["mailinator.com", "tempmail.com", "10minutemail.com"]

/-! ## Rows -/

structure NewsletterSubscriber where
  email : String
  isVerified : Bool
  verifiedAt : Option Time
  verificationToken : Option String
  verificationTokenExpiresAt : Option Time
  subscribedAt : Time
  isActive : Bool
  unsubscribeToken : String
  consentedAt : Option Time
  ipAddress : Option String
  deletedAt : Option Time
  deriving DecidableEq

/-- The options of a search, which also finds rows with `deletedAt`. -/
inductive SubscriberWhere where
  | email (email : String)
  | unsubscribeToken (token : String)
  | verificationToken (token : String)

def SubscriberWhere.selects (which : SubscriberWhere) (s : NewsletterSubscriber) : Bool :=
  match which with
  | .email text => s.email = text
  | .unsubscribeToken token => s.unsubscribeToken = token
  | .verificationToken token => s.verificationToken = some token

structure Mail where
  email : String
  subject : String
  templateName : String
  placeholders : List (String × String)
  deriving DecidableEq

/-! ## Queries -/

inductive Query where
  | now
  | makeToken
  | findOne (which : SubscriberWhere)
  | insert (s : NewsletterSubscriber)
  | update (id : Uuid) (s : NewsletterSubscriber)
  | softRemove (id : Uuid)
  | sendTemplateEmail (mail : Mail)

/-- An insert answers with nothing where it would repeat an e-mail. -/
@[reducible] def Answer : Query → Type
  | .now => Time
  | .makeToken => String
  | .findOne _ => Option (Uuid × NewsletterSubscriber)
  | .insert _ => Option Uuid
  | .update _ _ | .softRemove _ => Unit
  | .sendTemplateEmail _ => Bool

/-- What the world adds to an answer. -/
structure World where
  now : Time := 0
  token : String := ""
  id : Uuid := ""
  row : Option Uuid := none
  fails : Bool := false

/-- The table, the tokens that have been made and the queued e-mails, the last one first. -/
structure Server where
  subscribers : Store Uuid NewsletterSubscriber := ∅
  made : List String := []
  queued : List Mail := []

namespace Server

def setSubscriber (server : Server) (id : Uuid) (s : NewsletterSubscriber) : Server :=
  { server with subscribers := server.subscribers.insert id s }

/-- No row has the e-mail. -/
def Free (server : Server) (email : String) : Prop :=
  server.subscribers.matching (fun _ s => s.email = email) = ∅

instance (server : Server) (email : String) : Decidable (server.Free email) :=
  inferInstanceAs (Decidable (_ = _))

end Server

/-- How a query is answered. A token is not made twice. -/
def exec (w : World) (server : Server) : (q : Query) → Option (Answer q × Server)
  | .now => some (w.now, server)
  | .makeToken =>
    if w.token ∈ server.made then none
    else some (w.token, { server with made := w.token :: server.made })
  | .findOne which =>
    (server.subscribers.findOne (fun _ s => which.selects s) w.row).map (·, server)
  | .insert s =>
    if server.Free s.email then
      if server.subscribers.lookup w.id = none then some (some w.id, server.setSubscriber w.id s)
      else none
    else some (none, server)
  | .update id s => some ((), server.setSubscriber id s)
  | .softRemove id =>
    some ((), match server.subscribers.lookup id with
      | some s => server.setSubscriber id { s with deletedAt := some w.now }
      | none => server)
  | .sendTemplateEmail mail =>
    some (if w.fails then (false, server)
      else (true, { server with queued := mail :: server.queued }))

/-! ## Operations -/

inductive HttpError where
  | badRequest (message : String)
  | conflict (message : String)
  | notFound (message : String)
  deriving DecidableEq

inductive Response where
  | subscriber (id : Uuid) (email : String) (subscribedAt : Time) (isActive : Bool)
  | message (success : Bool) (message : String)
  deriving DecidableEq

abbrev Proc (α : Type) := Process Answer HttpError α

def ask (q : Query) : Proc (Answer q) := Process.query q

section
variable (cfg : Config)

/-- Whether the e-mail is queued does not matter. -/
def sendTemplateEmail (email subject templateName : String)
    (placeholders : List (String × String)) : Proc Unit := do
  let now ← ask .now
  let _ ← ask (.sendTemplateEmail { email, subject, templateName, placeholders := placeholders ++
    [("appName", "NovaLabs"), ("year", toString (cfg.getFullYear now))] })

/-- `save` of the found row, or of a new one. -/
def saveSubscriber (id : Option Uuid) (s : NewsletterSubscriber) : Proc (Option Uuid) :=
  match id with
  | some id => do
    ask (.update id s)
    return some id
  | none => ask (.insert s)

/-- The row is of a subscriber who is active, verified and not deleted. -/
def NewsletterSubscriber.IsSubscribed (s : NewsletterSubscriber) : Prop :=
  s.isActive ∧ s.isVerified ∧ s.deletedAt = none

instance (s : NewsletterSubscriber) : Decidable s.IsSubscribed :=
  inferInstanceAs (Decidable (_ ∧ _))

/-- 24 hours. -/
def lifetime : Time := 24 * 60 * 60 * 1000

def Config.normalize (cfg : Config) (email : String) : String := cfg.toLowerCase (trim email)

def subscribe (email : String) (ipAddress : Option String) : Proc Response := do
  let email := cfg.normalize email
  let fullName := safeNameFromEmail email
  failIf (cfg.isDisposableEmail email) (.badRequest "Disposable email addresses are not allowed.")
  let existing ← ask (.findOne (.email email))
  failIf (∃ s ∈ existing.map Prod.snd, s.IsSubscribed) (.conflict "Email is already subscribed.")
  let now ← ask .now
  let verificationToken ← ask .makeToken
  let unsubscribeToken ← ask .makeToken
  let later ← ask .now
  let subscriber : NewsletterSubscriber :=
    { email
      isVerified := false
      verifiedAt := none
      verificationToken := some verificationToken
      verificationTokenExpiresAt := some (later + lifetime)
      subscribedAt := now
      isActive := false
      unsubscribeToken
      consentedAt := some now
      -- an undefined column is not written
      ipAddress := ipAddress <|> existing.bind fun (_, s) => s.ipAddress
      deletedAt := none }
  let id ← okOr (← saveSubscriber (existing.map Prod.fst) subscriber)
    (.conflict "Email is already subscribed.")
  let confirmUrl := cfg.buildFrontendUrl
    s!"/newsletter/confirm?token={encodeURIComponent verificationToken}"
  sendTemplateEmail cfg email "Confirm your newsletter subscription" "newsletter-confirmation"
    [("fullName", fullName), ("confirmUrl", confirmUrl), ("expiresIn", "24 hours")]
  return .subscriber id email now false

def unsubscribe (token : String) : Proc Response := do
  let token := trim token
  let (id, subscriber) ← okOr (← ask (.findOne (.unsubscribeToken token)))
    (.notFound "Invalid unsubscribe token.")
  if ¬ subscriber.isActive ∨ subscriber.deletedAt ≠ none then
    return .message true "You are already unsubscribed."
  -- only `deletedAt` is written, and `isActive` stays as it was
  ask (.softRemove id)
  sendTemplateEmail cfg subscriber.email "You have been unsubscribed" "newsletter-unsubscribed"
    [("fullName", safeNameFromEmail subscriber.email)]
  return .message true "Unsubscribed successfully."

/-- The row with the columns that a confirmation sets. -/
def NewsletterSubscriber.confirmed (s : NewsletterSubscriber) (verifiedAt : Time) :
    NewsletterSubscriber :=
  { s with
    isVerified := true
    isActive := true
    verifiedAt := some verifiedAt
    verificationToken := none
    verificationTokenExpiresAt := none }

def confirm (token : String) : Proc Response := do
  let token := trim token
  let (id, subscriber) ← okOr (← ask (.findOne (.verificationToken token)))
    (.notFound "Invalid confirmation token.")
  let now ← ask .now
  failIf (∃ time ∈ subscriber.verificationTokenExpiresAt, time < now)
    (.badRequest "Confirmation link has expired.")
  failIf (subscriber.deletedAt ≠ none) (.badRequest "Subscription is no longer available.")
  if subscriber.isVerified ∧ subscriber.isActive then
    return .message true "Subscription already confirmed."
  let verifiedAt ← ask .now
  ask (.update id (subscriber.confirmed verifiedAt))
  let unsubscribeUrl := cfg.buildFrontendUrl
    s!"/newsletter/unsubscribe?token={encodeURIComponent subscriber.unsubscribeToken}"
  sendTemplateEmail cfg subscriber.email "Subscription confirmed" "newsletter-confirmed"
    [("fullName", safeNameFromEmail subscriber.email), ("email", subscriber.email),
      ("dashboardUrl", cfg.buildFrontendUrl "/"), ("unsubscribeUrl", unsubscribeUrl)]
  return .message true "Subscription confirmed successfully."

/-! ## Calls -/

inductive Operation where
  | subscribe (email : String) (ipAddress : Option String)
  | unsubscribe (token : String)
  | confirm (token : String)

def Operation.program : Operation → Proc Response
  | subscribe email ipAddress => Newsletter.subscribe cfg email ipAddress
  | unsubscribe token => Newsletter.unsubscribe cfg token
  | confirm token => Newsletter.confirm cfg token

/-- A call, with the time that it takes and its response. -/
structure Call where
  operation : Operation
  began : Time
  ended : Time
  response : Except HttpError Response

/-- The call, run alone. -/
def Step (server : Server) (call : Call) (server' : Server) : Prop :=
  Alone exec (fun w => call.began ≤ w.now ∧ w.now ≤ call.ended) server
    (call.operation.program cfg) call.response server'

end

end Newsletter
