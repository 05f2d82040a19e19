/-
  Whom the bearer of a token is taken for: what stands before the handlers (backend/src/auth/strategy,
  backend/src/auth/guard, backend/src/hub, backend/src/metrics and backend/src/notifications).
-/
import NovaLabs.Auth.Operations

namespace Auth

open Lib Process
open Backend (Uuid Time UserRole)

inductive GuardError where
  | unauthorized (message : String)
  | forbidden (message : String)
  deriving DecidableEq

/-- `req.user`. -/
structure Bearer where
  id : Uuid
  fullName : String
  email : String
  role : Option UserRole
  hubId : Option Uuid
  deriving DecidableEq

section
variable (cfg : Config) (db : Database) (token : String) (now : Time)

/-- `jwtService.verify` with the issuer and the audience. -/
def verifyFor : Option JwtClaims :=
  (verifyAt cfg .access token now).filter fun claims =>
    claims.iss = some cfg.issuer ∧ claims.aud = some cfg.audience

/-- `JwtStrategy`: the name and the e-mail are those that are stored, the role and the hub are those
    of the token. -/
def authenticate : Except GuardError Bearer :=
  match verifyFor cfg token now with
  | none => .error (.unauthorized "Unauthorized")
  | some claims =>
    match db.user claims.sub with
    | none => .error (.unauthorized "Invalid access token.")
    | some user => .ok {
        id := claims.sub
        fullName := s!"{user.firstname} {user.lastname}"
        email := user.email
        role := claims.role
        hubId := claims.hubId }

end

/-- `ROLE_HIERARCHY`. -/
def roleLevel : UserRole → ℕ
  | .superAdmin => 4
  | .admin => 3
  | .staff => 2
  | .user => 1

/-- `RolesGuard`. -/
def canActivate (requiredRoles : Option (List UserRole)) (user : Option Bearer) :
    Except GuardError Unit :=
  match requiredRoles, user with
  | none, _ => .ok ()
  | some _, none => .error (.forbidden "user not authenticated")
  | some requiredRoles, some user =>
    let userLevel := (user.role.map roleLevel).getD 0
    if requiredRoles.any fun role => roleLevel role ≤ userLevel then .ok ()
    else .error (.forbidden "You do not have permission to perform this action")

/-- What is logged of a switch of hubs. -/
structure HubSwitch where
  actorId : Uuid
  actorEmail : String
  actorRole : Option UserRole
  targetId : Uuid
  deriving DecidableEq

structure Tenant where
  hubId : Option Uuid
  switched : Option HubSwitch := none
  deriving DecidableEq

def Bearer.isAdmin (user : Bearer) : Bool :=
  user.role = some .admin ∨ user.role = some .superAdmin

/-- `TenantInterceptor`. A header that is empty counts for none. -/
def resolveTenant (defaultHubId headerHubId : Option Uuid) (user : Option Bearer) :
    Except GuardError Tenant :=
  let userHubId := user.bind (·.hubId)
  match headerHubId.filter (· ≠ ""), user with
  | none, _ => .ok { hubId := userHubId <|> defaultHubId }
  | some header, user =>
    if some header = userHubId then .ok { hubId := userHubId <|> defaultHubId }
    else match user.filter Bearer.isAdmin with
      | some admin => .ok {
          hubId := some header
          switched := some {
            actorId := admin.id, actorEmail := admin.email, actorRole := admin.role
            targetId := header } }
      | none => .error (.forbidden "You do not have permission to switch hubs.")

section
variable (cfg : Config) (db : Database) (token : String) (now : Time)

/-- The guards of a handler and the interceptor, one after the other. -/
def passGuards (requiredRoles : Option (List UserRole)) (headerHubId : Option Uuid) :
    Except GuardError (Bearer × Tenant) := do
  let bearer ← authenticate cfg db token now
  canActivate requiredRoles (some bearer)
  let tenant ← resolveTenant cfg.defaultHubId headerHubId (some bearer)
  return (bearer, tenant)

/-- `MetricsAuthGuard`, for the token that is configured, trimmed, or the empty string. -/
def readMetrics (scrapeToken : String) : Except GuardError Unit :=
  if scrapeToken ≠ "" ∧ token ≠ "" ∧ token = scrapeToken then .ok ()
  else if token = "" then .error (.unauthorized "Invalid metrics scrape credentials")
  else match verifyFor cfg token now with
    | some claims =>
      if claims.role = some .admin ∨ claims.role = some .superAdmin then .ok ()
      else .error (.forbidden "Insufficient role to read metrics")
    | none => .error (.unauthorized "Invalid metrics scrape credentials")

/-- `NotificationsGateway.handleConnection`: whose room the client joins, if it stays connected. -/
def handleConnection : Option Uuid :=
  if token = "" then none else (verifyAt cfg .access token now).map (·.sub)

end

end Auth
