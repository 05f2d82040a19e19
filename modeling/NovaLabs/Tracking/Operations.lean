/-
  Checking into workspaces and out of them, and the live occupancy
  (backend/src/workspace-tracking/providers), as programs over queries.

  There are no transactions: each statement is committed at once.
-/
import NovaLabs.Backend.Entities
import NovaLabs.Lib.JsString
import NovaLabs.Lib.Process
import NovaLabs.Lib.Searches

namespace Tracking

open Lib Process
open Backend (Uuid Time)

/-! ## Entities -/

structure Workspace where
  name : String
  totalSeats : ℤ
  isActive : Bool
  deriving DecidableEq

/-- A log as `create` makes it. -/
structure NewLog where
  userId : Uuid
  workspaceId : Uuid
  bookingId : Option Uuid := none
  notes : Option String := none
  biometricTemplateHash : Option String := none
  biometricStorageReference : Option String := none
  biometricProcessingLocation : Option String := none
  biometricVendor : Option String := none
  deriving DecidableEq

structure WorkspaceLog extends NewLog where
  checkedInAt : Time
  checkedOutAt : Option Time := none
  durationMinutes : Option ℤ := none
  deriving DecidableEq

structure CheckInDto where
  workspaceId : Uuid
  bookingId : Option Uuid := none
  notes : Option String := none
  biometricTemplateHash : Option String := none
  biometricStorageReference : Option String := none
  biometricProcessingLocation : Option String := none
  biometricVendor : Option String := none
  /-- The names of further fields that are set. -/
  further : List String := []

structure Database where
  workspaces : Store Uuid Workspace := ∅
  logs : Store Uuid WorkspaceLog := ∅

/-! ## Queries -/

/-- The options of a search for workspaces. -/
structure WorkspaceWhere where
  id : Condition Uuid := .null
  isActive : Condition Bool := .null

def WorkspaceWhere.selects (which : WorkspaceWhere) (id : Uuid) (ws : Workspace) : Bool :=
  which.id.admits (some id) ∧ which.isActive.admits (some ws.isActive)

/-- The options of a search for logs. -/
structure LogWhere where
  id : Condition Uuid := .null
  userId : Condition Uuid := .null
  workspaceId : Condition Uuid := .null
  checkedOutAt : Condition Time := .null

def LogWhere.selects (which : LogWhere) (id : Uuid) (log : WorkspaceLog) : Bool :=
  which.id.admits (some id) ∧ which.userId.admits (some log.userId) ∧
    which.workspaceId.admits (some log.workspaceId) ∧ which.checkedOutAt.admits log.checkedOutAt

/-- What a save of a closed log writes, by column. -/
structure LogChanges where
  checkedOutAt : Option Time := none
  durationMinutes : Option ℤ := none
  deriving DecidableEq

def WorkspaceLog.set (log : WorkspaceLog) (c : LogChanges) : WorkspaceLog :=
  { log with
    checkedOutAt := c.checkedOutAt.or log.checkedOutAt
    durationMinutes := c.durationMinutes.or log.durationMinutes }

inductive Query where
  | now
  | findWorkspace (which : WorkspaceWhere)
  | findWorkspaces (which : WorkspaceWhere)
  | findLog (which : LogWhere)
  | countLogs (which : LogWhere)
  | insertLog (log : NewLog)
  /-- The read of a save. -/
  | reloadLog (id : Uuid)
  | updateLog (id : Uuid) (changes : LogChanges)
  /-- The insert of a save whose row is gone. -/
  | restoreLog (id : Uuid) (log : WorkspaceLog)

/-- An insert answers with nothing where it breaks a foreign key. -/
@[reducible] def Answer : Query → Type
  | .now => Time
  | .findWorkspace _ => Option (Uuid × Workspace)
  | .findWorkspaces _ => List (Uuid × Workspace)
  | .findLog _ => Option (Uuid × WorkspaceLog)
  | .countLogs _ => ℕ
  | .insertLog _ => Option (Uuid × Time)
  | .reloadLog _ => Option WorkspaceLog
  | .updateLog _ _ | .restoreLog _ _ => Unit

/-- What the world adds to an answer. -/
structure World where
  now : Time := 0
  id : Uuid := ""
  row : Option Uuid := none
  rows : List Uuid := []
  /-- A foreign key refuses the insert. -/
  refused : Bool := false

namespace Database

def setLog (db : Database) (id : Uuid) (log : WorkspaceLog) : Database :=
  { db with logs := db.logs.insert id log }

/-- `UPDATE workspace_logs SET ... WHERE id = ...`. -/
def updateLog (db : Database) (id : Uuid) (c : LogChanges) : Database :=
  match db.logs.lookup id with
  | some log => db.setLog id (log.set c)
  | none => db

/-- The row that an insert adds. -/
def insertLog (db : Database) (w : World) (log : NewLog) : Database :=
  db.setLog w.id { log with checkedInAt := w.now }

end Database

/-- How a query is answered. -/
def exec (w : World) (db : Database) : (q : Query) → Option (Answer q × Database)
  | .now => some (w.now, db)
  | .findWorkspace which => (db.workspaces.findOne which.selects w.row).map (·, db)
  | .findWorkspaces which => (db.workspaces.findMany which.selects w.rows).map (·, db)
  | .findLog which => (db.logs.findOne which.selects w.row).map (·, db)
  | .countLogs which => some (db.logs.count which.selects, db)
  | .insertLog log =>
    if w.refused then some (none, db)
    else if db.logs.lookup w.id = none then some (some (w.id, w.now), db.insertLog w log)
    else none
  | .reloadLog id => some (db.logs.lookup id, db)
  | .updateLog id c => some ((), db.updateLog id c)
  | .restoreLog id log => some ((), db.setLog id log)

/-! ## Operations -/

inductive HttpError where
  | badRequest (message : String)
  | notFound (message : String)
  | internalServerError
  deriving DecidableEq

abbrev Proc (α : Type) := Process Answer HttpError α

def ask (q : Query) : Proc (Answer q) := Process.query q

/-- Trimmed, the text is empty. -/
def isBlank (text : String) : Bool :=
  text.toList.all fun c => c.toNat < 0x10000 ∧ JsString.isSpace (codeUnit c)

/-- Fields for raw biometric templates. -/
def templateFields : List String :=
  ["biometricTemplate", "biometricTemplateData", "biometricSample", "biometricPayload",
    "rawBiometricTemplate", "fingerprintTemplate", "faceTemplate"]

def validateBiometricPrivacy (dto : CheckInDto) : Proc Unit := do
  let deniedFields := templateFields.filter (· ∈ dto.further)
  failIf (0 < deniedFields.length) (.badRequest
    "Raw biometric templates are not allowed. Store only a hash or an opaque storage reference.")
  failIf (dto.biometricProcessingLocation = some "vendor" ∧ dto.biometricVendor.all isBlank)
    (.badRequest "A biometric vendor must be supplied when processing is delegated to a vendor.")

def checkIn (dto : CheckInDto) (userId : Uuid) : Proc (Uuid × WorkspaceLog) := do
  validateBiometricPrivacy dto
  let _ ← okOr (← ask (.findWorkspace { id := .equal dto.workspaceId, isActive := .equal true }))
    (.notFound s!"Workspace \"{dto.workspaceId}\" not found")
  let activeLog ← ask (.findLog
    { userId := .equal userId, workspaceId := .equal dto.workspaceId, checkedOutAt := .isNull })
  failIf (activeLog.isSome) (.badRequest "You already have an active check-in for this workspace")
  let log : NewLog :=
    { userId
      workspaceId := dto.workspaceId
      bookingId := dto.bookingId
      notes := dto.notes
      biometricTemplateHash := dto.biometricTemplateHash
      biometricStorageReference := dto.biometricStorageReference
      biometricProcessingLocation := dto.biometricProcessingLocation
      biometricVendor := dto.biometricVendor }
  let (id, checkedInAt) ← okOr (← ask (.insertLog log)) .internalServerError
  return (id, { log with checkedInAt })

/-- `Math.round` of the minutes. -/
def minutesBetween (start now : Time) : ℤ := (now - start + 30000) / 60000

/-- The log with the columns that a check-out sets. -/
def WorkspaceLog.checkedOut (log : WorkspaceLog) (now : Time) : WorkspaceLog :=
  { log with checkedOutAt := some now, durationMinutes := some (minutesBetween log.checkedInAt now) }

/-- The columns of the held log that differ from the stored one. The others never change. -/
def WorkspaceLog.changes (held stored : WorkspaceLog) : LogChanges where
  checkedOutAt := if held.checkedOutAt = stored.checkedOutAt then none else held.checkedOutAt
  durationMinutes :=
    if held.durationMinutes = stored.durationMinutes then none else held.durationMinutes

/-- `save` reads the stored row, and writes the columns that differ. -/
def saveLog (id : Uuid) (held : WorkspaceLog) : Proc Unit := do
  match ← ask (.reloadLog id) with
  | some stored =>
    let changes := held.changes stored
    if changes ≠ {} then ask (.updateLog id changes)
  | none => ask (.restoreLog id held)

def checkOut (logId userId : Uuid) : Proc (Uuid × WorkspaceLog) := do
  let (id, log) ← okOr (← ask (.findLog
      { id := .equal logId, userId := .equal userId, checkedOutAt := .isNull }))
    (.notFound "Active check-in not found or already checked out")
  let now ← ask .now
  let held := log.checkedOut now
  saveLog id held
  return (id, held)

structure WorkspaceOccupancy where
  workspaceId : Uuid
  workspaceName : String
  totalSeats : ℤ
  currentOccupancy : ℕ
  utilizationPercent : ℤ
  deriving DecidableEq

structure Config where
  /-- `Math.round((currentOccupancy / totalSeats) * 100)`, in floating point. -/
  percent : ℕ → ℤ → ℤ

def occupancyOf (cfg : Config) (id : Uuid) (ws : Workspace) : Proc WorkspaceOccupancy := do
  let currentOccupancy ← ask (.countLogs { workspaceId := .equal id, checkedOutAt := .null })
  return { workspaceId := id
           workspaceName := ws.name
           totalSeats := ws.totalSeats
           currentOccupancy
           utilizationPercent :=
             if 0 < ws.totalSeats then cfg.percent currentOccupancy ws.totalSeats else 0 }

/-- The query builder asks for the id only if it is given. -/
def getCurrentOccupancy (cfg : Config) (workspaceId : Option Uuid) :
    Proc (List WorkspaceOccupancy) := do
  let workspaces ← ask (.findWorkspaces
    { id := .ofNullable (workspaceId.filter (· ≠ "")), isActive := .equal true })
  workspaces.mapM fun (id, ws) => occupancyOf cfg id ws

/-! ## Requests -/

inductive Request where
  | checkIn (dto : CheckInDto) (userId : Uuid)
  | checkOut (logId userId : Uuid)
  | getCurrentOccupancy (workspaceId : Option Uuid)

inductive Response where
  | checkedIn (id : Uuid) (log : WorkspaceLog)
  | checkedOut (id : Uuid) (log : WorkspaceLog)
  | occupancy (list : List WorkspaceOccupancy)

def Request.program (cfg : Config) : Request → Proc Response
  | .checkIn dto userId => do
    let (id, log) ← Tracking.checkIn dto userId
    return .checkedIn id log
  | .checkOut logId userId => do
    let (id, log) ← Tracking.checkOut logId userId
    return .checkedOut id log
  | .getCurrentOccupancy workspaceId =>
    return .occupancy (← Tracking.getCurrentOccupancy cfg workspaceId)

/-- The tracking of workspaces: any number of requests, over one database. -/
def service (cfg : Config) : System Answer Database Request World HttpError Response where
  program := Request.program cfg
  exec _ := exec

abbrev Sessions := Pool Answer Database HttpError Response

abbrev Ev := Event Sessions (Turn Request World)

end Tracking
