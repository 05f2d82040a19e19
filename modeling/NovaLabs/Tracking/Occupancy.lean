/-
  What the live occupancy reports.

  The count asks for logs that have null as `checkedOutAt`, which leaves the condition out.  Hence it
  counts all logs of a workspace, and is right exactly if all are open, and of different users.
-/
import NovaLabs.Tracking.Operations
import NovaLabs.Lib.Alone
import Mathlib.Data.Fintype.Card

namespace Tracking

open Lib Process
open Backend (Uuid Time)

/-! ## Who is there -/

namespace Database

def log (db : Database) (id : Uuid) : Option WorkspaceLog := db.logs.lookup id

def userOf (db : Database) (id : Uuid) : Uuid := (db.log id).elim "" (·.userId)

/-- The users who have checked in at the workspace, and not out yet. -/
def present (db : Database) (workspaceId : Uuid) : Finset Uuid :=
  (db.logs.matching fun _ log => log.workspaceId = workspaceId ∧ log.checkedOutAt = none).image
    db.userOf

/-- The workspace is active. -/
def Active (db : Database) (workspaceId : Uuid) : Prop :=
  ∃ ws, db.workspaces.lookup workspaceId = some ws ∧ ws.isActive

/-- Nobody has left the workspace, and nobody is there twice. -/
def AllPresent (db : Database) (workspaceId : Uuid) : Prop :=
  ∀ id log, db.log id = some log → log.workspaceId = workspaceId →
    log.checkedOutAt = none ∧ ∀ id' log', db.log id' = some log' →
      log'.workspaceId = workspaceId → log'.userId = log.userId → id' = id

end Database

/-- Asked for when nothing else runs, the live occupancy says of each active workspace how many
    users have checked in there, and not out yet. -/
def Reports (cfg : Config) (db : Database) : Prop :=
  ∀ workspaceId result db', Alone exec (fun _ => True) db (getCurrentOccupancy cfg workspaceId)
    result db' → ∃ list, result = .ok list ∧ ∀ id, db.Active id → workspaceId.all (· = id) →
      (∃ o ∈ list, o.workspaceId = id) ∧
      ∀ o ∈ list, o.workspaceId = id → o.currentOccupancy = (db.present id).card

section
variable {cfg : Config} {W : World → Prop} {db db' : Database} {id workspaceId : Uuid}

theorem userOf_eq {log : WorkspaceLog} (h : db.log id = some log) : db.userOf id = log.userId := by
  rw [Database.userOf, h, Option.elim_some]

/-- The condition on `checkedOutAt` is left out. -/
theorem count_eq : db.logs.count
    ({ workspaceId := .equal workspaceId, checkedOutAt := .null } : LogWhere).selects =
      (db.logs.matching fun _ log => log.workspaceId = workspaceId).card := by
  rw [Store.count]
  congr
  funext id log
  simp [LogWhere.selects]

theorem count_eq_iff :
    (db.logs.matching fun _ log => log.workspaceId = workspaceId).card =
      (db.present workspaceId).card ↔ db.AllPresent workspaceId := by
  set all := db.logs.matching fun _ log => log.workspaceId = workspaceId with hall
  set here := db.logs.matching fun _ log =>
    log.workspaceId = workspaceId ∧ log.checkedOutAt = none with hhere
  have hmem {id : Uuid} : id ∈ all ↔ ∃ log, db.log id = some log ∧ log.workspaceId = workspaceId := by
    simp [hall, Store.mem_matching, Database.log]
  have hmem' {id : Uuid} : id ∈ here ↔ ∃ log, db.log id = some log ∧
      log.workspaceId = workspaceId ∧ log.checkedOutAt = none := by
    simp [hhere, Store.mem_matching, Database.log]
  have hsub : here ⊆ all := fun id hid => by
    obtain ⟨log, hlog, hws, -⟩ := hmem'.1 hid
    exact hmem.2 ⟨log, hlog, hws⟩
  constructor
  · intro hcard id log hlog hws
    have hsame : here = all :=
      Finset.eq_of_subset_of_card_le hsub (hcard.le.trans Finset.card_image_le)
    have hinj : Set.InjOn db.userOf here := Finset.card_image_iff.1 (hcard.symm.trans (hsame ▸ rfl))
    have hid : id ∈ here := hsame ▸ hmem.2 ⟨log, hlog, hws⟩
    obtain ⟨log₀, hlog₀, -, hopen⟩ := hmem'.1 hid
    obtain rfl := Option.some.inj (hlog.symm.trans hlog₀)
    refine ⟨hopen, fun id' log' hlog' hws' huser => hinj ?_ hid ?_⟩
    · exact hsame ▸ hmem.2 ⟨log', hlog', hws'⟩
    · rw [userOf_eq hlog', userOf_eq hlog, huser]
  · intro h
    have hsame : here = all := hsub.antisymm fun id hid => by
      obtain ⟨log, hlog, hws⟩ := hmem.1 hid
      exact hmem'.2 ⟨log, hlog, hws, (h id log hlog hws).1⟩
    have hinj : Set.InjOn db.userOf here := by
      intro id' hid' id hid huser
      obtain ⟨log, hlog, hws, -⟩ := hmem'.1 hid
      obtain ⟨log', hlog', hws', -⟩ := hmem'.1 hid'
      rw [userOf_eq hlog', userOf_eq hlog] at huser
      exact (h id log hlog hws).2 id' log' hlog' hws' huser
    rw [← hsame]
    exact (Finset.card_image_iff.2 hinj).symm

theorem exec_total (db : Database) (q : Query) : ∃ w a db', True ∧ exec w db q = some (a, db') := by
  cases q with
  | now | countLogs | reloadLog | updateLog | restoreLog => exact ⟨{}, _, _, trivial, rfl⟩
  | findWorkspace which =>
    obtain ⟨row, found, h⟩ := Store.exists_findOne db.workspaces which.selects
    exact ⟨{ row }, found, db, trivial, Option.map_eq_some_iff.2 ⟨found, h, rfl⟩⟩
  | findWorkspaces which =>
    obtain ⟨rows, found, h⟩ := Store.exists_findMany db.workspaces which.selects
    exact ⟨{ rows }, found, db, trivial, Option.map_eq_some_iff.2 ⟨found, h, rfl⟩⟩
  | findLog which =>
    obtain ⟨row, found, h⟩ := Store.exists_findOne db.logs which.selects
    exact ⟨{ row }, found, db, trivial, Option.map_eq_some_iff.2 ⟨found, h, rfl⟩⟩
  | insertLog log => exact ⟨{ refused := true }, none, db, trivial, rfl⟩

/-- The list has the active workspaces that are asked for, with the count of all their logs. -/
theorem getCurrentOccupancy_alone {which : Option Uuid}
    {result : Except HttpError (List WorkspaceOccupancy)}
    (h : Alone exec W db (getCurrentOccupancy cfg which) result db') :
    ∃ list, result = .ok list ∧
      (∀ id, db.Active id → which.all (· = id) → ∃ o ∈ list, o.workspaceId = id) ∧
      ∀ o ∈ list, o.currentOccupancy =
        (db.logs.matching fun _ log => log.workspaceId = o.workspaceId).card := by
  unfold getCurrentOccupancy at h
  obtain ⟨w, workspaces, _, -, hexec, h⟩ := Alone.query h
  obtain ⟨_, hfind, heq⟩ := Option.map_eq_some_iff.1 hexec
  cases heq
  obtain ⟨-, list, rfl, hto, hof⟩ := Alone.mapM_ok (R := fun c o => o.workspaceId = c.1 ∧
    o.currentOccupancy = (db.logs.matching fun _ log => log.workspaceId = c.1).card)
    (fun ⟨id, ws⟩ _ {_ _} hone => by
      obtain ⟨_, _, _, -, ⟨⟩, hend⟩ := Alone.query hone
      obtain ⟨rfl, rfl⟩ := hend.value
      exact ⟨rfl, _, rfl, rfl, count_eq⟩) h
  refine ⟨list, rfl, ?_, fun o ho => ?_⟩
  · rintro id ⟨ws, hws, hactive⟩ hwhich
    have hselects : ({ id := .ofNullable (which.filter (· ≠ "")), isActive := .equal true } :
        WorkspaceWhere).selects id ws := by
      have hid : ∀ id' ∈ which.filter (· ≠ ""), id' = id := fun id' hid' =>
        of_decide_eq_true ((Option.all_eq_true _ _).1 hwhich id' (Option.filter_eq_some_iff.1 hid').1)
      simpa [WorkspaceWhere.selects, hactive] using hid
    obtain ⟨o, ho, hR, -⟩ := hto (id, ws) ((Store.mem_findMany hfind).2 ⟨hws, hselects⟩)
    exact ⟨o, ho, hR⟩
  · obtain ⟨c, -, hR, hcount⟩ := hof o ho
    rw [hcount, hR]

/-- **The live occupancy is right exactly if everybody who has checked in at an active workspace is
    still there, once.** -/
theorem reports_iff : Reports cfg db ↔ ∀ id, db.Active id → db.AllPresent id := by
  constructor
  · intro h id hactive
    obtain ⟨result, db', halone⟩ := exists_alone (W := fun _ => True) exec_total
      (getCurrentOccupancy cfg none) db
    obtain ⟨list, rfl, hlist⟩ := h none result db' halone
    obtain ⟨list', heq, -, hcount⟩ := getCurrentOccupancy_alone halone
    cases heq
    obtain ⟨⟨o, ho, rfl⟩, hright⟩ := hlist id hactive rfl
    exact count_eq_iff.1 ((hcount o ho).symm.trans (hright o ho rfl))
  · intro h which result db' halone
    obtain ⟨list, rfl, hlist, hcount⟩ := getCurrentOccupancy_alone halone
    refine ⟨list, rfl, fun id hactive hwhich => ⟨hlist id hactive hwhich, ?_⟩⟩
    rintro o ho rfl
    exact (hcount o ho).trans (count_eq_iff.2 (h _ hactive))

end

end Tracking
