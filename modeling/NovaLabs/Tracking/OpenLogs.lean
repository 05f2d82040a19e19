/-
  Open logs, however requests are interleaved.

  A check-in looks for an open log, and inserts one later; a check-out looks its log up while it is
  open, and saves it later.  In between, other requests run.
-/
import NovaLabs.Tracking.Occupancy

namespace Tracking

open Lib Process
open Backend (Uuid Time)

/-! ## Stages -/

/-- The query belongs to no save. -/
def Query.sparesSaves : Query → Bool
  | .reloadLog _ | .updateLog _ _ | .restoreLog _ _ => false
  | _ => true

/-- How far a session has got with closing a log. -/
inductive Stage
  | other
  | leaving
  | holding (id : Uuid) (log : WorkspaceLog)
  | saving (id : Uuid) (held : WorkspaceLog)
  | updating (id : Uuid) (changes : LogChanges)
  | restoring (id : Uuid) (held : WorkspaceLog)
  | left (id : Uuid)

namespace Stage

def permits : Stage → Query → Prop
  | other, q => q.sparesSaves
  | leaving, q => ∃ which : LogWhere, q = .findLog which ∧ which.checkedOutAt = .isNull
  | holding _ _, q => q = .now
  | saving id _, q => q = .reloadLog id
  | updating id changes, q => q = .updateLog id changes
  | restoring id held, q => q = .restoreLog id held
  | left _, _ => False

def after : Stage → (q : Query) → Answer q → Stage
  | leaving, .findLog _, some (id, log) => holding id log
  | leaving, .findLog _, none => other
  | holding id log, .now, now => saving id (log.checkedOut now)
  | saving id held, .reloadLog _, some stored =>
    if held.changes stored = {} then left id else updating id (held.changes stored)
  | saving id held, .reloadLog _, none => restoring id held
  | updating id _, .updateLog _ _, _ | restoring id _, .restoreLog _ _, _ => left id
  | q, _, _ => q

/-- How a session may end at the stage. -/
def ends : Stage → Except HttpError Response → Prop
  | other, r => ∀ id log, r ≠ .ok (.checkedOut id log)
  | left id, r => ∃ log, r = .ok (.checkedOut id log)
  | leaving, _ | holding _ _, _ | saving _ _, _ | updating _ _, _ | restoring _ _, _ => False

/-- The log that is about to be closed. -/
def closing : Stage → Option Uuid
  | holding id _ | saving id _ | updating id _ | restoring id _ => some id
  | other | leaving | left _ => none

/-- The stage at which a request starts. -/
def start : Request → Stage
  | .checkOut _ _ => leaving
  | .checkIn _ _ | .getCurrentOccupancy _ => other

end Stage

def logProtocol : Protocol Answer Stage where
  permits := Stage.permits
  after := Stage.after

/-! ## The programs keep to the protocol -/

section
variable {cfg : Config} {α : Type}

theorem other_after {q : Query} (hq : q.sparesSaves) (a : Answer q) :
    Stage.other.after q a = .other := by
  cases q <;> rfl

theorem other_passes : Passes logProtocol .other Query.sparesSaves :=
  fun _ hq => ⟨hq, other_after hq⟩

theorem checkIn_sparesSaves (dto : CheckInDto) (userId : Uuid) :
    (checkIn dto userId).Only Query.sparesSaves := by
  refine .bind (.bind .failIf fun _ => .failIf) fun _ => .bind (.query rfl) fun _ =>
    .bind .okOr fun _ => .bind (.query rfl) fun _ => .bind .failIf fun _ =>
    .bind (.query rfl) fun _ => .bind .okOr fun _ => trivial

theorem getCurrentOccupancy_sparesSaves (workspaceId : Option Uuid) :
    (getCurrentOccupancy cfg workspaceId).Only Query.sparesSaves :=
  .bind (.query rfl) fun _ => .mapM (fun (_, _) => .bind (.query rfl) fun _ => trivial) _

theorem saveLog_meets (id : Uuid) (held : WorkspaceLog) :
    Meets logProtocol (.saving id held) (saveLog id held) fun q r => q = .left id ∧ r = .ok () := by
  refine Meets.query rfl fun stored => ?_
  cases stored with
  | none => exact ⟨rfl, fun _ => ⟨rfl, rfl⟩⟩
  | some stored =>
    refine Meets.ite (fun hchanges => ?_) fun hsame => ?_
    · have hafter : logProtocol.after (.saving id held) (.reloadLog id) (some stored) =
          .updating id (held.changes stored) := if_neg hchanges
      rw [hafter]
      exact ⟨rfl, fun _ => ⟨rfl, rfl⟩⟩
    · exact ⟨if_pos (not_not.1 hsame), rfl⟩

theorem checkOut_meets (logId userId : Uuid) :
    Meets logProtocol .leaving (checkOut logId userId) fun q r => match r with
      | .ok (id, _) => q = .left id
      | .error _ => q = .other := by
  refine Meets.query ⟨_, rfl, rfl⟩ fun found => ?_
  cases found with
  | none => rfl
  | some found =>
    obtain ⟨id, log⟩ := found
    refine Meets.query rfl fun now => (saveLog_meets id (log.checkedOut now)).seq ?_ ?_
    · rintro _ _ ⟨rfl, -⟩
      rfl
    · rintro _ _ ⟨-, ⟨⟩⟩

theorem program_meets (cfg : Config) (request : Request) :
    Meets logProtocol (Stage.start request) (request.program cfg) Stage.ends := by
  cases request with
  | checkIn dto userId =>
    refine ((checkIn_sparesSaves dto userId).meets other_passes).seq ?_ ?_
    · rintro _ ⟨id, log⟩ rfl _ _ ⟨⟩
    · rintro _ _ rfl _ _ ⟨⟩
  | checkOut logId userId =>
    refine (checkOut_meets logId userId).seq ?_ ?_
    · rintro _ ⟨id, log⟩ rfl
      exact ⟨log, rfl⟩
    · rintro _ _ rfl _ _ ⟨⟩
  | getCurrentOccupancy workspaceId =>
    refine ((getCurrentOccupancy_sparesSaves workspaceId).meets other_passes).seq ?_ ?_
    · rintro _ list rfl _ _ ⟨⟩
    · rintro _ _ rfl _ _ ⟨⟩

end

/-! ## What a query does to the logs -/

namespace Database

def Closed (db : Database) (id : Uuid) : Prop :=
  ∃ log, db.log id = some log ∧ log.checkedOutAt ≠ none

/-- The log is one of the user in the workspace, and open. -/
def Open (db : Database) (userId workspaceId id : Uuid) : Prop :=
  ∃ log, db.log id = some log ∧ log.userId = userId ∧ log.workspaceId = workspaceId ∧
    log.checkedOutAt = none

end Database

/-- What a session's query does to the logs, by the stage of the session. -/
inductive Moves (w : World) (db : Database) : Database → Stage → Query → Stage → Prop
  | idle {op : Query} : (∀ log, op = .insertLog log → w.refused) → Moves w db db .other op .other
  | insert {log : NewLog} : w.refused = false → db.log w.id = none →
      Moves w db (db.insertLog w log) .other (.insertLog log) .other
  | find {which : LogWhere} {id : Uuid} {log : WorkspaceLog} : db.log id = some log →
      log.checkedOutAt = none → Moves w db db .leaving (.findLog which) (.holding id log)
  | miss {which : LogWhere} : Moves w db db .leaving (.findLog which) .other
  | clock {id : Uuid} {log : WorkspaceLog} :
      Moves w db db (.holding id log) .now (.saving id (log.checkedOut w.now))
  | reload {id : Uuid} {held stored : WorkspaceLog} : db.log id = some stored →
      Moves w db db (.saving id held) (.reloadLog id) (.updating id (held.changes stored))
  | lose {id : Uuid} {held : WorkspaceLog} : db.log id = none →
      Moves w db db (.saving id held) (.reloadLog id) (.restoring id held)
  | same {id : Uuid} {held stored : WorkspaceLog} : db.log id = some stored →
      held.changes stored = {} → Moves w db db (.saving id held) (.reloadLog id) (.left id)
  | update {id : Uuid} {changes : LogChanges} :
      Moves w db (db.updateLog id changes) (.updating id changes) (.updateLog id changes) (.left id)
  | restore {id : Uuid} {held : WorkspaceLog} :
      Moves w db (db.setLog id held) (.restoring id held) (.restoreLog id held) (.left id)

section
variable {w : World} {db db' : Database} {q q' : Stage} {op : Query} {a : Answer op} {id : Uuid}

/-- **A permitted query moves as the stages say.** -/
theorem moves (hp : q.permits op) (h : exec w db op = some (a, db')) :
    Moves w db db' q op (q.after op a) := by
  cases q with
  | other =>
    rw [other_after hp]
    cases op with
    | now | countLogs =>
      cases h
      exact .idle (by rintro _ ⟨⟩)
    | findWorkspace | findWorkspaces | findLog =>
      obtain ⟨_, -, heq⟩ := Option.map_eq_some_iff.1 h
      cases heq
      exact .idle (by rintro _ ⟨⟩)
    | insertLog log =>
      rw [exec] at h
      split_ifs at h with hrefused hfree
      · cases h
        exact .idle fun _ _ => hrefused
      · cases h
        exact .insert (Bool.eq_false_iff.2 hrefused) hfree
    | reloadLog | updateLog | restoreLog => cases hp
  | leaving =>
    obtain ⟨which, rfl, hopen⟩ := hp
    obtain ⟨found, hfind, heq⟩ := Option.map_eq_some_iff.1 h
    cases heq
    cases a with
    | none => exact .miss
    | some found =>
      obtain ⟨hlog, hselects⟩ := Store.findOne_some hfind
      refine .find hlog ?_
      have hadmits : which.checkedOutAt.admits found.2.checkedOutAt :=
        (of_decide_eq_true hselects).2.2.2
      rwa [hopen, Condition.admits_isNull] at hadmits
  | holding id log =>
    obtain rfl := hp
    cases h
    exact .clock
  | saving id held =>
    obtain rfl := hp
    cases h
    cases hstored : db.logs.lookup id with
    | none => exact .lose hstored
    | some stored =>
      by_cases hsame : held.changes stored = {}
      · rw [show (Stage.saving id held).after (.reloadLog id) (some stored) = .left id from
          if_pos hsame]
        exact .same hstored hsame
      · rw [show (Stage.saving id held).after (.reloadLog id) (some stored) =
          .updating id (held.changes stored) from if_neg hsame]
        exact .reload hstored
  | updating id changes =>
    obtain rfl := hp
    cases h
    exact .update
  | restoring id held =>
    obtain rfl := hp
    cases h
    exact .restore
  | left id => exact hp.elim

theorem log_setLog (db : Database) (id id' : Uuid) (log : WorkspaceLog) :
    (db.setLog id log).log id' = if id' = id then some log else db.log id' :=
  Store.lookup_insert_ite ..

theorem log_updateLog (db : Database) (id id' : Uuid) (c : LogChanges) :
    (db.updateLog id c).log id' = (db.log id').map fun log => if id' = id then log.set c else log := by
  unfold Database.updateLog
  cases hlog : db.logs.lookup id with
  | none =>
    by_cases h : id' = id
    · rw [h, show db.log id = none from hlog, Option.map_none]
    · simp [h]
  | some log =>
    rw [log_setLog]
    by_cases h : id' = id
    · rw [if_pos h, h, show db.log id = some log from hlog, Option.map_some, if_pos rfl]
    · simp [h]

/-! ## Sessions and their logs -/

/-- The log is the same, and if it has been closed, it is. -/
structure WorkspaceLog.Ages (log log' : WorkspaceLog) : Prop where
  userId : log'.userId = log.userId
  workspaceId : log'.workspaceId = log.workspaceId
  closed : log.checkedOutAt ≠ none → log'.checkedOutAt ≠ none

/-- What a stage says about the stored logs. -/
def Stage.Holds (db : Database) : Stage → Prop
  | other | leaving => True
  | holding id _ => ∃ log, db.log id = some log
  | saving id held => (∃ log, db.log id = some log) ∧ held.checkedOutAt ≠ none
  | updating id changes => (∃ log, db.log id = some log) ∧
      (changes.checkedOutAt ≠ none ∨ db.Closed id)
  | restoring _ _ => False
  | left id => db.Closed id

theorem WorkspaceLog.Ages.refl (log : WorkspaceLog) : log.Ages log := ⟨rfl, rfl, fun h => h⟩

theorem WorkspaceLog.ages_set (log : WorkspaceLog) (c : LogChanges) : log.Ages (log.set c) where
  userId := rfl
  workspaceId := rfl
  closed h heq := h (Option.or_eq_none_iff.1 heq).2

/-- Logs stay, and stay closed. -/
theorem Moves.ages (hm : Moves w db db' q op q') (hq : q.Holds db) {log : WorkspaceLog}
    (hlog : db.log id = some log) : ∃ log', db'.log id = some log' ∧ log.Ages log' := by
  cases hm with
  | idle | find | miss | clock | reload | lose | same => exact ⟨log, hlog, .refl log⟩
  | @insert new _ hfree =>
    refine ⟨log, ?_, .refl log⟩
    rw [Database.insertLog, log_setLog, if_neg, hlog]
    rintro rfl
    cases hfree.symm.trans hlog
  | @update id' c =>
    rw [log_updateLog, hlog, Option.map_some]
    split_ifs
    · exact ⟨_, rfl, log.ages_set c⟩
    · exact ⟨log, rfl, .refl log⟩
  | restore => exact hq.elim

theorem Moves.closed (hm : Moves w db db' q op q') (hq : q.Holds db) (h : db.Closed id) :
    db'.Closed id := by
  obtain ⟨log, hlog, hclosed⟩ := h
  obtain ⟨log', hlog', hages⟩ := hm.ages hq hlog
  exact ⟨log', hlog', hages.closed hclosed⟩

theorem Stage.Holds.step {q₁ : Stage} (h : q₁.Holds db) (hm : Moves w db db' q op q')
    (hq : q.Holds db) : q₁.Holds db' := by
  have hstays {id : Uuid} (h : ∃ log, db.log id = some log) : ∃ log, db'.log id = some log := by
    obtain ⟨log, hlog⟩ := h
    obtain ⟨log', hlog', -⟩ := hm.ages hq hlog
    exact ⟨log', hlog'⟩
  cases q₁ with
  | other | leaving => trivial
  | holding => exact hstays h
  | saving => exact ⟨hstays h.1, h.2⟩
  | updating => exact ⟨hstays h.1, h.2.imp_right (hm.closed hq)⟩
  | restoring => exact h.elim
  | left => exact hm.closed hq h

/-- A save writes the time, where the stored log has another one. -/
theorem changes_closes {held stored : WorkspaceLog} (hheld : held.checkedOutAt ≠ none) :
    (held.changes stored).checkedOutAt ≠ none ∨ stored.checkedOutAt ≠ none := by
  by_cases h : held.checkedOutAt = stored.checkedOutAt
  · exact Or.inr (h ▸ hheld)
  · exact Or.inl (by rwa [WorkspaceLog.changes, if_neg h])

/-- **A session's own query leads to what its next stage says.** -/
theorem Stage.Holds.after (hm : Moves w db db' q op q') (hq : q.Holds db) : q'.Holds db' := by
  cases hm with
  | idle => exact hq
  | insert | miss => trivial
  | find hlog => exact ⟨_, hlog⟩
  | clock => exact ⟨hq, Option.some_ne_none _⟩
  | @reload id held stored hstored =>
    refine ⟨hq.1, (changes_closes hq.2).imp_right fun hclosed => ⟨stored, hstored, hclosed⟩⟩
  | lose hnone =>
    obtain ⟨⟨log, hlog⟩, -⟩ := hq
    cases hnone.symm.trans hlog
  | @same id held stored hstored hsame =>
    refine ⟨stored, hstored, (changes_closes hq.2).resolve_left ?_⟩
    rw [hsame]
    exact fun h => h rfl
  | @update id changes =>
    obtain ⟨⟨log, hlog⟩, hchanges⟩ := hq
    refine ⟨log.set changes, ?_, ?_⟩
    · rw [log_updateLog, hlog, Option.map_some, if_pos rfl]
    · rcases hchanges with hchanges | ⟨log₀, hlog₀, hclosed⟩
      · exact fun heq => hchanges (Option.or_eq_none_iff.1 heq).1
      · obtain rfl := Option.some.inj (hlog.symm.trans hlog₀)
        exact (log.ages_set changes).closed hclosed
  | restore => exact hq.elim

/-! ## One open log for a user and a workspace -/

def OpenUnique (db : Database) : Prop :=
  ∀ userId workspaceId id id', db.Open userId workspaceId id → db.Open userId workspaceId id' → id = id'

/-- The query inserts no second open log. -/
def InsertsFirst (w : World) (db : Database) (op : Query) : Prop :=
  ∀ log, op = .insertLog log → w.refused = false → ∀ id, ¬ db.Open log.userId log.workspaceId id

theorem open_insertLog {log : NewLog} {userId workspaceId : Uuid} (hfree : db.log w.id = none) :
    (db.insertLog w log).Open userId workspaceId id ↔ db.Open userId workspaceId id ∨
      (id = w.id ∧ log.userId = userId ∧ log.workspaceId = workspaceId) := by
  unfold Database.Open
  rw [Database.insertLog, log_setLog]
  by_cases hid : id = w.id
  · subst hid
    simp [hfree]
  · simp [hid]

theorem Moves.open_of (hm : Moves w db db' q op q') (hq : q.Holds db) {userId workspaceId : Uuid}
    (hop : ∀ log, op = .insertLog log → w.refused) (h : db'.Open userId workspaceId id) :
    db.Open userId workspaceId id := by
  cases hm with
  | idle | find | miss | clock | reload | lose | same => exact h
  | insert hnot =>
    rw [hop _ rfl] at hnot
    cases hnot
  | @update id' c =>
    obtain ⟨log, hlog, huser, hws, hopen⟩ := h
    rw [log_updateLog] at hlog
    obtain ⟨log₀, hlog₀, rfl⟩ := Option.map_eq_some_iff.1 hlog
    split_ifs at huser hws hopen with hid
    · exact ⟨log₀, hlog₀, huser, hws, (Option.or_eq_none_iff.1 hopen).2⟩
    · exact ⟨log₀, hlog₀, huser, hws, hopen⟩
  | restore => exact hq.elim

theorem Moves.openUnique_iff (hm : Moves w db db' q op q') (hq : q.Holds db) (h : OpenUnique db) :
    OpenUnique db' ↔ InsertsFirst w db op := by
  by_cases hinserts : ∃ log, op = .insertLog log ∧ w.refused = false
  · obtain ⟨log, rfl, hnot⟩ := hinserts
    cases hm with
    | idle hrefused => cases (hrefused log rfl).symm.trans hnot
    | insert _ hfree =>
      constructor
      · rintro h' _ ⟨⟩ - id hopen
        have hid : id = w.id := h' _ _ id w.id ((open_insertLog hfree).2 (Or.inl hopen))
          ((open_insertLog hfree).2 (Or.inr ⟨rfl, rfl, rfl⟩))
        obtain ⟨log', hlog', -⟩ := hopen
        rw [hid, hfree] at hlog'
        cases hlog'
      · intro hfirst userId workspaceId id id' hopen hopen'
        have hfirst := hfirst log rfl hnot
        rcases (open_insertLog hfree).1 hopen with hopen | ⟨rfl, rfl, rfl⟩ <;>
          rcases (open_insertLog hfree).1 hopen' with hopen' | ⟨rfl, huser, hws⟩
        · exact h _ _ _ _ hopen hopen'
        · subst huser hws
          exact absurd hopen (hfirst id)
        · exact absurd hopen' (hfirst id')
        · rfl
  · have hrefused : ∀ log, op = .insertLog log → w.refused := fun log hop =>
      Bool.not_eq_false _ ▸ fun hnot => hinserts ⟨log, hop, hnot⟩
    refine iff_of_true (fun userId workspaceId id id' hopen hopen' => ?_) fun log hop hnot => ?_
    · exact h _ _ _ _ (hm.open_of hq hrefused hopen) (hm.open_of hq hrefused hopen')
    · exact absurd ⟨log, hop, hnot⟩ hinserts

/-! ## Everybody present -/

/-- A query neither checks a user in twice at an active workspace, nor a user out there. -/
structure KeepsPresent (w : World) (db : Database) (op : Query) (q' : Stage) : Prop where
  inserts : ∀ log, op = .insertLog log → w.refused = false → db.Active log.workspaceId →
    ∀ id, ¬ db.Open log.userId log.workspaceId id
  leaves : ∀ id, q' = .left id → ∀ log, db.log id = some log → ¬ db.Active log.workspaceId

theorem Moves.active_iff (hm : Moves w db db' q op q') : db'.Active id ↔ db.Active id := by
  cases hm with
  | idle | find | miss | clock | reload | lose | same | insert | restore => exact Iff.rfl
  | update =>
    unfold Database.updateLog
    split <;> exact Iff.rfl

/-- Not everybody who has checked in at the workspace of a closed log is present. -/
theorem AllPresent.open_of (h : ∀ id, db.Active id → db.AllPresent id) {log : WorkspaceLog}
    (hlog : db.log id = some log) (hactive : db.Active log.workspaceId) : log.checkedOutAt = none :=
  (h _ hactive id log hlog rfl).1

theorem Moves.allPresent_iff (hm : Moves w db db' q op q') (hq : q.Holds db)
    (h : ∀ id, db.Active id → db.AllPresent id) :
    (∀ id, db'.Active id → db'.AllPresent id) ↔ KeepsPresent w db op q' := by
  have hclosed : ∀ id, q' = .left id → db'.Closed id := by
    rintro id rfl
    exact Stage.Holds.after hm hq
  have hactive {id : Uuid} : db'.Active id ↔ db.Active id := hm.active_iff
  cases hm with
  | idle hrefused =>
    refine iff_of_true h ⟨fun log hop hnot => ?_, nofun⟩
    rw [hrefused log hop] at hnot
    cases hnot
  | find | miss | clock | reload | lose =>
    refine iff_of_true h ⟨?_, ?_⟩
    · rintro _ ⟨⟩
    · rintro _ ⟨⟩
  | same =>
    refine iff_of_true h ⟨?_, ?_⟩
    · rintro _ ⟨⟩
    rintro id heq log hlog hws
    obtain ⟨log', hlog', hnot⟩ := hclosed id heq
    obtain rfl := Option.some.inj (hlog.symm.trans hlog')
    exact hnot (AllPresent.open_of h hlog hws)
  | @insert log hnot hfree =>
    have hlookup {id : Uuid} : (db.insertLog w log).log id =
        if id = w.id then some { log with checkedInAt := w.now } else db.log id := log_setLog ..
    constructor
    · refine fun h' => ⟨?_, nofun⟩
      rintro _ ⟨⟩ - hws id ⟨log₁, hlog₁, huser₁, hws₁, -⟩
      have hne : id ≠ w.id := by
        rintro rfl
        cases hfree.symm.trans hlog₁
      refine hne ((h' _ (hactive.2 hws) w.id _ (hlookup.trans (if_pos rfl)) rfl).2 id log₁ ?_
        hws₁ huser₁)
      rw [hlookup, if_neg hne, hlog₁]
    · intro hkeeps ws hws id log₁ hlog₁ hws₁
      have hfirst {id : Uuid} {log₁ : WorkspaceLog} (hlog₁ : db.log id = some log₁)
          (hws₁ : log₁.workspaceId = ws) (hws' : log.workspaceId = ws) :
          log₁.userId ≠ log.userId := by
        intro huser
        have hopen := (h ws (hactive.1 hws) id log₁ hlog₁ hws₁).1
        exact hkeeps.inserts log rfl hnot (hws' ▸ hactive.1 hws) id
          ⟨log₁, hlog₁, huser, hws₁.trans hws'.symm, hopen⟩
      rw [hlookup] at hlog₁
      split_ifs at hlog₁ with hid
      · cases hlog₁
        refine ⟨rfl, fun id' log' hlog' hws' huser' => ?_⟩
        by_contra hne
        rw [hlookup, if_neg (hid ▸ hne)] at hlog'
        exact hfirst hlog' hws' hws₁ huser'
      · obtain ⟨hopen, hone⟩ := h ws (hactive.1 hws) id log₁ hlog₁ hws₁
        refine ⟨hopen, fun id' log' hlog' hws' huser' => ?_⟩
        rw [hlookup] at hlog'
        split_ifs at hlog' with hid'
        · cases hlog'
          exact absurd huser'.symm (hfirst hlog₁ hws₁ hws')
        · exact hone id' log' hlog' hws' huser'
  | @update id c =>
    constructor
    · refine fun h' => ⟨nofun, ?_⟩
      rintro _ ⟨⟩ log hlog hws
      obtain ⟨log', hlog', hnot⟩ := hclosed id rfl
      refine hnot (AllPresent.open_of h' hlog' (hactive.2 ?_))
      rw [log_updateLog, hlog, Option.map_some, if_pos rfl] at hlog'
      cases hlog'
      exact hws
    · intro hkeeps ws hws id₁ log₁ hlog₁ hws₁
      have hsame {id₁ : Uuid} {log₁ : WorkspaceLog} (hlog₁ : (db.updateLog id c).log id₁ = some log₁)
          (hws₁ : log₁.workspaceId = ws) : db.log id₁ = some log₁ := by
        rw [log_updateLog] at hlog₁
        obtain ⟨log₀, hlog₀, rfl⟩ := Option.map_eq_some_iff.1 hlog₁
        split_ifs at hws₁ ⊢ with hid
        · subst hid
          exact absurd (hws₁ ▸ hactive.1 hws) (hkeeps.leaves id₁ rfl log₀ hlog₀)
        · exact hlog₀
      obtain ⟨hopen, hone⟩ := h ws (hactive.1 hws) id₁ log₁ (hsame hlog₁ hws₁) hws₁
      exact ⟨hopen, fun id' log' hlog' hws' => hone id' log' (hsame hlog' hws') hws'⟩
  | restore => exact hq.elim

/-! ## Each log closed once -/

theorem Stage.Holds.closing (h : q.Holds db) (hq : q.closing = some id) :
    ∃ log, db.log id = some log := by
  cases q with
  | other | leaving | left => cases hq
  | holding =>
    cases hq
    exact h
  | saving | updating =>
    cases hq
    exact h.1
  | restoring => exact h.elim

theorem Moves.closing_left (hm : Moves w db db' q op (.left id)) : q.closing = some id := by
  cases hm <;> rfl

theorem Moves.closing_of (hm : Moves w db db' q op q') (h : q'.closing = some id) :
    q.closing = some id ∨ ¬ db.Closed id := by
  cases hm with
  | idle | insert | miss | same | update | restore => cases h
  | @find _ id' log hlog hopen =>
    cases h
    refine Or.inr fun ⟨log', hlog', hnot⟩ => ?_
    obtain rfl := Option.some.inj (hlog.symm.trans hlog')
    exact hnot hopen
  | clock | reload | lose => exact Or.inl h

theorem Moves.closed_of (hm : Moves w db db' q op q') (hq : q.Holds db) (h : db'.Closed id) :
    db.Closed id ∨ q' = .left id := by
  cases hm with
  | idle | find | miss | clock | reload | lose | same => exact Or.inl h
  | @insert log _ hfree =>
    obtain ⟨log', hlog', hnot⟩ := h
    rw [Database.insertLog, log_setLog] at hlog'
    split_ifs at hlog'
    · cases hlog'
      exact absurd rfl hnot
    · exact Or.inl ⟨log', hlog', hnot⟩
  | @update id' c =>
    obtain ⟨log', hlog', hnot⟩ := h
    rw [log_updateLog] at hlog'
    obtain ⟨log₀, hlog₀, rfl⟩ := Option.map_eq_some_iff.1 hlog'
    by_cases hid : id = id'
    · exact Or.inr (congrArg _ hid.symm)
    · rw [if_neg hid] at hnot
      exact Or.inl ⟨log₀, hlog₀, hnot⟩
  | restore => exact hq.elim

end

/-- The stages are right about the logs, and where a log has been closed before a session that found
    it open, another session has done so. -/
structure Sound (db : Database) (qs : ℕ → Option Stage) : Prop where
  holds : ∀ {t q}, qs t = some q → q.Holds db
  closer : ∀ {t q id}, qs t = some q → q.closing = some id → db.Closed id →
    ∃ t', qs t' = some (.left id)

/-- No two sessions have left with one log. -/
def Once (qs : ℕ → Option Stage) : Prop :=
  ∀ t t' id, qs t = some (.left id) → qs t' = some (.left id) → t = t'

section
variable {w : World} {db db' : Database} {q q' : Stage} {op : Query} {id : Uuid} {t : ℕ}
  {qs : ℕ → Option Stage}

/-- A session that has left stays. -/
theorem Moves.left_stays (hm : Moves w db db' q op q') (ht : qs t = some q) {t' : ℕ}
    (h : qs t' = some (.left id)) : Function.update qs t (some q') t' = some (.left id) := by
  have hne : t' ≠ t := by
    rintro rfl
    cases Option.some.inj (ht.symm.trans h)
    cases hm
  rw [Function.update_of_ne hne, h]

theorem Sound.step (h : Sound db qs) (ht : qs t = some q) (hm : Moves w db db' q op q') :
    Sound db' (Function.update qs t (some q')) where
  holds {t' q₁} hq₁ := by
    rcases update_stage hq₁ with ⟨-, rfl⟩ | ⟨-, hq₁⟩
    · exact Stage.Holds.after hm (h.holds ht)
    · exact (h.holds hq₁).step hm (h.holds ht)
  closer {t' q₁ id} hq₁ hclosing hclosed := by
    rcases hm.closed_of (h.holds ht) hclosed with hclosed | rfl
    · have hother : ∃ t', qs t' = some (.left id) := by
        rcases update_stage hq₁ with ⟨-, rfl⟩ | ⟨-, hq₁⟩
        · rcases hm.closing_of hclosing with hclosing | hopen
          · exact h.closer ht hclosing hclosed
          · exact absurd hclosed hopen
        · exact h.closer hq₁ hclosing hclosed
      obtain ⟨t', ht'⟩ := hother
      exact ⟨t', hm.left_stays ht ht'⟩
    · exact ⟨t, Function.update_self ..⟩

theorem Sound.call (h : Sound db qs) (ht : qs t = none) (request : Request) :
    Sound db (Function.update qs t (some (Stage.start request))) where
  holds {t' q₁} hq₁ := by
    rcases update_stage hq₁ with ⟨-, rfl⟩ | ⟨-, hq₁⟩
    · cases request <;> trivial
    · exact h.holds hq₁
  closer {t' q₁ id} hq₁ hclosing hclosed := by
    rcases update_stage hq₁ with ⟨-, rfl⟩ | ⟨-, hq₁⟩
    · cases request <;> cases hclosing
    · obtain ⟨t₁, ht₁⟩ := h.closer hq₁ hclosing hclosed
      have hne : t₁ ≠ t := by
        rintro rfl
        cases ht.symm.trans ht₁
      exact ⟨t₁, (Function.update_of_ne hne ..).trans ht₁⟩

theorem Sound.once_iff (h : Sound db qs) (ht : qs t = some q) (hm : Moves w db db' q op q')
    (honce : Once qs) : Once (Function.update qs t (some q')) ↔
      ∀ id, q' = .left id → ∃ log, db.log id = some log ∧ log.checkedOutAt = none := by
  constructor
  · rintro honce' id rfl
    have hclosing := hm.closing_left
    obtain ⟨log, hlog⟩ := (h.holds ht).closing hclosing
    refine ⟨log, hlog, ?_⟩
    by_contra hnot
    obtain ⟨t', ht'⟩ := h.closer ht hclosing ⟨log, hlog, hnot⟩
    obtain rfl := honce' t t' id (Function.update_self ..) (hm.left_stays ht ht')
    cases Option.some.inj (ht.symm.trans ht')
    cases hclosing
  · intro hopen t₁ t₂ id h₁ h₂
    have hfirst {t'} (hnew : q' = .left id) (hold : qs t' = some (.left id)) : False := by
      obtain ⟨log, hlog, hlogOpen⟩ := hopen id hnew
      obtain ⟨log', hlog', hnot⟩ := h.holds hold
      obtain rfl := Option.some.inj (hlog.symm.trans hlog')
      exact hnot hlogOpen
    rcases update_stage h₁ with ⟨rfl, hnew₁⟩ | ⟨-, hold₁⟩ <;>
      rcases update_stage h₂ with ⟨rfl, hnew₂⟩ | ⟨-, hold₂⟩
    · rfl
    · exact (hfirst hnew₁.symm hold₂).elim
    · exact (hfirst hnew₂.symm hold₁).elim
    · exact honce _ _ _ hold₁ hold₂

end

/-! ## Runs -/

/-- The database, when no request runs yet. -/
def starting (db : Database) : Sessions := { shared := db }

/-- No two check-outs from one log have gone through. -/
def ClosedOnce (p : Sessions) : Prop :=
  ∀ t t' id log log', p.Ended t (.ok (.checkedOut id log)) →
    p.Ended t' (.ok (.checkedOut id log')) → t = t'

/-- In all states of the run. -/
def Throughout (P : Sessions → Prop) (tr : List Ev) (p : Sessions) : Prop :=
  P p ∧ ∀ e ∈ tr, P e.pre

/-- With the event, a check-out from the log goes through. -/
def Leaves (e : Ev) (id : Uuid) : Prop :=
  ∃ t w log, e.inp = .step t w ∧ e.post.Ended t (.ok (.checkedOut id log))

section
variable {cfg : Config} {tr : List Ev} {e : Ev} {p : Sessions} {db₀ : Database}
  {qs : ℕ → Option Stage} {t : ℕ} {w : World} {q : Stage} {op : Query} {a : Answer op} {id : Uuid}

theorem Tracks.left_iff (h : Tracks logProtocol Stage.ends p qs) :
    (∃ log, p.Ended t (.ok (.checkedOut id log))) ↔ qs t = some (.left id) := by
  constructor
  · rintro ⟨log, hended⟩
    obtain ⟨q, hq, hends⟩ := h.ended hended
    cases q with
    | other => exact absurd rfl (hends id log)
    | left id' =>
      obtain ⟨log', heq⟩ := hends
      cases heq
      exact hq
    | leaving | holding | saving | updating | restoring => exact hends.elim
  · intro hq
    obtain ⟨r, hended, log, rfl⟩ := h.ended_of_stuck hq fun _ hp => hp
    exact ⟨log, hended⟩

theorem closedOnce_iff (h : Tracks logProtocol Stage.ends p qs) : ClosedOnce p ↔ Once qs := by
  constructor
  · intro honce t t' id hq hq'
    obtain ⟨log, hended⟩ := (Tracks.left_iff h).2 hq
    obtain ⟨log', hended'⟩ := (Tracks.left_iff h).2 hq'
    exact honce t t' id log log' hended hended'
  · intro honce t t' id log log' hended hended'
    exact honce t t' id ((Tracks.left_iff h).1 ⟨log, hended⟩) ((Tracks.left_iff h).1 ⟨log', hended'⟩)

theorem leaves_iff (h : (service cfg).Answered logProtocol Stage.ends e qs t w q op a) :
    Leaves e id ↔ q.after op a = .left id := by
  have hafter : (∃ log, e.post.Ended t (.ok (.checkedOut id log))) ↔ _ := Tracks.left_iff h.after
  rw [Function.update_self, Option.some.injEq] at hafter
  refine Iff.trans ?_ hafter
  constructor
  · rintro ⟨t', w', log, hinp, hended⟩
    cases h.inp.symm.trans hinp
    exact ⟨log, hended⟩
  · rintro ⟨log, hended⟩
    exact ⟨t, w, log, h.inp, hended⟩

theorem sound (h : Run (service cfg).Steps (starting db₀) tr p) :
    ∃ qs, Tracks logProtocol Stage.ends p qs ∧ Sound p.shared qs := by
  refine System.invariant (J := fun _ => Sound) (C := fun _ _ => True) (program_meets cfg) ?_
    (fun tr e qs t w q op a hans _ hJ => hJ.step hans.stage (moves hans.permits hans.exec)) h .idle
    ⟨nofun, nofun⟩ fun _ _ _ _ => trivial
  intro tr e t request qs _ ht hshared _ hJ
  exact hshared ▸ hJ.call ht request

/-- A check-out that goes through is from a stored log. -/
theorem Leaves.stored (hleaves : Leaves e id) (h : Run (service cfg).Steps (starting db₀) tr p)
    (he : e ∈ tr) : ∃ log, e.pre.shared.log id = some log := by
  obtain ⟨tr₁, tr₂, rfl⟩ := List.append_of_mem he
  obtain ⟨hrun, hsteps, -⟩ := h.split
  obtain ⟨qs, hqs, hsound⟩ := sound hrun
  rcases hsteps.answered hqs with ⟨t, request, hinp, -⟩ | ⟨t, w, q, op, a, hans⟩
  · obtain ⟨_, _, _, hinp', -⟩ := hleaves
    cases hinp.symm.trans hinp'
  · have hm := moves hans.permits hans.exec
    rw [(leaves_iff hans).1 hleaves] at hm
    exact (hsound.holds hans.stage).closing hm.closing_left

/-- Where each step leads to a state with `P` exactly if it meets `C`, all states of a run have `P`
    exactly if all its steps meet `C`. -/
theorem throughout_iff {P : Sessions → Prop} {C : Ev → Prop}
    (hcall : ∀ e t request qs, e.inp = .call t request → e.post.shared = e.pre.shared →
      Tracks logProtocol Stage.ends e.pre qs →
      Tracks logProtocol Stage.ends e.post (Function.update qs t (some (Stage.start request))) →
      P e.pre → P e.post ∧ C e)
    (hstep : ∀ e qs t w q op a, (service cfg).Answered logProtocol Stage.ends e qs t w q op a →
      Sound e.pre.shared qs → P e.pre → (P e.post ↔ C e))
    (h : Run (service cfg).Steps (starting db₀) tr p) (h₀ : P (starting db₀)) :
    Throughout P tr p ↔ ∀ e ∈ tr, C e := by
  have halways := Run.always_iff (P := fun _ => P) (C := fun _ => C) ?_ h h₀
  · rwa [along_iff_forall, along_iff_forall] at halways
  · intro tr e hrun hsteps hpre
    obtain ⟨qs, hqs, hsound⟩ := sound hrun
    rcases hsteps.answered hqs with ⟨t, request, hinp, -, hshared, hp⟩ | ⟨t, w, q, op, a, hans⟩
    · obtain ⟨hpost, hC⟩ := hcall e t request qs hinp hshared hqs
        (hqs.update hp (program_meets cfg request)) hpre
      exact iff_of_true hpost hC
    · exact hstep e qs t w q op a hans hsound hpre

/-- The check-in inserts no second open log. -/
def InsertsFirstAt (e : Ev) : Prop := OnQuery (fun _ w op => InsertsFirst w e.pre.shared op) e

/-- A check-out that goes through with the event finds its log open. -/
def FindsOpen (e : Ev) : Prop :=
  ∀ id, Leaves e id → ∃ log, e.pre.shared.log id = some log ∧ log.checkedOutAt = none

/-- At active workspaces, nobody checks in twice with the event, and nobody checks out. -/
structure KeepsPresentAt (e : Ev) : Prop where
  inserts : OnQuery (fun _ w op => ∀ log, op = .insertLog log → w.refused = false →
    e.pre.shared.Active log.workspaceId →
    ∀ id, ¬ e.pre.shared.Open log.userId log.workspaceId id) e
  leaves : ∀ id, Leaves e id → ∀ log, e.pre.shared.log id = some log →
    ¬ e.pre.shared.Active log.workspaceId

theorem not_leaves {request : Request} (h : e.inp = .call t request) : ¬ Leaves e id := by
  rintro ⟨_, _, _, hinp, -⟩
  cases h.symm.trans hinp

theorem onQuery_call {C : ℕ → World → Query → Prop} {request : Request}
    (h : e.inp = .call t request) : OnQuery C e := by
  intro _ _ _ hinp
  cases h.symm.trans hinp

theorem openUnique_throughout (h : Run (service cfg).Steps (starting db₀) tr p)
    (h₀ : OpenUnique db₀) :
    Throughout (fun p => OpenUnique p.shared) tr p ↔ ∀ e ∈ tr, InsertsFirstAt e := by
  refine throughout_iff (fun e t request qs he hshared _ _ hpre => ?_)
    (fun e qs t w q op a hans hsound hpre => ?_) h h₀
  · exact ⟨hshared ▸ hpre, onQuery_call he⟩
  · rw [InsertsFirstAt, hans.onQuery_iff]
    exact (moves hans.permits hans.exec).openUnique_iff (hsound.holds hans.stage) hpre

theorem closedOnce_throughout (h : Run (service cfg).Steps (starting db₀) tr p) :
    Throughout ClosedOnce tr p ↔ ∀ e ∈ tr, FindsOpen e := by
  refine throughout_iff (fun e t request qs he _ hqs hqs' hpre => ?_)
    (fun e qs t w q op a hans hsound hpre => ?_) h
    fun _ _ _ _ _ hended => absurd hended.symm (Option.some_ne_none _)
  · refine ⟨(closedOnce_iff hqs').2 fun t₁ t₂ id h₁ h₂ => ?_, fun id hleaves =>
      absurd hleaves (not_leaves he)⟩
    have hnew : Stage.start request ≠ .left id := by cases request <;> exact nofun
    rcases update_stage h₁ with ⟨-, heq⟩ | ⟨-, h₁⟩
    · exact absurd heq.symm hnew
    rcases update_stage h₂ with ⟨-, heq⟩ | ⟨-, h₂⟩
    · exact absurd heq.symm hnew
    exact (closedOnce_iff hqs).1 hpre t₁ t₂ id h₁ h₂
  · rw [closedOnce_iff hans.after]
    refine (hsound.once_iff hans.stage (moves hans.permits hans.exec)
      ((closedOnce_iff hans.before).1 hpre)).trans (forall_congr' fun id => ?_)
    rw [leaves_iff hans]

theorem reports_throughout (h : Run (service cfg).Steps (starting db₀) tr p)
    (h₀ : Reports cfg db₀) :
    Throughout (fun p => Reports cfg p.shared) tr p ↔ ∀ e ∈ tr, KeepsPresentAt e := by
  refine throughout_iff (fun e t request qs he hshared _ _ hpre => ?_)
    (fun e qs t w q op a hans hsound hpre => ?_) h h₀
  · exact ⟨hshared ▸ hpre, onQuery_call he, fun id hleaves => absurd hleaves (not_leaves he)⟩
  · have hiff := (moves hans.permits hans.exec).allPresent_iff (hsound.holds hans.stage)
      (reports_iff.1 hpre)
    refine reports_iff.trans (hiff.trans ⟨fun hkeeps => ⟨?_, ?_⟩, fun hkeeps => ⟨?_, ?_⟩⟩)
    · exact hans.onQuery_iff.2 hkeeps.inserts
    · exact fun id hleaves => hkeeps.leaves id ((leaves_iff hans).1 hleaves)
    · exact hans.onQuery_iff.1 hkeeps.inserts
    · exact fun id hleft => hkeeps.leaves id ((leaves_iff hans).2 hleft)

/-- The law of live occupancy: a user has one open log at most in a workspace, a log is closed once,
    and the live occupancy says how many users have checked in and not out yet. -/
structure LiveOccupancy (cfg : Config) (p : Sessions) : Prop where
  unique : OpenUnique p.shared
  closedOnce : ClosedOnce p
  reports : Reports cfg p.shared

/-- **However requests are interleaved, the law holds in all states exactly if check-ins insert no
    second open log, check-outs find their logs open, and nobody leaves an active workspace.** -/
theorem live_occupancy_iff (hunique : OpenUnique db₀) (hreports : Reports cfg db₀)
    (h : Run (service cfg).Steps (starting db₀) tr p) :
    Throughout (LiveOccupancy cfg) tr p ↔
      ∀ e ∈ tr, InsertsFirstAt e ∧ FindsOpen e ∧ KeepsPresentAt e := by
  have hparts : Throughout (LiveOccupancy cfg) tr p ↔
      Throughout (fun p => OpenUnique p.shared) tr p ∧ Throughout ClosedOnce tr p ∧
        Throughout (fun p => Reports cfg p.shared) tr p := by
    constructor
    · rintro ⟨hp, hpre⟩
      exact ⟨⟨hp.unique, fun e he => (hpre e he).unique⟩,
        ⟨hp.closedOnce, fun e he => (hpre e he).closedOnce⟩,
        ⟨hp.reports, fun e he => (hpre e he).reports⟩⟩
    · rintro ⟨⟨h₁, hpre₁⟩, ⟨h₂, hpre₂⟩, ⟨h₃, hpre₃⟩⟩
      exact ⟨⟨h₁, h₂, h₃⟩, fun e he => ⟨hpre₁ e he, hpre₂ e he, hpre₃ e he⟩⟩
  rw [hparts, openUnique_throughout h hunique, closedOnce_throughout h,
    reports_throughout h hreports]
  simp only [forall_and]

end

/-! ## Examples -/

def oneSpace : Database where
  workspaces := Finmap.insert "w" ⟨"Desk", 4, true⟩ ∅

def plainConfig : Config where
  percent occupancy seats := 100 * occupancy / seats

theorem oneSpace_log (id : Uuid) : oneSpace.log id = none := Finmap.lookup_empty id

theorem oneSpace_unique : OpenUnique oneSpace := by
  rintro _ _ id _ ⟨log, hlog, -⟩
  cases (oneSpace_log id).symm.trans hlog

theorem oneSpace_reports : Reports plainConfig oneSpace := by
  refine reports_iff.2 fun _ _ id log hlog => ?_
  cases (oneSpace_log id).symm.trans hlog

/-- A user checks in. -/
theorem live_occupancy_iff_checkIn : ∃ tr p,
    Run (service plainConfig).Steps (starting oneSpace) tr p ∧
      (p.shared.log "l").any (·.userId = "u") ∧ Throughout (LiveOccupancy plainConfig) tr p := by
  have hplay : ((service plainConfig).play (starting oneSpace)
      [.call 0 (.checkIn { workspaceId := "w" } "u"), .step 0 { row := some "w" }, .step 0 {},
        .step 0 { id := "l" }]).any fun x =>
      (x.2.shared.log "l").any (·.userId = "u") ∧
      ∀ e ∈ x.1, e.pre.shared.logs.keys = ∅ := by decide
  obtain ⟨⟨tr, p⟩, hplay, hfacts⟩ := (Option.any_eq_true _ _).1 hplay
  obtain ⟨hlog, hempty⟩ := of_decide_eq_true hfacts
  have hrun := System.run_play hplay
  have hnone {e : Ev} (he : e ∈ tr) (id : Uuid) : e.pre.shared.log id = none :=
    Finmap.lookup_eq_none.2 fun hmem => by
      have := Finmap.mem_keys.2 hmem
      rw [hempty e he] at this
      exact absurd this (Finset.notMem_empty id)
  refine ⟨tr, p, hrun, hlog, (live_occupancy_iff oneSpace_unique oneSpace_reports hrun).2
    fun e he => ?_⟩
  have hfirst : ∀ userId workspaceId id, ¬ e.pre.shared.Open userId workspaceId id := by
    rintro _ _ id ⟨log, hlog, -⟩
    cases (hnone he id).symm.trans hlog
  have hstays : ∀ id, ¬ Leaves e id := by
    intro id hleaves
    obtain ⟨log, hlog⟩ := hleaves.stored hrun he
    cases (hnone he id).symm.trans hlog
  exact ⟨fun _ _ _ _ _ log _ _ id => hfirst _ _ id, fun id hleaves => absurd hleaves (hstays id),
    fun _ _ _ _ _ log _ _ _ id => hfirst _ _ id, fun id hleaves => absurd hleaves (hstays id)⟩

/-- The session has checked out from the log. -/
def checkedOut (p : Sessions) (t : ℕ) (id : Uuid) : Bool :=
  (p.returned t).any fun r => match r with
    | .checkedOut id' _ => id' = id
    | _ => false

theorem ended_of_checkedOut {p : Sessions} {t : ℕ} {id : Uuid} (h : checkedOut p t id) :
    ∃ log, p.Ended t (.ok (.checkedOut id log)) := by
  obtain ⟨r, hr, hout⟩ := (Option.any_eq_true _ _).1 h
  cases r with
  | checkedOut id' log =>
    obtain rfl := of_decide_eq_true hout
    exact ⟨log, Pool.returned_eq_some.1 hr⟩
  | checkedIn | occupancy => cases hout

/-- Three check-ins of a user race, then two check-outs from the log "l". -/
theorem live_occupancy_fails : ∃ tr p,
    Run (service plainConfig).Steps (starting oneSpace) tr p ∧ ¬ OpenUnique p.shared ∧
      ¬ ClosedOnce p ∧ ¬ Reports plainConfig p.shared := by
  have hplay : ((service plainConfig).play (starting oneSpace)
      [.call 0 (.checkIn { workspaceId := "w" } "u"), .call 1 (.checkIn { workspaceId := "w" } "u"),
        .call 2 (.checkIn { workspaceId := "w" } "u"), .step 0 { row := some "w" },
        .step 1 { row := some "w" }, .step 2 { row := some "w" }, .step 0 {}, .step 1 {}, .step 2 {},
        .step 0 { id := "l" }, .step 1 { id := "m" }, .step 2 { id := "n" },
        .call 3 (.checkOut "l" "u"), .call 4 (.checkOut "l" "u"), .step 3 { row := some "l" },
        .step 4 { row := some "l" }, .step 3 { now := 60000 }, .step 4 { now := 120000 }, .step 3 {},
        .step 4 {}, .step 3 {}, .step 4 {}]).any fun x =>
      (x.2.shared.log "l").any (fun log => log.workspaceId = "w" ∧ log.checkedOutAt ≠ none) ∧
      (x.2.shared.log "m").any (fun log => log.userId = "u" ∧ log.workspaceId = "w" ∧
        log.checkedOutAt = none) ∧
      (x.2.shared.log "n").any (fun log => log.userId = "u" ∧ log.workspaceId = "w" ∧
        log.checkedOutAt = none) ∧
      (x.2.shared.workspaces.lookup "w").any (·.isActive) ∧ checkedOut x.2 3 "l" ∧
      checkedOut x.2 4 "l" := by decide
  obtain ⟨⟨tr, p⟩, hplay, hfacts⟩ := (Option.any_eq_true _ _).1 hplay
  obtain ⟨hl, hm, hn, hw, hfirst, hsecond⟩ := of_decide_eq_true hfacts
  obtain ⟨log, hlog, hl⟩ := (Option.any_eq_true _ _).1 hl
  obtain ⟨hws, hclosed⟩ := of_decide_eq_true hl
  obtain ⟨log₁, hlog₁, hm⟩ := (Option.any_eq_true _ _).1 hm
  obtain ⟨log₂, hlog₂, hn⟩ := (Option.any_eq_true _ _).1 hn
  obtain ⟨ws, hworkspace, hactive⟩ := (Option.any_eq_true _ _).1 hw
  obtain ⟨out, hended⟩ := ended_of_checkedOut hfirst
  obtain ⟨out', hended'⟩ := ended_of_checkedOut hsecond
  refine ⟨tr, p, System.run_play hplay, fun hunique => ?_, fun honce => ?_, fun hreports => ?_⟩
  · have hsame := hunique "u" "w" "m" "n" ⟨log₁, hlog₁, of_decide_eq_true hm⟩
      ⟨log₂, hlog₂, of_decide_eq_true hn⟩
    exact absurd hsame (by decide)
  · exact absurd (honce 3 4 "l" out out' hended hended') (by decide)
  · have hopen := (reports_iff.1 hreports "w" ⟨ws, hworkspace, hactive⟩ "l" log hlog hws).1
    exact hclosed hopen

end Tracking
