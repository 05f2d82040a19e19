/-
  Backup codes.

  A call takes a code off the list of the user that it has read, and saves what is left.  If another
  call has saved the user in between, the code of either comes back, or one code opens two sessions.
-/
import NovaLabs.Auth.RefreshProtocol
import NovaLabs.Auth.Enrolment

namespace Auth

open Lib Process
open Backend (Uuid Time)

/-! ## Stages -/

/-- A call has been given a code, and a user; it holds the user as it was read, with the codes and the
    index of the given one; it is about to save what is left; it has done so; or it is refused. -/
inductive BackupStage where
  | other
  | presented (code : String)
  | verified (code : String) (userId : Uuid)
  | held (code : String) (id : Uuid) (user : User) (codes : List String) (index : ℕ)
  | saving (code : String) (id : Uuid) (changes : UserChanges) (codes : List String) (index : ℕ)
  | saved (code : String) (id : Uuid)
  | refused

/-- The user, without the code at the index. -/
def User.without (user : User) (codes : List String) (index : ℕ) : User :=
  { user with totpBackupCodes := some (codes.eraseIdx index) }

namespace BackupStage

def permits : BackupStage → Query → Prop
  | other, _ => True
  | presented _, op => ∃ token, op = .verify .access token
  | verified _ userId, op => op = .findUser (.byId userId)
  | held _ id _ _ _, op => op = .reloadUser id
  | saving _ id changes _ _, op => op = .updateUser id changes
  | saved _ _, op => op.sparesUsers
  | refused, _ => False

def after (cfg : Config) : BackupStage → (op : Query) → Answer op → BackupStage
  | presented code, .verify _ _, some claims =>
    if claims.type = some "2fa_pending" then verified code claims.sub else refused
  | verified code _, .findUser _, some (id, user) =>
    match user.totpBackupCodes.filter (· ≠ []) with
    | none => refused
    | some codes => match codes.findIdx? (cfg.compare code) with
      | none => refused
      | some index => held code id user codes index
  | held code id user codes index, .reloadUser _, some stored =>
    let changes := (user.without codes index).changes {} stored
    if changes ≠ {} then saving code id changes codes index else saved code id
  | held code id _ _ _, .reloadUser _, none => saved code id
  | saving code id _ _ _, .updateUser _ _, _ => saved code id
  | presented _, .verify _ _, none | verified _ _, .findUser _, none => refused
  | q, _, _ => q

/-- How a call may end at the stage. -/
def ends : BackupStage → Except HttpError Response → Prop
  | other, _ => True
  | saved _ id, r => ∃ result, r = .ok (.backupLogin result) ∧ result.id = id
  | refused, r => ∃ e, r = .error e
  | presented _, _ | verified _ _, _ | held _ _ _ _ _, _ | saving _ _ _ _ _, _ => False

/-- The code that the call was given. -/
def code : BackupStage → Option String
  | presented code | verified code _ | held code _ _ _ _ | saving code _ _ _ _ | saved code _ =>
    some code
  | other | refused => none

/-- The stage at which a request starts. -/
def start : Request → BackupStage
  | .verifyBackupCode dto => presented dto.backupCode
  | _ => other

end BackupStage

/-- Logins with backup codes. -/
def Request.IsBackup : Request → Prop
  | .verifyBackupCode _ => True
  | _ => False

theorem Request.isBackup_iff {request : Request} :
    request.IsBackup ↔ ∃ dto, request = .verifyBackupCode dto := by
  cases request with
  | verifyBackupCode dto => exact ⟨fun _ => ⟨dto, rfl⟩, fun _ => trivial⟩
  | _ => exact ⟨False.elim, nofun⟩

def backupProtocol (cfg : Config) : Protocol Answer BackupStage where
  permits := BackupStage.permits
  after := BackupStage.after cfg

section
variable {cfg : Config} {id : Uuid} {user : User}

/-! ## A call meets the protocol -/

theorem saved_passes (code : String) :
    Passes (backupProtocol cfg) (.saved code id) Query.sparesUsers :=
  fun op hop => ⟨hop, fun _ => by cases op <;> rfl⟩

theorem saveUser_meets (code : String) (codes : List String) (index : ℕ) :
    Meets (backupProtocol cfg) (.held code id user codes index)
      (saveUser id (user.without codes index) {}) fun q r => q = .saved code id ∧ r = .ok () := by
  refine Meets.query rfl fun stored => ?_
  cases stored with
  | none => exact ⟨rfl, rfl⟩
  | some stored =>
    refine Meets.ite (fun hchanges => ?_) fun hsame => ?_
    · have hafter : (backupProtocol cfg).after (.held code id user codes index) (.reloadUser id)
          (some stored) = .saving code id _ codes index := if_pos hchanges
      rw [hafter]
      exact Meets.query rfl fun _ => ⟨rfl, rfl⟩
    · exact ⟨if_neg hsame, rfl⟩

theorem verifyBackupCode_meets (dto : UseBackupCodeDto) :
    Meets (backupProtocol cfg) (.presented dto.backupCode) (verifyBackupCode cfg dto) fun q r =>
      q.ends (r.map Response.backupLogin) := by
  unfold verifyBackupCode verifyTempToken
  rw [bind_assoc]
  refine Meets.query ⟨_, rfl⟩ fun claims => ?_
  rw [bind_assoc]
  cases claims with
  | none => exact ⟨_, rfl⟩
  | some claims =>
  refine Meets.okOr nofun fun claims' heq => ?_
  cases heq
  rw [bind_assoc]
  refine Meets.failIf (fun htype => ?_) fun htype => ?_
  · have hafter : (backupProtocol cfg).after (.presented dto.backupCode)
        (.verify .access dto.tempToken) (some claims) = .refused := if_neg htype
    rw [hafter]
    exact ⟨_, rfl⟩
  have hafter : (backupProtocol cfg).after (.presented dto.backupCode)
      (.verify .access dto.tempToken) (some claims) = .verified dto.backupCode claims.sub :=
    if_pos (not_not.1 htype)
  rw [hafter]
  refine Meets.query rfl fun found => ?_
  cases found with
  | none => exact ⟨_, rfl⟩
  | some found =>
  obtain ⟨id, user⟩ := found
  have hfound : (backupProtocol cfg).after (.verified dto.backupCode claims.sub)
      (.findUser (.byId claims.sub)) (some (id, user)) =
      match user.totpBackupCodes.filter (· ≠ []) with
      | none => .refused
      | some codes => match codes.findIdx? (cfg.compare dto.backupCode) with
        | none => .refused
        | some index => .held dto.backupCode id user codes index := rfl
  rw [hfound]
  refine Meets.okOr nofun fun found heq => ?_
  cases heq
  refine Meets.okOr (fun hnone => ?_) fun codes hcodes => ?_
  · rw [hnone]
    exact ⟨_, rfl⟩
  rw [hcodes]
  dsimp only
  refine Meets.okOr (fun hnone => ?_) fun index hindex => ?_
  · rw [hnone]
    exact ⟨_, rfl⟩
  rw [hindex]
  refine Meets.seq (saveUser_meets dto.backupCode codes index) (fun q a hq => ?_) fun _ _ hq =>
    nomatch hq.2
  obtain ⟨rfl, -⟩ := hq
  rw [generateTokens_bind]
  exact Meets.pass (saved_passes _) rfl fun _ => Meets.pass (saved_passes _) rfl fun _ =>
    ⟨_, rfl, rfl⟩

theorem program_backup (cfg : Config) (request : Request) :
    Meets (backupProtocol cfg) (.start request) (request.program cfg) BackupStage.ends := by
  have hother (x : Proc Response) : Meets (backupProtocol cfg) .other x BackupStage.ends := by
    induction x with
    | done r => trivial
    | ask op next ih => exact ⟨trivial, fun a => ih a⟩
  cases request with
  | verifyBackupCode dto => exact (verifyBackupCode_meets dto).seq (fun _ _ h => h) fun _ _ h => h
  | _ => exact hother _

/-! ## The list of a user -/

/-- The hashes of the backup codes that are left to the user. -/
def Database.backupCodes (db : Database) (id : Uuid) : Option (List String) :=
  (db.user id).bind (·.totpBackupCodes)

/-- No code matches two hashes of the list. -/
def Distinct (cfg : Config) (hashes : List String) : Prop :=
  hashes.Pairwise fun hash hash' => ∀ code, ¬ (cfg.compare code hash ∧ cfg.compare code hash')

/-- No hash of the list matches the code. -/
def Lacks (cfg : Config) (hashes : List String) (code : String) : Prop :=
  ∀ hash ∈ hashes, ¬ cfg.compare code hash

theorem Distinct.lacks {hashes : List String} {code : String} {index : ℕ} (h : Distinct cfg hashes)
    (hindex : hashes.findIdx? (cfg.compare code) = some index) :
    Lacks cfg (hashes.eraseIdx index) code := by
  obtain ⟨hlt, hmatch, hfirst⟩ := List.findIdx?_eq_some_iff_getElem.1 hindex
  intro hash hmem hcode
  obtain ⟨i, hi, hne, rfl⟩ := List.mem_eraseIdx_iff_getElem.1 hmem
  rcases lt_or_gt_of_ne hne with hlt' | hgt
  · exact hfirst i hlt' hcode
  · exact List.pairwise_iff_getElem.1 h index i hlt hi hgt code ⟨hmatch, hcode⟩

theorem Lacks.sublist {hashes hashes' : List String} {code : String} (h : Lacks cfg hashes code)
    (hsub : hashes'.Sublist hashes) : Lacks cfg hashes' code :=
  fun hash hmem => h hash (hsub.subset hmem)

theorem not_lacks {hashes : List String} {code : String} {index : ℕ}
    (hindex : hashes.findIdx? (cfg.compare code) = some index) : ¬ Lacks cfg hashes code := by
  obtain ⟨hlt, hmatch, -⟩ := List.findIdx?_eq_some_iff_getElem.1 hindex
  exact fun h => h _ (List.getElem_mem hlt) hmatch

/-! ## Calls that save one at a time -/

/-- The turn answers the query of the session. -/
def Answers (e : Ev) (t : ℕ) (op : Query) : Prop := (∃ w, e.inp = .step t w) ∧ e.pre.Asks t op

/-- Another session saves the user. -/
def SavesBeside (t : ℕ) (id : Uuid) (e : Ev) : Prop :=
  ∃ t' c, t' ≠ t ∧ Answers e t' (.updateUser id c)

/-- Another session has saved the user since the session has read it. -/
def Overlapped (tr : List Ev) (t : ℕ) (id : Uuid) : Prop :=
  Since (SavesBeside t id) (fun e => ¬ Answers e t (.findUser (.byId id))) tr

/-- A session that saves a user is the only one to do so since it has read the user. -/
def SavesAlone (tr : List Ev) (e : Ev) : Prop :=
  ∀ t id op, Answers e t op → (op = .reloadUser id ∨ ∃ c, op = .updateUser id c) →
    ¬ Overlapped tr t id

theorem Answers.unique {e : Ev} {t t' : ℕ} {op op' : Query} (h : Answers e t op)
    (h' : Answers e t' op') : t' = t ∧ op' = op := by
  obtain ⟨⟨w, hinp⟩, next, hnext⟩ := h
  obtain ⟨⟨w', hinp'⟩, next', hnext'⟩ := h'
  cases hinp.symm.trans hinp'
  cases hnext.symm.trans hnext'
  exact ⟨rfl, rfl⟩

theorem overlapped_snoc {tr : List Ev} {e : Ev} {t : ℕ} : Overlapped (tr ++ [e]) t id ↔
    SavesBeside t id e ∨ (Overlapped tr t id ∧ ¬ Answers e t (.findUser (.byId id))) := since_snoc

/-- The turn of another session. -/
theorem Overlapped.other {tr : List Ev} {e : Ev} {t t' : ℕ} {op : Query} (h : Overlapped tr t' id)
    (he : Answers e t op) (ht : t' ≠ t) : Overlapped (tr ++ [e]) t' id :=
  overlapped_snoc.2 (Or.inr ⟨h, fun h' => ht (he.unique h').1⟩)

/-- A turn of the session itself, after it has read the user. -/
theorem Overlapped.own {tr : List Ev} {e : Ev} {t : ℕ} {op : Query} (h : Overlapped tr t id)
    (he : Answers e t op) (hop : ∀ which, op ≠ .findUser which) : Overlapped (tr ++ [e]) t id :=
  overlapped_snoc.2 (Or.inr ⟨h, fun h' => hop _ (he.unique h').2.symm⟩)

/-! ## Invariants -/

/-- A session that has read the user, and is not overlapped, has read the stored list.  The list lacks
    the codes that are used. -/
def BackupStage.Holds (cfg : Config) (id : Uuid) (tr : List Ev) (db : Database) (t : ℕ) :
    BackupStage → Prop
  | other => False
  | held code id' user codes index => id' = id → user.totpBackupCodes = some codes ∧
      codes.findIdx? (cfg.compare code) = some index ∧
      (¬ Overlapped tr t id → db.backupCodes id = some codes)
  | saving code id' changes codes index => id' = id →
      changes.totpBackupCodes = some (some (codes.eraseIdx index)) ∧
      codes.findIdx? (cfg.compare code) = some index ∧
      (¬ Overlapped tr t id → db.backupCodes id = some codes)
  | saved code id' => id' = id → ∀ hashes, db.backupCodes id = some hashes → Lacks cfg hashes code
  | presented _ | verified _ _ | refused => True

structure BackupCodes (cfg : Config) (id : Uuid) (hashes : List String) (tr : List Ev)
    (db : Database) (qs : ℕ → Option BackupStage) : Prop where
  given : ∀ {t dto}, Called tr t (.verifyBackupCode dto) →
    ∃ q, qs t = some q ∧ (q = .refused ∨ q.code = some dto.backupCode)
  stored : ∃ left, db.backupCodes id = some left ∧ left.Sublist hashes
  holds : ∀ {t q}, qs t = some q → q.Holds cfg id tr db t
  apart : ∀ {t t' code}, qs t = some (.saved code id) → qs t' = some (.saved code id) → t = t'

/-- The list of the user stays, or the session saves a part of it. -/
def Shrinks (id : Uuid) (t : ℕ) (e : Ev) : Prop :=
  e.post.shared.backupCodes id = e.pre.shared.backupCodes id ∨
    ∃ c codes left, Answers e t (.updateUser id c) ∧ e.pre.shared.backupCodes id = some codes ∧
      e.post.shared.backupCodes id = some left ∧ left.Sublist codes

/-- The stages of the other sessions. -/
theorem BackupStage.Holds.other {tr : List Ev} {e : Ev} {t t' : ℕ} {q : BackupStage} {op : Query}
    (h : q.Holds cfg id tr e.pre.shared t') (he : Answers e t op) (ht : t' ≠ t)
    (hshrinks : Shrinks id t e) : q.Holds cfg id (tr ++ [e]) e.post.shared t' := by
  have hkeep {codes : List String}
      (hcodes : ¬ Overlapped tr t' id → e.pre.shared.backupCodes id = some codes)
      (hnot : ¬ Overlapped (tr ++ [e]) t' id) : e.post.shared.backupCodes id = some codes := by
    rcases hshrinks with hsame | ⟨c, _, _, hsave, -⟩
    · exact hsame.trans (hcodes fun hover => hnot (hover.other he ht))
    · exact absurd (overlapped_snoc.2 (Or.inl ⟨t, c, ht.symm, hsave⟩)) hnot
  cases q with
  | other => exact h.elim
  | presented | verified | refused => trivial
  | held code id' user codes index =>
    intro hid
    obtain ⟨huser, hindex, hcodes⟩ := h hid
    exact ⟨huser, hindex, hkeep hcodes⟩
  | saving code id' changes codes index =>
    intro hid
    obtain ⟨hchanges, hindex, hcodes⟩ := h hid
    exact ⟨hchanges, hindex, hkeep hcodes⟩
  | saved code id' =>
    intro hid left hleft
    rcases hshrinks with hsame | ⟨c, codes, left', -, hcodes, hleft', hsub⟩
    · exact h hid left (hsame.symm.trans hleft)
    · obtain rfl := Option.some.inj (hleft'.symm.trans hleft)
      exact (h hid codes hcodes).sublist hsub

theorem after_code {q : BackupStage} {op : Query} {a : Answer op} (hp : q.permits op) :
    q.after cfg op a = .refused ∨ (q.after cfg op a).code = q.code := by
  cases q with
  | other => cases op <;> exact Or.inr rfl
  | refused => exact hp.elim
  | presented code =>
    obtain ⟨token, rfl⟩ := hp
    cases a with
    | none => exact Or.inl rfl
    | some claims =>
      simp only [BackupStage.after]
      split_ifs
      · exact Or.inr rfl
      · exact Or.inl rfl
  | verified code userId =>
    obtain rfl := hp
    cases a with
    | none => exact Or.inl rfl
    | some found =>
      simp only [BackupStage.after]
      split
      · exact Or.inl rfl
      · split
        · exact Or.inl rfl
        · exact Or.inr rfl
  | held code id user codes index =>
    obtain rfl := hp
    cases a with
    | none => exact Or.inr rfl
    | some stored =>
      simp only [BackupStage.after]
      split_ifs <;> exact Or.inr rfl
  | saving code id changes codes index =>
    obtain rfl := hp
    exact Or.inr rfl
  | saved code id => cases op <;> exact Or.inr rfl

theorem backupCodes_eq {db db' : Database} (h : db'.user id = db.user id) :
    db'.backupCodes id = db.backupCodes id := congrArg (Option.bind · _) h

/-- The save of what is left writes it, where the stored list is the whole one. -/
theorem without_changes (user : User) {stored : User} {codes : List String} {index : ℕ} {code : String}
    (undefined : Undefined) (hlist : stored.totpBackupCodes = some codes)
    (hindex : codes.findIdx? (cfg.compare code) = some index) :
    ((user.without codes index).changes undefined stored).totpBackupCodes =
      some (some (codes.eraseIdx index)) := by
  obtain ⟨hlt, -⟩ := List.findIdx?_eq_some_iff_getElem.1 hindex
  refine Backend.differing_eq_some.2 ⟨fun heq => ?_, rfl⟩
  have hlength := congrArg List.length (Option.some.inj (heq.trans hlist))
  rw [List.length_eraseIdx_of_lt hlt] at hlength
  omega

/-- What a session does to its own stage, and to the list. -/
theorem own_step {tr : List Ev} {e : Ev} {qs : ℕ → Option BackupStage} {t : ℕ} {w : World}
    {q : BackupStage} {op : Query} {a : Answer op} {hashes : List String}
    (hdistinct : Distinct cfg hashes)
    (hstored : ∃ left, e.pre.shared.backupCodes id = some left ∧ left.Sublist hashes)
    (hholds : q.Holds cfg id tr e.pre.shared t)
    (hans : (service cfg).Answered (backupProtocol cfg) BackupStage.ends e qs t w q op a)
    (halone : SavesAlone tr e) :
    Shrinks id t e ∧ (q.after cfg op a).Holds cfg id (tr ++ [e]) e.post.shared t ∧
      ∀ code, q.after cfg op a = .saved code id → q = .saved code id ∨
        ∃ codes, e.pre.shared.backupCodes id = some codes ∧ ¬ Lacks cfg codes code := by
  have he : Answers e t op := ⟨⟨w, hans.inp⟩, hans.asks⟩
  have hexec : exec cfg w e.pre.shared op = some (a, e.post.shared) := hans.exec
  have hp : q.permits op := hans.permits
  have hsame (hop : op.sparesUsers) :
      e.post.shared.backupCodes id = e.pre.shared.backupCodes id :=
    backupCodes_eq (exec_user hexec hop id)
  cases q with
  | other => exact hholds.elim
  | refused => exact hp.elim
  | presented code =>
    obtain ⟨token, rfl⟩ := hp
    refine ⟨Or.inl (hsame rfl), ?_⟩
    cases a with
    | none => exact ⟨trivial, nofun⟩
    | some claims =>
      simp only [BackupStage.after]
      split_ifs
      · exact ⟨trivial, nofun⟩
      · exact ⟨trivial, nofun⟩
  | verified code userId =>
    obtain rfl := hp
    refine ⟨Or.inl (hsame rfl), ?_⟩
    cases a with
    | none => exact ⟨trivial, nofun⟩
    | some found =>
      obtain ⟨id', user⟩ := found
      simp only [BackupStage.after]
      split
      · exact ⟨trivial, nofun⟩
      next codes hcodes =>
      split
      · exact ⟨trivial, nofun⟩
      next index hindex =>
      refine ⟨fun hid => ?_, nofun⟩
      have hcodes := (Option.filter_eq_some_iff.1 hcodes).1
      refine ⟨hcodes, hindex, fun _ => ?_⟩
      obtain ⟨-, huser, -⟩ := findUser_some hexec
      rw [hsame rfl, Database.backupCodes, ← hid, huser]
      exact hcodes
  | held code id' user codes index =>
    obtain rfl := hp
    refine ⟨Or.inl (hsame rfl), ?_⟩
    by_cases hid : id' = id
    · subst hid
      obtain ⟨huser, hindex, hcodes⟩ := hholds rfl
      have hnot := halone t id' _ he (Or.inl rfl)
      obtain ⟨stored, hreload, hlist⟩ := Option.bind_eq_some_iff.1 (hcodes hnot)
      have ha : e.pre.shared.user id' = a := (Prod.mk.inj (Option.some.inj hexec)).1
      rw [hreload] at ha
      subst ha
      have hchanges := without_changes user {} hlist hindex
      have hafter : (BackupStage.held code id' user codes index).after cfg (.reloadUser id')
          (some stored) = .saving code id' ((user.without codes index).changes {} stored) codes index :=
        if_pos fun hnone => by
          rw [hnone] at hchanges
          cases hchanges
      rw [hafter]
      refine ⟨fun _ => ⟨hchanges, hindex, fun hnot' => (hsame rfl).trans (hcodes ?_)⟩, nofun⟩
      exact fun hover => hnot' (hover.own he nofun)
    · cases a with
      | none => exact ⟨fun h => absurd h hid, fun _ heq => by cases heq; exact absurd rfl hid⟩
      | some stored =>
        simp only [BackupStage.after]
        split_ifs
        · exact ⟨fun h => absurd h hid, nofun⟩
        · exact ⟨fun h => absurd h hid, fun _ heq => by cases heq; exact absurd rfl hid⟩
  | saving code id' changes codes index =>
    obtain rfl := hp
    have hrow := updateUser_row hexec id
    by_cases hid : id' = id
    · subst hid
      obtain ⟨hchanges, hindex, hcodes⟩ := hholds rfl
      have hcodes := hcodes (halone t id' _ he (Or.inr ⟨changes, rfl⟩))
      obtain ⟨stored, huser, hlist⟩ := Option.bind_eq_some_iff.1 hcodes
      have hleft : e.post.shared.backupCodes id' = some (codes.eraseIdx index) := by
        rw [Database.backupCodes, hrow, huser, Option.map_some, if_pos rfl, Option.bind_some,
          User.set, hchanges, Option.getD_some]
      have hdistinct' : Distinct cfg codes := by
        obtain ⟨left, hleft, hsub⟩ := hstored
        obtain rfl := Option.some.inj (hcodes.symm.trans hleft)
        exact hdistinct.sublist hsub
      refine ⟨Or.inr ⟨changes, codes, _, he, hcodes, hleft, List.eraseIdx_sublist ..⟩, ?_,
        fun code' heq => ?_⟩
      · intro _ left hleft'
        obtain rfl := Option.some.inj (hleft.symm.trans hleft')
        exact hdistinct'.lacks hindex
      · cases heq
        exact Or.inr ⟨codes, hcodes, not_lacks hindex⟩
    · refine ⟨Or.inl (backupCodes_eq ?_), fun h => absurd h hid, fun _ heq => ?_⟩
      · rw [hrow]
        cases e.pre.shared.user id with
        | none => rfl
        | some user => exact congrArg some (if_neg (Ne.symm hid))
      · cases heq
        exact absurd rfl hid
  | saved code id' =>
    refine ⟨Or.inl (hsame hp), ?_⟩
    have hafter : (BackupStage.saved code id').after cfg op a = .saved code id' := by cases op <;> rfl
    rw [hafter]
    refine ⟨fun hid left hleft => hholds hid left ((hsame hp).symm.trans hleft), fun _ heq => ?_⟩
    exact Or.inl heq

theorem BackupStage.Holds.keep {tr tr' : List Ev} {db db' : Database} {t : ℕ} {q : BackupStage}
    (h : q.Holds cfg id tr db t) (hover : Overlapped tr t id → Overlapped tr' t id)
    (hsame : db'.backupCodes id = db.backupCodes id) : q.Holds cfg id tr' db' t := by
  cases q with
  | other => exact h.elim
  | presented | verified | refused => trivial
  | held code id' user codes index =>
    intro hid
    obtain ⟨huser, hindex, hcodes⟩ := h hid
    exact ⟨huser, hindex, fun hnot => hsame.trans (hcodes fun h => hnot (hover h))⟩
  | saving code id' changes codes index =>
    intro hid
    obtain ⟨hchanges, hindex, hcodes⟩ := h hid
    exact ⟨hchanges, hindex, fun hnot => hsame.trans (hcodes fun h => hnot (hover h))⟩
  | saved code id' => exact fun hid left hleft => h hid left (hsame.symm.trans hleft)

namespace BackupCodes
variable {tr : List Ev} {e : Ev} {qs : ℕ → Option BackupStage} {t : ℕ} {hashes : List String}

theorem call {dto : UseBackupCodeDto} (h : BackupCodes cfg id hashes tr e.pre.shared qs)
    (he : e.inp = .call t (.verifyBackupCode dto)) (ht : qs t = none)
    (hshared : e.post.shared = e.pre.shared) :
    BackupCodes cfg id hashes (tr ++ [e]) e.post.shared
      (Function.update qs t (some (BackupStage.presented dto.backupCode))) where
  given {t' dto'} hcalled := by
    rcases called_snoc.1 hcalled with hcalled | hinp
    · obtain ⟨q, hq, hcode⟩ := h.given hcalled
      have ht' : t' ≠ t := by
        rintro rfl
        cases ht.symm.trans hq
      exact ⟨q, (Function.update_of_ne ht' _ _).trans hq, hcode⟩
    · cases he.symm.trans hinp
      exact ⟨_, Function.update_self .., Or.inr rfl⟩
  stored := hshared ▸ h.stored
  holds {t' q} hq := by
    rcases update_stage hq with ⟨-, rfl⟩ | ⟨-, hq⟩
    · trivial
    · refine (h.holds hq).keep (fun hover => overlapped_snoc.2 (Or.inr ⟨hover, ?_⟩)) (by rw [hshared])
      rintro ⟨⟨w, hinp⟩, -⟩
      cases he.symm.trans hinp
  apart {t₁ t₂ code} hq₁ hq₂ := by
    rcases update_stage hq₁ with ⟨-, ⟨⟩⟩ | ⟨-, hq₁⟩
    rcases update_stage hq₂ with ⟨-, ⟨⟩⟩ | ⟨-, hq₂⟩
    exact h.apart hq₁ hq₂

theorem step {w : World} {q : BackupStage} {op : Query} {a : Answer op}
    (h : BackupCodes cfg id hashes tr e.pre.shared qs) (hdistinct : Distinct cfg hashes)
    (hans : (service cfg).Answered (backupProtocol cfg) BackupStage.ends e qs t w q op a)
    (halone : SavesAlone tr e) : BackupCodes cfg id hashes (tr ++ [e]) e.post.shared
      (Function.update qs t (some (q.after cfg op a))) := by
  have he : Answers e t op := ⟨⟨w, hans.inp⟩, hans.asks⟩
  obtain ⟨hshrinks, hown, hsaved⟩ := own_step hdistinct h.stored (h.holds hans.stage) hans halone
  -- a session that has just saved has found its code in the list, which lacks the used ones
  have hnew {t' code} (hnow : q.after cfg op a = .saved code id) (hq' : qs t' = some (.saved code id)) :
      t = t' := by
    rcases hsaved code hnow with rfl | ⟨codes, hcodes, hhas⟩
    · exact h.apart hans.stage hq'
    · exact absurd (h.holds hq' rfl codes hcodes) hhas
  refine
    { given := fun {t' dto} hcalled => ?_
      stored := ?_
      holds := fun {t' q'} hq => ?_
      apart := fun {t₁ t₂ code} hq₁ hq₂ => ?_ }
  · have hcalled := (called_snoc.1 hcalled).resolve_right fun hinp => nomatch hans.inp.symm.trans hinp
    obtain ⟨q', hq', hcode⟩ := h.given hcalled
    by_cases ht' : t' = t
    · subst ht'
      cases hans.stage.symm.trans hq'
      refine ⟨_, Function.update_self .., ?_⟩
      have hafter : q.after cfg op a = .refused ∨ (q.after cfg op a).code = q.code :=
        after_code hans.permits
      rcases hafter with hrefused | hsame
      · exact Or.inl hrefused
      · rcases hcode with rfl | hcode
        · exact hans.permits.elim
        · exact Or.inr (hsame.trans hcode)
    · exact ⟨q', (Function.update_of_ne ht' _ _).trans hq', hcode⟩
  · obtain ⟨left, hleft, hsub⟩ := h.stored
    rcases hshrinks with hsame | ⟨c, codes, left', -, hcodes, hleft', hsub'⟩
    · exact ⟨left, hsame.trans hleft, hsub⟩
    · obtain rfl := Option.some.inj (hcodes.symm.trans hleft)
      exact ⟨left', hleft', hsub'.trans hsub⟩
  · rcases update_stage hq with ⟨rfl, rfl⟩ | ⟨ht', hq⟩
    · exact hown
    · exact (h.holds hq).other he ht' hshrinks
  · rcases update_stage hq₁ with ⟨rfl, hnow⟩ | ⟨-, hold₁⟩
    · rcases update_stage hq₂ with ⟨rfl, -⟩ | ⟨-, hold₂⟩
      · rfl
      · exact hnew hnow.symm hold₂
    · rcases update_stage hq₂ with ⟨rfl, hnow⟩ | ⟨-, hold₂⟩
      · exact (hnew hnow.symm hold₁).symm
      · exact h.apart hold₁ hold₂

/-- A call that has opened a session has saved the user without its code. -/
theorem ended {p : Sessions} {dto : UseBackupCodeDto} {result : BackupLogin}
    (h : BackupCodes cfg id hashes tr p.shared qs)
    (htracks : Tracks (backupProtocol cfg) BackupStage.ends p qs)
    (hcalled : Called tr t (.verifyBackupCode dto))
    (hended : p.Ended t (.ok (.backupLogin result))) :
    qs t = some (.saved dto.backupCode result.id) := by
  obtain ⟨q, hq, hends⟩ := htracks.ended hended
  obtain ⟨q', hq', hgiven⟩ := h.given hcalled
  obtain rfl := Option.some.inj (hq.symm.trans hq')
  cases q with
  | other => exact (h.holds hq).elim
  | presented | verified | held | saving => exact hends.elim
  | refused =>
    obtain ⟨e, he⟩ := hends
    cases he
  | saved code id' =>
    obtain ⟨result', heq, rfl⟩ := hends
    cases heq
    rcases hgiven with heq | hcode
    · cases heq
    · rw [hq, Option.some.inj hcode]

end BackupCodes

/-! ## Runs -/

/-- Codes that are told apart by their hashes. -/
theorem distinct_of_nodup {codes hashes : List String}
    (hbcrypt : ∀ salt plain code, cfg.compare code (cfg.bcrypt salt plain) ↔ code = plain)
    (hhashes : List.Forall₂ (fun code hash => ∃ salt, hash = cfg.bcrypt salt code) codes hashes)
    (hcodes : codes.Nodup) : Distinct cfg hashes := by
  obtain ⟨hlength, hget⟩ := List.forall₂_iff_get.1 hhashes
  refine List.pairwise_iff_getElem.2 fun i j hi hj hij code hboth => ?_
  obtain ⟨salt, hhash⟩ := hget i (hlength ▸ hi) hi
  obtain ⟨salt', hhash'⟩ := hget j (hlength ▸ hj) hj
  obtain ⟨hcode, hcode'⟩ := hboth
  rw [show hashes[i] = _ from hhash, hbcrypt] at hcode
  rw [show hashes[j] = _ from hhash', hbcrypt] at hcode'
  exact absurd (hcodes.getElem_inj_iff.1 (hcode.symm.trans hcode')) (Nat.ne_of_lt hij)

/-- **While each call that saves the user is the only one to do so since it has read the user, a
    backup code opens one session, and is not on the list after it.** -/
theorem backup_codes_single_use {now : Time} {db db₀ : Database} {token : String}
    {codes : List String} {tr : List Ev} {p : Sessions}
    (hbcrypt : ∀ salt plain code, cfg.compare code (cfg.bcrypt salt plain) ↔ code = plain)
    (hconfirm : Call cfg now db (confirm2faSetup id token) (.ok codes) db₀) (hcodes : codes.Nodup)
    (h : Run (service cfg).Steps (idle db₀) tr p)
    (hbackup : ∀ e ∈ tr, OnCall Request.IsBackup e)
    (halone : Along SavesAlone tr) :
    (∀ t t' dto dto' result result', Called tr t (.verifyBackupCode dto) →
      Called tr t' (.verifyBackupCode dto') → dto.backupCode = dto'.backupCode →
      p.Ended t (.ok (.backupLogin result)) → p.Ended t' (.ok (.backupLogin result')) →
      result.id = id → result'.id = id → t = t') ∧
    ∀ t dto result, Called tr t (.verifyBackupCode dto) → p.Ended t (.ok (.backupLogin result)) →
      result.id = id → ∃ left, p.shared.backupCodes id = some left ∧ Lacks cfg left dto.backupCode := by
  rcases confirm2faSetup_call hconfirm with ⟨⟨_, ⟨⟩⟩, -⟩ |
    ⟨user, secret, _, hashes, ⟨⟩, -, -, -, hhashes, hdb₀⟩
  have hdistinct := distinct_of_nodup hbcrypt hhashes hcodes
  have hstart : db₀.backupCodes id = some hashes := by
    rw [Database.backupCodes, hdb₀, Function.update_self, Option.bind_some]
  have hC : Along (fun tr e => OnCall Request.IsBackup e ∧ SavesAlone tr e) tr :=
    fun tr₁ e tr₂ heq => ⟨hbackup e (by simp [heq]), halone tr₁ e tr₂ heq⟩
  obtain ⟨qs, htracks, hJ⟩ := System.invariant (J := BackupCodes cfg id hashes) (program_backup cfg)
    (fun tr e t r qs he ht hshared hC hJ => by
      obtain ⟨dto, rfl⟩ := Request.isBackup_iff.1 (hC.1 t r he)
      exact hJ.call he ht hshared)
    (fun tr e qs t w q op a hans hC hJ => hJ.step hdistinct hans hC.2) h .idle
    { given := fun ⟨_, he, _⟩ => nomatch he
      stored := ⟨hashes, hstart, .refl hashes⟩
      holds := fun hq => nomatch hq
      apart := fun hq => nomatch hq } hC
  refine ⟨fun t t' dto dto' result result' hcalled hcalled' hcode hended hended' hid hid' => ?_,
    fun t dto result hcalled hended hid => ?_⟩
  · have hq := hJ.ended htracks hcalled hended
    have hq' := hJ.ended htracks hcalled' hended'
    rw [hid] at hq
    rw [hid', ← hcode] at hq'
    exact hJ.apart hq hq'
  · obtain ⟨left, hleft, -⟩ := hJ.stored
    exact ⟨left, hleft, hJ.holds (hJ.ended htracks hcalled hended) hid left hleft⟩

end

/-! ### Examples -/

theorem plainConfig_bcrypt (salt plain code : String) :
    plainConfig.compare code (plainConfig.bcrypt salt plain) ↔ code = plain := decide_eq_true_iff

/-- Where one session takes all turns, it saves alone. -/
theorem savesAlone_of_one {tr : List Ev} (t₀ : ℕ)
    (h : ∀ e ∈ tr, ∀ t w, e.inp = .step t w → t = t₀) : Along SavesAlone tr := by
  rintro tr₁ e tr₂ rfl t id op ⟨⟨w, hinp⟩, -⟩ - ⟨tr₃, e', tr₄, rfl, ⟨t', c, ht, ⟨w', hinp'⟩, -⟩, -⟩
  refine ht ((h e' (by simp) t' w' hinp').trans (h e (by simp) t w hinp).symm)

/-- The user has logged in. -/
def OpensFor (p : Sessions) (t : ℕ) (id : Uuid) : Prop :=
  ∃ result, p.Ended t (.ok (.backupLogin result)) ∧ result.id = id

def opensFor (p : Sessions) (t : ℕ) (id : Uuid) : Bool :=
  (p.returned t).any fun
    | .backupLogin result => result.id = id
    | _ => false

theorem opensFor_iff {p : Sessions} {t : ℕ} {id : Uuid} (h : opensFor p t id) : OpensFor p t id := by
  obtain ⟨response, hreturned, hresponse⟩ := (Option.any_eq_true _ _).1 h
  split at hresponse
  · next result => exact ⟨result, Pool.returned_eq_some.1 hreturned, of_decide_eq_true hresponse⟩
  · cases hresponse

/-- A user has set up codes.  A login with one of them succeeds; and two logins with it, at once,
    both do. -/
theorem exists_backup_logins : ∃ codes db₀,
    Call plainConfig 0 enrolled (confirm2faSetup "u" "s") (.ok codes) db₀ ∧ codes.Nodup ∧
    (∃ tr p, (service plainConfig).play (idle db₀)
      [.call 0 (.verifyBackupCode ⟨"a", "temp"⟩), .step 0 {}, .step 0 { row := some "u" },
        .step 0 {}, .step 0 {}, .step 0 {}, .step 0 {}] = some (tr, p) ∧ OpensFor p 0 "u") ∧
    ∃ tr p, (service plainConfig).play (idle db₀)
      [.call 0 (.verifyBackupCode ⟨"a", "temp"⟩), .call 1 (.verifyBackupCode ⟨"a", "temp"⟩),
        .step 0 {}, .step 1 {}, .step 0 { row := some "u" }, .step 1 { row := some "u" },
        .step 0 {}, .step 0 {}, .step 0 {}, .step 0 {}, .step 1 {}, .step 1 {}, .step 1 {}] =
      some (tr, p) ∧ OpensFor p 0 "u" ∧ OpensFor p 1 "u" := by
  have hplay : (aloneIn (exec plainConfig) (confirm2faSetup "u" "s")
      [{ row := some "u" }, {}, { text := "a" }, { text := "b" }, { text := "c" }, { text := "d" },
        { text := "e" }, { text := "f" }, { text := "g" }, { text := "h" }, {}, {}, {}, {}, {}, {},
        {}, {}, {}, {}] enrolled).any fun x =>
      (x.1.toOption.any fun codes => codes.Nodup) ∧
      (((service plainConfig).play (idle x.2)
        [.call 0 (.verifyBackupCode ⟨"a", "temp"⟩), .step 0 {}, .step 0 { row := some "u" },
          .step 0 {}, .step 0 {}, .step 0 {}, .step 0 {}]).any fun y => opensFor y.2 0 "u") ∧
      ((service plainConfig).play (idle x.2)
        [.call 0 (.verifyBackupCode ⟨"a", "temp"⟩), .call 1 (.verifyBackupCode ⟨"a", "temp"⟩),
          .step 0 {}, .step 1 {}, .step 0 { row := some "u" }, .step 1 { row := some "u" },
          .step 0 {}, .step 0 {}, .step 0 {}, .step 0 {}, .step 1 {}, .step 1 {}, .step 1 {}]).any
        fun y => opensFor y.2 0 "u" ∧ opensFor y.2 1 "u" := by decide +kernel
  obtain ⟨⟨r, db₀⟩, hconfirm, hfacts⟩ := (Option.any_eq_true _ _).1 hplay
  obtain ⟨hcodes, hone, htwo⟩ := of_decide_eq_true hfacts
  obtain ⟨⟨tr, p⟩, hplay₁, hopens₁⟩ := (Option.any_eq_true _ _).1 hone
  obtain ⟨⟨tr', p'⟩, hplay₂, hopens₂⟩ := (Option.any_eq_true _ _).1 htwo
  obtain ⟨hfirst, hsecond⟩ := of_decide_eq_true hopens₂
  cases r with
  | error => cases hcodes
  | ok codes =>
    exact ⟨codes, db₀, alone_of_aloneIn hconfirm (by decide), of_decide_eq_true hcodes,
      ⟨tr, p, hplay₁, opensFor_iff hopens₁⟩, tr', p', hplay₂, opensFor_iff hfirst,
      opensFor_iff hsecond⟩

/-- The user logs in with a backup code. -/
theorem backup_codes_single_use_once : ∃ db₀ tr p left,
    Run (service plainConfig).Steps (idle db₀) tr p ∧ OpensFor p 0 "u" ∧
    p.shared.backupCodes "u" = some left ∧ Lacks plainConfig left "a" := by
  obtain ⟨codes, db₀, hconfirm, hcodes, ⟨tr, p, hplay, result, hended, hid⟩, -⟩ :=
    exists_backup_logins
  have hrun := System.run_play hplay
  have hsingle := backup_codes_single_use plainConfig_bcrypt hconfirm hcodes hrun
    (System.forall_inp hplay (P := fun i => ∀ t request, i = .call t request → Request.IsBackup request)
      (by simp [Request.IsBackup]))
    (savesAlone_of_one 0
      (System.forall_inp hplay (P := fun i => ∀ t w, i = .step t w → t = 0) (by simp)))
  obtain ⟨left, hleft, hlacks⟩ := hsingle.2 0 ⟨"a", "temp"⟩ result
    ((System.called_play hplay).2 (.head _)) hended hid
  exact ⟨db₀, tr, p, left, hrun, ⟨result, hended, hid⟩, hleft, hlacks⟩

/-- A backup code opens two sessions. -/
theorem backup_code_used_twice : ¬ ∀ db₀ codes tr p,
    Call plainConfig 0 enrolled (confirm2faSetup "u" "s") (.ok codes) db₀ → codes.Nodup →
    Run (service plainConfig).Steps (idle db₀) tr p →
    (∀ e ∈ tr, OnCall Request.IsBackup e) →
    (∀ t t' dto dto' result result', Called tr t (.verifyBackupCode dto) →
      Called tr t' (.verifyBackupCode dto') → dto.backupCode = dto'.backupCode →
      p.Ended t (.ok (.backupLogin result)) → p.Ended t' (.ok (.backupLogin result')) →
      result.id = "u" → result'.id = "u" → t = t') ∧
    ∀ t dto result, Called tr t (.verifyBackupCode dto) → p.Ended t (.ok (.backupLogin result)) →
      result.id = "u" →
      ∃ left, p.shared.backupCodes "u" = some left ∧ Lacks plainConfig left dto.backupCode := by
  intro hclaim
  obtain ⟨codes, db₀, hconfirm, hcodes, -, tr, p, hplay, ⟨result, hended, hid⟩,
    result', hended', hid'⟩ := exists_backup_logins
  have honce := (hclaim db₀ codes tr p hconfirm hcodes (System.run_play hplay)
    (System.forall_inp hplay (P := fun i => ∀ t request, i = .call t request → Request.IsBackup request)
      (by simp [Request.IsBackup]))).1 0 1 ⟨"a", "temp"⟩ ⟨"a", "temp"⟩ result result'
    ((System.called_play hplay).2 (by simp)) ((System.called_play hplay).2 (by simp)) rfl hended
    hended' hid hid'
  cases honce

end Auth
