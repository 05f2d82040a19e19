/-
  Requests that are handled one at a time, each at one time of the clock.
-/
import NovaLabs.Auth.Effects
import NovaLabs.Lib.Alone

namespace Auth

open Lib Process
open Backend (Uuid Time differing)

/-- Run alone at the time, the program ends with `r` and leaves `db'`. -/
abbrev Call {α : Type} (cfg : Config) (now : Time) (db : Database) (x : Proc α)
    (r : Except HttpError α) (db' : Database) : Prop :=
  Alone (exec cfg) (fun w => w.now = now) db x r db'

section
variable {α : Type} {cfg : Config} {now : Time} {db db' : Database} {id : Uuid} {user : User}

/-! ## Each call ends -/

/-- A search finds a user that it is about, or there is none. -/
theorem findUser_total (which : UserWhere) (db : Database) :
    ∃ row found, db.findUser which row = some found := by
  by_cases hnone : Storage.All db which.spares
  · exact ⟨none, none, if_pos hnone⟩
  · rw [Storage.all_iff] at hnone
    push Not at hnone
    obtain ⟨k, v, hv, hspares⟩ := hnone
    cases k with
    | token | challenge => exact absurd rfl hspares
    | user id =>
      have hselects : which.selects id v := by simpa [UserWhere.spares] using hspares
      refine ⟨some id, some (id, v), ?_⟩
      rw [Database.findUser, Database.user, hv, Option.bind_some, if_pos hselects]

theorem findToken_total (token : String) (db : Database) :
    ∃ row found, db.findToken token row = some found := by
  by_cases hnone : Storage.All db (sparesToken token)
  · exact ⟨none, none, if_pos hnone⟩
  · rw [Storage.all_iff] at hnone
    push Not at hnone
    obtain ⟨k, v, hv, hspares⟩ := hnone
    cases k with
    | user | challenge => exact absurd rfl hspares
    | token id =>
      have htoken : v.token = token := by simpa [sparesToken] using hspares
      refine ⟨some id, some (id, v), ?_⟩
      rw [Database.findToken, Database.token, hv, Option.bind_some, if_pos htoken]

/-- In some world at the time, the query is answered. -/
theorem exec_total (cfg : Config) (now : Time) (db : Database) (q : Query) :
    ∃ w a db', World.now w = now ∧ exec cfg w db q = some (a, db') := by
  cases q with
  | findUser which =>
    obtain ⟨row, found, h⟩ := findUser_total which db
    exact ⟨{ now, row }, found, db, rfl, Option.map_eq_some_iff.2 ⟨found, h, rfl⟩⟩
  | findToken token =>
    obtain ⟨row, found, h⟩ := findToken_total token db
    exact ⟨{ now, row }, found, db, rfl, Option.map_eq_some_iff.2 ⟨found, h, rfl⟩⟩
  | insertUser user =>
    obtain ⟨id, hid⟩ := Storage.exists_fresh Row.user (fun _ _ => Row.user.inj) db
    by_cases hall : Storage.All db (UserWhere.byEmail user.email).spares
    · exact ⟨{ now, id }, _, _, rfl, by
        rw [exec, Database.insertUser, if_neg (not_not.2 hall), Database.user, hid, if_pos rfl]⟩
    · exact ⟨{ now }, _, _, rfl, if_pos hall⟩
  | insertToken row =>
    obtain ⟨id, hid⟩ := Storage.exists_fresh Row.token (fun _ _ => Row.token.inj) db
    by_cases hall : Storage.All db (admits row)
    · exact ⟨{ now, id }, _, _, rfl, by
        rw [exec, Database.insertToken, if_neg (not_not.2 hall), Database.token, hid, if_pos rfl]⟩
    · exact ⟨{ now }, _, _, rfl, if_pos hall⟩
  | _ => exact ⟨{ now }, _, _, rfl, rfl⟩

/-- **Each call ends.** -/
theorem exists_call (cfg : Config) (now : Time) (db : Database) (x : Proc α) :
    ∃ r db', Call cfg now db x r db' :=
  exists_alone (fun db q => exec_total cfg now db q) x db

/-! ## Tokens -/

/-- The tokens that are signed for a user at the time. -/
def tokensAt (cfg : Config) (now : Time) (id : Uuid) (user : User) : Tokens where
  accessToken := signAt cfg .access (accessPayload cfg id user) cfg.accessExpiresIn now
  refreshToken := signAt cfg .refresh (refreshPayload cfg id user) cfg.refreshExpiresIn now

/-- The row of a new refresh token. -/
def newToken (cfg : Config) (now : Time) (userId : Uuid) (token familyId : String) (version : ℕ) :
    RefreshToken where
  userId := userId
  token := cfg.hashRefreshToken token
  familyId := familyId
  version := version
  expiresAt := cfg.refreshExpiryMs.map (now + ·)

theorem generateTokens_call {f : Tokens → Proc α} {r : Except HttpError α}
    (h : Call cfg now db (generateTokens cfg id user >>= f) r db') :
    Call cfg now db (f (tokensAt cfg now id user)) r db' := by
  obtain ⟨w, accessToken, _, hw, ⟨⟩, h⟩ := Alone.query h
  obtain ⟨w', refreshToken, _, hw', ⟨⟩, h⟩ := Alone.query h
  rw [hw, hw'] at h
  exact h

/-- The row is stored, unless it clashes with a stored one. -/
def Inserts (db : Database) (new : RefreshToken) (r : Except HttpError Uuid) (db' : Database) :
    Prop :=
  (r = .error .queryFailed ∧ db' = db ∧ ∃ id row, db.token id = some row ∧ row.Clashes new) ∨
    ∃ id, r = .ok id ∧ db.token id = none ∧
      (∀ id' row, db.token id' = some row → ¬ row.Clashes new) ∧
      db' = Finmap.insert (.token id) new db

theorem createRefreshToken_call {token familyId : String} {version : ℕ} {r : Except HttpError Uuid}
    (h : Call cfg now db (createRefreshToken cfg id token familyId version) r db') :
    Inserts db (newToken cfg now id token familyId version) r db' := by
  have hinsert {new : RefreshToken}
      (h : Call cfg now db (do okOr (← ask (.insertToken new)) .queryFailed) r db') :
      Inserts db new r db' := by
    obtain ⟨w, o, db₁, -, hexec, hend⟩ := Alone.query h
    rcases insertToken_cases hexec with ⟨rfl, rfl, hclash⟩ | ⟨rfl, hnone, hfree, rfl⟩
    · cases hend
      exact Or.inl ⟨rfl, rfl, hclash⟩
    · cases hend
      exact Or.inr ⟨w.id, rfl, hnone, hfree, rfl⟩
  unfold createRefreshToken computeExpiryFromEnv at h
  unfold newToken
  split at h
  · next ms hms =>
    rw [bind_assoc] at h
    obtain ⟨w, time, _, rfl, ⟨⟩, h⟩ := Alone.query h
    rw [hms]
    exact hinsert h
  · next hms =>
    rw [hms]
    exact hinsert h

/-! ## What the parts of a request do -/

theorem findUser_call {which : UserWhere} {e : HttpError} {f : Uuid × User → Proc α}
    {r : Except HttpError α}
    (h : Call cfg now db (ask (.findUser which) >>= fun o => okOr o e >>= f) r db') :
    (r = .error e ∧ db' = db ∧ ∀ id user, db.user id = some user → ¬ which.selects id user) ∨
    ∃ id user, db.user id = some user ∧ which.selects id user ∧
      Call cfg now db (f (id, user)) r db' := by
  obtain ⟨w, found, db₁, -, hfind, h⟩ := Alone.query h
  have hsame : db₁ = db := by
    obtain ⟨_, -, heq⟩ := Option.map_eq_some_iff.1 hfind
    exact (Prod.mk.inj heq).2.symm
  rw [hsame] at h hfind
  rcases Alone.okOr h with ⟨rfl, rfl, rfl⟩ | ⟨⟨id, user⟩, rfl, h⟩
  · exact Or.inl ⟨rfl, rfl, fun id user huser => (findUser_none hfind huser).2⟩
  · obtain ⟨-, huser, hselects⟩ := findUser_some hfind
    exact Or.inr ⟨id, user, huser, hselects, h⟩

theorem failIfExpired_call {expiresAt : Option Time} {f : Unit → Proc α} {r : Except HttpError α}
    (h : Call cfg now db (failIfExpired expiresAt >>= f) r db') :
    ((∃ e, r = .error e) ∧ db' = db) ∨
    ∃ time, expiresAt = some time ∧ now ≤ time ∧ Call cfg now db (f ()) r db' := by
  cases expiresAt with
  | none =>
    cases h
    exact Or.inl ⟨⟨_, rfl⟩, rfl⟩
  | some time =>
    unfold failIfExpired at h
    rw [bind_assoc] at h
    obtain ⟨w, now', _, hnow, ⟨⟩, h⟩ := Alone.query h
    rw [hnow] at h
    rcases Alone.failIf h with ⟨-, rfl, rfl⟩ | ⟨hintime, h⟩
    · exact Or.inl ⟨⟨_, rfl⟩, rfl⟩
    · exact Or.inr ⟨time, rfl, not_lt.1 hintime, h⟩

theorem verifyTempToken_call {token : String} {f : Uuid → Proc α} {r : Except HttpError α}
    (h : Call cfg now db (verifyTempToken token >>= f) r db') :
    ((∃ e, r = .error e) ∧ db' = db) ∨
    ∃ claims, verifyAt cfg .access token now = some claims ∧ claims.type = some "2fa_pending" ∧
      Call cfg now db (f claims.sub) r db' := by
  unfold verifyTempToken at h
  rw [bind_assoc] at h
  obtain ⟨w, o, _, hnow, ⟨⟩, h⟩ := Alone.query h
  rw [bind_assoc, hnow] at h
  rcases Alone.okOr h with ⟨-, rfl, rfl⟩ | ⟨claims, hclaims, h⟩
  · exact Or.inl ⟨⟨_, rfl⟩, rfl⟩
  rw [bind_assoc] at h
  rcases Alone.failIf h with ⟨-, rfl, rfl⟩ | ⟨htype, h⟩
  · exact Or.inl ⟨⟨_, rfl⟩, rfl⟩
  · exact Or.inr ⟨claims, hclaims, not_not.1 htype, h⟩

theorem generateVerificationCode_call {f : String → Proc α} {r : Except HttpError α}
    (h : Call cfg now db (generateVerificationCode >>= f) r db') :
    ∃ drawn, Call cfg now db (f (verificationCode drawn)) r db' := by
  obtain ⟨w, drawn, _, -, ⟨⟩, h⟩ := Alone.query h
  exact ⟨_, h⟩

theorem inTenMinutes_call {f : Time → Proc α} {r : Except HttpError α}
    (h : Call cfg now db (inTenMinutes >>= f) r db') : Call cfg now db (f (now + 600000)) r db' := by
  obtain ⟨w, now', _, hnow, ⟨⟩, h⟩ := Alone.query h
  rw [hnow] at h
  exact h

theorem checkPassword_call {password : String} {f : Unit → Proc α} {r : Except HttpError α}
    (h : Call cfg now db (checkPassword password >>= f) r db') :
    ((∃ e, r = .error e) ∧ db' = db) ∨ Call cfg now db (f ()) r db' := by
  unfold checkPassword at h
  rw [bind_assoc] at h
  obtain ⟨w, breached, _, -, ⟨⟩, h⟩ := Alone.query h
  rcases Alone.failIf h with ⟨-, rfl, rfl⟩ | ⟨-, h⟩
  · exact Or.inl ⟨⟨_, rfl⟩, rfl⟩
  · exact Or.inr h

/-- A new session changes no user. -/
theorem startSession_call {f : Tokens → Proc α} {r : Except HttpError α}
    (h : Call cfg now db (startSession cfg id user >>= f) r db') :
    ((∃ e, r = .error e) ∧ db'.user = db.user) ∨
    ∃ db₁, db₁.user = db.user ∧ Call cfg now db₁ (f (tokensAt cfg now id user)) r db' := by
  have huser {new : RefreshToken} {r : Except HttpError Uuid} {db' : Database}
      (h : Inserts db new r db') : db'.user = db.user := by
    rcases h with ⟨-, rfl, -⟩ | ⟨id', -, -, -, rfl⟩
    · rfl
    · exact funext fun id => Finmap.lookup_insert_of_ne _ Row.noConfusion
  unfold startSession saveRefreshToken at h
  rw [bind_assoc] at h
  have h := generateTokens_call h
  rw [bind_assoc, bind_assoc] at h
  obtain ⟨w, familyId, _, -, ⟨⟩, h⟩ := Alone.query h
  rcases h.seq with ⟨newId, db₁, hcreate, h⟩ | ⟨e, rfl, hcreate⟩
  · exact Or.inr ⟨db₁, huser (createRefreshToken_call hcreate), h⟩
  · exact Or.inl ⟨⟨e, rfl⟩, huser (createRefreshToken_call hcreate)⟩

/-! ## Saves -/

theorem getD_differing {β : Type} [DecidableEq β] (held stored : β) :
    (differing held stored).getD stored = held := by
  unfold differing
  split_ifs with h
  · exact h.symm
  · rfl

theorem getD_differingUnless {β : Type} [DecidableEq β] (undefined : Bool) (held stored : β) :
    (differingUnless undefined held stored).getD stored = if undefined then stored else held := by
  unfold differingUnless
  split_ifs
  · rfl
  · exact getD_differing held stored

/-- The stored user, after a save. -/
def User.saved (held : User) (undefined : Undefined) (stored : User) : User where
  email := stored.email
  firstname := stored.firstname
  lastname := stored.lastname
  password := held.password
  role := stored.role
  hubId := stored.hubId
  isVerified := held.isVerified
  verificationCode := held.verificationCode
  verificationCodeExpiresAt := if undefined.verificationCodeExpiresAt then
    stored.verificationCodeExpiresAt else held.verificationCodeExpiresAt
  passwordResetCode := if undefined.passwordResetCode then
    stored.passwordResetCode else held.passwordResetCode
  passwordResetCodeExpiresAt := if undefined.passwordResetCodeExpiresAt then
    stored.passwordResetCodeExpiresAt else held.passwordResetCodeExpiresAt
  twoFactorEnabled := held.twoFactorEnabled
  totpSecret := held.totpSecret
  totpBackupCodes := held.totpBackupCodes
  passkeyCredentials := held.passkeyCredentials

theorem set_changes (held : User) (undefined : Undefined) (stored : User) :
    stored.set (held.changes undefined stored) = held.saved undefined stored := by
  simp only [User.set, User.changes, User.saved, getD_differing, getD_differingUnless]

/-- A save changes the one user. -/
theorem saveUser_alone {W : World → Prop} {held stored : User} {undefined : Undefined}
    {f : Unit → Proc α} {r : Except HttpError α} (hstored : db.user id = some stored)
    (h : Alone (exec cfg) W db (saveUser id held undefined >>= f) r db') :
    ∃ db₁, db₁.user = Function.update db.user id (some (held.saved undefined stored)) ∧
      Alone (exec cfg) W db₁ (f ()) r db' := by
  unfold saveUser at h
  rw [bind_assoc] at h
  obtain ⟨w, o, _, -, hreload, h⟩ := Alone.query h
  obtain ⟨rfl, rfl⟩ : db.user id = o ∧ db = _ := Prod.mk.inj (Option.some.inj hreload)
  rw [hstored] at h
  dsimp only at h
  rw [← set_changes]
  split_ifs at h with hchanges
  · obtain ⟨w, _, db₁, -, hupdate, h⟩ := Alone.query h
    refine ⟨db₁, funext fun id' => ?_, h⟩
    rw [updateUser_row hupdate, Function.update_apply]
    split_ifs with hid
    · rw [hid, hstored, Option.map_some]
    · exact congrFun Option.map_id _
  · refine ⟨db, ?_, h⟩
    rw [not_not.1 hchanges]
    exact (Function.update_eq_self_iff.2 hstored.symm).symm

theorem saveUser_call {held stored : User} {undefined : Undefined} {f : Unit → Proc α}
    {r : Except HttpError α} (hstored : db.user id = some stored)
    (h : Call cfg now db (saveUser id held undefined >>= f) r db') :
    ∃ db₁, db₁.user = Function.update db.user id (some (held.saved undefined stored)) ∧
      Call cfg now db₁ (f ()) r db' := saveUser_alone hstored h

end

/-! ## Runs -/

/-- A request that was handled: when, and what came of it. -/
structure Handled where
  now : Time
  request : Request
  result : Except HttpError Response

/-- The request is handled alone. -/
def Handles (cfg : Config) (db : Database) (i : Handled) (db' : Database) : Prop :=
  Call cfg i.now db (i.request.program cfg) i.result db'

/-- A request of a run. -/
abbrev Handling := Event Database Handled

/-- Handle requests, each at its time, with what is drawn for it. -/
def handleAll (cfg : Config) : Database → List (Time × Request × List World) →
    Option (List Handling × Database)
  | db, [] => some ([], db)
  | db, (now, request, ws) :: rest =>
    (aloneIn (exec cfg) (request.program cfg) (ws.map ({ · with now })) db).bind
      fun (result, db₁) => (handleAll cfg db₁ rest).map
        fun (tr, db') => (⟨db, ⟨now, request, result⟩, db₁⟩ :: tr, db')

theorem run_handleAll {cfg : Config} {db db' : Database} {is : List (Time × Request × List World)}
    {tr : List Handling} (h : handleAll cfg db is = some (tr, db')) :
    Run (Handles cfg) db tr db' := by
  induction is generalizing db tr with
  | nil =>
    cases h
    exact .nil
  | cons i is ih =>
    obtain ⟨now, request, ws⟩ := i
    obtain ⟨⟨result, db₁⟩, halone, h⟩ := Option.bind_eq_some_iff.1 h
    obtain ⟨⟨tr, _⟩, hrest, heq⟩ := Option.map_eq_some_iff.1 h
    cases heq
    refine Run.cons (alone_of_aloneIn halone fun w hw => ?_) (ih hrest)
    obtain ⟨w, -, rfl⟩ := List.mem_map.1 hw
    rfl

end Auth
