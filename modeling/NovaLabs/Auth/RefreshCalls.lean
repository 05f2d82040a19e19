/-
  A refresh without concurrent requests.

  It consumes the row of its token before it stores the successor, in two statements.  The new token
  tells the user and the second when it is signed and nothing else: if the user has got a token in
  this second already, then the successor is refused, and the row stays consumed.
-/
import NovaLabs.Auth.Calls
import NovaLabs.Auth.Rotation

namespace Auth

open Lib Process
open Backend (Uuid Time)

/-- The refresh finds the user and the row of its token. -/
structure Finds (cfg : Config) (now : Time) (db : Database) (token : String) (userId : Uuid)
    (user : User) (id : Uuid) (row : RefreshToken) : Prop where
  verifies : (verifyAt cfg .refresh token now).map (·.sub) = some userId
  user : db.user userId = some user
  stored : db.token id = some row
  hash : row.token = cfg.hashRefreshToken token

/-- The token is live: stored, not consumed, not revoked and not expired. -/
structure Live (cfg : Config) (now : Time) (db : Database) (token : String) (userId : Uuid)
    (user : User) (id : Uuid) (row : RefreshToken) : Prop
    extends Finds cfg now db token userId user id row where
  isLive : row.IsLive
  unexpired : ∀ expiresAt, row.expiresAt = some expiresAt → now ≤ expiresAt

/-- The token has been consumed or revoked before. -/
def Reuses (cfg : Config) (now : Time) (db : Database) (token : String) : Prop :=
  ∃ userId user id row, Finds cfg now db token userId user id row ∧ ¬ row.IsLive

/-- A live token is exchanged for a pair whose refresh token is the next one of the family; and a
    refresh that fails, other than by reuse, changes nothing. -/
structure KeepsSession (cfg : Config) (now : Time) (db : Database) (token : String)
    (r : Except HttpError Tokens) (db' : Database) : Prop where
  succeeds : ∀ {userId user id row}, Live cfg now db token userId user id row →
    ∃ tokens id' new, r = .ok tokens ∧ db'.token id' = some new ∧
      new.token = cfg.hashRefreshToken tokens.refreshToken ∧ new.userId = userId ∧ new.Succeeds row
  unchanged : ∀ {e}, r = .error e → ¬ Reuses cfg now db token → db' = db

/-- No row has the hash of the refresh token that is signed at the time for the user of a live
    token. -/
def SignsNew (cfg : Config) (now : Time) (db : Database) (token : String) : Prop :=
  ∀ userId user id row, Live cfg now db token userId user id row →
    ∀ id' row', db.token id' = some row' → row'.token ≠ cfg.hashRefreshToken
      (signAt cfg .refresh (refreshPayload cfg userId user) cfg.refreshExpiresIn now)

/-- The token is consumed, and its successor is stored unless it clashes with a stored row. -/
def Replaces (cfg : Config) (now : Time) (db : Database) (userId : Uuid) (user : User) (id : Uuid)
    (row : RefreshToken) (r : Except HttpError Tokens) (db' : Database) : Prop :=
  ∃ r', r = r'.map (fun _ => tokensAt cfg now userId user) ∧
    Inserts (db.update (tokenConsumption id now))
      (newToken cfg now userId (tokensAt cfg now userId user).refreshToken row.familyId
        (row.version + 1)) r' db'

section
variable {cfg : Config} {now : Time} {db db' : Database} {token : String} {userId : Uuid}
  {user : User} {id : Uuid} {row : RefreshToken} {r : Except HttpError Tokens}

theorem consume_call (h : Call cfg now db (do
      ask (.consumeToken id)
      let tokens ← generateTokens cfg userId user
      let _ ← createRefreshToken cfg userId tokens.refreshToken row.familyId (row.version + 1)
      return tokens) r db') : Replaces cfg now db userId user id row r db' := by
  obtain ⟨w, _, _, rfl, ⟨⟩, h⟩ := Alone.query h
  rcases (generateTokens_call h).seq with ⟨newId, _, hcreate, hend⟩ | ⟨e, rfl, hcreate⟩
  · obtain ⟨rfl, rfl⟩ := hend.value
    exact ⟨_, rfl, createRefreshToken_call hcreate⟩
  · exact ⟨_, rfl, createRefreshToken_call hcreate⟩

/-- What a refresh does. -/
theorem refreshToken_call (hdb : Chained db) (h : Call cfg now db (refreshToken cfg token) r db') :
    ((∃ e, r = .error e) ∧ db' = db ∧
      ∀ userId user id row, ¬ Live cfg now db token userId user id row) ∨
    ((∃ e, r = .error e) ∧ Reuses cfg now db token) ∨
    ∃ userId user id row, Live cfg now db token userId user id row ∧
      Replaces cfg now db userId user id row r db' := by
  unfold refreshToken validateRefreshToken at h
  rw [bind_assoc] at h
  obtain ⟨w, o, _, rfl, ⟨⟩, h⟩ := Alone.query h
  rw [bind_assoc] at h
  rcases Alone.okOr h with ⟨hverify, rfl, rfl⟩ | ⟨claims, hverify, h⟩
  · refine Or.inl ⟨⟨_, rfl⟩, rfl, fun _ _ _ _ hlive => ?_⟩
    have hverifies := hlive.verifies
    rw [hverify] at hverifies
    cases hverifies
  have hsub {userId : Uuid} (h : (verifyAt cfg .refresh token w.now).map (·.sub) = some userId) :
      claims.sub = userId := by
    rw [hverify] at h
    exact Option.some.inj h
  obtain ⟨w₁, found, db₁, -, hfind, h⟩ := Alone.query h
  rcases Alone.okOr h with ⟨rfl, rfl, rfl⟩ | ⟨⟨userId, user⟩, rfl, h⟩
  · refine Or.inl ⟨⟨_, rfl⟩, ?_, fun _ _ _ _ hlive => ?_⟩
    · obtain ⟨_, -, heq⟩ := Option.map_eq_some_iff.1 hfind
      exact (Prod.mk.inj heq).2.symm
    · obtain ⟨-, hselects⟩ := findUser_none hfind hlive.user
      exact hselects (decide_eq_true (hsub hlive.verifies).symm)
  obtain ⟨rfl, huser, hselects⟩ := findUser_some hfind
  obtain rfl : userId = claims.sub := of_decide_eq_true hselects
  obtain ⟨w₂, stored, db₂, -, hfind, h⟩ := Alone.query h
  rcases Alone.okOr h with ⟨rfl, rfl, rfl⟩ | ⟨⟨id, row⟩, rfl, hrest⟩
  · refine Or.inl ⟨⟨_, rfl⟩, ?_, fun _ _ _ _ hlive => ?_⟩
    · obtain ⟨_, -, heq⟩ := Option.map_eq_some_iff.1 hfind
      exact (Prod.mk.inj heq).2.symm
    · obtain ⟨-, hhash⟩ := findToken_none hfind hlive.stored
      exact hhash hlive.hash
  obtain ⟨rfl, hstored, hhash⟩ := findToken_some hfind
  have hfinds : Finds cfg w.now db₂ token claims.sub user id row :=
    ⟨by rw [hverify, Option.map_some], huser, hstored, hhash⟩
  dsimp only at hrest
  split_ifs at hrest with hreuse
  · obtain ⟨_, _, _, -, -, hrest⟩ := Alone.query hrest
    obtain ⟨_, _, _, -, -, hrest⟩ := Alone.query hrest
    obtain ⟨_, _, _, -, -, hrest⟩ := Alone.query hrest
    exact Or.inr (Or.inl ⟨⟨_, hrest.error.1⟩, _, user, id, row, hfinds, not_isLive_iff.2 hreuse⟩)
  have hlive : row.IsLive := not_not.1 fun h => hreuse (not_isLive_iff.1 h)
  cases hexpiry : row.expiresAt with
  | none =>
    rw [hexpiry] at hrest
    refine Or.inr (Or.inr ⟨_, user, id, row, ⟨hfinds, hlive, fun e he => ?_⟩, consume_call hrest⟩)
    cases hexpiry.symm.trans he
  | some expiresAt =>
    rw [hexpiry] at hrest
    obtain ⟨w₃, time, _, hnow, ⟨⟩, hrest⟩ := Alone.query hrest
    rw [hnow] at hrest
    rcases Alone.failIf hrest with ⟨hlate, rfl, rfl⟩ | ⟨hintime, hrest⟩
    · refine Or.inl ⟨⟨_, rfl⟩, rfl, fun _ _ id' row' hlive' => ?_⟩
      obtain rfl := hdb.unique hstored hlive'.stored (Or.inl (hhash.trans hlive'.hash.symm))
      cases hstored.symm.trans hlive'.stored
      exact absurd hlate (not_lt.2 (hlive'.unexpired expiresAt hexpiry))
    · refine Or.inr (Or.inr ⟨_, user, id, row, ⟨hfinds, hlive, fun e he => ?_⟩,
        consume_call hrest⟩)
      cases hexpiry.symm.trans he
      exact not_lt.1 hintime

/-- Rows that are found by one hash are one row. -/
theorem Finds.unique {userId' : Uuid} {user' : User} {id' : Uuid} {row' : RefreshToken}
    (h : Finds cfg now db token userId user id row)
    (h' : Finds cfg now db token userId' user' id' row') (hdb : Chained db) :
    userId = userId' ∧ user = user' ∧ id = id' ∧ row = row' := by
  obtain rfl := Option.some.inj (h.verifies.symm.trans h'.verifies)
  obtain rfl := Option.some.inj (h.user.symm.trans h'.user)
  obtain rfl := hdb.unique h.stored h'.stored (Or.inl (h.hash.trans h'.hash.symm))
  exact ⟨rfl, rfl, rfl, Option.some.inj (h.stored.symm.trans h'.stored)⟩

/-- Where the new token is not stored yet, a refresh keeps the session. -/
theorem SignsNew.keeps (hnew : SignsNew cfg now db token) (hdb : Chained db)
    (h : Call cfg now db (refreshToken cfg token) r db') : KeepsSession cfg now db token r db' := by
  rcases refreshToken_call hdb h with ⟨-, hsame, hdead⟩ | ⟨⟨e, rfl⟩, hreuse⟩ |
    ⟨userId, user, id, row, hlive, r', rfl, hinsert⟩
  · exact ⟨fun hlive => absurd hlive (hdead _ _ _ _), fun _ _ => hsame⟩
  · refine ⟨fun hlive => ?_, fun _ hnot => absurd hreuse hnot⟩
    obtain ⟨_, _, _, _, hfinds, hdead⟩ := hreuse
    obtain ⟨-, -, -, rfl⟩ := hfinds.unique hlive.toFinds hdb
    exact absurd hlive.isLive hdead
  rcases hinsert with ⟨-, -, id', row', hrow', hclash⟩ | ⟨id', rfl, -, -, rfl⟩
  · -- neither the hash nor the place in the family is taken
    rw [token_consumption] at hrow'
    obtain ⟨stored, hstored, rfl⟩ := Option.map_eq_some_iff.1 hrow'
    have hclash : stored.Clashes (newToken cfg now userId (tokensAt cfg now userId user).refreshToken
        row.familyId (row.version + 1)) := by
      split_ifs at hclash
      · exact hclash
      · exact hclash
    rcases hclash with hhash | ⟨hfamily, hversion⟩
    · exact absurd hhash (hnew _ _ _ _ hlive id' stored hstored)
    · have hspent := hdb.spent hlive.stored hstored hfamily hversion
      rw [hlive.isLive.2] at hspent
      cases hspent
  · refine ⟨fun hlive' => ?_, fun he => nomatch he⟩
    obtain ⟨rfl, rfl, rfl, rfl⟩ := hlive.toFinds.unique hlive'.toFinds hdb
    exact ⟨tokensAt cfg now userId user, id', newToken cfg now userId _ row.familyId _, rfl,
      by rw [token_insert, if_pos rfl], rfl, rfl, ⟨rfl, rfl⟩, rfl, rfl⟩

/-- Where the new token is stored already, a refresh with a live token fails, and consumes it. -/
theorem signsNew_of_keeps (hdb : Chained db) (h : Call cfg now db (refreshToken cfg token) r db')
    (hkeeps : KeepsSession cfg now db token r db') : SignsNew cfg now db token := by
  intro userId user id row hlive id' row' hrow' hhash
  rcases refreshToken_call hdb h with ⟨-, -, hdead⟩ | ⟨-, _, _, _, _, hfinds, hdead⟩ |
    ⟨_, _, _, _, hlive', r', rfl, hinsert⟩
  · exact hdead _ _ _ _ hlive
  · obtain ⟨-, -, -, rfl⟩ := hfinds.unique hlive.toFinds hdb
    exact hdead hlive.isLive
  obtain ⟨rfl, rfl, rfl, rfl⟩ := hlive.toFinds.unique hlive'.toFinds hdb
  have hrow : (db.update (tokenConsumption id now)).token id' = some
      (if id' = id then { row' with consumedAt := some now } else row') := by
    rw [token_consumption, hrow', Option.map_some]
  rcases hinsert with ⟨rfl, rfl, -⟩ | ⟨_, -, -, hfree, -⟩
  · have hnot : ¬ Reuses cfg now db token := by
      rintro ⟨_, _, _, _, hfinds, hdead⟩
      obtain ⟨-, -, -, rfl⟩ := hfinds.unique hlive.toFinds hdb
      exact hdead hlive.isLive
    have hsame := hkeeps.unchanged rfl hnot
    have hconsumed : (db.update (tokenConsumption id now)).token id = _ := token_consumption id now id
    rw [hsame, hlive.stored, Option.map_some, if_pos rfl, Option.some.injEq] at hconsumed
    cases hlive.isLive.2.symm.trans (congrArg RefreshToken.consumedAt hconsumed)
  · refine hfree id' _ hrow (Or.inl ?_)
    split_ifs
    · exact hhash
    · exact hhash

/-- **A refresh ends, and it keeps the session exactly if the token that it signs is not stored
    yet.** -/
theorem failed_refresh_keeps_session (hdb : Reachable cfg db) (now : Time) (token : String) :
    (∃ r db', Call cfg now db (refreshToken cfg token) r db') ∧
    ((∀ r db', Call cfg now db (refreshToken cfg token) r db' →
      KeepsSession cfg now db token r db') ↔ SignsNew cfg now db token) := by
  obtain ⟨r, db', h⟩ := exists_call cfg now db (refreshToken cfg token)
  refine ⟨⟨r, db', h⟩, fun hkeeps => ?_, fun hnew r db' h => hnew.keeps hdb.chained h⟩
  exact signsNew_of_keeps hdb.chained h (hkeeps r db' h)

end

/-! ### Examples -/

/-- The row is not of a token other than the first one. -/
def isFirst : (row : Row) → Record row → Bool
  | .token _, v => v.token = "first"
  | _, _ => true

/-- A user has logged in at time 0. -/
theorem exists_logged_in : ∃ db user row, Reachable plainConfig db ∧
    (∀ now, now / 1000 < 1000 → Live plainConfig now db "first" "u" user "k" row) ∧
    ∀ id row', db.token id = some row' → row'.token = "first" := by
  have hplay : ((service plainConfig).play (idle registered)
      [.call 0 (.login ⟨"e", "p"⟩), .step 0 { row := some "u" }, .step 0 {}, .step 0 {},
        .step 0 { text := "f" }, .step 0 { id := "k" }]).any fun x =>
      (x.2.shared.user "u").isSome ∧
      ((x.2.shared.token "k").any fun row => row.token = "first" ∧ row.IsLive ∧ row.expiresAt = none) ∧
      Storage.All x.2.shared isFirst := by decide
  obtain ⟨⟨tr, p⟩, hplay, hfacts⟩ := (Option.any_eq_true _ _).1 hplay
  obtain ⟨huser, hrow, hall⟩ := of_decide_eq_true hfacts
  obtain ⟨user, huser⟩ := Option.isSome_iff_exists.1 huser
  obtain ⟨row, hrow, hfacts⟩ := (Option.any_eq_true _ _).1 hrow
  obtain ⟨htoken, hlive, hexpiry⟩ := of_decide_eq_true hfacts
  refine ⟨p.shared, user, row, ⟨registered, tr, p, fun _ => rfl, System.run_play hplay, rfl⟩,
    fun now hnow => ⟨⟨?_, huser, hrow, htoken⟩, hlive, fun e he => ?_⟩, fun id row' hrow' => ?_⟩
  · rw [verifyAt, show plainConfig.decode .refresh "first" = some _ from rfl, Option.filter_some,
      if_pos (decide_eq_true hnow)]
    rfl
  · cases hexpiry.symm.trans he
  · exact of_decide_eq_true (Storage.all_iff.1 hall (.token id) row' hrow')

/-- A second later the refresh gets a new token. -/
theorem failed_refresh_keeps_session_later : ∃ db user row,
    Live plainConfig 1000 db "first" "u" user "k" row ∧ ∀ r db',
      Call plainConfig 1000 db (refreshToken plainConfig "first") r db' →
        KeepsSession plainConfig 1000 db "first" r db' := by
  obtain ⟨db, user, row, hdb, hlive, hfirst⟩ := exists_logged_in
  refine ⟨db, user, row, hlive 1000 (by decide),
    (failed_refresh_keeps_session hdb 1000 "first").2.2 fun _ _ _ _ _ id' row' hrow' => ?_⟩
  rw [hfirst id' row' hrow']
  exact (by decide : "first" ≠ "second")

/-- In the second of the login the refresh fails, and the session is lost. -/
theorem failed_refresh_loses_session : ¬ ∀ db now token r db', Reachable plainConfig db →
    Call plainConfig now db (refreshToken plainConfig token) r db' →
      KeepsSession plainConfig now db token r db' := by
  intro hclaim
  obtain ⟨db, user, row, hdb, hlive, -⟩ := exists_logged_in
  obtain ⟨r, db', h⟩ := exists_call plainConfig 0 db (refreshToken plainConfig "first")
  have hnew := signsNew_of_keeps hdb.chained h (hclaim db 0 "first" r db' hdb h)
  have hlive := hlive 0 (by decide)
  exact hnew _ _ _ _ hlive "k" row hlive.stored hlive.hash

end Auth
