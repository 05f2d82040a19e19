/-
  Hashing the stored refresh tokens (backend/src/migrations/
  HashRefreshTokensAtRest1790000000000.ts, backend/src/auth/helper/refresh-token-hash.ts).

  The migration walks the table page by page, in the order of the ids, and replaces each token that
  is not a hash by its hash.  It ends, visits each row once, and finds nothing to do the second time;
  whoever has a token is found by its hash.
-/
import NovaLabs.Auth.Rotation
import NovaLabs.Lib.Keyset
import Mathlib.Data.String.Basic

namespace Auth

open Lib
open Backend (Uuid)

/-! ## The migration -/

/-- `[0-9a-f]`. -/
def isHexDigit (c : Char) : Bool := '0' ≤ c ∧ c ≤ '9' ∨ 'a' ≤ c ∧ c ≤ 'f'

def isHashedRefreshToken (value : String) : Bool :=
  value.toList.length = 64 ∧ value.toList.all isHexDigit

def batchSize : ℕ := 500

def nilUuid : Uuid := "00000000-0000-0000-0000-000000000000"

inductive MigrationError where
  | outOfFuel
  /-- Two rows would have the same token. -/
  | duplicateToken
  deriving DecidableEq

def tokenId : Row → Option Uuid
  | .token id => some id
  | .user _ | .challenge _ => none

/-- The ids of `refresh_tokens`. -/
def Database.tokenIds (db : Database) : Finset Uuid :=
  db.keys.filterMap tokenId fun row row' id h h' => by
    cases row with
    | user | challenge => cases h
    | token => cases row' with
      | user | challenge => cases h'
      | token => rw [Option.some.inj h, Option.some.inj h']

/-- `SELECT id, token FROM refresh_tokens WHERE id > cursor ORDER BY id ASC LIMIT batch`. -/
def Database.selectPage (db : Database) (cursor : Uuid) (batch : ℕ) : List (Uuid × String) :=
  (page db.tokenIds cursor batch).filterMap fun id => (db.token id).map fun row => (id, row.token)

/-- `UPDATE refresh_tokens SET token = ...`. -/
def tokenChange (f : Uuid → String → String) : ∀ row, Record row → Option (Record row)
  | .token id, row => some { row with token := f id row.token }
  | .user _, _ | .challenge _, _ => none

/-- A change of the tokens, for which there is a unique index. -/
def Database.setTokens (db : Database) (f : Uuid → String → String) :
    Except MigrationError Database :=
  let db' := db.update (tokenChange f)
  if ∀ id ∈ db'.tokenIds, ∀ id' ∈ db'.tokenIds,
      (db'.token id).map RefreshToken.token = (db'.token id').map RefreshToken.token → id = id' then
    .ok db'
  else .error .duplicateToken

section
variable (cfg : Config)

/-- The loop over the rows of a page. -/
def hashRows : List (Uuid × String) → Database → Except MigrationError Database
  | [], db => .ok db
  | (id, token) :: rows, db =>
    if isHashedRefreshToken token then hashRows rows db
    else do
      -- UPDATE refresh_tokens SET token = ... WHERE id = ...
      let db ← db.setTokens fun id' token' =>
        if id' = id then cfg.hashRefreshToken token else token'
      hashRows rows db

/-- The loop over the pages, which also tells the rows that it visits. -/
def hashPages : ℕ → Uuid → Database → List Uuid → Except MigrationError (Database × List Uuid)
  | 0, _, _, _ => .error .outOfFuel
  | fuel + 1, cursor, db, visited =>
    let rows := db.selectPage cursor batchSize
    match rows.getLast? with
    | none => .ok (db, visited)
    | some last => do
      let db ← hashRows cfg rows db
      let visited := visited ++ rows.map Prod.fst
      if rows.length < batchSize then .ok (db, visited)
      else hashPages fuel last.1 db visited

/-- `HashRefreshTokensAtRest.up`. -/
def up (fuel : ℕ) (db : Database) : Except MigrationError (Database × List Uuid) := do
  let (db, visited) ← hashPages cfg fuel nilUuid db []
  -- ALTER TABLE ... ALTER COLUMN token TYPE varchar(64) USING token::varchar(64)
  let db ← db.setTokens fun _ token => String.ofList (token.toList.take 64)
  .ok (db, visited)

end

/-! ## Steps of the migration -/

section
variable {cfg : Config} {db db₀ db' : Database} {id : Uuid}

theorem mem_tokenIds : id ∈ db.tokenIds ↔ ∃ row, db.token id = some row := by
  rw [Database.tokenIds, Finset.mem_filterMap]
  constructor
  · rintro ⟨row, hmem, hrow⟩
    cases row with
    | user | challenge => cases hrow
    | token =>
      cases hrow
      exact Finmap.mem_iff.1 (Finmap.mem_keys.1 hmem)
  · rintro ⟨row, hrow⟩
    exact ⟨.token id, Finmap.mem_keys.2 (Finmap.mem_iff.2 ⟨row, hrow⟩), rfl⟩

theorem token_update (db : Database) (f : Uuid → String → String) (id : Uuid) :
    (db.update (tokenChange f)).token id =
      (db.token id).map fun row => { row with token := f id row.token } := by
  rw [Database.token, lookup_update]
  cases h : db.token id with
  | none => rw [show db.lookup (.token id) = none from h]; rfl
  | some row => rw [show db.lookup (.token id) = some row from h]; rfl

theorem lookup_tokenChange (db : Database) (f : Uuid → String → String) {row : Row}
    (hrow : tokenId row = none) : (db.update (tokenChange f)).lookup row = db.lookup row := by
  rw [lookup_update]
  cases row with
  | token => cases hrow
  | user | challenge => cases h : db.lookup _ <;> rfl

/-- A change of the tokens to different ones goes through. -/
theorem setTokens_ok {f : Uuid → String → String}
    (h : ∀ id id' row row', db.token id = some row → db.token id' = some row' →
      f id row.token = f id' row'.token → id = id') :
    db.setTokens f = .ok (db.update (tokenChange f)) := by
  refine if_pos fun id hid id' hid' heq => ?_
  obtain ⟨row, hrow⟩ := mem_tokenIds.1 hid
  obtain ⟨row', hrow'⟩ := mem_tokenIds.1 hid'
  rw [hrow, hrow', Option.map_some, Option.map_some, Option.some_inj] at heq
  rw [token_update, Option.map_eq_some_iff] at hrow hrow'
  obtain ⟨row, hrow, rfl⟩ := hrow
  obtain ⟨row', hrow', rfl⟩ := hrow'
  exact h id id' row row' hrow hrow' heq

/-! ## The run of the migration -/

/-- A row with its token hashed, unless it is. -/
def RefreshToken.hashed (cfg : Config) (row : RefreshToken) : RefreshToken :=
  { row with
    token := if isHashedRefreshToken row.token then row.token else cfg.hashRefreshToken row.token }

/-- The table that is migrated: there is an index on the tokens, and no hash of a token is in it. -/
structure Content (cfg : Config) (db : Database) : Prop where
  above : ∀ id row, db.token id = some row → nilUuid < id
  unique : ∀ id id' row row', db.token id = some row → db.token id' = some row' →
    row.token = row'.token → id = id'
  noHash : ∀ id id' row row', db.token id = some row → db.token id' = some row' →
    ¬ isHashedRefreshToken row.token → row'.token ≠ cfg.hashRefreshToken row.token
  /-- SHA-256 is injective on the tokens of the table. -/
  injective : ∀ id id' row row', db.token id = some row → db.token id' = some row' →
    ¬ isHashedRefreshToken row.token → ¬ isHashedRefreshToken row'.token →
    cfg.hashRefreshToken row.token = cfg.hashRefreshToken row'.token → row.token = row'.token
  isHash : ∀ token, isHashedRefreshToken (cfg.hashRefreshToken token)

/-- The visited rows have been hashed. -/
structure Partly (cfg : Config) (db₀ : Database) (visited : List Uuid) (db : Database) : Prop where
  tokens : ∀ id, db.token id = (db₀.token id).map fun row =>
    if id ∈ visited then row.hashed cfg else row
  others : ∀ row, tokenId row = none → db.lookup row = db₀.lookup row

/-- The token of the row, before or after it is hashed. -/
def RefreshToken.Stage (cfg : Config) (row : RefreshToken) (token : String) : Prop :=
  token = row.token ∨ ¬ isHashedRefreshToken row.token ∧ token = cfg.hashRefreshToken row.token

theorem RefreshToken.stage_hashed (row : RefreshToken) : row.Stage cfg (row.hashed cfg).token := by
  rw [RefreshToken.hashed]
  split_ifs with h
  · exact Or.inl rfl
  · exact Or.inr ⟨h, rfl⟩

/-- At no stage do two rows have the same token. -/
theorem Content.stage_unique (h : Content cfg db₀) {id id' : Uuid} {row row' : RefreshToken}
    {token : String} (hrow : db₀.token id = some row) (hrow' : db₀.token id' = some row')
    (hs : row.Stage cfg token) (hs' : row'.Stage cfg token) : id = id' := by
  rcases hs with rfl | ⟨hraw, rfl⟩
  · rcases hs' with heq | ⟨hraw', heq⟩
    · exact h.unique id id' row row' hrow hrow' heq
    · exact absurd heq (h.noHash id' id row' row hrow' hrow hraw')
  · rcases hs' with heq | ⟨hraw', heq⟩
    · exact absurd heq.symm (h.noHash id id' row row' hrow hrow' hraw)
    · exact h.unique id id' row row' hrow hrow' (h.injective id id' row row' hrow hrow' hraw hraw' heq)

theorem Partly.stage {visited : List Uuid} (hdb : Partly cfg db₀ visited db) {row : RefreshToken}
    (hrow : db.token id = some row) : ∃ row₀, db₀.token id = some row₀ ∧ row₀.Stage cfg row.token := by
  rw [hdb.tokens, Option.map_eq_some_iff] at hrow
  obtain ⟨row₀, hrow₀, rfl⟩ := hrow
  refine ⟨row₀, hrow₀, ?_⟩
  split_ifs
  · exact row₀.stage_hashed
  · exact Or.inl rfl

theorem Partly.tokenIds {visited : List Uuid} (hdb : Partly cfg db₀ visited db) :
    db.tokenIds = db₀.tokenIds := by
  ext id
  rw [mem_tokenIds, mem_tokenIds, hdb.tokens]
  cases db₀.token id <;> simp

/-- A row of a page is visited. -/
theorem hashRow {visited : List Uuid} {token : String} {row : RefreshToken} (h : Content cfg db₀)
    (hdb : Partly cfg db₀ visited db) (hid : id ∉ visited) (hrow : db₀.token id = some row)
    (htoken : row.token = token) (rows : List (Uuid × String)) :
    ∃ db', hashRows cfg ((id, token) :: rows) db = hashRows cfg rows db' ∧
      Partly cfg db₀ (visited ++ [id]) db' := by
  subst htoken
  rw [hashRows]
  split_ifs with hhashed
  · refine ⟨db, rfl, fun id' => ?_, hdb.others⟩
    rw [hdb.tokens]
    by_cases hid' : id' = id
    · subst hid'
      rw [hrow]
      simp [hid, RefreshToken.hashed, hhashed]
    · simp [hid']
  · have hok : db.setTokens _ = .ok _ := setTokens_ok
      (f := fun id' token' => if id' = id then cfg.hashRefreshToken row.token else token')
      fun id₁ id₂ row₁ row₂ hrow₁ hrow₂ heq => ?_
    · refine ⟨_, by rw [hok]; rfl, fun id' => ?_, fun r hr => ?_⟩
      · rw [token_update, hdb.tokens, Option.map_map]
        by_cases hid' : id' = id
        · subst hid'
          rw [hrow]
          simp [hid, RefreshToken.hashed, hhashed]
        · simp [hid', Function.comp_def]
      · exact (lookup_tokenChange _ _ hr).trans (hdb.others r hr)
    · have hstage {id₁ : Uuid} {row₁ : RefreshToken} (hrow₁ : db.token id₁ = some row₁) :
          ∃ row₀, db₀.token id₁ = some row₀ ∧ row₀.Stage cfg
            (if id₁ = id then cfg.hashRefreshToken row.token else row₁.token) := by
        split_ifs with hid₁
        · exact ⟨row, hid₁ ▸ hrow, Or.inr ⟨hhashed, rfl⟩⟩
        · exact hdb.stage hrow₁
      obtain ⟨row₁', hrow₁', hs₁⟩ := hstage hrow₁
      obtain ⟨row₂', hrow₂', hs₂⟩ := hstage hrow₂
      exact h.stage_unique hrow₁' hrow₂' (heq ▸ hs₁) hs₂

/-- The rows of a page are visited. -/
theorem hashRows_partly (h : Content cfg db₀) {rows : List (Uuid × String)} {visited : List Uuid}
    (hdb : Partly cfg db₀ visited db)
    (hrows : ∀ r ∈ rows, ∃ row, db₀.token r.1 = some row ∧ row.token = r.2)
    (hnodup : (visited ++ rows.map Prod.fst).Nodup) :
    ∃ db', hashRows cfg rows db = .ok db' ∧ Partly cfg db₀ (visited ++ rows.map Prod.fst) db' := by
  induction rows generalizing visited db with
  | nil =>
    rw [List.map_nil, List.append_nil]
    exact ⟨db, rfl, hdb⟩
  | cons r rows ih =>
    obtain ⟨id, token⟩ := r
    obtain ⟨⟨row, hrow, htoken⟩, hrows⟩ := List.forall_mem_cons.1 hrows
    rw [List.map_cons, List.append_cons] at hnodup
    have hid : id ∉ visited := fun hmem =>
      List.disjoint_of_nodup_append (List.Nodup.of_append_left hnodup) hmem (List.mem_singleton_self id)
    obtain ⟨db', heq, hdb'⟩ := hashRow h hdb hid hrow htoken rows
    rw [heq, List.map_cons, List.append_cons]
    exact ih hdb' hrows hnodup

theorem selectPage_ids (db : Database) (cursor : Uuid) (batch : ℕ) :
    (db.selectPage cursor batch).map Prod.fst = page db.tokenIds cursor batch := by
  rw [Database.selectPage, List.map_filterMap]
  refine (List.filterMap_congr fun id hid => ?_).trans List.filterMap_some
  obtain ⟨row, hrow⟩ := mem_tokenIds.1 (mem_after.1 (List.mem_of_mem_take hid)).1
  rw [hrow]
  rfl

/-- From a cursor, with the rows up to it visited, the loop visits the rows after it. -/
theorem hashPages_partly (h : Content cfg db₀) {fuel : ℕ} {cursor : Uuid} {visited : List Uuid}
    (hdb : Partly cfg db₀ visited db)
    (hnodup : (visited ++ after db₀.tokenIds cursor).Nodup)
    (hfuel : (after db₀.tokenIds cursor).length < fuel) :
    ∃ db', hashPages cfg fuel cursor db visited =
        .ok (db', visited ++ after db₀.tokenIds cursor) ∧
      Partly cfg db₀ (visited ++ after db₀.tokenIds cursor) db' := by
  induction fuel generalizing cursor visited db with
  | zero => exact absurd hfuel (Nat.not_lt_zero _)
  | succ fuel ih =>
    have hids : (db.selectPage cursor batchSize).map Prod.fst =
        page db₀.tokenIds cursor batchSize := by
      rw [selectPage_ids, hdb.tokenIds]
    have hlen : (db.selectPage cursor batchSize).length =
        (page db₀.tokenIds cursor batchSize).length := by
      rw [← hids, List.length_map]
    rw [hashPages]
    cases hlast : (db.selectPage cursor batchSize).getLast? with
    | none =>
      -- no row after the cursor
      rw [List.getLast?_eq_none_iff.1 hlast, List.map_nil, eq_comm, page_eq_nil (by decide)] at hids
      rw [hids, List.append_nil]
      exact ⟨db, rfl, hdb⟩
    | some last =>
      have hpage : (page db₀.tokenIds cursor batchSize).getLast? = some last.1 := by
        rw [← hids, List.getLast?_map, hlast]
        rfl
      have hsplit := page_append hpage
      rw [hsplit, ← List.append_assoc] at hnodup
      have hrows : ∀ r ∈ db.selectPage cursor batchSize,
          ∃ row, db₀.token r.1 = some row ∧ row.token = r.2 := by
        intro r hr
        obtain ⟨id, hid, hr⟩ := List.mem_filterMap.1 hr
        obtain ⟨row, hrow, rfl⟩ := Option.map_eq_some_iff.1 hr
        rw [hdb.tokenIds] at hid
        have hnew : id ∉ visited := fun hmem => List.disjoint_of_nodup_append
          (List.Nodup.of_append_left hnodup) hmem hid
        rw [hdb.tokens, Option.map_eq_some_iff] at hrow
        obtain ⟨row₀, hrow₀, rfl⟩ := hrow
        exact ⟨row₀, hrow₀, by rw [if_neg hnew]⟩
      obtain ⟨db', heq, hdb'⟩ := hashRows_partly h hdb hrows
        (hids.symm ▸ List.Nodup.of_append_left hnodup)
      rw [hids] at hdb'
      simp only [heq, hids, hlen, bind, Except.bind]
      split_ifs with hshort
      · rw [after_of_short hshort]
        exact ⟨db', rfl, hdb'⟩
      · have hlt : (after db₀.tokenIds last.1).length < fuel := by
          rw [hsplit, List.length_append] at hfuel
          have hpos : 0 < batchSize := by decide
          omega
        obtain ⟨db'', heq', hdb''⟩ := ih hdb' hnodup hlt
        rw [hsplit, ← List.append_assoc]
        exact ⟨db'', heq', hdb''⟩

theorem Content.isHashed (h : Content cfg db₀) (row : RefreshToken) :
    isHashedRefreshToken (row.hashed cfg).token := by
  rw [RefreshToken.hashed]
  dsimp only
  split_ifs with hhashed
  · exact hhashed
  · exact h.isHash row.token

theorem Content.hashed_hashed (h : Content cfg db₀) (row : RefreshToken) :
    (row.hashed cfg).hashed cfg = row.hashed cfg := by
  rw [RefreshToken.hashed, if_pos (h.isHashed row)]

theorem Content.hashed_unique (h : Content cfg db₀) {id' : Uuid} {row row' : RefreshToken}
    (hrow : db₀.token id = some row) (hrow' : db₀.token id' = some row')
    (heq : (row.hashed cfg).token = (row'.hashed cfg).token) : id = id' :=
  h.stage_unique hrow hrow' row.stage_hashed (heq ▸ row'.stage_hashed)

/-- Hashes fit into the column. -/
theorem take_hash {token : String} (h : isHashedRefreshToken token) :
    String.ofList (token.toList.take 64) = token := by
  have hlen : token.toList.length = 64 := (of_decide_eq_true h).1
  rw [List.take_of_length_le hlen.le, String.ofList_toList]

/-- The migration ends, has visited the rows in the order of their ids, and has hashed them. -/
theorem up_hashed (h : Content cfg db₀) {fuel : ℕ} (hfuel : db₀.tokenIds.card < fuel) :
    ∃ db, up cfg fuel db₀ = .ok (db, after db₀.tokenIds nilUuid) ∧
      (∀ id, db.token id = (db₀.token id).map (RefreshToken.hashed cfg)) ∧
      ∀ row, tokenId row = none → db.lookup row = db₀.lookup row := by
  have hstart : Partly cfg db₀ [] db₀ := ⟨fun id => by simp, fun _ _ => rfl⟩
  have hnodup : ([] ++ after db₀.tokenIds nilUuid).Nodup := by simpa using after_nodup
  obtain ⟨db, hpages, hdb⟩ := hashPages_partly h hstart hnodup
    ((length_after_le _ _).trans_lt hfuel)
  rw [List.nil_append] at hpages hdb
  have htokens : ∀ id, db.token id = (db₀.token id).map (RefreshToken.hashed cfg) := by
    intro id
    rw [hdb.tokens]
    cases hrow : db₀.token id with
    | none => rfl
    | some row =>
      have hmem : id ∈ after db₀.tokenIds nilUuid :=
        mem_after.2 ⟨mem_tokenIds.2 ⟨row, hrow⟩, h.above id row hrow⟩
      rw [Option.map_some, if_pos hmem, Option.map_some]
  have hcut : ∀ id row, db.token id = some row →
      String.ofList (row.token.toList.take 64) = row.token := by
    intro id row hrow
    rw [htokens, Option.map_eq_some_iff] at hrow
    obtain ⟨row₀, -, rfl⟩ := hrow
    exact take_hash (h.isHashed row₀)
  have halter : db.setTokens (fun _ token => String.ofList (token.toList.take 64)) = .ok db := by
    rw [setTokens_ok fun id id' row row' hrow hrow' heq => ?_]
    · refine congrArg Except.ok (Finmap.ext_lookup fun row => ?_)
      cases row with
      | user | challenge => exact lookup_tokenChange _ _ rfl
      | token id =>
        refine (token_update _ _ id).trans ?_
        cases hrow : db.token id with
        | none => exact hrow.symm
        | some row =>
          rw [Option.map_some, hcut id row hrow]
          exact hrow.symm
    · rw [hcut id row hrow, hcut id' row' hrow'] at heq
      rw [htokens, Option.map_eq_some_iff] at hrow hrow'
      obtain ⟨row, hrow, rfl⟩ := hrow
      obtain ⟨row', hrow', rfl⟩ := hrow'
      exact h.hashed_unique hrow hrow' heq
  refine ⟨db, ?_, htokens, hdb.others⟩
  simp only [up, hpages, halter, bind, Except.bind]

/-- What is migrated is a table of hashes. -/
theorem Content.migrated (h : Content cfg db₀)
    (hdb : ∀ id, db.token id = (db₀.token id).map (RefreshToken.hashed cfg)) :
    Content cfg db := by
  have hold {id : Uuid} {row : RefreshToken} (hrow : db.token id = some row) :
      ∃ row₀, db₀.token id = some row₀ ∧ row₀.hashed cfg = row :=
    Option.map_eq_some_iff.1 (hdb id ▸ hrow)
  have hhash {id : Uuid} {row : RefreshToken} (hrow : db.token id = some row) :
      isHashedRefreshToken row.token := by
    obtain ⟨row₀, -, rfl⟩ := hold hrow
    exact h.isHashed row₀
  constructor
  case above =>
    intro id row hrow
    obtain ⟨row₀, hrow₀, -⟩ := hold hrow
    exact h.above id row₀ hrow₀
  case unique =>
    intro id id' row row' hrow hrow' heq
    obtain ⟨row₀, hrow₀, rfl⟩ := hold hrow
    obtain ⟨row₀', hrow₀', rfl⟩ := hold hrow'
    exact h.hashed_unique hrow₀ hrow₀' heq
  case noHash => exact fun _ _ _ _ hrow _ hraw => absurd (hhash hrow) hraw
  case injective => exact fun _ _ _ _ hrow _ hraw => absurd (hhash hrow) hraw
  case isHash => exact h.isHash

/-- A search by a hash that one row has, and no other, finds that row. -/
theorem findToken_found {token : String} {row : RefreshToken} (hrow : db.token id = some row)
    (htoken : row.token = token)
    (hother : ∀ id' row', db.token id' = some row' → row'.token = token → id' = id) :
    (∀ w : World, w.row = some id → exec cfg w db (.findToken token) = some (some (id, row), db)) ∧
      ∀ w a db', exec cfg w db (.findToken token) = some (a, db') → a = some (id, row) := by
  constructor
  · intro w hw
    simp only [exec, hw, Database.findToken, hrow, Option.bind_some, if_pos htoken, Option.map_some]
  · intro w a db' hexec
    cases a with
    | none => exact absurd htoken (findToken_none hexec hrow).2
    | some found =>
      obtain ⟨id', row'⟩ := found
      obtain ⟨-, hrow', htoken'⟩ := findToken_some hexec
      obtain rfl := hother id' row' hrow' htoken'
      exact congrArg (fun row => some (id', row)) (Option.some.inj (hrow'.symm.trans hrow))

/-- **The migration ends, having visited each row once; the tokens are hashed and nothing else is
    changed, whoever has a token is found by it, and a second run changes nothing.** -/
theorem refreshTokens_migrated (h : Content cfg db) {fuel : ℕ} (hfuel : db.tokenIds.card < fuel) :
    ∃ db' visited, up cfg fuel db = .ok (db', visited) ∧
      visited.Nodup ∧ (∀ id, id ∈ visited ↔ ∃ row, db.token id = some row) ∧
      (∀ id, db'.token id = (db.token id).map (RefreshToken.hashed cfg)) ∧
      (∀ row, tokenId row = none → db'.lookup row = db.lookup row) ∧
      (∀ id row token, db.token id = some row →
        (row.token = token ∧ ¬ isHashedRefreshToken token ∨
          row.token = cfg.hashRefreshToken token) →
        (∀ w : World, w.row = some id → exec cfg w db' (.findToken (cfg.hashRefreshToken token)) =
          some (some (id, row.hashed cfg), db')) ∧
        ∀ w a db'', exec cfg w db' (.findToken (cfg.hashRefreshToken token)) = some (a, db'') →
          a = some (id, row.hashed cfg)) ∧
      up cfg fuel db' = .ok (db', visited) := by
  obtain ⟨db', hup, htokens, hothers⟩ := up_hashed h hfuel
  have hids : db'.tokenIds = db.tokenIds := by
    ext id
    rw [mem_tokenIds, mem_tokenIds, htokens]
    cases db.token id <;> simp
  refine ⟨db', _, hup, after_nodup, fun id => ?_, htokens, hothers, ?_, ?_⟩
  · rw [mem_after, mem_tokenIds]
    exact and_iff_left_of_imp fun ⟨row, hrow⟩ => h.above id row hrow
  · intro id row token hrow htoken
    have hhashed : (row.hashed cfg).token = cfg.hashRefreshToken token := by
      rw [RefreshToken.hashed]
      rcases htoken with ⟨rfl, hraw⟩ | htoken
      · exact if_neg hraw
      · exact (if_pos (htoken ▸ h.isHash token)).trans htoken
    refine findToken_found (by rw [htokens, hrow, Option.map_some]) hhashed
      fun id' row' hrow' htoken' => ?_
    rw [htokens, Option.map_eq_some_iff] at hrow'
    obtain ⟨row', hrow', rfl⟩ := hrow'
    exact h.hashed_unique hrow' hrow (htoken'.trans hhashed.symm)
  · obtain ⟨db'', hup', htokens', hothers'⟩ := up_hashed (h.migrated htokens) (hids ▸ hfuel)
    have hsame : db'' = db' := by
      refine Finmap.ext_lookup fun row => ?_
      cases row with
      | user | challenge => exact hothers' _ rfl
      | token id =>
        refine (htokens' id).trans ?_
        rw [htokens, Option.map_map, show RefreshToken.hashed cfg ∘ RefreshToken.hashed cfg = _ from
          funext h.hashed_hashed]
        exact (htokens id).symm
    rw [hup', hsame, hids]

end

/-- SHA-256 of "raw", and of the empty text for any other. -/
def sampleHash (token : String) : String :=
  if token = "raw" then "d7439bee24773bcbfa2d0a97947ee36227b10d1022b1a55847e928965bb6bfde"
  else "e3b0c44298fc1c149afbf4c8996fb92427ae41e4649b934ca495991b7852b855"

def rawRow : RefreshToken :=
  { userId := "u", token := "raw", familyId := "f", version := 1, expiresAt := none }

/-- A table of a token in clear and one that is hashed. -/
def oldTokens : Database :=
  Finmap.insert (.token "a") rawRow
    (Finmap.insert (.token "b") { rawRow with token := sampleHash "", version := 2 } ∅)

theorem isHashedRefreshToken_eq {value : String} {l : List Char} (h : value = String.ofList l) :
    isHashedRefreshToken value = decide (l.length = 64 ∧ l.all isHexDigit) := by
  rw [h, isHashedRefreshToken, String.toList_ofList]

theorem isHashed_sampleHash (token : String) : isHashedRefreshToken (sampleHash token) := by
  rw [sampleHash]
  -- a literal is `String.ofList` of its characters by definition; its `toList` is slow to evaluate
  split_ifs <;> exact (isHashedRefreshToken_eq rfl).trans (by decide)

theorem oldTokens_token {id : Uuid} {row : RefreshToken} (h : oldTokens.token id = some row) :
    id = "a" ∧ row = rawRow ∨
      id = "b" ∧ row = { rawRow with token := sampleHash "", version := 2 } := by
  rw [oldTokens, Database.token] at h
  by_cases ha : id = "a"
  · subst ha
    rw [Finmap.lookup_insert] at h
    exact Or.inl ⟨rfl, (Option.some.inj h).symm⟩
  · by_cases hb : id = "b"
    · subst hb
      rw [Finmap.lookup_insert_of_ne _ (by simp), Finmap.lookup_insert] at h
      exact Or.inr ⟨rfl, (Option.some.inj h).symm⟩
    · rw [Finmap.lookup_insert_of_ne _ (by simpa using ha),
        Finmap.lookup_insert_of_ne _ (by simpa using hb), Finmap.lookup_empty] at h
      cases h

theorem content_oldTokens :
    Content { plainConfig with hashRefreshToken := sampleHash } oldTokens where
  above id row hrow := by
    rcases oldTokens_token hrow with ⟨rfl, -⟩ | ⟨rfl, -⟩ <;> decide
  unique id id' row row' hrow hrow' heq := by
    rcases oldTokens_token hrow with ⟨rfl, rfl⟩ | ⟨rfl, rfl⟩ <;>
      rcases oldTokens_token hrow' with ⟨rfl, rfl⟩ | ⟨rfl, rfl⟩ <;> first | rfl | (revert heq; decide)
  noHash id id' row row' hrow hrow' hraw := by
    rcases oldTokens_token hrow with ⟨rfl, rfl⟩ | ⟨rfl, rfl⟩
    · rcases oldTokens_token hrow' with ⟨rfl, rfl⟩ | ⟨rfl, rfl⟩ <;> decide
    · exact absurd (isHashed_sampleHash "") hraw
  injective id id' row row' hrow hrow' hraw hraw' _ := by
    rcases oldTokens_token hrow with ⟨rfl, rfl⟩ | ⟨rfl, rfl⟩
    · rcases oldTokens_token hrow' with ⟨rfl, rfl⟩ | ⟨rfl, rfl⟩
      · rfl
      · exact absurd (isHashed_sampleHash "") hraw'
    · exact absurd (isHashed_sampleHash "") hraw
  isHash := isHashed_sampleHash

theorem refreshTokens_migrated_old : ∃ db visited,
    up { plainConfig with hashRefreshToken := sampleHash } 3 oldTokens = .ok (db, visited) ∧
      visited.Nodup ∧ db.token "a" = some { rawRow with token := sampleHash "raw" } := by
  obtain ⟨db, visited, hup, hnodup, -, htokens, -⟩ :=
    refreshTokens_migrated content_oldTokens (show oldTokens.tokenIds.card < 3 by decide)
  exact ⟨db, visited, hup, hnodup, (htokens "a").trans (by decide)⟩

end Auth
