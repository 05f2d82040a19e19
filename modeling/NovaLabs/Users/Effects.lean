/-
  What a statement does to the users and to the open transactions, and what the requests ask.
-/
import NovaLabs.Users.Operations

namespace Users

open Lib Process
open Backend (Uuid Time)

/-- All but the statements that begin and end transactions. -/
def Query.sparesTransactions : Query → Bool
  | .begin | .commit | .rollback => false
  | _ => true

/-- All but the statements that can write users: those with a null password break the schema. -/
def Query.leavesUsers : Query → Bool
  | .insertUser _ | .deleteUser _ => false
  | .restoreUser _ user => user .password = none
  | .updateUser _ held columns => held .password = none ∧ .password ∈ columns
  | _ => true

/-! ## What a statement does to users -/

/-- No open transaction has written users. -/
def UsersApart (s : DbServer) : Prop :=
  ∀ t x, s.active.lookup t = some x → ∀ id, x.written.lookup (.user id) = none

/-- The users are the same, and no open transaction has written any. -/
structure SameUsers (s s' : DbServer) : Prop where
  users : ∀ id, s'.db.user id = s.db.user id
  apart : UsersApart s'

section
variable {cfg : Config} {s s' : DbServer} {t t' : ℕ} {w : World} {op : Query} {a : Answer op}
  {rows : Database} {id : Uuid} {db : Database}

/-- A write of rows of other tables. -/
theorem sameUsers_put (hs : UsersApart s) (hrows : ∀ id, rows.lookup (.user id) = none) :
    SameUsers s (s.put t rows) := by
  cases hx : s.active.lookup t with
  | none =>
    rw [Server.put_none hx]
    refine ⟨fun id => ?_, hs⟩
    rw [Database.user, Database.record, DbServer.db, Storage.lookup_union, hrows, Option.none_or]
    rfl
  | some x =>
    rw [Server.put_active hx]
    refine ⟨fun id => rfl, fun t' x' hx' id => ?_⟩
    by_cases ht : t' = t
    · subst ht
      rw [Finmap.lookup_insert, Option.some.injEq] at hx'
      subst hx'
      rw [Storage.lookup_union, hrows, Option.none_or]
      exact hs t' x hx id
    · rw [Finmap.lookup_insert_of_ne _ ht] at hx'
      exact hs t' x' hx' id

theorem change_sameUsers {f : ∀ row, Cell row → Option (Cell row)} {u : Unit} (hs : UsersApart s)
    (hf : ∀ id cell, f (.user id) cell = none) (h : s.change t f = some (u, s')) :
    SameUsers s s' := by
  obtain ⟨s₁, hw, heq⟩ := Option.map_eq_some_iff.1 h
  cases heq
  obtain ⟨-, rfl⟩ := Server.write_eq_some.1 hw
  refine sameUsers_put hs fun id => ?_
  rw [Storage.lookup_changes, Option.bind_eq_none_iff]
  exact fun cell _ => hf id cell

theorem createAudit_sameUsers {log : AuditLog} {u : Unit} (hs : UsersApart s)
    (h : s.createAudit id log = some (u, s')) : SameUsers s s' := by
  unfold DbServer.createAudit at h
  split_ifs at h
  cases h
  refine ⟨fun id' => ?_, hs⟩
  rw [Database.user, Database.record, DbServer.db, Finmap.lookup_insert_of_ne _ Row.noConfusion]
  rfl

/-- The statements of transactions change no users, where none has written any. -/
theorem transaction_sameUsers (hs : UsersApart s)
    (h : s.begin t = some s' ∨ s.commit t = some s' ∨ s.rollback t = some s') : SameUsers s s' := by
  rcases h with h | h | h
  · obtain ⟨-, rfl⟩ := Server.begin_eq_some.1 h
    refine ⟨fun _ => rfl, fun t' x' hx' id => ?_⟩
    by_cases ht : t' = t
    · subst ht
      rw [Finmap.lookup_insert, Option.some.injEq] at hx'
      subst hx'
      exact Finmap.lookup_empty _
    · rw [Finmap.lookup_insert_of_ne _ ht] at hx'
      exact hs t' x' hx' id
  · obtain ⟨x, hx, rfl⟩ := Server.commit_eq_some.1 h
    refine ⟨fun id => ?_, fun t' x' hx' => ?_⟩
    · rw [Database.user, Database.record, DbServer.db, Storage.lookup_union, hs t x hx id,
        Option.none_or]
      rfl
    · by_cases ht : t' = t
      · rw [ht, Finmap.lookup_erase] at hx'
        cases hx'
      · rw [Finmap.lookup_erase_ne ht] at hx'
        exact hs t' x' hx'
  · obtain ⟨x, hx, rfl⟩ := Server.rollback_eq_some.1 h
    refine ⟨fun _ => rfl, fun t' x' hx' => ?_⟩
    by_cases ht : t' = t
    · rw [ht, Finmap.lookup_erase] at hx'
      cases hx'
    · rw [Finmap.lookup_erase_ne ht] at hx'
      exact hs t' x' hx'

/-- An entity is stored, or the statement fails. -/
theorem putUser_cases {user : User} {stored : Bool} (h : s.putUser t id user = some (stored, s')) :
    (stored = false ∧ s' = s ∧ ¬ (s.view t).Accepts id user) ∨
      ∃ hu : (s.view t).Accepts id user, stored = true ∧
        s' = s.put t (Finmap.insert (.user id) (some ⟨user, hu.1⟩) ∅) := by
  unfold DbServer.putUser at h
  split_ifs at h with hu
  · obtain ⟨s₁, hw, heq⟩ := Option.map_eq_some_iff.1 h
    cases heq
    exact Or.inr ⟨hu, rfl, (Server.write_eq_some.1 hw).2⟩
  · cases h
    exact Or.inl ⟨rfl, rfl, hu⟩

/-- Outside transactions a user is stored at once. -/
theorem user_put_insert (hx : s.active.lookup t = none) (user : StoredUser) (id' : Uuid) :
    (DbServer.db (s.put t (Finmap.insert (.user id) (some user) ∅))).user id' =
      if id' = id then some user else s.db.user id' := by
  rw [Server.put_none hx, Database.user, Database.record, DbServer.db, Storage.lookup_union]
  split_ifs with hid
  · rw [hid, Finmap.lookup_insert]
    rfl
  · rw [Finmap.lookup_insert_of_ne _ (by simpa using hid), Finmap.lookup_empty, Option.none_or]
    rfl

theorem not_accepts_of_password {user : User} (h : user .password = none) :
    ¬ db.Accepts id user := by
  rintro ⟨hschema, -⟩
  have hset := hschema .password (by decide)
  rw [h] at hset
  cases hset

/-! ## What a statement does to open transactions -/

/-- The open transactions are the same, or session `t` has written rows. -/
def Writes (s : DbServer) (t : ℕ) (s' : DbServer) : Prop :=
  s'.active = s.active ∨ ∃ rows, s' = s.put t rows

theorem putUser_writes {id : Uuid} {user : User} {stored : Bool}
    (h : s.putUser t id user = some (stored, s')) : Writes s t s' := by
  rcases putUser_cases h with ⟨-, rfl, -⟩ | ⟨_, -, rfl⟩
  · exact Or.inl rfl
  · exact Or.inr ⟨_, rfl⟩

theorem change_writes {f : ∀ row, Cell row → Option (Cell row)} {u : Unit}
    (h : s.change t f = some (u, s')) : Writes s t s' := by
  obtain ⟨s₁, hw, heq⟩ := Option.map_eq_some_iff.1 h
  cases heq
  exact Or.inr ⟨_, (Server.write_eq_some.1 hw).2⟩

/-- What a statement does to the open transactions. -/
theorem exec_writes (h : exec cfg t w s op = some (a, s')) : Writes s t s' ∨
    (op.sparesTransactions = false ∧
      (s.begin t = some s' ∨ s.commit t = some s' ∨ s.rollback t = some s')) := by
  cases op with
  | begin | commit | rollback =>
    obtain ⟨s₁, h₁, heq⟩ := Option.map_eq_some_iff.1 h
    cases heq
    simp [h₁, Query.sparesTransactions]
  | now | randomBytes | hashPassword | reloadUser | countAdmins =>
    cases h
    exact Or.inl (Or.inl rfl)
  | findUser which =>
    obtain ⟨found, -, heq⟩ := Option.map_eq_some_iff.1 h
    cases heq
    exact Or.inl (Or.inl rfl)
  | deleteTokens | deleteLogs | clearBookings | clearPayments => exact Or.inl (change_writes h)
  | createAudit log =>
    change s.createAudit w.id log = _ at h
    unfold DbServer.createAudit at h
    split_ifs at h
    cases h
    exact Or.inl (Or.inl rfl)
  | insertUser user =>
    change s.insertUser t w.id user = _ at h
    unfold DbServer.insertUser at h
    split_ifs at h
    obtain ⟨⟨stored, s₁⟩, hput, heq⟩ := Option.map_eq_some_iff.1 h
    cases heq
    exact Or.inl (putUser_writes hput)
  | restoreUser id user =>
    change s.restoreUser t id user = _ at h
    unfold DbServer.restoreUser at h
    split_ifs at h
    · exact Or.inl (putUser_writes h)
    · cases h
      exact Or.inl (Or.inl rfl)
  | updateUser id held columns =>
    change s.updateUser t id held columns = _ at h
    unfold DbServer.updateUser at h
    split at h
    · exact Or.inl (putUser_writes h)
    · cases h
      exact Or.inl (Or.inl rfl)
  | deleteUser id =>
    change s.deleteUser t w.referenced id = _ at h
    unfold DbServer.deleteUser at h
    split_ifs at h
    · cases h
      exact Or.inl (Or.inl rfl)
    · cases h
      exact Or.inl (Or.inl rfl)
    · obtain ⟨s₁, hw, heq⟩ := Option.map_eq_some_iff.1 h
      cases heq
      exact Or.inl (Or.inr ⟨_, (Server.write_eq_some.1 hw).2⟩)

theorem Writes.isSome (h : Writes s t s') (t' : ℕ) :
    (s'.active.lookup t').isSome = (s.active.lookup t').isSome := by
  rcases h with h | ⟨rows, rfl⟩
  · rw [h]
  · cases hx : s.active.lookup t with
    | none => rw [Server.put_none hx]
    | some x =>
      rw [Server.put_active hx, Store.lookup_insert_ite]
      split_ifs with ht
      · rw [ht, hx]
        rfl
      · rfl

/-- A session opens no transaction but its own, and this only by a statement that begins one. -/
theorem exec_isSome (h : exec cfg t w s op = some (a, s'))
    (hx : (s'.active.lookup t').isSome) : (s.active.lookup t').isSome ∨
      (t' = t ∧ op.sparesTransactions = false) := by
  rcases exec_writes h with h | ⟨hop, h⟩
  · exact Or.inl ((h.isSome t') ▸ hx)
  by_cases ht : t' = t
  · exact Or.inr ⟨ht, hop⟩
  refine Or.inl ?_
  rcases h with h | h | h
  · obtain ⟨-, rfl⟩ := Server.begin_eq_some.1 h
    rwa [Finmap.lookup_insert_of_ne _ ht] at hx
  · obtain ⟨x, -, rfl⟩ := Server.commit_eq_some.1 h
    rwa [Finmap.lookup_erase_ne ht] at hx
  · obtain ⟨x, -, rfl⟩ := Server.rollback_eq_some.1 h
    rwa [Finmap.lookup_erase_ne ht] at hx

end

/-! ## What requests ask -/

section
variable {cfg : Config} {queries : Query → Bool} {id : Uuid} {held : User}

theorem saveUser_only (hreload : queries (.reloadUser id))
    (hupdate : ∀ stored : StoredUser, queries (.updateUser id held (held.changed stored.1)))
    (hrestore : queries (.restoreUser id held)) : (saveUser id held).Only queries := by
  refine (Only.query hreload).bind fun stored => ?_
  cases stored with
  | none => exact (Only.query hrestore).bind fun _ => Only.failIf
  | some stored =>
    exact Only.ite ((Only.query (hupdate stored)).bind fun _ => Only.failIf) trivial

theorem saveUser_plain : (saveUser id held).Only Query.sparesTransactions :=
  saveUser_only rfl (fun _ => rfl) rfl

theorem errorCatch_only {α : Type} {message : String} {x : Proc α} (h : x.Only queries) :
    (errorCatch message x).Only queries :=
  h.attempt.bind fun r => by rcases r with (_ | _ | _ | _ | _ | _) | _ <;> trivial

theorem hashField_plain {fields : ∀ c : Column, Option (Option c.Value)} :
    (hashField fields).Only Query.sparesTransactions := by
  unfold hashField
  split
  · exact Only.ite ((Only.query rfl).bind fun _ => trivial) trivial
  · trivial

theorem updateUser_plain {dto : UpdateUserDto} {actor : Actor} :
    (updateUser id dto actor).Only Query.sparesTransactions := by
  refine errorCatch_only ((Only.query rfl).bind fun _ => Only.okOr.bind fun ⟨_, user, _⟩ => ?_)
  refine Only.failIf.bind fun _ => Only.failIf.bind fun _ => Only.failIf.bind fun _ => ?_
  refine hashField_plain.bind fun fields => Only.failIf.bind fun _ => ?_
  refine Only.ite ((Only.query rfl).bind fun _ => Only.failIf.bind fun _ => ?_) ?_
  all_goals
    exact saveUser_plain.bind fun _ => Only.ite ((Only.query rfl).bind fun _ => trivial) trivial

theorem updateStatus_plain {status : Backend.MembershipStatus} :
    (updateStatus id status).Only Query.sparesTransactions :=
  (Only.query rfl).bind fun _ => Only.okOr.bind fun _ => (Only.query rfl).bind fun _ =>
    saveUser_plain.bind fun _ => trivial

theorem deleteUser_plain {actor : Actor} : (deleteUser id actor).Only Query.sparesTransactions :=
  errorCatch_only (Only.failIf.bind fun _ => (Only.query rfl).bind fun _ => Only.okOr.bind fun _ =>
    Only.failIf.bind fun _ => Only.query rfl)

theorem provision_plain {profile : SamlAssertionProfile} :
    (provision cfg profile).Only Query.sparesTransactions := by
  have hhash : unusablePasswordHash.Only Query.sparesTransactions :=
    (Only.query rfl).bind fun _ => trivial
  refine Only.failIf.bind fun _ => (Only.query rfl).bind fun found => ?_
  cases found with
  | none =>
    exact hhash.bind fun _ => (Only.query rfl).bind fun _ => Only.okOr.bind fun _ => trivial
  | some found => exact Only.ite (saveUser_plain.bind fun _ => trivial) trivial

theorem transaction_only {α : Type} {x : Proc α} (hbegin : queries .begin)
    (hcommit : queries .commit) (hrollback : queries .rollback) (h : x.Only queries) :
    (transaction x).Only queries := by
  refine (Only.query hbegin).bind fun _ => h.attempt.bind fun r => ?_
  cases r with
  | ok a => exact (Only.query hcommit).bind fun _ => trivial
  | error e => exact (Only.query hrollback).bind fun _ => trivial

/-- An anonymised user has no password: its save breaks the schema. -/
theorem anonymise_only {reason : Option String} :
    (anonymise cfg id reason).Only Query.leavesUsers := by
  refine (Only.query rfl).bind fun _ => Only.okOr.bind fun ⟨_, user, _⟩ => Only.ite trivial ?_
  refine (Only.query rfl).bind fun salt => (transaction_only rfl rfl rfl ?_).bind fun _ => ?_
  · refine (Only.query rfl).bind fun _ => (Only.query rfl).bind fun _ => (Only.query rfl).bind fun _ =>
      (Only.query rfl).bind fun _ => (Only.query rfl).bind fun _ => (Only.query rfl).bind fun _ =>
      (Only.query rfl).bind fun now => saveUser_only rfl (fun stored => ?_) rfl
    refine decide_eq_true ⟨rfl, List.mem_filter.2 ⟨Column.mem_all _, decide_eq_true fun heq => ?_⟩⟩
    have hset := stored.2 .password (by decide)
    rw [← heq] at hset
    cases hset
  · exact (Only.query rfl).bind fun _ => Only.query rfl

end

end Users
