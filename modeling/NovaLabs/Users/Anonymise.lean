/-
  The anonymisation of a user.

  An anonymised user has no password, but the schema wants one: the save fails, and the transaction is
  rolled back.  The entry of the audit log, with the e-mail, is written on a connection of its own, and
  stays.
-/
import NovaLabs.Users.Effects
import NovaLabs.Lib.Alone

namespace Users

open Lib Process
open Backend (Uuid Time)

/-! ## What anonymisation is for -/

/-- The columns that tell who the user is, or let the user in. -/
def Column.personal : List Column :=
  [.firstname, .lastname, .username, .email, .phone, .profilePicture, .password, .totpSecret,
    .totpBackupCodes, .passkeyCredentials, .passwordResetToken, .passwordResetCode]

/-- The user is stored, and not deleted. -/
structure Database.Live (db : Database) (id : Uuid) (user : StoredUser) : Prop where
  stored : db.user id = some user
  isDeleted : user.1 .isDeleted = some false
  deletedAt : user.1 .deletedAt = none

/-- Nothing personal is left of the user. -/
structure Database.Wiped (db : Database) (id : Uuid) (user : StoredUser) : Prop where
  columns : ∀ user', db.user id = some user' →
    ∀ c ∈ Column.personal, (user.1 c).isSome → user'.1 c ≠ user.1 c
  tokens : ∀ row token, db.record (.token row) = some token → token.userId ≠ id
  logs : ∀ row log, db.record (.log row) = some log → log.userId ≠ id
  bookings : ∀ row booking, db.record (.booking row) = some booking → booking.userId ≠ some id
  payments : ∀ row payment, db.record (.payment row) = some payment → payment.userId ≠ some id

/-- The anonymisation is handled alone. -/
abbrev Anonymises (cfg : Config) (s : DbServer) (id : Uuid) (reason : Option String)
    (r : Except HttpError Unit) (s' : DbServer) : Prop :=
  Alone (exec cfg 0) (fun _ => True) s (anonymise cfg id reason) r s'

/-- It succeeds and wipes what is personal; where it throws, nothing has changed; and nothing changes
    the second time. -/
structure TotalAndAtomic (cfg : Config) (db : Database) (id : Uuid) (user : StoredUser) : Prop where
  succeeds : ∀ {reason r s'}, Anonymises cfg { stored := db } id reason r s' → r = .ok ()
  wipes : ∀ {reason s'}, Anonymises cfg { stored := db } id reason (.ok ()) s' →
    s'.db.Wiped id user
  atomic : ∀ {reason e s'}, Anonymises cfg { stored := db } id reason (.error e) s' → s'.db = db
  idempotent : ∀ {reason reason' r r' s' s''}, Anonymises cfg { stored := db } id reason r s' →
    Anonymises cfg s' id reason' r' s'' → s''.db = s'.db

/-! ## Within the transaction -/

/-- The one open transaction has written no users, and `db` is committed. -/
structure Within (db : Database) (s : DbServer) : Prop where
  stored : s.db = db
  active : ∃ x, s.active = Finmap.insert 0 x ∅
  apart : UsersApart s

section
variable {cfg : Config} {db : Database} {s s' : DbServer} {id : Uuid} {user : StoredUser}
  {reason : Option String} {r : Except HttpError Unit}

theorem within_begin (h : ({ stored := db } : DbServer).begin 0 = some s) : Within db s := by
  obtain ⟨-, rfl⟩ := Server.begin_eq_some.1 h
  refine ⟨rfl, ⟨_, rfl⟩, (transaction_sameUsers (fun t x hx => ?_) (Or.inl h)).apart⟩
  cases hx

theorem Within.lookup (h : Within db s) : ∃ x, s.active.lookup 0 = some x := by
  obtain ⟨x, hx⟩ := h.active
  exact ⟨x, by rw [hx, Finmap.lookup_insert]⟩

theorem Within.user_view (h : Within db s) (id : Uuid) : (s.view 0).user id = db.user id := by
  obtain ⟨x, hx⟩ := h.lookup
  rw [Database.user, Database.record, DbServer.view, Server.lookup_view hx, h.apart 0 x hx id,
    Option.none_or, ← h.stored]
  rfl

theorem Within.free (h : Within db s) (row : Row) : s.Free 0 row := by
  obtain ⟨x, hx⟩ := h.active
  refine Server.free_iff.2 fun t x' ht hx' => ?_
  rw [hx, Finmap.lookup_insert_of_ne _ ht] at hx'
  cases hx'

/-- A statement about other tables stays within the transaction. -/
theorem Within.change (h : Within db s) {f : ∀ row, Cell row → Option (Cell row)} {u : Unit}
    (hf : ∀ id cell, f (.user id) cell = none) (hs : s.change 0 f = some (u, s')) :
    Within db s' := by
  have hapart := (change_sameUsers h.apart hf hs).apart
  obtain ⟨x, hx⟩ := h.active
  obtain ⟨s₁, hw, heq⟩ := Option.map_eq_some_iff.1 hs
  cases heq
  obtain ⟨-, rfl⟩ := Server.write_eq_some.1 hw
  rw [Server.put_active (by rw [hx, Finmap.lookup_insert])] at hapart ⊢
  exact ⟨h.stored, ⟨_, by rw [hx, Finmap.insert_insert]⟩, hapart⟩

theorem Within.exists_change (h : Within db s) (f : ∀ row, Cell row → Option (Cell row)) :
    ∃ s', s.change 0 f = some ((), s') := by
  refine ⟨_, Option.map_eq_some_iff.2 ⟨_, Server.write_eq_some.2 ⟨?_, rfl⟩, rfl⟩⟩
  exact fun row _ => h.free row

theorem Within.rollback (h : Within db s) : s.rollback 0 = some { stored := db } := by
  obtain ⟨x, hx⟩ := h.active
  refine Server.rollback_eq_some.2 ⟨x, by rw [hx, Finmap.lookup_insert], ?_⟩
  rw [hx, ← h.stored]
  rfl

theorem user_insert_audit (row : Uuid) (log : Cell (.audit row)) (id : Uuid) :
    Database.user (Finmap.insert (Row.audit row) log db) id = db.user id := by
  rw [Database.user, Database.record, Finmap.lookup_insert_of_ne _ Row.noConfusion]
  rfl

/-- The entry is committed at once. -/
theorem Within.createAudit (h : Within db s) {row : Uuid} {log : AuditLog} {u : Unit}
    (hs : s.createAudit row log = some (u, s')) : db.record (.audit row) = none ∧
      Within (Finmap.insert (Row.audit row) (some log) db) s' := by
  have hapart := (createAudit_sameUsers h.apart hs).apart
  unfold DbServer.createAudit at hs
  split_ifs at hs with hfree
  cases hs
  rw [h.stored] at hfree
  exact ⟨hfree, by rw [← h.stored], h.active, hapart⟩

/-! ## What a call does -/

/-- The entry of the audit log. -/
def anonymisation (id : Uuid) (user : User) (reason : Option String) (originalEmailHash : String)
    (anonymisedAtHint : Time) : AuditLog where
  actorId := id
  actorEmail := user .email
  actorRole := user .role
  action := "users.anonymise"
  targetType := "user"
  targetId := id
  metadata := some (.anonymisation reason originalEmailHash anonymisedAtHint)

/-- A new entry of the audit log, and nothing else. -/
def Logged (db : Database) (id : Uuid) (user : User) (reason : Option String) (db' : Database) :
    Prop :=
  ∃ row originalEmailHash anonymisedAtHint, db.record (.audit row) = none ∧
    db' = Finmap.insert (Row.audit row)
      (some (anonymisation id user reason originalEmailHash anonymisedAtHint)) db

theorem Logged.live {db' : Database} (h : Logged db id user.1 reason db') (hlive : db.Live id user) :
    db'.Live id user := by
  obtain ⟨row, _, _, -, rfl⟩ := h
  exact ⟨(user_insert_audit row _ id).trans hlive.stored, hlive.isDeleted, hlive.deletedAt⟩

theorem Logged.ne {db' : Database} (h : Logged db id user.1 reason db') : db' ≠ db := by
  obtain ⟨row, _, _, hfree, rfl⟩ := h
  intro heq
  rw [← heq, Database.record, Finmap.lookup_insert] at hfree
  cases hfree

/-- A search for a live user finds it. -/
theorem findUser_live (hlive : db.Live id user) {row : Option Uuid}
    {found : Option (Uuid × StoredUser)} (h : db.findUser (.byId id) row = some found) :
    found = some (id, user) := by
  have hselects : (UserWhere.byId id).selects id user.1 = true :=
    decide_eq_true ⟨rfl, hlive.deletedAt⟩
  cases row with
  | none =>
    unfold Database.findUser at h
    dsimp only at h
    split_ifs at h with hall
    have hspares := Storage.all_iff.1 hall (.user id) (some user)
      (Option.join_eq_some_iff.1 hlive.stored)
    simp [UserWhere.spares, hselects] at hspares
  | some id' =>
    obtain ⟨user', huser', h⟩ := Option.bind_eq_some_iff.1 h
    split_ifs at h with hsel
    obtain ⟨rfl, -⟩ : id' = id ∧ _ := of_decide_eq_true hsel
    cases hlive.stored.symm.trans huser'
    exact (Option.some.inj h).symm

/-- The UPDATE that leaves a user without a password is refused. -/
theorem update_refused (hs : Within db s) (hstored : db.user id = some user) {held : User}
    (hpassword : held .password = none) : held.changed user.1 ≠ [] ∧
      s.updateUser 0 id held (held.changed user.1) = some (false, s) := by
  have hset := user.2 .password (by decide)
  have hmem : Column.password ∈ held.changed user.1 := by
    refine List.mem_filter.2 ⟨Column.mem_all _, decide_eq_true fun heq => ?_⟩
    rw [← heq, hpassword] at hset
    cases hset
  refine ⟨List.ne_nil_of_mem hmem, ?_⟩
  rw [DbServer.updateUser, hs.user_view, hstored]
  refine dif_neg (not_accepts_of_password ?_)
  rw [User.set, if_pos hmem, hpassword]

theorem saveUser_fails (hs : Within db s) (hstored : db.user id = some user) {held : User}
    (hpassword : held .password = none)
    (h : Alone (exec cfg 0) (fun _ => True) s (saveUser id held) r s') :
    r = .error .queryFailed ∧ s' = s := by
  obtain ⟨hchanged, hrefused⟩ := update_refused hs hstored hpassword
  obtain ⟨_, stored, _, -, hreload, h⟩ := Alone.query h
  obtain ⟨rfl, rfl⟩ := Prod.mk.inj (Option.some.inj hreload)
  rw [hs.user_view, hstored] at h
  dsimp only at h
  rw [if_pos hchanged] at h
  obtain ⟨_, saved, s₁, -, hupdate, hend⟩ := Alone.query h
  cases hrefused.symm.trans hupdate
  cases hend
  exact ⟨rfl, rfl⟩

theorem saveUser_run (hs : Within db s) (hstored : db.user id = some user) {held : User}
    (hpassword : held .password = none) :
    Alone (exec cfg 0) (fun _ => True) s (saveUser id held) (.error .queryFailed) s := by
  obtain ⟨hchanged, hrefused⟩ := update_refused hs hstored hpassword
  refine Alone.of_query (w := {}) trivial rfl ?_
  rw [hs.user_view, hstored]
  dsimp only
  rw [if_pos hchanged]
  exact Alone.of_query (w := {}) trivial hrefused .done

/-- A transaction that fails is rolled back: what is committed meanwhile stays. -/
theorem transaction_fails {x : Proc Unit} {f : Unit → Proc Unit} {e : HttpError}
    {P : Database → Prop}
    (hbody : ∀ {s₁ r₁ s₂}, Within db s₁ → Alone (exec cfg 0) (fun _ => True) s₁ x r₁ s₂ →
      r₁ = .error e ∧ ∃ db', P db' ∧ Within db' s₂)
    (h : Alone (exec cfg 0) (fun _ => True) { stored := db } (transaction x >>= f) r s') :
    r = .error e ∧ ∃ db', P db' ∧ s' = { stored := db' } := by
  have htransaction {r₁ s₁}
      (h : Alone (exec cfg 0) (fun _ => True) { stored := db } (transaction x) r₁ s₁) :
      r₁ = .error e ∧ ∃ db', P db' ∧ s₁ = { stored := db' } := by
    obtain ⟨_, _, s₁, -, hexec, h⟩ := Alone.query h
    change (Server.begin { stored := db } 0).map ((), ·) = _ at hexec
    obtain ⟨_, hbegin, heq⟩ := Option.map_eq_some_iff.1 hexec
    cases heq
    obtain ⟨r₂, s₂, hrun, h⟩ := Alone.attempt_iff.1 h
    obtain ⟨rfl, db', hdb', hs₂⟩ := hbody (within_begin hbegin) hrun
    obtain ⟨_, _, s₃, -, hexec, h⟩ := Alone.query h
    change (Server.rollback s₂ 0).map ((), ·) = _ at hexec
    rw [hs₂.rollback] at hexec
    cases hexec
    obtain ⟨rfl, rfl⟩ := h.error
    exact ⟨rfl, db', hdb', rfl⟩
  rcases h.seq with ⟨_, s₁, hrun, -⟩ | ⟨_, rfl, hrun⟩
  · cases (htransaction hrun).1
  · obtain ⟨heq, hend⟩ := htransaction hrun
    cases heq
    exact ⟨rfl, hend⟩

/-- **The anonymisation of a live user fails, and leaves an entry in the audit log.** -/
theorem anonymise_call (hlive : db.Live id user)
    (h : Anonymises cfg { stored := db } id reason r s') : r = .error .queryFailed ∧
      ∃ db', Logged db id user.1 reason db' ∧ s' = { stored := db' } := by
  obtain ⟨_, found, _, -, hexec, h⟩ := Alone.query h
  obtain ⟨_, hfind, heq⟩ := Option.map_eq_some_iff.1 hexec
  cases heq
  cases findUser_live hlive hfind
  rcases Alone.okOr h with ⟨hnone, -⟩ | ⟨_, ⟨⟩, h⟩
  · cases hnone
  dsimp only at h
  rw [if_neg (by rw [hlive.isDeleted]; decide)] at h
  obtain ⟨_, salt, _, -, ⟨⟩, h⟩ := Alone.query h
  refine transaction_fails (fun hs h => ?_) h
  obtain ⟨w, _, _, -, ⟨⟩, h⟩ := Alone.query h
  obtain ⟨w', _, s₁, -, haudit, h⟩ := Alone.query h
  obtain ⟨hfree, hs⟩ := hs.createAudit haudit
  obtain ⟨_, _, s₂, -, htokens, h⟩ := Alone.query h
  have hs := hs.change (fun _ _ => rfl) htokens
  obtain ⟨_, _, s₃, -, hlogs, h⟩ := Alone.query h
  have hs := hs.change (fun _ _ => rfl) hlogs
  obtain ⟨_, _, s₄, -, hbookings, h⟩ := Alone.query h
  have hs := hs.change (fun _ _ => rfl) hbookings
  obtain ⟨_, _, s₅, -, hpayments, h⟩ := Alone.query h
  have hs := hs.change (fun _ _ => rfl) hpayments
  obtain ⟨_, now, _, -, ⟨⟩, h⟩ := Alone.query h
  obtain ⟨rfl, rfl⟩ := saveUser_fails hs ((user_insert_audit _ _ id).trans hlive.stored) rfl h
  exact ⟨rfl, _, ⟨w'.id, _, w.now, hfree, rfl⟩, hs⟩

/-! ### Calls that there are -/

theorem exists_transaction {x : Proc Unit} {f : Unit → Proc Unit} {e : HttpError}
    (hbody : ∀ {s₁}, Within db s₁ → ∃ s₂ db', Within db' s₂ ∧
      Alone (exec cfg 0) (fun _ => True) s₁ x (.error e) s₂) :
    ∃ r s', Alone (exec cfg 0) (fun _ => True) { stored := db } (transaction x >>= f) r s' := by
  have hbegin : ({ stored := db } : DbServer).begin 0 = some _ :=
    Server.begin_eq_some.2 ⟨Finmap.lookup_empty _, rfl⟩
  obtain ⟨s₂, db', hs₂, hrun⟩ := hbody (within_begin hbegin)
  refine ⟨.error e, { stored := db' }, Alone.bind_iff.2 (Or.inr ⟨e, rfl, ?_⟩)⟩
  refine Alone.of_query (w := {}) trivial rfl (Alone.attempt_iff.2 ⟨_, _, hrun, ?_⟩)
  exact Alone.of_query (w := {}) trivial (Option.map_eq_some_iff.2 ⟨_, hs₂.rollback, rfl⟩) .done

theorem exists_anonymise (cfg : Config) (reason : Option String) (hlive : db.Live id user) :
    ∃ r s', Anonymises cfg { stored := db } id reason r s' := by
  have hfind : exec cfg 0 { row := some id } { stored := db } (.findUser (.byId id)) =
      some (some (id, user), { stored := db }) := by
    have hselects : (UserWhere.byId id).selects id user.1 = true :=
      decide_eq_true ⟨rfl, hlive.deletedAt⟩
    change ((db.user id).bind _).map _ = _
    rw [hlive.stored, Option.bind_some, if_pos hselects]
    rfl
  refine Exists.imp (fun r => Exists.imp fun s' => Alone.of_query trivial hfind) ?_
  refine Exists.imp (fun r => Exists.imp fun s' => Alone.of_okOr rfl) ?_
  dsimp only
  rw [if_neg (by rw [hlive.isDeleted]; decide)]
  refine Exists.imp (fun r => Exists.imp fun s' => Alone.of_query (w := ({} : World)) trivial rfl) ?_
  refine exists_transaction (e := .queryFailed) fun {s₁} hs => ?_
  obtain ⟨row, hfree⟩ := Storage.exists_fresh Row.audit (fun _ _ => Row.audit.inj) db
  have haudit (log : AuditLog) : ∃ s₂, s₁.createAudit row log = some ((), s₂) :=
    ⟨_, if_pos (by rw [hs.stored, Database.record, hfree]; rfl)⟩
  obtain ⟨s₂, haudit⟩ := haudit
    (anonymisation id user.1 reason (cfg.sha256 ((user.1 .email).getD "null" ++ "::" ++ "")) 0)
  have hs := (hs.createAudit haudit).2
  obtain ⟨s₃, htokens⟩ := hs.exists_change (tokenDeletion id)
  have hs := hs.change (fun _ _ => rfl) htokens
  obtain ⟨s₄, hlogs⟩ := hs.exists_change (logDeletion id)
  have hs := hs.change (fun _ _ => rfl) hlogs
  obtain ⟨s₅, hbookings⟩ := hs.exists_change (bookingClearing id)
  have hs := hs.change (fun _ _ => rfl) hbookings
  obtain ⟨s₆, hpayments⟩ := hs.exists_change (paymentClearing id)
  have hs := hs.change (fun _ _ => rfl) hpayments
  refine ⟨s₆, _, hs, ?_⟩
  refine Alone.of_query (w := {}) trivial rfl ?_
  refine Alone.of_query (w := ({ id := row } : World)) trivial haudit ?_
  refine Alone.of_query (w := ({} : World)) trivial htokens ?_
  refine Alone.of_query (w := ({} : World)) trivial hlogs ?_
  refine Alone.of_query (w := ({} : World)) trivial hbookings ?_
  refine Alone.of_query (w := ({} : World)) trivial hpayments ?_
  refine Alone.of_query (w := {}) trivial rfl ?_
  exact saveUser_run hs ((user_insert_audit _ _ id).trans hlive.stored) rfl

/-! ## No user is anonymised -/

/-- **No live user is anonymised: each call fails, and not without a trace, and so does the next.** -/
theorem anonymise_never (hlive : db.Live id user) : ¬ TotalAndAtomic cfg db id user ∧
    ∀ {reason r s'}, Anonymises cfg { stored := db } id reason r s' →
      r ≠ .ok () ∧ s'.db ≠ db ∧
        ∀ {reason' r' s''}, Anonymises cfg s' id reason' r' s'' → s''.db ≠ s'.db := by
  constructor
  · intro htotal
    obtain ⟨r, s', hrun⟩ := exists_anonymise cfg none hlive
    obtain ⟨rfl, -⟩ := anonymise_call hlive hrun
    cases htotal.succeeds hrun
  · intro reason r s' hrun
    obtain ⟨rfl, db', hlogged, rfl⟩ := anonymise_call hlive hrun
    refine ⟨nofun, hlogged.ne, fun hrun' => ?_⟩
    obtain ⟨-, db'', hlogged', rfl⟩ := anonymise_call (hlogged.live hlive) hrun'
    exact hlogged'.ne

end

/-! ## Examples -/

def ada : StoredUser :=
  ⟨newStaff "ada@hub" "Ada" "" "hash", by simp [User.MeetsSchema, Column.notNull, newStaff]⟩

def withAda : Database := Finmap.insert (.user "ada") (some ada) ∅

theorem ada_live : withAda.Live "ada" ada := ⟨by rfl, by rfl, by rfl⟩

theorem anonymise_never_ada : ¬ TotalAndAtomic plainConfig withAda "ada" ada :=
  (anonymise_never ada_live).1

/-- The save of "ada" is refused. -/
theorem anonymise_refused :
    withAda.Live "ada" ada ∧ ¬ TotalAndAtomic plainConfig withAda "ada" ada := by
  refine ⟨ada_live, fun htotal => ?_⟩
  have hrun : (aloneIn (exec plainConfig 0) (anonymise plainConfig "ada" none)
      [{ row := some "ada" }, {}, {}, {}, { id := "entry" }, {}, {}, {}, {}, {}, {}, {}, {}]
      { stored := withAda }).any fun x => ¬ x.1.isOk := by decide
  obtain ⟨⟨r, s'⟩, hrun, hfailed⟩ := (Option.any_eq_true _ _).1 hrun
  rw [htotal.succeeds (alone_of_aloneIn hrun fun _ _ => trivial)] at hfailed
  cases hfailed

end Users
