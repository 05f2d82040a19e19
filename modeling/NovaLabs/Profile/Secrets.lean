/-
  What responses tell about the secret columns of users.

  Only instances of the entity hide them.  The profile that is shown and exported is a plain copy
  without the password, so that it tells all other secrets of the user, and no others.
-/
import NovaLabs.Profile.Operations

namespace Profile

open Lib Process JsInstance
open Backend (Uuid Time UserRole MembershipStatus)
open Users (Column StoredUser isAdminLike)

/-! ## The law -/

/-- The rows differ in secret columns only. -/
structure SamePublic (user user' : User) : Prop where
  columns : ∀ c, c ∉ secretColumns → user.columns.1 c = user'.columns.1 c
  createdAt : user.createdAt = user'.createdAt
  updatedAt : user.updatedAt = user'.updatedAt
  profileCompleteness : user.profileCompleteness = user'.profileCompleteness
  hubId : user.hubId = user'.hubId

/-- The databases differ in secret columns of users only. -/
structure DifferInSecrets (db db' : Database) : Prop where
  users : ∀ id, Option.Rel SamePublic (db.users.lookup id) (db'.users.lookup id)
  bookings : db'.bookings = db.bookings
  payments : db'.payments = db.payments
  workspaceLogs : db'.workspaceLogs = db.workspaceLogs

/-- What the operation may end with. -/
def MayEnd {α : Type} (db : Database) (x : Proc α) (r : Except HttpError α) : Prop :=
  ∃ db', Alone exec (fun _ => True) db x r db'

/-- The responses about the user are the same for both databases. -/
structure TellsNoSecrets (db db' : Database) (id : Uuid) : Prop where
  findOnePublicById : ∀ r, MayEnd db (findOnePublicById id) r ↔ MayEnd db' (findOnePublicById id) r
  findOne : ∀ currentUserId currentUserRole r,
    MayEnd db (findOne id currentUserId currentUserRole) r ↔
      MayEnd db' (findOne id currentUserId currentUserRole) r
  exportUserData : ∀ r, MayEnd db (exportUserData id) r ↔ MayEnd db' (exportUserData id) r

section
variable {db db' : Database} {id : Uuid} {user user' : User}

/-! ## The data of a user -/

theorem mem_all (p : Property) : p ∈ Property.all := by
  cases p with
  | column c => cases c <;> decide
  | _ => decide

theorem name_eq_password {p : Property} : p.name = "password" ↔ p = .column .password := by
  cases p with
  | column c => cases c <;> decide
  | _ => decide

theorem string_injective : Function.Injective (string : String → Data) := fun _ _ h =>
  JsInstance.string.inj h

theorem credentialData_injective : Function.Injective credentialData := by
  rintro ⟨id, publicKey, counter, transports⟩ ⟨id', publicKey', counter', transports'⟩ h
  simpa [credentialData, string_injective.list_map.eq_iff] using h

theorem roleText_injective : Function.Injective roleText := by
  intro role role' h
  cases role <;> cases role' <;> first | rfl | exact absurd h (by decide)

theorem membershipText_injective : Function.Injective membershipText := by
  intro status status' h
  cases status <;> cases status' <;> first | rfl | exact absurd h (by decide)

theorem valueData_injective (c : Column) : Function.Injective (valueData c) := by
  intro v v' h
  cases c with
  | role => exact roleText_injective (string.inj h)
  | membershipStatus => exact membershipText_injective (string.inj h)
  | totpBackupCodes => exact string_injective.list_map (array.inj h)
  | passkeyCredentials => exact credentialData_injective.list_map (array.inj h)
  | _ => injection h

theorem valueData_ne_null (c : Column) (v : c.Value) : valueData c v ≠ .null := by
  cases c <;> exact nofun

theorem columnData_injective (c : Column) : Function.Injective (columnData c) := by
  intro o o' h
  cases o with
  | none =>
    cases o' with
    | none => rfl
    | some v' => exact absurd h.symm (valueData_ne_null c v')
  | some v =>
    cases o' with
    | none => exact absurd h (valueData_ne_null c v)
    | some v' => exact congrArg some (valueData_injective c h)

theorem propertyData_isPlain (id : Uuid) (user : User) (p : Property) :
    isPlain (propertyData id user p) := by
  have hstrings (l : List String) : itemsPlain (l.map .string : List Data) :=
    itemsPlain_iff.2 (List.forall_mem_map.2 fun _ _ => rfl)
  cases p with
  | column c =>
    rw [propertyData, columnData]
    cases user.columns.1 c with
    | none => rfl
    | some v =>
      cases c with
      | totpBackupCodes =>
        rw [Option.elim_some, valueData, isPlain]
        exact hstrings v
      | passkeyCredentials =>
        rw [Option.elim_some, valueData, isPlain, itemsPlain_iff, List.forall_mem_map]
        intro credential _
        simp [credentialData, isPlain, fieldsPlain, hstrings]
      | _ => rfl
  | hubId =>
    rw [propertyData]
    cases user.hubId <;> rfl
  | _ => rfl

theorem userWithoutPassword_isPlain (id : Uuid) (user : User) :
    isPlain (userWithoutPassword id user) := by
  rw [userWithoutPassword, isPlain, Bool.and_eq_true, fieldsPlain_iff]
  refine ⟨rfl, fun field hfield => ?_⟩
  obtain ⟨p, -, rfl⟩ := List.mem_map.1 (List.mem_filter.1 hfield).1
  exact propertyData_isPlain id user p

/-- **The serializer excludes nothing from the copy.** -/
theorem serialize_userWithoutPassword (id : Uuid) (user : User) :
    serialize (userWithoutPassword id user) = userWithoutPassword id user := by
  have hplain := userWithoutPassword_isPlain id user
  rw [serialize, stringify, toPlain_of_isPlain _ hplain, toPlain_of_isPlain _ hplain]

/-- The copy tells all columns but the password. -/
theorem userWithoutPassword_eq_iff : userWithoutPassword id user = userWithoutPassword id user' ↔
    ∀ p, p ≠ .column .password → propertyData id user p = propertyData id user' p := by
  have hfields (user : User) : (userFields id user).filter (·.1 ≠ "password") =
      (Property.all.filter (· ≠ .column .password)).map
        fun p => (p.name, propertyData id user p) := by
    rw [userFields, List.filter_map]
    refine congrArg (List.map _) (List.filter_congr fun p _ => ?_)
    exact decide_eq_decide.2 (not_congr name_eq_password)
  rw [userWithoutPassword, userWithoutPassword, hfields, hfields, object.injEq]
  simp only [true_and, List.map_inj_left, List.mem_filter, mem_all, Prod.mk.injEq,
    decide_eq_true_eq]

theorem SamePublic.propertyData_eq (h : SamePublic user user') {p : Property}
    (hp : ∀ c ∈ secretColumns, p = .column c → user.columns.1 c = user'.columns.1 c) :
    propertyData id user p = propertyData id user' p := by
  cases p with
  | id => rfl
  | column c =>
    by_cases hc : c ∈ secretColumns
    · exact congrArg (columnData c) (hp c hc rfl)
    · exact congrArg (columnData c) (h.columns c hc)
  | createdAt => exact congrArg date h.createdAt
  | updatedAt => exact congrArg date h.updatedAt
  | profileCompleteness => exact congrArg number h.profileCompleteness
  | hubId =>
    rw [propertyData, propertyData, h.hubId]

/-- **The copy tells each secret but the password.** -/
theorem SamePublic.userWithoutPassword_eq_iff (h : SamePublic user user') :
    userWithoutPassword id user = userWithoutPassword id user' ↔
      ∀ c ∈ secretColumns, c ≠ .password → user.columns.1 c = user'.columns.1 c := by
  rw [Profile.userWithoutPassword_eq_iff]
  constructor
  · intro heq c _ hc
    exact columnData_injective c (heq (.column c) fun he => hc (Property.column.inj he))
  · intro heq p hp
    refine h.propertyData_eq ?_
    rintro c hc rfl
    exact heq c hc fun he => hp (congrArg _ he)

/-- **The entity itself, serialized, tells no secret.** -/
theorem SamePublic.userEntity (h : SamePublic user user') :
    serialize (userEntity id user) = serialize (userEntity id user') := by
  refine congrArg stringify (toPlain_instance_congr ?_)
  rw [userFields, userFields, List.forall₂_map_left_iff, List.forall₂_map_right_iff,
    List.forall₂_same]
  intro p _
  refine ⟨rfl, ?_⟩
  by_cases hp : ∃ c ∈ secretColumns, p = .column c
  · obtain ⟨c, hc, rfl⟩ := hp
    exact Or.inl (decide_eq_true (Or.inl (List.mem_map_of_mem hc)))
  · exact Or.inr (h.propertyData_eq fun c hc he => absurd ⟨c, hc, he⟩ hp)

/-! ## The responses -/

/-- What the query may be answered. -/
def Answers (db : Database) (q : Query) (a : Answer q) : Prop := ∃ w, exec w db q = some (a, db)

theorem exec_db {q : Query} {a : Answer q} {w : World} (h : exec w db q = some (a, db')) :
    db' = db := by
  cases q with
  | findUser id =>
    cases h
    rfl
  | _ =>
    obtain ⟨_, -, heq⟩ := Option.map_eq_some_iff.1 h
    cases heq
    rfl

section
variable {α : Type} {q : Query} {f : Answer q → Proc α} {g : User → Proc α}
  {r : Except HttpError α} {a : α}

theorem mayEnd_ask : MayEnd db (ask q >>= f) r ↔ ∃ a, Answers db q a ∧ MayEnd db (f a) r := by
  constructor
  · rintro ⟨db', h⟩
    obtain ⟨w, a, db₁, -, hexec, hrest⟩ := Alone.query h
    obtain rfl := exec_db hexec
    exact ⟨a, ⟨w, hexec⟩, db', hrest⟩
  · rintro ⟨a, ⟨w, hexec⟩, db', hrest⟩
    exact ⟨db', .ask trivial hexec hrest⟩

theorem mayEnd_pure : MayEnd db (pure a) r ↔ r = .ok a := by
  constructor
  · rintro ⟨_, h⟩
    exact h.value.1
  · rintro rfl
    exact ⟨db, .done⟩

theorem mayEnd_throw {e : HttpError} : MayEnd db (throw e : Proc α) r ↔ r = .error e := by
  constructor
  · rintro ⟨_, h⟩
    exact h.error.1
  · rintro rfl
    exact ⟨db, .done⟩

theorem mayEnd_failIf_iff {c : Prop} [Decidable c] {e : HttpError} {f f' : Unit → Proc α}
    (h : MayEnd db (f ()) r ↔ MayEnd db' (f' ()) r) :
    MayEnd db (failIf c e >>= f) r ↔ MayEnd db' (failIf c e >>= f') r := by
  unfold failIf
  split_ifs
  · exact mayEnd_throw.trans mayEnd_throw.symm
  · exact h

theorem answers_findUser {o : Option User} : Answers db (.findUser id) o ↔ o = db.user id := by
  constructor
  · rintro ⟨w, h⟩
    cases h
    rfl
  · rintro rfl
    exact ⟨[], rfl⟩

theorem findUserById_bind :
    findUserById id >>= g = ask (.findUser id) >>= fun o =>
      okOr o (.unauthorized "Credentials are not valid") >>= g := rfl

theorem mayEnd_of_missing (h : db.user id = none) :
    MayEnd db (findUserById id >>= g) r ↔
      r = .error (.unauthorized "Credentials are not valid") := by
  rw [findUserById_bind, mayEnd_ask]
  simp only [answers_findUser, exists_eq_left, h]
  exact mayEnd_throw

theorem mayEnd_of_found (h : db.user id = some user) :
    MayEnd db (findUserById id >>= g) r ↔ MayEnd db (g user) r := by
  rw [findUserById_bind, mayEnd_ask]
  simp only [answers_findUser, exists_eq_left, h]
  rfl

end

/-! ## Databases that differ in secrets -/

theorem found_iff {α : Type} {o : Option α} {a : α} :
    o.map (·, db) = some (a, db) ↔ o = some a := by
  rw [Option.map_eq_some_iff]
  simp only [Prod.mk.injEq, and_true, exists_eq_right]

namespace DifferInSecrets

theorem user_rel (h : DifferInSecrets db db') (id : Uuid) :
    Option.Rel SamePublic (db.user id) (db'.user id) := by
  have hrows := h.users id
  rw [Database.user, Database.user]
  generalize db.users.lookup id = row at hrows
  generalize db'.users.lookup id = row' at hrows
  cases hrows with
  | none => exact .none
  | @some user user' hsame =>
    rw [Option.filter_some, Option.filter_some, hsame.columns .deletedAt (by decide)]
    split
    · exact .some hsame
    · exact .none

theorem answers (h : DifferInSecrets db db') {q : Query} (hq : ∀ id, q ≠ .findUser id)
    {a : Answer q} : Answers db q a ↔ Answers db' q a := by
  refine exists_congr fun w => ?_
  cases q with
  | findUser id => exact absurd rfl (hq id)
  | findBookings userId =>
    rw [exec, exec, h.bookings, found_iff, found_iff]
  | findPayments userId =>
    rw [exec, exec, h.payments, found_iff, found_iff]
  | findWorkspaceLogs userId =>
    rw [exec, exec, h.workspaceLogs, found_iff, found_iff]

/-- No other query reads users. -/
theorem mayEnd_ask_iff (h : DifferInSecrets db db') {α : Type} {q : Query}
    (hq : ∀ id, q ≠ .findUser id) {f f' : Answer q → Proc α} {r : Except HttpError α}
    (hf : ∀ a, MayEnd db (f a) r ↔ MayEnd db' (f' a) r) :
    MayEnd db (ask q >>= f) r ↔ MayEnd db' (ask q >>= f') r := by
  rw [mayEnd_ask, mayEnd_ask]
  exact exists_congr fun a => and_congr (h.answers hq) (hf a)

end DifferInSecrets

theorem findOnePublicById_bind {α : Type} {g : Data → Proc α} : findOnePublicById id >>= g =
    findUserById id >>= fun user => g (userWithoutPassword id user) := by
  simp only [findOnePublicById, bind_assoc, pure_bind]

theorem mayEnd_findOnePublicById (h : db.user id = some user) {r : Except HttpError Data} :
    MayEnd db (findOnePublicById id) r ↔ r = .ok (userWithoutPassword id user) :=
  (mayEnd_of_found h).trans mayEnd_pure

/-- Where no user is found, the responses do not depend on the database. -/
theorem tellsNoSecrets_of_missing (h : db.user id = none) (h' : db'.user id = none) :
    TellsNoSecrets db db' id where
  findOnePublicById _ := (mayEnd_of_missing h).trans (mayEnd_of_missing h').symm
  findOne _ _ _ := by
    refine mayEnd_failIf_iff ?_
    rw [findOnePublicById_bind, mayEnd_of_missing h, mayEnd_of_missing h']
  exportUserData _ := (mayEnd_of_missing h).trans (mayEnd_of_missing h').symm

/-- Copies that are the same make the same responses. -/
theorem tellsNoSecrets_of_found (hdb : DifferInSecrets db db') (h : db.user id = some user)
    (h' : db'.user id = some user')
    (heq : userWithoutPassword id user = userWithoutPassword id user') :
    TellsNoSecrets db db' id where
  findOnePublicById r := by
    rw [mayEnd_findOnePublicById h, mayEnd_findOnePublicById h', heq]
  findOne _ _ r := by
    refine mayEnd_failIf_iff ?_
    rw [findOnePublicById_bind, mayEnd_of_found h, mayEnd_of_found h', mayEnd_pure, mayEnd_pure,
      heq]
  exportUserData r := by
    refine (mayEnd_of_found h).trans (Iff.trans ?_ (mayEnd_of_found h').symm)
    refine hdb.mayEnd_ask_iff (by simp) fun bookings => ?_
    refine hdb.mayEnd_ask_iff (by simp) fun payments => ?_
    refine hdb.mayEnd_ask_iff (by simp) fun workspaceLogs => ?_
    rw [mayEnd_pure, mayEnd_pure, heq]

end

/-- **Secrets of the user stay hidden exactly if they agree, except for the password.** -/
theorem secrets_hidden_iff (db db' : Database) (h : DifferInSecrets db db') (id : Uuid) :
    TellsNoSecrets db db' id ↔
      ∀ user user', db.user id = some user → db'.user id = some user' →
        ∀ c ∈ secretColumns, c ≠ .password → user.columns.1 c = user'.columns.1 c := by
  have hrel := h.user_rel id
  cases hfound : db.user id with
  | none =>
    cases hfound' : db'.user id with
    | none => exact iff_of_true (tellsNoSecrets_of_missing hfound hfound') nofun
    | some user' =>
      rw [hfound, hfound'] at hrel
      exact absurd hrel Option.not_rel_none_some
  | some user =>
    cases hfound' : db'.user id with
    | none =>
      rw [hfound, hfound'] at hrel
      exact absurd hrel Option.not_rel_some_none
    | some user' =>
      rw [hfound, hfound', Option.rel_some_some] at hrel
      constructor
      · intro htells
        have hend := (htells.findOnePublicById _).1 ((mayEnd_findOnePublicById hfound).2 rfl)
        have heq := Except.ok.inj ((mayEnd_findOnePublicById hfound').1 hend)
        rintro _ _ ⟨⟩ ⟨⟩
        exact hrel.userWithoutPassword_eq_iff.1 heq
      · intro hagree
        refine tellsNoSecrets_of_found h hfound hfound' ?_
        exact hrel.userWithoutPassword_eq_iff.2 (hagree user user' rfl rfl)

/-! ### One member -/

def member (password totpSecret : String) : User where
  columns := ⟨fun
    | .firstname => some "Ada"
    | .lastname => some "Byron"
    | .email => some "ada@example.com"
    | .password => some password
    | .role => some .user
    | .isVerified | .isActive | .twoFactorEnabled => some true
    | .isDeleted | .isSuspended => some false
    | .totpSecret => some totpSecret
    | .membershipStatus => some .active
    | _ => none, by simp [Users.User.MeetsSchema, Column.notNull]⟩
  createdAt := 0
  updatedAt := 0

def oneMember (password totpSecret : String) : Database :=
  { users := Finmap.singleton "u" (member password totpSecret) }

theorem oneMember_user (password totpSecret : String) :
    (oneMember password totpSecret).user "u" = some (member password totpSecret) := by
  rw [Database.user, oneMember, Finmap.lookup_singleton_eq]
  rfl

theorem oneMember_differ (password password' totpSecret totpSecret' : String) :
    DifferInSecrets (oneMember password totpSecret) (oneMember password' totpSecret') where
  users id := by
    by_cases hid : id = "u"
    · subst hid
      rw [oneMember, oneMember, Finmap.lookup_singleton_eq, Finmap.lookup_singleton_eq]
      refine .some ⟨fun c hc => ?_, rfl, rfl, rfl, rfl⟩
      cases c <;> first | rfl | exact absurd (by decide) hc
    · have hmissing (user : User) :
          (Finmap.singleton "u" user : Store Uuid User).lookup id = none :=
        Finmap.lookup_eq_none.2 fun h => hid ((Finmap.mem_singleton id "u" user).1 h)
      rw [oneMember, oneMember, hmissing, hmissing]
      exact .none
  bookings := rfl
  payments := rfl
  workspaceLogs := rfl

/-- The hash of the password is not told. -/
theorem secrets_hidden_iff_password :
    TellsNoSecrets (oneMember "$2b$10$a" "JBSWY3DP") (oneMember "$2b$10$b" "JBSWY3DP") "u" := by
  refine (secrets_hidden_iff _ _ (oneMember_differ ..) "u").2 fun user user' h h' c _ hc => ?_
  cases (oneMember_user ..).symm.trans h
  cases (oneMember_user ..).symm.trans h'
  cases c <;> first | rfl | exact absurd rfl hc

/-- The secret of the second factor is told. -/
theorem secrets_told : ¬ ∀ (db db' : Database), DifferInSecrets db db' → ∀ id,
    TellsNoSecrets db db' id := by
  intro h
  have hend := ((h _ _ (oneMember_differ "$2b$10$a" "$2b$10$a" "JBSWY3DP" "KRSXG5A=") "u")
    |>.findOnePublicById _).1 ((mayEnd_findOnePublicById (oneMember_user ..)).2 rfl)
  have heq := (mayEnd_findOnePublicById (oneMember_user ..)).1 hend
  have hsecret := userWithoutPassword_eq_iff.1 (Except.ok.inj heq) (.column .totpSecret) (by decide)
  exact absurd (JsInstance.string.inj hsecret) (by decide)

end Profile
