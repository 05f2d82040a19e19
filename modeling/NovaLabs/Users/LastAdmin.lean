/-
  The last administrator.

  The update of a user counts the other administrators before it demotes one.  The provisioning of
  users of the staff, the suspension of a member, the deletion of a user and the update of `isActive`
  do not, and a count is old when the save comes.  An administrator remains exactly if the count is
  not zero at each statement that takes one away.
-/
import NovaLabs.Users.Effects

namespace Users

open Lib Process
open Backend (Uuid Time)

/-! ## The law -/

/-- Where the statement goes through and takes an administrator away, others are counted. -/
def Query.KeepsAdmin (w : World) (db : Database) : Query → Prop
  | .updateUser id held columns => ∀ user ∈ db.user id, user.1.IsActiveAdmin →
      db.Accepts id (user.1.set held columns) → ¬ (user.1.set held columns).IsActiveAdmin →
        db.remainingAdmins id ≠ 0
  | .deleteUser id => ∀ user ∈ db.user id, user.1.IsActiveAdmin →
      ¬ (w.referenced ∨ ¬ Storage.All db (sparesUser id)) → db.remainingAdmins id ≠ 0
  | _ => True

instance (w : World) (db : Database) (q : Query) : Decidable (q.KeepsAdmin w db) := by
  unfold Query.KeepsAdmin
  split <;> infer_instance

abbrev Ev := Event (Pool Answer DbServer HttpError Unit) (Turn Request World)

/-- The turn takes no administrator away unless others are counted. -/
abbrev KeepsAdmin (e : Ev) : Prop := OnQuery (fun _ w op => op.KeepsAdmin w e.pre.shared.db) e

/-! ## Kinds of requests -/

/-- Anonymisations use transactions, and write no users in them; the other requests use none. -/
inductive Kind where
  | plain
  | anonymising
  deriving DecidableEq

def Kind.permits : Kind → Query → Bool
  | plain, op => op.sparesTransactions
  | anonymising, op => op.leavesUsers

def Request.kind : Request → Kind
  | .anonymise _ _ => .anonymising
  | _ => .plain

def kindProtocol : Protocol Answer Kind where
  permits q op := q.permits op
  after q _ _ := q

/-! ## What is counted -/

section
variable {db db' : Database} {id : Uuid} {o : Option StoredUser}

theorem remainingAdmins_ne_zero : db.remainingAdmins id ≠ 0 ↔
    ∃ id' user, id' ≠ id ∧ db.user id' = some user ∧ user.1.IsActiveAdmin := by
  rw [Database.remainingAdmins, Storage.total_ne_zero]
  constructor
  · rintro ⟨row, cell, hcell, hcount⟩
    cases row with
    | user id' =>
      cases cell with
      | none => exact absurd rfl hcount
      | some user =>
        obtain ⟨hne, hadmin⟩ : id' ≠ id ∧ user.1.IsActiveAdmin := by
          by_contra hno
          exact hcount (if_neg hno)
        exact ⟨id', user, hne, Option.join_eq_some_iff.2 hcell, hadmin⟩
    | _ => exact absurd rfl hcount
  · rintro ⟨id', user, hne, huser, hadmin⟩
    refine ⟨.user id', some user, Option.join_eq_some_iff.1 huser, ?_⟩
    rw [countsAsAdmin, if_pos ⟨hne, hadmin⟩]
    exact one_ne_zero

/-- Where one user changes, an administrator remains exactly if the user is not the last one, or is
    one still. -/
theorem hasAdmin_change (h : db.HasAdmin)
    (hdb : ∀ id', db'.user id' = if id' = id then o else db.user id') :
    db'.HasAdmin ↔ ∀ user ∈ db.user id, user.1.IsActiveAdmin →
      (¬ ∃ user' ∈ o, user'.1.IsActiveAdmin) → db.remainingAdmins id ≠ 0 := by
  rw [remainingAdmins_ne_zero]
  constructor
  · rintro ⟨id', user', huser', hadmin⟩ _ _ _ hno
    rw [hdb] at huser'
    split_ifs at huser' with hid
    · exact absurd ⟨user', huser', hadmin⟩ hno
    · exact ⟨id', user', hid, huser', hadmin⟩
  · intro hkeeps
    by_cases hstill : ∃ user' ∈ o, user'.1.IsActiveAdmin
    · obtain ⟨user', huser', hadmin⟩ := hstill
      exact ⟨id, user', by rw [hdb, if_pos rfl]; exact huser', hadmin⟩
    · obtain ⟨id₁, user, huser, hadmin⟩ := h
      by_cases hid : id₁ = id
      · subst hid
        obtain ⟨id', user', hne, huser', hadmin'⟩ := hkeeps user huser hadmin hstill
        exact ⟨id', user', by rw [hdb, if_neg hne, huser'], hadmin'⟩
      · exact ⟨id₁, user, by rw [hdb, if_neg hid, huser], hadmin⟩

end

/-! ## What changes -/

/-- At most one user changes, and an administrator remains exactly if the statement keeps one. -/
def UserChange (w : World) (op : Query) (db db' : Database) : Prop :=
  ∃ id o, (∀ id', db'.user id' = if id' = id then o else db.user id') ∧
    (op.KeepsAdmin w db ↔ ∀ user ∈ db.user id, user.1.IsActiveAdmin →
      (¬ ∃ user' ∈ o, user'.1.IsActiveAdmin) → db.remainingAdmins id ≠ 0)

section
variable {cfg : Config} {s s' : DbServer} {t : ℕ} {w : World} {op : Query} {a : Answer op}
  {id : Uuid} {db db' : Database}

/-- A statement that leaves users alone takes no administrator away. -/
theorem Query.keepsAdmin_of_leavesUsers (h : op.leavesUsers) : op.KeepsAdmin w db := by
  cases op with
  | updateUser id held columns =>
    obtain ⟨hpassword, hmem⟩ := of_decide_eq_true h
    intro user _ _ hu
    exact absurd hu (not_accepts_of_password (by rw [User.set, if_pos hmem, hpassword]))
  | deleteUser => cases h
  | _ => trivial

theorem UserChange.of_same (h : ∀ id, db'.user id = db.user id) (hk : op.KeepsAdmin w db) :
    UserChange w op db db' := by
  refine ⟨"", db.user "", fun id' => ?_, iff_of_true hk fun user huser hadmin hno => ?_⟩
  · split_ifs with hid
    · rw [h, hid]
    · exact h id'
  · exact absurd ⟨user, huser, hadmin⟩ hno

/-- Outside transactions, an entity that is stored is the one user that changes. -/
theorem putUser_change {user : User} {stored : Bool} (hs : UsersApart s)
    (hx : s.active.lookup t = none) (h : s.putUser t id user = some (stored, s'))
    (hk : op.KeepsAdmin w s.db ↔ ∀ old ∈ s.db.user id, old.1.IsActiveAdmin →
      s.db.Accepts id user → ¬ user.IsActiveAdmin → s.db.remainingAdmins id ≠ 0) :
    UserChange w op s.db s'.db ∧ UsersApart s' := by
  have hview : s.view t = s.db := Server.view_none hx
  rcases putUser_cases h with ⟨-, rfl, hno⟩ | ⟨hu, -, rfl⟩
  · rw [hview] at hno
    exact ⟨.of_same (fun _ => rfl) (hk.2 fun _ _ _ hu => absurd hu hno), hs⟩
  · refine ⟨⟨id, some ⟨user, hu.1⟩, user_put_insert hx _, hk.trans ?_⟩, ?_⟩
    · rw [hview] at hu
      simp [hu]
    · rw [Server.put_none hx]
      exact hs

theorem exec_change {q : Kind} (hs : UsersApart s) (hp : q.permits op)
    (hx : q = .plain → s.active.lookup t = none) (h : exec cfg t w s op = some (a, s')) :
    UserChange w op s.db s'.db ∧ UsersApart s' := by
  have hsame (hk : op.KeepsAdmin w s.db) (h : SameUsers s s') :
      UserChange w op s.db s'.db ∧ UsersApart s' := ⟨.of_same h.users hk, h.apart⟩
  cases op with
  | begin =>
    obtain ⟨s₁, h₁, heq⟩ := Option.map_eq_some_iff.1 h
    cases heq
    exact hsame trivial (transaction_sameUsers hs (Or.inl h₁))
  | commit =>
    obtain ⟨s₁, h₁, heq⟩ := Option.map_eq_some_iff.1 h
    cases heq
    exact hsame trivial (transaction_sameUsers hs (Or.inr (Or.inl h₁)))
  | rollback =>
    obtain ⟨s₁, h₁, heq⟩ := Option.map_eq_some_iff.1 h
    cases heq
    exact hsame trivial (transaction_sameUsers hs (Or.inr (Or.inr h₁)))
  | now | randomBytes | hashPassword | reloadUser | countAdmins =>
    cases h
    exact hsame trivial ⟨fun _ => rfl, hs⟩
  | findUser which =>
    obtain ⟨found, -, heq⟩ := Option.map_eq_some_iff.1 h
    cases heq
    exact hsame trivial ⟨fun _ => rfl, hs⟩
  | deleteTokens | deleteLogs | clearBookings | clearPayments =>
    exact hsame trivial (change_sameUsers hs (fun _ _ => rfl) h)
  | createAudit log => exact hsame trivial (createAudit_sameUsers hs h)
  | insertUser user =>
    cases q with
    | anonymising => cases hp
    | plain =>
      have hview : Server.view s t = s.db := Server.view_none (hx rfl)
      change s.insertUser t w.id user = _ at h
      unfold DbServer.insertUser at h
      split_ifs at h with hfree
      obtain ⟨⟨stored, s₁⟩, hput, heq⟩ := Option.map_eq_some_iff.1 h
      cases heq
      rw [DbServer.view, hview] at hfree
      refine putUser_change hs (hx rfl) hput (iff_of_true trivial fun old hold => ?_)
      cases hfree.symm.trans hold
  | restoreUser id user =>
    change s.restoreUser t id user = _ at h
    unfold DbServer.restoreUser at h
    split_ifs at h with hfree
    · cases q with
      | plain =>
        have hview : Server.view s t = s.db := Server.view_none (hx rfl)
        rw [DbServer.view, hview] at hfree
        refine putUser_change hs (hx rfl) h (iff_of_true trivial fun old hold => ?_)
        cases hfree.symm.trans hold
      | anonymising =>
        rcases putUser_cases h with ⟨-, rfl, -⟩ | ⟨hu, -⟩
        · exact hsame trivial ⟨fun _ => rfl, hs⟩
        · exact absurd hu (not_accepts_of_password (of_decide_eq_true hp))
    · cases h
      exact hsame trivial ⟨fun _ => rfl, hs⟩
  | updateUser id held columns =>
    change s.updateUser t id held columns = _ at h
    unfold DbServer.updateUser at h
    cases q with
    | plain =>
      have hview : Server.view s t = s.db := Server.view_none (hx rfl)
      rw [DbServer.view, hview] at h
      cases huser : s.db.user id with
      | none =>
        rw [huser] at h
        cases h
        refine hsame (fun user hmem => ?_) ⟨fun _ => rfl, hs⟩
        cases huser.symm.trans hmem
      | some user =>
        rw [huser] at h
        refine putUser_change hs (hx rfl) h ?_
        simp [Query.KeepsAdmin, huser]
    | anonymising =>
      obtain ⟨hpassword, hmem⟩ := of_decide_eq_true hp
      refine hsame (Query.keepsAdmin_of_leavesUsers hp) ?_
      split at h
      · rcases putUser_cases h with ⟨-, rfl, -⟩ | ⟨hu, -⟩
        · exact ⟨fun _ => rfl, hs⟩
        · exact absurd hu (not_accepts_of_password (by rw [User.set, if_pos hmem, hpassword]))
      · cases h
        exact ⟨fun _ => rfl, hs⟩
  | deleteUser id =>
    cases q with
    | anonymising => cases hp
    | plain =>
      have hview : Server.view s t = s.db := Server.view_none (hx rfl)
      change s.deleteUser t w.referenced id = _ at h
      unfold DbServer.deleteUser at h
      rw [DbServer.view, hview] at h
      split_ifs at h with hnone hrefs
      · cases h
        refine hsame (fun user hmem => ?_) ⟨fun _ => rfl, hs⟩
        cases hnone.symm.trans hmem
      · cases h
        exact hsame (fun user _ _ hno => absurd hrefs hno) ⟨fun _ => rfl, hs⟩
      · obtain ⟨s₁, hw, heq⟩ := Option.map_eq_some_iff.1 h
        cases heq
        obtain ⟨-, rfl⟩ := Server.write_eq_some.1 hw
        rw [Server.put_none (hx rfl)]
        refine ⟨⟨id, none, fun id' => ?_, ?_⟩, hs⟩
        · rw [Database.user, Database.record, DbServer.db, Storage.lookup_union,
            Storage.lookup_changes]
          change ((s.db.lookup (.user id')).bind _ |>.or (s.db.lookup (.user id'))).join = ite _ _
            (s.db.lookup (.user id')).join
          by_cases hid : id' = id
          · cases hcell : s.db.lookup (.user id') with
            | none => rw [if_pos hid]; rfl
            | some cell => cases cell <;> simp [userDeletion, hid]
          · cases hcell : s.db.lookup (.user id') with
            | none => rw [if_neg hid]; rfl
            | some cell => cases cell <;> simp [userDeletion, hid]
        · simp [Query.KeepsAdmin, hrefs]

end

/-! ## Runs -/

/-- Open transactions are those of anonymisations, and have written no users. -/
structure Anonymisations (s : DbServer) (qs : ℕ → Option Kind) : Prop where
  apart : UsersApart s
  active : ∀ t, (s.active.lookup t).isSome → qs t = some .anonymising

section
variable {cfg : Config} {s s' : DbServer} {t : ℕ} {w : World} {op : Query} {a : Answer op}
  {p : Pool Answer DbServer HttpError Unit} {tr : List Ev}

theorem program_kind (request : Request) :
    Meets kindProtocol request.kind (program cfg request) fun _ _ => True := by
  have hpasses (q : Kind) : Passes kindProtocol q q.permits := fun _ hop => ⟨hop, fun _ => rfl⟩
  have hplain {x : Proc Unit} (h : x.Only Query.sparesTransactions) :
      Meets kindProtocol .plain x fun _ _ => True :=
    (Only.meets h (hpasses .plain)).mono fun _ _ _ => trivial
  cases request with
  | updateUser id dto actor => exact hplain (updateUser_plain.bind fun _ => trivial)
  | updateStatus id status actor =>
    exact hplain (Only.failIf.bind fun _ => updateStatus_plain.bind fun _ => trivial)
  | deleteUser id actor => exact hplain (Only.failIf.bind fun _ => deleteUser_plain)
  | provision profile => exact hplain (provision_plain.bind fun _ => trivial)
  | anonymise actor reason =>
    exact (Only.meets anonymise_only (hpasses .anonymising)).mono fun _ _ _ => trivial

theorem Anonymisations.inactive {qs : ℕ → Option Kind} (h : Anonymisations s qs)
    (hq : qs t = some .plain) : s.active.lookup t = none := by
  refine Option.not_isSome_iff_eq_none.1 fun hx => ?_
  cases hq.symm.trans (h.active t hx)

theorem Anonymisations.call {qs : ℕ → Option Kind} (h : Anonymisations s qs) (q : Kind)
    (hnone : qs t = none) : Anonymisations s (Function.update qs t (some q)) := by
  refine ⟨h.apart, fun t' hx => ?_⟩
  have ht : t' ≠ t := by
    rintro rfl
    cases hnone.symm.trans (h.active t' hx)
  rw [Function.update_of_ne ht]
  exact h.active t' hx

theorem Anonymisations.exec {qs : ℕ → Option Kind} {q : Kind} (h : Anonymisations s qs)
    (hq : qs t = some q) (hp : q.permits op) (hexec : Users.exec cfg t w s op = some (a, s')) :
    UserChange w op s.db s'.db ∧ Anonymisations s' qs := by
  obtain ⟨hchange, hapart⟩ := exec_change h.apart hp (fun hplain => h.inactive (hplain ▸ hq)) hexec
  refine ⟨hchange, hapart, fun t' hx => ?_⟩
  rcases exec_isSome hexec hx with hx | ⟨rfl, hop⟩
  · exact h.active t' hx
  · cases q with
    | plain => cases hop.symm.trans hp
    | anonymising => exact hq

theorem anonymisations_of_run {db : Database}
    (h : Run (system cfg).Steps { shared := { stored := db } } tr p) :
    ∃ qs, Tracks kindProtocol (fun _ _ => True) p qs ∧ Anonymisations p.shared qs := by
  refine System.invariant (J := fun _ => Anonymisations) (C := fun _ _ => True) program_kind
    (fun tr e t request qs _ hnone hshared _ hJ => ?_)
    (fun tr e qs t w q op a hans _ hJ => ?_) h .idle ⟨fun t x hx => ?_, fun t hx => ?_⟩
    fun _ _ _ _ => trivial
  · rw [hshared]
    exact hJ.call _ hnone
  · have hqs : Function.update qs t (some q) = qs := by
      rw [← hans.stage, Function.update_eq_self]
    change Anonymisations _ (Function.update qs t (some q))
    rw [hqs]
    exact (hJ.exec hans.stage hans.permits hans.exec).2
  · cases hx
  · cases hx

/-- The step lemma: an administrator remains exactly if the statement keeps one. -/
theorem hasAdmin_step {qs : ℕ → Option Kind} {e : Ev}
    (htracks : Tracks kindProtocol (fun _ _ => True) e.pre qs)
    (hJ : Anonymisations e.pre.shared qs) (hstep : (system cfg).Steps e.pre e.inp e.post)
    (hadmin : e.pre.shared.db.HasAdmin) : e.post.shared.db.HasAdmin ↔ KeepsAdmin e := by
  rcases hstep.cases with ⟨t, request, hinp, -, hshared, -⟩ |
    ⟨t, w, op, next, a, hinp, hprocs, hexec, -⟩
  · rw [hshared]
    exact iff_of_true hadmin fun _ _ _ hi => nomatch hi.symm.trans hinp
  · obtain ⟨q, hq, hmeets⟩ := htracks.some hprocs
    obtain ⟨⟨id, o, hdb, hkeeps⟩, -⟩ := hJ.exec hq hmeets.1 hexec
    rw [hasAdmin_change hadmin hdb, ← hkeeps]
    constructor
    · rintro hop t' w' op' hi ⟨next', hprocs'⟩
      cases hi.symm.trans hinp
      cases hprocs'.symm.trans hprocs
      exact hop
    · intro he
      exact he t w op hinp ⟨next, hprocs⟩

/-- **An administrator remains throughout a run exactly if others are counted at each statement that
    takes one away.** -/
theorem last_admin_kept {db : Database}
    (h : Run (system cfg).Steps { shared := { stored := db } } tr p) (hadmin : db.HasAdmin) :
    (p.shared.db.HasAdmin ∧ ∀ e ∈ tr, e.pre.shared.db.HasAdmin) ↔ ∀ e ∈ tr, KeepsAdmin e := by
  rw [← along_iff_forall, ← along_iff_forall]
  refine Run.always_iff (P := fun _ p => p.shared.db.HasAdmin) (fun tr e hr hs hpre => ?_) h hadmin
  obtain ⟨qs, htracks, hJ⟩ := anonymisations_of_run hr
  exact hasAdmin_step htracks hJ hs hpre

end

/-! ## Examples -/

/-- An administrator with an e-mail. -/
def administrator (email : String) : StoredUser :=
  ⟨fun
    | .role => some .admin
    | c => newStaff email "Admin" "" "hash" c, by simp [User.MeetsSchema, Column.notNull, newStaff]⟩

/-- Two administrators, "a" and "b". -/
def twoAdmins : Database :=
  Finmap.insert (.user "a") (some (administrator "a@hub"))
    (Finmap.insert (.user "b") (some (administrator "b@hub")) ∅)

theorem twoAdmins_hasAdmin : twoAdmins.HasAdmin :=
  ⟨"a", administrator "a@hub", by rfl, by decide⟩

/-- The row is no active administrator. -/
def sparesAdmins : ∀ row, Cell row → Bool
  | .user _, some user => ¬ user.1.IsActiveAdmin
  | _, _ => true

theorem not_hasAdmin_of_all {db : Database} (h : Storage.All db sparesAdmins) : ¬ db.HasAdmin := by
  rintro ⟨id, user, huser, hadmin⟩
  have hspares := Storage.all_iff.1 h (.user id) (some user) (Option.join_eq_some_iff.1 huser)
  exact of_decide_eq_true hspares hadmin

/-- "b" suspends "a". -/
theorem last_admin_kept_suspension : ∃ tr p,
    Run (system plainConfig).Steps { shared := { stored := twoAdmins } } tr p ∧
      p.shared.db.HasAdmin ∧ ∀ e ∈ tr, e.pre.shared.db.HasAdmin := by
  have hplay : ((system plainConfig).play { shared := { stored := twoAdmins } }
      [.call 0 (.updateStatus "a" .suspended ⟨"b", some .admin, none⟩),
        .step 0 { row := some "a" }, .step 0 {}, .step 0 {}, .step 0 {}]).any fun x =>
      ∀ e ∈ x.1, KeepsAdmin e := by decide
  obtain ⟨⟨tr, p⟩, hplay, hkeeps⟩ := (Option.any_eq_true _ _).1 hplay
  exact ⟨tr, p, System.run_play hplay, (last_admin_kept (System.run_play hplay)
    twoAdmins_hasAdmin).2 (of_decide_eq_true hkeeps)⟩

/-- Both administrators sign in by SAML: they are users of the staff afterwards. -/
theorem last_admin_lost : ¬ ∀ (cfg : Config) (db : Database) (tr : List Ev)
    (p : Pool Answer DbServer HttpError Unit), db.HasAdmin →
    Run (system cfg).Steps { shared := { stored := db } } tr p → p.shared.db.HasAdmin := by
  intro h
  have hplay : ((system plainConfig).play { shared := { stored := twoAdmins } }
      [.call 0 (.provision ⟨none, some "a@hub", none, none⟩), .step 0 { row := some "a" },
        .step 0 {}, .step 0 {}, .call 1 (.provision ⟨none, some "b@hub", none, none⟩),
        .step 1 { row := some "b" }, .step 1 {}, .step 1 {}]).any fun x =>
      Storage.All x.2.shared.db sparesAdmins := by decide
  obtain ⟨⟨tr, p⟩, hplay, hnone⟩ := (Option.any_eq_true _ _).1 hplay
  exact not_hasAdmin_of_all (of_decide_eq_true hnone)
    (h _ _ _ _ twoAdmins_hasAdmin (System.run_play hplay))

end Users
