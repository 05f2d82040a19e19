/-
  Which requests take administrators away.

  A request that runs alone, outside transactions, takes the last administrator away only where it
  suspends or deletes a user, makes one inactive, or makes one a user of the staff.  The update
  counts before it demotes, and demotes no last one.  The statements of an anonymisation take nobody
  away, whatever runs beside it.
-/
import NovaLabs.Users.LastAdmin
import NovaLabs.Lib.Alone

namespace Users

open Lib Process
open Backend (Uuid Time MembershipStatus)

/-! ## Outside transactions -/

/-- Session `t` has no open transaction, and no other has written users. -/
structure Outside (t : ℕ) (s : DbServer) : Prop where
  apart : UsersApart s
  inactive : s.active.lookup t = none

section
variable {cfg : Config} {t : ℕ} {W : World → Prop} {s s' : DbServer} {id : Uuid} {w : World}
  {op : Query} {a : Answer op} {held : User} {user : StoredUser}

theorem Outside.view (h : Outside t s) : s.view t = s.db := Server.view_none h.inactive

theorem Outside.exec (h : Outside t s) (hop : op.sparesTransactions)
    (hexec : Users.exec cfg t w s op = some (a, s')) : Outside t s' := by
  refine ⟨(exec_change (q := .plain) h.apart hop (fun _ => h.inactive) hexec).2, ?_⟩
  refine Option.not_isSome_iff_eq_none.1 fun hx => ?_
  rcases exec_isSome hexec hx with hx | ⟨-, hno⟩
  · rw [h.inactive] at hx
    cases hx
  · cases hno.symm.trans hop

theorem Outside.hasAdmin (h : Outside t s) (hop : op.sparesTransactions)
    (hexec : Users.exec cfg t w s op = some (a, s')) (hadmin : s.db.HasAdmin) :
    s'.db.HasAdmin ↔ op.KeepsAdmin w s.db := by
  obtain ⟨⟨id, o, hdb, hkeeps⟩, -⟩ :=
    exec_change (q := .plain) h.apart hop (fun _ => h.inactive) hexec
  rw [hasAdmin_change hadmin hdb, ← hkeeps]

/-! ## Saves -/

theorem mem_changed {held stored : User} {c : Column} :
    c ∈ held.changed stored ↔ held c ≠ stored c := by
  simp [User.changed, Column.mem_all]

theorem set_changed (held user : User) : user.set held (held.changed user) = held := by
  funext c
  unfold User.set
  split_ifs with hc
  · rfl
  · by_contra hne
    exact hc (mem_changed.2 (Ne.symm hne))

theorem Outside.saved {columns : List Column} {saved : Bool} (hs : Outside t s)
    (huser : s.db.user id = some user) (h : s.updateUser t id held columns = some (saved, s')) :
    saved = true ↔ s.db.Accepts id (user.1.set held columns) := by
  unfold DbServer.updateUser at h
  rw [hs.view, huser] at h
  have hcases := putUser_cases h
  rw [hs.view] at hcases
  rcases hcases with ⟨rfl, -, hno⟩ | ⟨hu, rfl, -⟩
  · exact iff_of_false Bool.false_ne_true hno
  · exact iff_of_true rfl hu

/-- A save takes the last administrator away exactly where it succeeds, and the entity is none. -/
theorem saveUser_alone {r : Except HttpError Unit} (hs : Outside t s) (hadmin : s.db.HasAdmin)
    (huser : s.db.user id = some user) (h : Alone (exec cfg t) W s (saveUser id held) r s') :
    Outside t s' ∧ (s'.db.HasAdmin ↔ (r = .ok () → user.1.IsActiveAdmin → ¬ held.IsActiveAdmin →
      s.db.remainingAdmins id ≠ 0)) := by
  obtain ⟨w, stored, s₁, -, hexec, h⟩ := h.query
  cases hexec
  rw [hs.view, huser] at h
  simp only at h
  split_ifs at h with hchanged
  · obtain ⟨w, saved, s₁, -, hexec, h⟩ := h.query
    have hsaved := hs.saved huser hexec
    have hkeeps := hs.hasAdmin rfl hexec hadmin
    have hr : s' = s₁ ∧ (r = .ok () ↔ saved = true) := by
      cases saved <;> cases h <;> simp
    rw [set_changed] at hsaved
    rw [hr.1, hr.2, hkeeps]
    refine ⟨hs.exec rfl hexec, fun hop hok hold hnew => ?_, fun hop user' hmem hold hok hnew => ?_⟩
    · refine hop user huser hold ?_ ?_ <;> rw [set_changed]
      · exact hsaved.1 hok
      · exact hnew
    · obtain rfl : user = user' := Option.some.inj (huser.symm.trans hmem)
      rw [set_changed] at hok hnew
      exact hop (hsaved.2 hok) hold hnew
  · obtain ⟨rfl, rfl⟩ := h.value
    have hheld : held = user.1 := by
      funext c
      by_contra hne
      exact hchanged (List.ne_nil_of_mem (mem_changed.2 hne))
    rw [hheld]
    exact ⟨hs, iff_of_true hadmin fun _ hold hnew => absurd hold hnew⟩

/-- A save, and what follows it: this changes no users, and returns `b`. -/
theorem saveUser_bind_alone {α : Type} {f : Unit → Proc α} {r : Except HttpError α} (b : α)
    (hs : Outside t s) (hadmin : s.db.HasAdmin) (huser : s.db.user id = some user)
    (h : Alone (exec cfg t) W s (saveUser id held >>= f) r s')
    (hf : ∀ {s₁ r s'}, Outside t s₁ → Alone (exec cfg t) W s₁ (f ()) r s' →
      r = .ok b ∧ (s'.db.HasAdmin ↔ s₁.db.HasAdmin)) :
    (∀ a, r = .ok a → a = b) ∧ (s'.db.HasAdmin ↔ (r = .ok b → user.1.IsActiveAdmin →
      ¬ held.IsActiveAdmin → s.db.remainingAdmins id ≠ 0)) := by
  rcases h.seq with ⟨⟨⟩, s₁, hsave, hrest⟩ | ⟨e, rfl, hsave⟩
  · obtain ⟨hs₁, hkeeps⟩ := saveUser_alone hs hadmin huser hsave
    obtain ⟨rfl, hsame⟩ := hf hs₁ hrest
    rw [hsame, hkeeps]
    exact ⟨fun a ha => (Except.ok.inj ha).symm, fun h _ => h rfl, fun h _ => h rfl⟩
  · exact ⟨nofun, iff_of_true ((saveUser_alone hs hadmin huser hsave).2.2 nofun) nofun⟩

theorem pure_alone {α : Type} {b : α} {r : Except HttpError α} (_ : Outside t s)
    (h : Alone (exec cfg t) W s (pure b) r s') :
    r = .ok b ∧ (s'.db.HasAdmin ↔ s.db.HasAdmin) := by
  obtain ⟨rfl, rfl⟩ := h.value
  exact ⟨rfl, Iff.rfl⟩

theorem createAudit_alone {α : Type} {log : AuditLog} {b : α} {r : Except HttpError α}
    (hs : Outside t s)
    (h : Alone (exec cfg t) W s (ask (.createAudit log) >>= fun _ => pure b) r s') :
    r = .ok b ∧ (s'.db.HasAdmin ↔ s.db.HasAdmin) := by
  obtain ⟨w, _, s₁, -, hexec, h⟩ := h.query
  obtain ⟨rfl, rfl⟩ := h.value
  refine ⟨rfl, ?_⟩
  unfold Database.HasAdmin
  simp only [(createAudit_sameUsers hs.apart hexec).users]

theorem recorded_alone {α : Type} {c : Prop} [Decidable c] {log : AuditLog} {b : α}
    {r : Except HttpError α} (hs : Outside t s) (h : Alone (exec cfg t) W s
      (if c then ask (.createAudit log) >>= fun _ => pure b else pure b) r s') :
    r = .ok b ∧ (s'.db.HasAdmin ↔ s.db.HasAdmin) := by
  split_ifs at h
  · exact createAudit_alone hs h
  · exact pure_alone hs h

/-! ## Requests -/

theorem findUser_some {db : Database} {which : UserWhere} {row : Option Uuid}
    (h : db.findUser which row = some (some (id, user))) :
    db.user id = some user ∧ which.selects id user.1 := by
  cases row with
  | none =>
    unfold Database.findUser at h
    split_ifs at h
    cases h
  | some row =>
    obtain ⟨found, hfound, h⟩ := Option.bind_eq_some_iff.1 h
    split_ifs at h with hselects
    cases h
    exact ⟨hfound, hselects⟩

theorem findUser_byId {db : Database} {row : Option Uuid} {id' : Uuid}
    (h : db.findUser (.byId id) row = some (some (id', user))) :
    id' = id ∧ db.user id' = some user :=
  ⟨(of_decide_eq_true (findUser_some h).2).1, (findUser_some h).1⟩

theorem findById_alone {α : Type} {e : HttpError} {f : Uuid × StoredUser → Proc α}
    {r : Except HttpError α} (hs : Outside t s) (h : Alone (exec cfg t) W s
      (ask (.findUser (.byId id)) >>= fun found => okOr found e >>= f) r s') :
    (r = .error e ∧ s' = s) ∨
      ∃ user, s.db.user id = some user ∧ Alone (exec cfg t) W s (f (id, user)) r s' := by
  obtain ⟨w, found, _, -, hexec, hrest⟩ := h.query
  obtain ⟨_, hfind, heq⟩ := Option.map_eq_some_iff.1 hexec
  cases heq
  rcases hrest.okOr with ⟨-, hr⟩ | ⟨⟨id', user⟩, rfl, hend⟩
  · exact Or.inl hr
  · rw [hs.view] at hfind
    obtain ⟨rfl, huser⟩ := findUser_byId hfind
    exact Or.inr ⟨user, huser, hend⟩

theorem errorCatch_alone {α : Type} {message : String} {x : Proc α} {r : Except HttpError α}
    (h : Alone (exec cfg t) W s (errorCatch message x) r s') :
    ∃ r₁, Alone (exec cfg t) W s x r₁ s' ∧ ∀ a, r = .ok a ↔ r₁ = .ok a := by
  obtain ⟨r₁, s₁, hx, h⟩ := Alone.attempt_iff.1 h
  rcases r₁ with (_ | _ | _ | _ | _ | _) | a <;> cases h
  all_goals exact ⟨_, hx, by simp⟩

theorem hashField_alone {fields : ∀ c : Column, Option (Option c.Value)}
    {r : Except HttpError (∀ c : Column, Option (Option c.Value))}
    (h : Alone (exec cfg t) W s (hashField fields) r s') :
    s' = s ∧ ∃ hashed, r = .ok hashed ∧ ∀ c ≠ .password, hashed c = fields c := by
  unfold hashField at h
  split at h
  · split_ifs at h
    · obtain ⟨w, hash, _, -, ⟨⟩, h⟩ := h.query
      obtain ⟨rfl, rfl⟩ := h.value
      exact ⟨rfl, _, rfl, fun c hc => Function.update_of_ne hc _ _⟩
    · obtain ⟨rfl, rfl⟩ := h.value
      exact ⟨rfl, _, rfl, fun _ _ => rfl⟩
  · obtain ⟨rfl, rfl⟩ := h.value
    exact ⟨rfl, _, rfl, fun _ _ => rfl⟩

theorem withStatus_isActiveAdmin {user : User} {status : MembershipStatus} {now : Time}
    (h : user.IsActiveAdmin) :
    ¬ (user.withStatus status now).IsActiveAdmin ↔ status = .suspended := by
  obtain ⟨-, hrest⟩ := h
  have hiff : (user.withStatus status now).IsActiveAdmin ↔ status ≠ .suspended :=
    ⟨fun hnew => of_decide_eq_true (Option.some.inj hnew.1),
      fun hstatus => ⟨congrArg some (decide_eq_true hstatus), hrest⟩⟩
  rw [hiff, not_not]

/-- **A change of a status takes the last administrator away exactly where it suspends them.** -/
theorem updateStatus_alone {status : MembershipStatus} {r : Except HttpError User}
    (hs : Outside t s) (hadmin : s.db.HasAdmin)
    (h : Alone (exec cfg t) W s (updateStatus id status) r s') :
    s'.db.HasAdmin ↔ ∀ held, r = .ok held → ∀ user ∈ s.db.user id, user.1.IsActiveAdmin →
      status = .suspended → s.db.remainingAdmins id ≠ 0 := by
  rcases findById_alone hs h with ⟨rfl, rfl⟩ | ⟨user, huser, h⟩
  · exact iff_of_true hadmin nofun
  obtain ⟨w, now, _, -, ⟨⟩, h⟩ := h.query
  obtain ⟨hr, hkeeps⟩ := saveUser_bind_alone _ hs hadmin huser h pure_alone
  rw [hkeeps]
  constructor
  · intro hop held hok user' hmem hold hstatus
    cases hr held hok
    cases huser.symm.trans hmem
    exact hop hok hold ((withStatus_isActiveAdmin hold).2 hstatus)
  · intro hop hok hold hnew
    exact hop _ hok user huser hold ((withStatus_isActiveAdmin hold).1 hnew)

/-- **A deletion that succeeds takes the last administrator away.** -/
theorem deleteUser_alone {actor : Actor} {r : Except HttpError Unit} (hs : Outside t s)
    (hadmin : s.db.HasAdmin) (h : Alone (exec cfg t) W s (deleteUser id actor) r s') :
    s'.db.HasAdmin ↔ (r = .ok () → ∀ user ∈ s.db.user id, user.1.IsActiveAdmin →
      s.db.remainingAdmins id ≠ 0) := by
  obtain ⟨r₁, h, hr⟩ := errorCatch_alone h
  rw [hr]
  rcases h.failIf with ⟨-, rfl, rfl⟩ | ⟨-, h⟩
  · exact iff_of_true hadmin fun hok => by cases hok
  obtain ⟨w, affected, s₁, -, hexec, h⟩ := h.query
  have hkeeps := hs.hasAdmin rfl hexec hadmin
  have hs₁ := hs.exec rfl hexec
  change s.deleteUser t w.referenced id = _ at hexec
  unfold DbServer.deleteUser at hexec
  rw [hs.view] at hexec
  split_ifs at hexec with hnone hrefs
  · cases hexec
    rcases h.okOr with ⟨⟨⟩, -⟩ | ⟨_, ⟨⟩, h⟩
    rcases h.failIf with ⟨-, rfl, rfl⟩ | ⟨hno, -⟩
    · exact iff_of_true hadmin fun hok => by cases hok
    · exact absurd rfl hno
  · cases hexec
    rcases h.okOr with ⟨-, rfl, rfl⟩ | ⟨_, ⟨⟩, -⟩
    exact iff_of_true hadmin fun hok => by cases hok
  · obtain ⟨s₂, -, heq⟩ := Option.map_eq_some_iff.1 hexec
    cases heq
    rcases h.okOr with ⟨⟨⟩, -⟩ | ⟨_, ⟨⟩, h⟩
    rcases h.failIf with ⟨⟨⟩, -⟩ | ⟨-, h⟩
    obtain ⟨rfl, hsame⟩ := createAudit_alone (b := ()) hs₁ (by rwa [bind_pure_unit])
    rw [hsame, hkeeps]
    exact ⟨fun hop _ user hmem hold => hop user hmem hold hrefs,
      fun hkeeps user hmem hold _ => hkeeps rfl user hmem hold⟩

/-- The fields make an administrator none by its role. -/
abbrev Demotes (user : User) (fields : ∀ c : Column, Option (Option c.Value)) : Prop :=
  (fields .role).any (· ≠ user .role) ∧ isAdminLike (user .role) ∧
    ¬ (fields .role).any fun role => isAdminLike role

theorem assign_isActiveAdmin {user : User} {dto : UpdateUserDto}
    {fields : ∀ c : Column, Option (Option c.Value)}
    (hfields : ∀ c ≠ .password, fields c = dto.fields c) (hrole : ¬ Demotes user dto.fields)
    (h : user.IsActiveAdmin) :
    (user.assign fields).IsActiveAdmin ↔ user.assign fields .isActive = some true := by
  obtain ⟨-, hdeleted, hadmin, hat⟩ := h
  have hleft {c : Column} (hc : c ∉ updateFields) (hne : c ≠ .password) :
      user.assign fields c = user c := by
    rw [User.assign, hfields c hne]
    cases hfield : dto.fields c with
    | none => rfl
    | some value => exact absurd (dto.whitelisted c (by rw [hfield]; rfl)) hc
  refine ⟨And.left, fun hactive => ⟨hactive, ?_, ?_, ?_⟩⟩
  · rw [hleft (by decide) (by decide), hdeleted]
  · rw [User.assign, hfields _ (by decide)]
    cases hfield : dto.fields .role with
    | none => exact hadmin
    | some role =>
      by_contra hno
      refine hrole ⟨?_, hadmin, ?_⟩
      · rw [hfield, Option.any_some, decide_eq_true_eq]
        rintro rfl
        exact hno hadmin
      · rw [hfield]
        exact hno
  · rw [hleft (by decide) (by decide), hat]

/-- **An update demotes no last administrator, and takes the last one away exactly where it makes
    them inactive.** -/
theorem updateUser_alone {dto : UpdateUserDto} {actor : Actor} {r : Except HttpError User}
    (hs : Outside t s) (hadmin : s.db.HasAdmin)
    (h : Alone (exec cfg t) W s (updateUser id dto actor) r s') :
    s'.db.HasAdmin ↔ ∀ assigned, r = .ok assigned → ∀ user ∈ s.db.user id,
      user.1.IsActiveAdmin → assigned .isActive ≠ some true → s.db.remainingAdmins id ≠ 0 := by
  obtain ⟨r₁, h, hr⟩ := errorCatch_alone h
  simp only [hr]
  rcases findById_alone hs h with ⟨rfl, rfl⟩ | ⟨user, huser, h⟩
  · exact iff_of_true hadmin nofun
  rcases h.failIf with ⟨-, rfl, rfl⟩ | ⟨-, h⟩
  · exact iff_of_true hadmin nofun
  rcases h.failIf with ⟨-, rfl, rfl⟩ | ⟨-, h⟩
  · exact iff_of_true hadmin nofun
  rcases h.failIf with ⟨-, rfl, rfl⟩ | ⟨-, h⟩
  · exact iff_of_true hadmin nofun
  rcases h.seq with ⟨fields, s₁, hhash, hrest⟩ | ⟨e, -, hhash⟩
  · obtain ⟨rfl, hashed, heq, hfields⟩ := hashField_alone hhash
    cases heq
    rcases hrest.failIf with ⟨-, rfl, rfl⟩ | ⟨-, h⟩
    · exact iff_of_true hadmin nofun
    dsimp only at h
    by_cases hdemotes : Demotes user.1 dto.fields
    · rw [if_pos hdemotes] at h
      obtain ⟨w, n, _, -, ⟨⟩, h⟩ := h.query
      rcases h.failIf with ⟨-, rfl, rfl⟩ | ⟨hothers, h⟩
      · exact iff_of_true hadmin nofun
      rw [hs.view] at hothers
      obtain ⟨-, hkeeps⟩ := saveUser_bind_alone _ hs hadmin huser h recorded_alone
      exact iff_of_true (hkeeps.2 fun _ _ _ => hothers) fun _ _ _ _ _ _ => hothers
    · rw [if_neg hdemotes] at h
      obtain ⟨hassigned, hkeeps⟩ := saveUser_bind_alone _ hs hadmin huser h recorded_alone
      rw [hkeeps]
      constructor
      · intro hop assigned hok user' hmem hold hactive
        cases hassigned assigned hok
        cases huser.symm.trans hmem
        exact hop hok hold fun hnew => hactive hnew.1
      · intro hop hok hold hnew
        refine hop _ hok user huser hold fun hactive => hnew ?_
        exact (assign_isActiveAdmin hfields hdemotes hold).2 hactive
  · obtain ⟨-, _, heq, -⟩ := hashField_alone hhash
    cases heq

/-- **A sign-in by SAML takes the last administrator away only where it makes them a user of the
    staff.** -/
theorem provision_alone {profile : SamlAssertionProfile} {r : Except HttpError (User × Bool)}
    (hs : Outside t s) (hadmin : s.db.HasAdmin)
    (h : Alone (exec cfg t) W s (provision cfg profile) r s') :
    s'.db.HasAdmin ∨ ∃ id user, r = .ok (user.1.asStaff, false) ∧ s.db.user id = some user ∧
      user.1.IsActiveAdmin ∧ s.db.remainingAdmins id = 0 := by
  rcases h.failIf with ⟨-, -, rfl⟩ | ⟨-, h⟩
  · exact Or.inl hadmin
  obtain ⟨w, found, _, -, hexec, h⟩ := h.query
  obtain ⟨_, hfind, heq⟩ := Option.map_eq_some_iff.1 hexec
  cases heq
  cases found with
  | none =>
    obtain ⟨w, random, _, -, ⟨⟩, h⟩ := h.query
    obtain ⟨w, inserted, s₁, -, hexec, h⟩ := h.query
    have hadmin₁ := (hs.hasAdmin rfl hexec hadmin).2 trivial
    rcases h.okOr with ⟨-, -, rfl⟩ | ⟨_, -, h⟩
    · exact Or.inl hadmin₁
    · obtain ⟨-, rfl⟩ := h.value
      exact Or.inl hadmin₁
  | some found =>
    obtain ⟨id, user⟩ := found
    rw [hs.view] at hfind
    obtain ⟨huser, -⟩ := findUser_some hfind
    dsimp only at h
    split_ifs at h with hrole
    · obtain ⟨-, hkeeps⟩ := saveUser_bind_alone _ hs hadmin huser h pure_alone
      by_contra! hno
      refine hno.1 (hkeeps.2 fun hok hold _ => hno.2 id user hok huser hold)
    · obtain ⟨-, rfl⟩ := h.value
      exact Or.inl hadmin

end

end Users
