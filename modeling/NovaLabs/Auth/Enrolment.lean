/-
  Enrolment for two-factor authentication.

  The set-up of a secret writes the column from which logins read the active one: a second set-up
  replaces the active secret at once, whether it is confirmed or not.
-/
import NovaLabs.Auth.SecondFactor

namespace Auth

open Lib Process
open Backend (Uuid Time)

/-- The requests of enrolment, and logins. -/
def Request.IsEnrolment : Request → Prop
  | .initiate2faSetup _ | .confirm2faSetup _ _ | .disable2fa _ _ | .login _ => True
  | _ => False

/-- What enrolment writes of a user, less the backup codes. -/
def User.factor (user : User) : Bool × Option String := (user.twoFactorEnabled, user.totpSecret)

/-- The call has confirmed the stored secret of the user, with a code that is valid for it. -/
def Confirms (cfg : Config) (e : Handling) (id : Uuid) (secret : String) : Prop :=
  ∃ token codes user, e.inp.request = .confirm2faSetup id token ∧
    e.inp.result = .ok (.backupCodes codes) ∧ e.pre.user id = some user ∧
    user.secret = some secret ∧ cfg.verifyTotp token secret e.inp.now

/-- The last secret that the user has confirmed is the given one. -/
def LastConfirmed (cfg : Config) (tr : List Handling) (id : Uuid) (secret : String) : Prop :=
  Since (fun e => Confirms cfg e id secret) (fun e => ∀ secret, ¬ Confirms cfg e id secret) tr

/-- The secret that logins check is the last one that the user has confirmed. -/
def ChecksConfirmed (cfg : Config) (tr : List Handling) (db : Database) : Prop :=
  ∀ id user, db.user id = some user → user.twoFactorEnabled →
    ∃ secret, user.secret = some secret ∧ LastConfirmed cfg tr id secret

/-- A login with a password, and the code after it with the temporary token of this very login, open a
    session of the user.  Temporary tokens from before are not considered. -/
def LogsIn (cfg : Config) (now : Time) (db : Database) (id : Uuid) (code : String) : Prop :=
  ∃ dto tempToken db₁ tokens db₂,
    Call cfg now db (login cfg dto) (.ok (.requiresTwoFactor tempToken)) db₁ ∧
    Call cfg now db₁ (verifyTotpLogin cfg ⟨code, tempToken⟩) (.ok (id, tokens)) db₂

/-- A set-up while another secret is active. -/
def Overwrites (e : Handling) : Prop :=
  ∃ id user, e.inp.request = .initiate2faSetup id ∧ e.pre.user id = some user ∧
    user.twoFactorEnabled

section
variable {cfg : Config} {now : Time} {db db' : Database} {id : Uuid} {user : User}

/-! ## Calls -/

theorem initiate2faSetup_call {r : Except HttpError String}
    (h : Call cfg now db (initiate2faSetup id) r db') :
    ((∃ e, r = .error e) ∧ db'.user = db.user) ∨ ∃ user secret, r = .ok secret ∧
      db.user id = some user ∧
      db'.user = Function.update db.user id (some { user with totpSecret := some secret }) := by
  unfold initiate2faSetup at h
  rcases findUser_call h with ⟨rfl, rfl, -⟩ | ⟨id', user, huser, hselects, hrest⟩
  · exact Or.inl ⟨⟨_, rfl⟩, rfl⟩
  obtain rfl : id' = id := of_decide_eq_true hselects
  obtain ⟨_, secret, _, -, ⟨⟩, hrest⟩ := Alone.query hrest
  obtain ⟨db₁, hdb₁, hrest⟩ := saveUser_call huser hrest
  obtain ⟨rfl, rfl⟩ := hrest.value
  exact Or.inr ⟨user, _, rfl, huser, hdb₁⟩

theorem confirm2faSetup_call {token : String} {r : Except HttpError (List String)}
    (h : Call cfg now db (confirm2faSetup id token) r db') :
    ((∃ e, r = .error e) ∧ db'.user = db.user) ∨ ∃ user secret codes hashes, r = .ok codes ∧
      db.user id = some user ∧ user.secret = some secret ∧ cfg.verifyTotp token secret now ∧
      List.Forall₂ (fun code hash => ∃ salt, hash = cfg.bcrypt salt code) codes hashes ∧
      db'.user = Function.update db.user id
        (some { user with twoFactorEnabled := true, totpBackupCodes := some hashes }) := by
  unfold confirm2faSetup at h
  rcases findUser_call h with ⟨rfl, rfl, -⟩ | ⟨id', user, huser, hselects, hrest⟩
  · exact Or.inl ⟨⟨_, rfl⟩, rfl⟩
  obtain rfl : id' = id := of_decide_eq_true hselects
  rcases Alone.okOr hrest with ⟨-, rfl, rfl⟩ | ⟨secret, hsecret, hrest⟩
  · exact Or.inl ⟨⟨_, rfl⟩, rfl⟩
  obtain ⟨w, valid, _, rfl, ⟨⟩, hrest⟩ := Alone.query hrest
  rcases Alone.failIf hrest with ⟨-, rfl, rfl⟩ | ⟨hvalid, hrest⟩
  · exact Or.inl ⟨⟨_, rfl⟩, rfl⟩
  have hrandom {s s' : Database} {r : Except HttpError String}
      (h : Call cfg w.now s (ask .randomBytes) r s') : s' = s ∧ ∀ a, r = .ok a → True := by
    obtain _ | ⟨-, ⟨⟩, ⟨⟩⟩ := h
    exact ⟨rfl, fun _ _ => trivial⟩
  have hhash (code : String) {s s' : Database} {r : Except HttpError String}
      (h : Call cfg w.now s (ask (.hashPassword code)) r s') :
      s' = s ∧ ∀ hash, r = .ok hash → ∃ salt, hash = cfg.bcrypt salt code := by
    obtain _ | ⟨-, ⟨⟩, ⟨⟩⟩ := h
    refine ⟨rfl, ?_⟩
    rintro _ ⟨⟩
    exact ⟨_, rfl⟩
  rcases Alone.mapM (fun _ _ {_ _ _} => hrandom) hrest with ⟨⟨e, rfl⟩, rfl⟩ |
    ⟨codes, -, hrest⟩
  · exact Or.inl ⟨⟨_, rfl⟩, rfl⟩
  rcases Alone.mapM (fun code _ {_ _ _} => hhash code) hrest with
    ⟨⟨e, rfl⟩, rfl⟩ | ⟨hashes, hhashes, hrest⟩
  · exact Or.inl ⟨⟨_, rfl⟩, rfl⟩
  obtain ⟨db₁, hdb₁, hrest⟩ := saveUser_call huser hrest
  obtain ⟨rfl, rfl⟩ := hrest.value
  exact Or.inr ⟨user, secret, codes, hashes, rfl, huser, hsecret,
    Bool.eq_true_of_not_eq_false hvalid, hhashes, hdb₁⟩

theorem disable2fa_call {password : String} {r : Except HttpError Unit}
    (h : Call cfg now db (disable2fa cfg id password) r db') :
    ((∃ e, r = .error e) ∧ db'.user = db.user) ∨ ∃ user, r = .ok () ∧ db.user id = some user ∧
      db'.user = Function.update db.user id (some { user with
        twoFactorEnabled := false, totpSecret := none, totpBackupCodes := none }) := by
  unfold disable2fa at h
  rcases findUser_call h with ⟨rfl, rfl, -⟩ | ⟨id', user, huser, hselects, hrest⟩
  · exact Or.inl ⟨⟨_, rfl⟩, rfl⟩
  obtain rfl : id' = id := of_decide_eq_true hselects
  rcases Alone.failIf hrest with ⟨-, rfl, rfl⟩ | ⟨-, hrest⟩
  · exact Or.inl ⟨⟨_, rfl⟩, rfl⟩
  rw [← bind_pure (saveUser _ _ _)] at hrest
  obtain ⟨db₁, hdb₁, hrest⟩ := saveUser_call huser hrest
  obtain ⟨rfl, rfl⟩ := hrest.value
  exact Or.inr ⟨user, rfl, huser, hdb₁⟩

theorem resendVerificationOtp_call {email : String} {r : Except HttpError Unit}
    (h : Call cfg now db (resendVerificationOtp email) r db') :
    db'.user = db.user ∨ ∃ id user code, db.user id = some user ∧
      db'.user = Function.update db.user id (some { user with
        verificationCode := some code, verificationCodeExpiresAt := some (now + 600000) }) := by
  unfold resendVerificationOtp at h
  rcases Alone.failIf h with ⟨-, rfl, rfl⟩ | ⟨-, h⟩
  · exact Or.inl rfl
  rcases findUser_call h with ⟨rfl, rfl, -⟩ | ⟨id, user, huser, -, h⟩
  · exact Or.inl rfl
  obtain ⟨drawn, h⟩ := generateVerificationCode_call h
  obtain ⟨db₁, hdb₁, h⟩ := saveUser_call huser (inTenMinutes_call h)
  obtain ⟨_, _, _, -, ⟨⟩, hend⟩ := Alone.query (f := fun _ => pure ()) h
  obtain ⟨-, rfl⟩ := hend.value
  exact Or.inr ⟨id, user, _, huser, hdb₁⟩

/-- A login leaves the factors of all users. -/
theorem login_call {dto : LoginUserDto} {r : Except HttpError LoginResult}
    (h : Call cfg now db (login cfg dto) r db') (id : Uuid) :
    (db'.user id).map User.factor = (db.user id).map User.factor := by
  unfold login at h
  obtain ⟨w, found, _, -, hfind, h⟩ := Alone.query h
  obtain ⟨_, -, heq⟩ := Option.map_eq_some_iff.1 hfind
  obtain rfl := (Prod.mk.inj heq).2
  rcases Alone.okOr h with ⟨-, rfl, rfl⟩ | ⟨⟨id', user⟩, -, hrest⟩
  · rfl
  dsimp only at hrest
  split_ifs at hrest with hverified henabled
  · obtain ⟨w, _, _, -, ⟨⟩, hend⟩ := Alone.query hrest
    rw [hend.value.2]
  · rcases startSession_call hrest with ⟨-, hsame⟩ | ⟨db₁, hsame, hend⟩
    · rw [hsame]
    · rw [hend.value.2, hsame]
  · obtain ⟨r, hresend, -⟩ := hrest.map
    rcases resendVerificationOtp_call hresend with hsame | ⟨id₁, user₁, code, huser, hpost⟩
    · rw [hsame]
    · rw [hpost, Function.update_apply]
      split_ifs with hid
      · rw [hid, huser]
        rfl
      · rfl

/-! ## Runs -/

theorem lastConfirmed_snoc {tr : List Handling} {e : Handling} {secret : String} :
    LastConfirmed cfg (tr ++ [e]) id secret ↔ Confirms cfg e id secret ∨
      (LastConfirmed cfg tr id secret ∧ ∀ secret, ¬ Confirms cfg e id secret) := since_snoc

namespace ChecksConfirmed
variable {tr : List Handling} {e : Handling}

/-- A call that confirms nothing, and leaves the secrets of the users that are enrolled after it. -/
theorem keep (h : ChecksConfirmed cfg tr e.pre) (hnone : ∀ id secret, ¬ Confirms cfg e id secret)
    (hsame : ∀ id user, e.post.user id = some user → user.twoFactorEnabled →
      (e.pre.user id).map User.factor = some user.factor) :
    ChecksConfirmed cfg (tr ++ [e]) e.post := by
  intro id user huser henabled
  obtain ⟨old, hold, hfactor⟩ := Option.map_eq_some_iff.1 (hsame id user huser henabled)
  obtain ⟨hflag, htotp⟩ := Prod.mk.inj hfactor
  obtain ⟨secret, hsecret, hlast⟩ := h id old hold (hflag.trans henabled)
  refine ⟨secret, ?_, lastConfirmed_snoc.2 (Or.inr ⟨hlast, hnone id⟩)⟩
  rw [User.secret, ← htotp]
  exact hsecret

theorem step (h : ChecksConfirmed cfg tr e.pre) (hstep : Handles cfg e.pre e.inp e.post)
    (henrol : e.inp.request.IsEnrolment) (hpending : ¬ Overwrites e) :
    ChecksConfirmed cfg (tr ++ [e]) e.post := by
  obtain ⟨db, ⟨now, request, result⟩, db'⟩ := e
  change Call cfg now db (request.program cfg) result db' at hstep
  cases request with
  | initiate2faSetup id =>
    obtain ⟨r, hcall, rfl⟩ := hstep.map
    refine h.keep (fun _ _ ⟨_, _, _, heq, _⟩ => nomatch heq) fun id' user' huser' henabled => ?_
    rcases initiate2faSetup_call hcall with ⟨-, hsame⟩ | ⟨user, secret, -, huser, hpost⟩
    · exact congrArg _ ((congrFun hsame id').symm.trans huser')
    dsimp only at huser'
    rw [hpost, Function.update_apply] at huser'
    split_ifs at huser' with hid
    · cases huser'
      exact absurd ⟨id, user, rfl, huser, henabled⟩ hpending
    · exact congrArg _ huser'
  | confirm2faSetup id token =>
    obtain ⟨r, hcall, rfl⟩ := hstep.map
    rcases confirm2faSetup_call hcall with ⟨⟨err, rfl⟩, hsame⟩ |
      ⟨user, secret, codes, hashes, rfl, huser, hsecret, hvalid, -, hpost⟩
    · exact h.keep (fun _ _ ⟨_, _, _, _, hok, _⟩ => nomatch hok) fun id' _ huser' _ =>
        congrArg _ ((congrFun hsame id').symm.trans huser')
    intro id' user' huser' henabled
    dsimp only at huser'
    rw [hpost, Function.update_apply] at huser'
    split_ifs at huser' with hid
    · cases huser'
      obtain rfl := hid
      exact ⟨secret, hsecret, lastConfirmed_snoc.2
        (Or.inl ⟨token, codes, user, rfl, rfl, huser, hsecret, hvalid⟩)⟩
    · obtain ⟨secret', hsecret', hlast⟩ := h id' user' huser' henabled
      refine ⟨secret', hsecret', lastConfirmed_snoc.2 (Or.inr ⟨hlast, ?_⟩)⟩
      rintro _ ⟨_, _, _, ⟨⟩, -⟩
      exact hid rfl
  | disable2fa id password =>
    obtain ⟨r, hcall, rfl⟩ := hstep.map
    refine h.keep (fun _ _ ⟨_, _, _, heq, _⟩ => nomatch heq) fun id' user' huser' henabled => ?_
    rcases disable2fa_call hcall with ⟨-, hsame⟩ | ⟨user, -, huser, hpost⟩
    · exact congrArg _ ((congrFun hsame id').symm.trans huser')
    dsimp only at huser'
    rw [hpost, Function.update_apply] at huser'
    split_ifs at huser' with hid
    · cases huser'
      cases henabled
    · exact congrArg _ huser'
  | login dto =>
    obtain ⟨r, hcall, rfl⟩ := hstep.map
    refine h.keep (fun _ _ ⟨_, _, _, heq, _⟩ => nomatch heq) fun id' user' huser' henabled => ?_
    rw [← login_call hcall id']
    exact congrArg _ huser'
  | _ => exact henrol.elim

end ChecksConfirmed

/-! ## Codes that log a user in -/

/-- A user with two-factor authentication that a login finds, and the secret. -/
structure AsksFor (cfg : Config) (now : Time) (db : Database) (dto : LoginUserDto) (id : Uuid)
    (user : User) (secret : String) : Prop extends HasPassword cfg db dto id user where
  isVerified : user.isVerified
  enabled : user.twoFactorEnabled
  secret : user.secret = some secret
  inTime : (verifyAt cfg .access (signAt cfg .access (tempPayload id) 300 now) now).isSome

theorem AsksFor.login {dto : LoginUserDto} {secret : String}
    (h : AsksFor cfg now db dto id user secret) : Call cfg now db (login cfg dto)
      (.ok (.requiresTwoFactor (signAt cfg .access (tempPayload id) 300 now))) db := by
  have hfind : exec cfg { now, row := some id } db (.findUser (.byEmail dto.email)) =
      some (some (id, user), db) := by
    simp [exec, Database.findUser, UserWhere.selects, h.stored, h.email]
  refine Alone.of_query rfl hfind ?_
  rw [Option.filter_some, if_pos h.password]
  change Alone _ _ _ (if ¬ user.isVerified then _ else if user.twoFactorEnabled then _ else _) _ _
  rw [if_neg (not_not.2 h.isVerified), if_pos h.enabled]
  exact Alone.of_query (w := { now }) rfl rfl .done

theorem AsksFor.totp {dto : LoginUserDto} {secret code : String}
    (hsign : ∀ secret claims claims', cfg.decode .access (cfg.sign secret claims) = some claims' →
      claims' = claims)
    (h : AsksFor cfg now db dto id user secret) (hcode : cfg.verifyTotp code secret now) :
    Call cfg now db (verifyTotpLogin cfg
      ⟨code, signAt cfg .access (tempPayload id) 300 now⟩) (.ok (id, tokensAt cfg now id user)) db := by
  obtain ⟨claims, hclaims⟩ := Option.isSome_iff_exists.1 h.inTime
  have htemp := hsign _ _ _ (Option.filter_eq_some_iff.1 hclaims).1
  have hfind : exec cfg { now, row := some id } db (.findUser (.byId id)) =
      some (some (id, user), db) := by
    simp [exec, Database.findUser, UserWhere.selects, h.stored]
  have hverify : Call cfg now db (verifyTempToken (signAt cfg .access (tempPayload id) 300 now))
      (.ok id) db := by
    refine Alone.of_query (w := { now }) rfl (congrArg (fun o => some (o, db)) hclaims) ?_
    refine Alone.of_failIf (not_not.2 (by rw [htemp]; rfl)) ?_
    rw [htemp]
    exact .done
  refine Alone.then_ok hverify (Alone.of_query rfl hfind ?_)
  change Alone _ _ _ (okOr user.secret _ >>= _) _ _
  rw [h.secret]
  refine Alone.of_query (w := { now }) rfl rfl (Alone.of_failIf (by simp [hcode]) ?_)
  exact Alone.of_query (w := { now }) rfl rfl (Alone.of_query (w := { now }) rfl rfl .done)

/-- The codes that log a user in are those that are valid for the stored secret. -/
theorem logsIn_iff {code : String}
    (hsign : ∀ secret claims claims', cfg.decode .access (cfg.sign secret claims) = some claims' →
      claims' = claims) :
    LogsIn cfg now db id code ↔
      ∃ dto user secret, AsksFor cfg now db dto id user secret ∧ cfg.verifyTotp code secret now := by
  constructor
  · rintro ⟨dto, tempToken, db₁, tokens, db₂, hlogin, htotp⟩
    obtain ⟨id', user, hhas, ⟨⟨⟩⟩ | ⟨hverified, henabled, rfl, ⟨⟨⟩⟩⟩ | ⟨-, ⟨⟨⟩⟩⟩⟩ := login_ok hlogin
    obtain ⟨claims, user', secret, hclaims, -, rfl, huser, hsecret, hvalid, -⟩ :=
      verifyTotpLogin_ok htotp
    obtain rfl : claims.sub = id' := by rw [hsign _ _ _ (Option.filter_eq_some_iff.1 hclaims).1]; rfl
    obtain rfl := Option.some.inj (huser.symm.trans hhas.stored)
    exact ⟨dto, user', secret, ⟨hhas, hverified, henabled, hsecret,
      Option.isSome_iff_exists.2 ⟨claims, hclaims⟩⟩, hvalid⟩
  · rintro ⟨dto, user, secret, hasks, hcode⟩
    exact ⟨dto, _, db, _, db, hasks.login, hasks.totp hsign hcode⟩

/-- Where all enrolled users stay, the codes still log them in. -/
theorem LogsIn.of_stays {code : String}
    (hsign : ∀ secret claims claims', cfg.decode .access (cfg.sign secret claims) = some claims' →
      claims' = claims)
    (hstays : ∀ id user, db.user id = some user → user.twoFactorEnabled → db'.user id = some user)
    (h : LogsIn cfg now db id code) : LogsIn cfg now db' id code := by
  obtain ⟨dto, user, secret, hasks, hcode⟩ := (logsIn_iff hsign).1 h
  exact (logsIn_iff hsign).2 ⟨dto, user, secret,
    { hasks with stored := hstays id user hasks.stored hasks.enabled }, hcode⟩

/-- **While no secret is set up over an active one, logins check the secret that was confirmed last,
    and a set-up does not change which codes log a user in.** -/
theorem enrolment_two_phase {tr : List Handling} {db₀ : Database}
    (hsign : ∀ secret claims claims', cfg.decode .access (cfg.sign secret claims) = some claims' →
      claims' = claims)
    (hdb₀ : ∀ id user, db₀.user id = some user → ¬ user.twoFactorEnabled)
    (h : Run (Handles cfg) db₀ tr db) (henrol : ∀ e ∈ tr, e.inp.request.IsEnrolment)
    (hpending : ∀ e ∈ tr, ¬ Overwrites e) :
    ChecksConfirmed cfg tr db ∧ ∀ e ∈ tr, ∀ id, e.inp.request = .initiate2faSetup id →
      ∀ now id' code, LogsIn cfg now e.post id' code ↔ LogsIn cfg now e.pre id' code := by
  constructor
  · induction h with
    | nil => exact fun id user huser henabled => absurd henabled (hdb₀ id user huser)
    | @snoc tr s i s' _ hs ih =>
      exact (ih (fun e he => henrol e (by simp [he])) fun e he => hpending e (by simp [he])).step
        (e := ⟨s, i, s'⟩) hs (henrol _ (by simp)) (hpending _ (by simp))
  · rintro e he id hrequest now id' code
    have hstep : Handles cfg e.pre e.inp e.post := h.step_of_mem he
    rw [Handles, hrequest] at hstep
    obtain ⟨r, hcall, -⟩ := hstep.map
    rcases initiate2faSetup_call hcall with ⟨-, hsame⟩ | ⟨user, secret, -, huser, hpost⟩
    · exact ⟨.of_stays hsign fun id user h _ => (congrFun hsame id).symm.trans h,
        .of_stays hsign fun id user h _ => (congrFun hsame id).trans h⟩
    have hdisabled : ¬ user.twoFactorEnabled := fun henabled =>
      hpending e he ⟨id, user, hrequest, huser, henabled⟩
    constructor
    · refine .of_stays hsign fun id₁ user₁ huser₁ henabled => ?_
      rw [hpost, Function.update_apply] at huser₁
      split_ifs at huser₁ with hid
      · cases huser₁
        exact absurd henabled hdisabled
      · exact huser₁
    · refine .of_stays hsign fun id₁ user₁ huser₁ henabled => ?_
      rw [hpost, Function.update_of_ne, huser₁]
      rintro rfl
      cases huser.symm.trans huser₁
      exact hdisabled henabled

end

/-! ### Examples -/

/-- A user enrols with one secret, and then sets up another one. -/
theorem exists_set_up_twice : ∃ db₁ db₂ db₃ r₁ r₂ r₃ user₁ user₂ user₃,
    Handles plainConfig registered ⟨0, .initiate2faSetup "u", r₁⟩ db₁ ∧
    Handles plainConfig db₁ ⟨0, .confirm2faSetup "u" "s", r₂⟩ db₂ ∧
    Handles plainConfig db₂ ⟨0, .initiate2faSetup "u", r₃⟩ db₃ ∧
    db₁.user "u" = some user₁ ∧ user₁.secret = some "s" ∧
    db₂.user "u" = some user₂ ∧ user₂.twoFactorEnabled ∧
    db₃.user "u" = some user₃ ∧ user₃.twoFactorEnabled ∧ user₃.secret = some "t" := by
  have hplay : (aloneIn (exec plainConfig) ((Request.initiate2faSetup "u").program plainConfig)
      [{ row := some "u" }, { text := "s" }, {}, {}] registered).any fun x =>
      ((x.2.user "u").any (·.secret = some "s")) ∧
      (aloneIn (exec plainConfig) ((Request.confirm2faSetup "u" "s").program plainConfig)
        [{ row := some "u" }, {}, {}, {}, {}, {}, {}, {}, {}, {}, {}, {}, {}, {}, {}, {}, {}, {}, {},
          {}] x.2).any fun y =>
        ((y.2.user "u").any (·.twoFactorEnabled)) ∧
        (aloneIn (exec plainConfig) ((Request.initiate2faSetup "u").program plainConfig)
          [{ row := some "u" }, { text := "t" }, {}, {}] y.2).any fun z =>
          (z.2.user "u").any fun user => user.twoFactorEnabled ∧ user.secret = some "t" := by
    decide +kernel
  obtain ⟨⟨r₁, db₁⟩, h₁, hfacts⟩ := (Option.any_eq_true _ _).1 hplay
  obtain ⟨huser₁, hfacts⟩ := of_decide_eq_true hfacts
  obtain ⟨⟨r₂, db₂⟩, h₂, hfacts⟩ := (Option.any_eq_true _ _).1 hfacts
  obtain ⟨huser₂, hfacts⟩ := of_decide_eq_true hfacts
  obtain ⟨⟨r₃, db₃⟩, h₃, huser₃⟩ := (Option.any_eq_true _ _).1 hfacts
  obtain ⟨user₁, huser₁, hsecret₁⟩ := (Option.any_eq_true _ _).1 huser₁
  obtain ⟨user₂, huser₂, henabled₂⟩ := (Option.any_eq_true _ _).1 huser₂
  obtain ⟨user₃, huser₃, hfacts₃⟩ := (Option.any_eq_true _ _).1 huser₃
  obtain ⟨henabled₃, hsecret₃⟩ := of_decide_eq_true hfacts₃
  exact ⟨db₁, db₂, db₃, r₁, r₂, r₃, user₁, user₂, user₃,
    alone_of_aloneIn h₁ (show ∀ w : World, w ∈ _ → w.now = 0 by decide),
    alone_of_aloneIn h₂ (show ∀ w : World, w ∈ _ → w.now = 0 by decide),
    alone_of_aloneIn h₃ (show ∀ w : World, w ∈ _ → w.now = 0 by decide),
    huser₁, of_decide_eq_true hsecret₁, huser₂, henabled₂, huser₃, henabled₃, hsecret₃⟩

theorem registered_disabled (id : Uuid) (user : User) (huser : registered.user id = some user) :
    ¬ user.twoFactorEnabled := by
  have hall : Storage.All registered fun row v => match row, v with
    | .user _, v => ¬ v.twoFactorEnabled
    | _, _ => true := by decide
  exact of_decide_eq_true (Storage.all_iff.1 hall (.user id) user huser)

/-- A user enrols. -/
theorem enrolment_two_phase_once : ∃ tr db user secret, Run (Handles plainConfig) registered tr db ∧
    db.user "u" = some user ∧ user.twoFactorEnabled ∧ user.secret = some secret ∧
    LastConfirmed plainConfig tr "u" secret := by
  obtain ⟨db₁, db₂, -, r₁, r₂, -, -, user, -, h₁, h₂, -, -, -, huser, henabled, -⟩ :=
    exists_set_up_twice
  have hrun := (Run.nil.snoc h₁).snoc h₂
  have hchecks := (enrolment_two_phase plainConfig_sign registered_disabled hrun
    (fun e he => ?_) fun e he => ?_).1
  · obtain ⟨secret, hsecret, hlast⟩ := hchecks "u" user huser henabled
    exact ⟨_, db₂, user, secret, hrun, huser, henabled, hsecret, hlast⟩
  · simp only [List.nil_append, List.mem_append, List.mem_singleton] at he
    rcases he with rfl | rfl <;> trivial
  · simp only [List.nil_append, List.mem_append, List.mem_singleton] at he
    rcases he with rfl | rfl
    · rintro ⟨id, user', ⟨⟩, huser', henabled'⟩
      exact registered_disabled _ _ huser' henabled'
    · rintro ⟨id, user', ⟨⟩, -⟩

/-- A set-up that is not confirmed replaces the active secret. -/
theorem active_secret_overwritten : ¬ ∀ tr db, Run (Handles plainConfig) registered tr db →
    (∀ e ∈ tr, e.inp.request.IsEnrolment) →
    ChecksConfirmed plainConfig tr db ∧ ∀ e ∈ tr, ∀ id, e.inp.request = .initiate2faSetup id →
      ∀ now id' code, LogsIn plainConfig now e.post id' code ↔
        LogsIn plainConfig now e.pre id' code := by
  intro hclaim
  obtain ⟨db₁, db₂, db₃, r₁, r₂, r₃, user₁, -, user₃, h₁, h₂, h₃, huser₁, hsecret₁, -, -, huser₃,
    henabled₃, hsecret₃⟩ := exists_set_up_twice
  have hchecks := (hclaim _ _ (((Run.nil.snoc h₁).snoc h₂).snoc h₃) fun e he => ?_).1
  · obtain ⟨secret, hsecret, hlast⟩ := hchecks "u" user₃ huser₃ henabled₃
    obtain rfl := Option.some.inj (hsecret₃.symm.trans hsecret)
    -- the second secret has not been confirmed
    rcases lastConfirmed_snoc.1 hlast with ⟨_, _, _, ⟨⟩, -⟩ | ⟨hlast, -⟩
    rcases lastConfirmed_snoc.1 hlast with ⟨_, _, user, ⟨⟩, -, huser, hsecret', -⟩ | ⟨hlast, -⟩
    · cases huser₁.symm.trans huser
      exact absurd (hsecret₁.symm.trans hsecret') (by decide)
    · rcases lastConfirmed_snoc.1 hlast with ⟨_, _, _, ⟨⟩, -⟩ | ⟨hlast, -⟩
      exact not_since_nil hlast
  · simp only [List.nil_append, List.mem_append, List.mem_singleton] at he
    rcases he with (rfl | rfl) | rfl <;> trivial

end Auth
