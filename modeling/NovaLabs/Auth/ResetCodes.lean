/-
  Codes that reset a password.

  A code has four digits, and a reset finds the user by the code alone: where two users have the same
  code, it is the password of either that changes.  A reset clears the code to undefined, which is not
  saved: the code resets the password again.
-/
import NovaLabs.Auth.SecondFactor

namespace Auth

open Lib Process
open Backend (Uuid Time)

/-! ## Calls -/

/-- The e-mail that a reset code is asked for. -/
def Request.resetEmail : Request → Option String
  | .requestResetPasswordOtp email | .resendResetPasswordVerificationOtp email => some email
  | _ => none

/-- The requests for resets of passwords. -/
def Request.IsReset : Request → Prop
  | .requestResetPasswordOtp _ | .resendResetPasswordVerificationOtp _ | .verifyResetPasswordOtp _
  | .resetPassword _ => True
  | _ => False

/-- The user has the code, before it expires, and the new password is admitted. -/
structure CanReset (now : Time) (db : Database) (dto : ResetPasswordDto) (id : Uuid) (user : User) :
    Prop where
  stored : db.user id = some user
  code : user.passwordResetCode = some dto.otp
  unexpired : ∃ expiresAt, user.passwordResetCodeExpiresAt = some expiresAt ∧ now ≤ expiresAt
  valid : isValidPassword dto.newPassword
  confirmed : dto.newPassword = dto.confirmNewPassword

/-- The password of the user is changed, and nothing else of any user. -/
def ChangesPassword (db : Database) (id : Uuid) (db' : Database) : Prop :=
  ∃ user password, db.user id = some user ∧
    db'.user = Function.update db.user id (some { user with password })

/-! ## What has been issued -/

/-- The call sends the code to the user. -/
def IssuesCode (e : Handling) (id : Uuid) (otp : String) : Prop :=
  ∃ user response, e.post.user id = some user ∧ e.inp.request.resetEmail = some user.email ∧
    e.inp.result = .ok response ∧ user.passwordResetCode = some otp

/-- The call resets a password with the code. -/
def ResetsWith (e : Handling) (otp : String) : Prop :=
  ∃ dto response, e.inp.request = .resetPassword dto ∧ dto.otp = otp ∧ e.inp.result = .ok response

/-- The last code that the user has been sent is the given one, sent at the time. -/
def LastCode (tr : List Handling) (id : Uuid) (otp : String) (time : Time) : Prop :=
  Since (fun e => IssuesCode e id otp ∧ e.inp.now = time) (fun e => ∀ otp, ¬ IssuesCode e id otp) tr

/-- The last code that the user has been sent is the given one, it was sent less than ten minutes
    before, and no password has been reset with it since. -/
def Unused (tr : List Handling) (now : Time) (id : Uuid) (otp : String) : Prop :=
  Since (fun e => IssuesCode e id otp ∧ now ≤ e.inp.now + 600000)
    (fun e => (∀ otp, ¬ IssuesCode e id otp) ∧ ¬ ResetsWith e otp) tr

def UniqueEmails (db : Database) : Prop :=
  ∀ {id id' user user'}, db.user id = some user → db.user id' = some user' →
    user.email = user'.email → id = id'

structure NoCodes (db : Database) : Prop where
  emails : UniqueEmails db
  none : ∀ {id user}, db.user id = some user → user.passwordResetCode = none

/-- The stored codes are the last ones, with their expiry. -/
structure Codes (tr : List Handling) (db : Database) : Prop where
  emails : UniqueEmails db
  issued : ∀ {id user otp}, db.user id = some user → user.passwordResetCode = some otp →
    ∃ time, user.passwordResetCodeExpiresAt = some (time + 600000) ∧ LastCode tr id otp time
  stored : ∀ {id otp time}, LastCode tr id otp time → ∃ user, db.user id = some user ∧
    user.passwordResetCode = some otp ∧ user.passwordResetCodeExpiresAt = some (time + 600000)

section
variable {cfg : Config} {now : Time} {db db' : Database} {id : Uuid} {user : User}
  {r : Except HttpError Unit}

theorem sendResetCode_call {email : String} (h : Call cfg now db (sendResetCode email) r db') :
    ((∃ e, r = .error e) ∧ db'.user = db.user) ∨
    (r = .ok () ∧ ∃ id user otp, db.user id = some user ∧ user.email = email ∧
      db'.user = Function.update db.user id (some { user with
        passwordResetCode := some otp, passwordResetCodeExpiresAt := some (now + 600000) })) := by
  unfold sendResetCode at h
  rcases Alone.failIf h with ⟨-, rfl, rfl⟩ | ⟨-, h⟩
  · exact Or.inl ⟨⟨_, rfl⟩, rfl⟩
  rcases findUser_call h with ⟨rfl, rfl, -⟩ | ⟨id, user, huser, hselects, h⟩
  · exact Or.inl ⟨⟨_, rfl⟩, rfl⟩
  obtain ⟨drawn, h⟩ := generateVerificationCode_call h
  obtain ⟨db₁, hdb₁, h⟩ := saveUser_call huser (inTenMinutes_call h)
  obtain ⟨_, _, _, -, ⟨⟩, hend⟩ := Alone.query (f := fun _ => pure ()) h
  obtain ⟨rfl, rfl⟩ := hend.value
  exact Or.inr ⟨rfl, id, user, _, huser, of_decide_eq_true hselects, hdb₁⟩

theorem verifyResetPasswordOtp_call {dto : VerifyOtpDto}
    (h : Call cfg now db (verifyResetPasswordOtp dto) r db') :
    db'.user = db.user ∧ (r = .ok () → ∃ id user expiresAt, db.user id = some user ∧
      user.email = dto.email ∧ user.passwordResetCode = some dto.otp ∧
      user.passwordResetCodeExpiresAt = some expiresAt ∧ now ≤ expiresAt) := by
  unfold verifyResetPasswordOtp at h
  rcases Alone.failIf h with ⟨-, rfl, rfl⟩ | ⟨-, h⟩
  · exact ⟨rfl, nofun⟩
  rcases Alone.failIf h with ⟨-, rfl, rfl⟩ | ⟨-, h⟩
  · exact ⟨rfl, nofun⟩
  rcases findUser_call h with ⟨rfl, rfl, -⟩ | ⟨id, user, huser, hselects, h⟩
  · exact ⟨rfl, nofun⟩
  rcases Alone.failIf h with ⟨-, rfl, rfl⟩ | ⟨hcode, h⟩
  · exact ⟨rfl, nofun⟩
  rcases failIfExpired_call h with ⟨⟨e, rfl⟩, rfl⟩ | ⟨expiresAt, hexpiry, hintime, h⟩
  · exact ⟨rfl, nofun⟩
  rw [← bind_pure (saveUser _ _ _)] at h
  obtain ⟨db₁, hdb₁, h⟩ := saveUser_call huser h
  obtain ⟨rfl, rfl⟩ := h.value
  refine ⟨?_, fun _ => ⟨id, user, expiresAt, huser, of_decide_eq_true hselects, not_not.1 hcode,
    hexpiry, hintime⟩⟩
  rw [hdb₁]
  exact Function.update_eq_self_iff.2 huser.symm

theorem resetPassword_call {dto : ResetPasswordDto}
    (h : Call cfg now db (resetPassword dto) r db') :
    ((∃ e, r = .error e) ∧ db'.user = db.user) ∨
    (r = .ok () ∧ ∃ id user password, CanReset now db dto id user ∧
      db'.user = Function.update db.user id (some { user with password })) := by
  unfold resetPassword at h
  rcases findUser_call h with ⟨rfl, rfl, -⟩ | ⟨id, user, huser, hselects, h⟩
  · exact Or.inl ⟨⟨_, rfl⟩, rfl⟩
  rcases failIfExpired_call h with ⟨⟨e, rfl⟩, rfl⟩ | ⟨expiresAt, hexpiry, hintime, h⟩
  · exact Or.inl ⟨⟨_, rfl⟩, rfl⟩
  rcases Alone.failIf h with ⟨-, rfl, rfl⟩ | ⟨hvalid, h⟩
  · exact Or.inl ⟨⟨_, rfl⟩, rfl⟩
  rcases Alone.failIf h with ⟨-, rfl, rfl⟩ | ⟨hconfirmed, h⟩
  · exact Or.inl ⟨⟨_, rfl⟩, rfl⟩
  rcases checkPassword_call h with ⟨⟨e, rfl⟩, rfl⟩ | h
  · exact Or.inl ⟨⟨_, rfl⟩, rfl⟩
  obtain ⟨_, password, _, -, ⟨⟩, h⟩ := Alone.query h
  rw [← bind_pure (saveUser _ _ _)] at h
  obtain ⟨db₁, hdb₁, h⟩ := saveUser_call huser h
  obtain ⟨rfl, rfl⟩ := h.value
  exact Or.inr ⟨rfl, id, user, _, ⟨huser, of_decide_eq_true hselects, ⟨expiresAt, hexpiry, hintime⟩,
    not_not.1 hvalid, not_not.1 hconfirmed⟩, hdb₁⟩

namespace CanReset
variable {dto : ResetPasswordDto}

/-- The code is accepted, where it finds the user and the password has not leaked. -/
theorem resets (h : CanReset now db dto id user) (cfg : Config) : ∃ db', Handles cfg db
    ⟨now, .resetPassword dto, .ok (.message UserMessages.passwordsResetSuccessful)⟩ db' := by
  obtain ⟨hstored, hcode, ⟨expiresAt, hexpiry, hintime⟩, hvalid, hconfirmed⟩ := h
  let held : User := { user with
    password := cfg.bcrypt "" dto.newPassword, passwordResetCode := none
    passwordResetCodeExpiresAt := none }
  obtain ⟨r, db', hsave⟩ := exists_call cfg now db (do
    saveUser id held { passwordResetCode := true, passwordResetCodeExpiresAt := true }
    return Response.message UserMessages.passwordsResetSuccessful)
  have hok : r = .ok (.message UserMessages.passwordsResetSuccessful) := by
    obtain ⟨_, -, hend⟩ := saveUser_call hstored hsave
    exact hend.value.1
  subst hok
  obtain ⟨⟨⟩, _, hsave, hend⟩ := hsave.seq_ok
  have hfind : exec cfg { now, row := some id } db (.findUser (.byResetCode dto.otp)) =
      some (some (id, user), db) := by
    simp [exec, Database.findUser, UserWhere.selects, hstored, hcode]
  refine ⟨db', Alone.then_ok (a := ()) (Alone.of_query rfl hfind ?_) hend⟩
  change Alone _ _ _ (failIfExpired user.passwordResetCodeExpiresAt >>= _) _ _
  rw [hexpiry]
  refine Alone.of_query (w := { now }) rfl rfl (Alone.of_failIf (not_lt.2 hintime) ?_)
  refine Alone.of_failIf (not_not.2 hvalid) (Alone.of_failIf (not_not.2 hconfirmed) ?_)
  refine Alone.of_query (w := { now }) rfl rfl ?_
  exact Alone.of_query (w := { now }) rfl rfl hsave

/-- A reset leaves the code as it is. -/
theorem again (h : CanReset now db dto id user) {response : Response}
    (hreset : Handles cfg db ⟨now, .resetPassword dto, .ok response⟩ db') :
    ∃ user', CanReset now db' dto id user' := by
  obtain ⟨r, hcall, -⟩ := hreset.map
  rcases resetPassword_call hcall with ⟨-, hsame⟩ | ⟨-, id', user', password, hcan, hpost⟩
  · exact ⟨user, { h with stored := (congrFun hsame id).trans h.stored }⟩
  by_cases hid : id = id'
  · subst hid
    cases h.stored.symm.trans hcan.stored
    refine ⟨{ user with password }, { h with stored := ?_ }⟩
    rw [hpost, Function.update_self]
  · refine ⟨user, { h with stored := ?_ }⟩
    rw [hpost, Function.update_of_ne hid, h.stored]

end CanReset

theorem lastCode_snoc {tr : List Handling} {e : Handling} {otp : String} {time : Time} :
    LastCode (tr ++ [e]) id otp time ↔ (IssuesCode e id otp ∧ e.inp.now = time) ∨
      (LastCode tr id otp time ∧ ∀ otp, ¬ IssuesCode e id otp) := since_snoc

theorem NoCodes.codes (h : NoCodes db) : Codes [] db where
  emails := h.emails
  issued huser hcode := nomatch (h.none huser).symm.trans hcode
  stored h := absurd h not_since_nil

/-- What is stored of a code. -/
def User.resetCode (user : User) : String × Option String × Option Time :=
  (user.email, user.passwordResetCode, user.passwordResetCodeExpiresAt)

namespace Codes
variable {tr : List Handling} {e : Handling}

/-- A call that sends no code. -/
theorem keep (h : Codes tr e.pre) (hnone : ∀ id otp, ¬ IssuesCode e id otp)
    (hsame : ∀ id, (e.post.user id).map User.resetCode = (e.pre.user id).map User.resetCode) :
    Codes (tr ++ [e]) e.post := by
  have hpost {id user} (huser : e.post.user id = some user) :
      ∃ old, e.pre.user id = some old ∧ old.resetCode = user.resetCode :=
    Option.map_eq_some_iff.1 ((hsame id).symm.trans (congrArg _ huser))
  have hpre {id user} (huser : e.pre.user id = some user) :
      ∃ new, e.post.user id = some new ∧ new.resetCode = user.resetCode :=
    Option.map_eq_some_iff.1 ((hsame id).trans (congrArg _ huser))
  refine ⟨fun huser huser' hemail => ?_, fun {id user otp} huser hcode => ?_,
    fun {id otp time} hlast => ?_⟩
  · obtain ⟨old, hold, heq⟩ := hpost huser
    obtain ⟨old', hold', heq'⟩ := hpost huser'
    exact h.emails hold hold' ((congrArg Prod.fst heq).trans (hemail.trans
      (congrArg Prod.fst heq').symm))
  · obtain ⟨old, hold, heq⟩ := hpost huser
    simp only [User.resetCode, Prod.mk.injEq] at heq
    obtain ⟨time, hexpiry, hlast⟩ := h.issued hold (heq.2.1.trans hcode)
    exact ⟨time, heq.2.2.symm.trans hexpiry, lastCode_snoc.2 (Or.inr ⟨hlast, hnone id⟩)⟩
  · obtain ⟨hissues, -⟩ | ⟨hlast, -⟩ := lastCode_snoc.1 hlast
    · exact absurd hissues (hnone id otp)
    obtain ⟨user, huser, hcode, hexpiry⟩ := h.stored hlast
    obtain ⟨new, hnew, heq⟩ := hpre huser
    simp only [User.resetCode, Prod.mk.injEq] at heq
    exact ⟨new, hnew, heq.2.1.trans hcode, heq.2.2.trans hexpiry⟩

/-- A call that sends a code to a user. -/
theorem issue {otp : String} {response : Response} (h : Codes tr e.pre)
    (huser : e.pre.user id = some user) (hemail : e.inp.request.resetEmail = some user.email)
    (hresult : e.inp.result = .ok response)
    (hpost : e.post.user = Function.update e.pre.user id (some { user with
      passwordResetCode := some otp, passwordResetCodeExpiresAt := some (e.inp.now + 600000) })) :
    Codes (tr ++ [e]) e.post := by
  have hself := congrFun hpost id
  rw [Function.update_self] at hself
  have hother {id'} (hid : id' ≠ id) : e.post.user id' = e.pre.user id' := by
    rw [hpost, Function.update_of_ne hid]
  -- the e-mail tells the user apart
  have hold {id' user'} (huser' : e.post.user id' = some user') :
      ∃ old, e.pre.user id' = some old ∧ old.email = user'.email := by
    by_cases hid : id' = id
    · subst hid
      cases hself.symm.trans huser'
      exact ⟨user, huser, rfl⟩
    · exact ⟨user', (hother hid).symm.trans huser', rfl⟩
  have hissues : IssuesCode e id otp := ⟨_, response, hself, hemail, hresult, rfl⟩
  have honly {id' otp'} (h' : IssuesCode e id' otp') : id' = id := by
    obtain ⟨user', -, huser', hemail', -⟩ := h'
    obtain ⟨old, hold, heq⟩ := hold huser'
    exact h.emails hold huser (heq.trans (Option.some.inj (hemail'.symm.trans hemail)))
  refine ⟨fun huser₁ huser₂ heq => ?_, fun {id' user' otp'} huser' hcode => ?_,
    fun {id' otp' time} hlast => ?_⟩
  · obtain ⟨old₁, hold₁, heq₁⟩ := hold huser₁
    obtain ⟨old₂, hold₂, heq₂⟩ := hold huser₂
    exact h.emails hold₁ hold₂ (heq₁.trans (heq.trans heq₂.symm))
  · by_cases hid : id' = id
    · subst hid
      cases hself.symm.trans huser'
      cases hcode
      exact ⟨e.inp.now, rfl, lastCode_snoc.2 (Or.inl ⟨hissues, rfl⟩)⟩
    · obtain ⟨time, hexpiry, hlast⟩ := h.issued ((hother hid).symm.trans huser') hcode
      exact ⟨time, hexpiry, lastCode_snoc.2 (Or.inr ⟨hlast, fun _ h' => hid (honly h')⟩)⟩
  · obtain ⟨hissues', rfl⟩ | ⟨hlast, hnone⟩ := lastCode_snoc.1 hlast
    · obtain rfl := honly hissues'
      obtain ⟨user', -, huser', -, -, hcode'⟩ := hissues'
      cases hself.symm.trans huser'
      cases hcode'
      exact ⟨_, hself, rfl, rfl⟩
    · have hid : id' ≠ id := by
        rintro rfl
        exact hnone otp hissues
      obtain ⟨user', huser', hcode, hexpiry⟩ := h.stored hlast
      exact ⟨user', (hother hid).trans huser', hcode, hexpiry⟩

theorem step (h : Codes tr e.pre) (hstep : Handles cfg e.pre e.inp e.post)
    (hreset : e.inp.request.IsReset) : Codes (tr ++ [e]) e.post := by
  obtain ⟨db, ⟨now, request, result⟩, db'⟩ := e
  change Call cfg now db (request.program cfg) result db' at hstep
  cases request with
  | requestResetPasswordOtp email | resendResetPasswordVerificationOtp email =>
    obtain ⟨r, hcall, rfl⟩ := hstep.map
    rcases sendResetCode_call hcall with ⟨⟨e, rfl⟩, hsame⟩ | ⟨rfl, id, user, otp, huser, rfl, hpost⟩
    · exact h.keep (fun _ _ ⟨_, _, _, _, hok, _⟩ => nomatch hok) fun id =>
        congrArg _ (congrFun hsame id)
    · exact h.issue huser rfl rfl hpost
  | verifyResetPasswordOtp dto =>
    obtain ⟨r, hcall, rfl⟩ := hstep.map
    exact h.keep (fun _ _ ⟨_, _, _, hemail, _⟩ => nomatch hemail) fun id =>
      congrArg _ (congrFun (verifyResetPasswordOtp_call hcall).1 id)
  | resetPassword dto =>
    obtain ⟨r, hcall, rfl⟩ := hstep.map
    refine h.keep (fun _ _ ⟨_, _, _, hemail, _⟩ => nomatch hemail) fun id => ?_
    rcases resetPassword_call hcall with ⟨-, hsame⟩ | ⟨-, id', user, password, hcan, hpost⟩
    · exact congrArg _ (congrFun hsame id)
    · dsimp only
      rw [hpost, Function.update_apply]
      split_ifs with hid
      · rw [hid, hcan.stored]
        rfl
      · rfl
  | _ => exact hreset.elim

end Codes

theorem codes {tr : List Handling} {db₀ : Database} (hdb₀ : NoCodes db₀)
    (h : Run (Handles cfg) db₀ tr db) (hreset : ∀ e ∈ tr, e.inp.request.IsReset) : Codes tr db := by
  induction h with
  | nil => exact hdb₀.codes
  | @snoc tr s i s' _ hs ih =>
    exact (ih fun e he => hreset e (by simp [he])).step (e := ⟨s, i, s'⟩) hs (hreset _ (by simp))

/-! ## Resets -/

/-- Only one user can reset a password with the code, and nobody has since it was sent to the user. -/
def PresentsUnused (tr : List Handling) (e : Handling) : Prop :=
  ∀ dto id user, e.inp.request = .resetPassword dto → CanReset e.inp.now e.pre dto id user →
    (∀ id' user', CanReset e.inp.now e.pre dto id' user' → id' = id) ∧
    Since (fun e => IssuesCode e id dto.otp) (fun e => ¬ ResetsWith e dto.otp) tr

/-- The reset comes from an unused code of the user whose password it changes, and from that of no
    other user. -/
def ResetsOwn (tr : List Handling) (e : Handling) (otp : String) : Prop :=
  ∃ id, ChangesPassword e.pre id e.post ∧ Unused tr e.inp.now id otp ∧
    ∀ id' time, LastCode tr id' otp time → e.inp.now ≤ time + 600000 → id' = id

/-- The code is the last one of the user with the e-mail, and was sent less than ten minutes
    before. -/
def VerifiesOwn (tr : List Handling) (e : Handling) (dto : VerifyOtpDto) : Prop :=
  ∃ id user time, e.pre.user id = some user ∧ user.email = dto.email ∧ LastCode tr id dto.otp time ∧
    e.inp.now ≤ time + 600000

/-- **While each reset presents an unused code that one user has, each code resets one password, that
    of its user, in time; and no older code is ever accepted.** -/
theorem reset_codes_single_use {tr : List Handling} {db₀ : Database} (hdb₀ : NoCodes db₀)
    (h : Run (Handles cfg) db₀ tr db) (hreset : ∀ e ∈ tr, e.inp.request.IsReset)
    (hunused : Along PresentsUnused tr) :
    Along (fun tr e => ∀ response, e.inp.result = .ok response →
      (∀ dto, e.inp.request = .resetPassword dto → ResetsOwn tr e dto.otp) ∧
      ∀ dto, e.inp.request = .verifyResetPasswordOtp dto → VerifiesOwn tr e dto) tr := by
  rintro tr₁ ⟨db₁, ⟨now, request, result⟩, db₂⟩ tr₂ rfl response hresult
  have hcodes := codes hdb₀ h.split.1 fun e he => hreset e (by simp [he])
  have hstep := h.split.2.1
  dsimp only at hcodes hstep hresult
  subst hresult
  change Call cfg now db₁ (request.program cfg) (.ok response) db₂ at hstep
  constructor
  · rintro dto rfl
    obtain ⟨r, hcall, hr⟩ := hstep.map
    rcases resetPassword_call hcall with ⟨⟨e, rfl⟩, -⟩ | ⟨-, id, user, password, hcan, hpost⟩
    · cases hr
    obtain ⟨honly, hsince⟩ := hunused tr₁ _ tr₂ rfl dto id user rfl hcan
    obtain ⟨expiresAt, hexpiry, hintime⟩ := hcan.unexpired
    obtain ⟨time, hexpiry', hlast⟩ := hcodes.issued hcan.stored hcan.code
    cases hexpiry.symm.trans hexpiry'
    refine ⟨id, ⟨user, password, hcan.stored, hpost⟩, ?_, fun id' time' hlast' hintime' => ?_⟩
    · refine (hlast.inter hsince fun e hnone => hnone _).mono (fun e he => ?_) fun e he => he
      exact ⟨he.1, he.2 ▸ hintime⟩
    · obtain ⟨user', huser', hcode', hexpiry'⟩ := hcodes.stored hlast'
      exact honly id' user' ⟨huser', hcode', ⟨_, hexpiry', hintime'⟩, hcan.valid, hcan.confirmed⟩
  · rintro dto rfl
    obtain ⟨r, hcall, hr⟩ := hstep.map
    cases r with
    | error => cases hr
    | ok =>
      obtain ⟨id, user, expiresAt, huser, hemail, hcode, hexpiry, hintime⟩ :=
        (verifyResetPasswordOtp_call hcall).2 rfl
      obtain ⟨time, hexpiry', hlast⟩ := hcodes.issued huser hcode
      cases hexpiry.symm.trans hexpiry'
      exact ⟨id, user, time, huser, hemail, hlast, hintime⟩

end

/-! ### Examples -/

theorem noCodes_registered : NoCodes registered := by
  have hall : Storage.All registered fun row v => match row, v with
    | .user id, v => id = "u" ∧ v.passwordResetCode = none
    | _, _ => true := by decide
  have hone {id user} (huser : registered.user id = some user) :
      id = "u" ∧ user.passwordResetCode = none :=
    of_decide_eq_true (Storage.all_iff.1 hall (.user id) user huser)
  exact ⟨fun huser huser' _ => (hone huser).1.trans (hone huser').1.symm, fun huser => (hone huser).2⟩

/-- A code has been sent to the user, and it resets the password. -/
theorem exists_sent : ∃ db response,
    Handles plainConfig registered ⟨0, .requestResetPasswordOtp "e", .ok response⟩ db ∧
      IssuesCode ⟨registered, ⟨0, .requestResetPasswordOtp "e", .ok response⟩, db⟩ "u" "1000" ∧
      (∀ now id user, CanReset now db ⟨"1000", "Passw0rd", "Passw0rd"⟩ id user → id = "u") ∧
      ∀ now, now ≤ 600000 → ∃ user, CanReset now db ⟨"1000", "Passw0rd", "Passw0rd"⟩ "u" user := by
  have hplay : (aloneIn (exec plainConfig)
      ((Request.requestResetPasswordOtp "e").program plainConfig)
      [{ row := some "u" }, {}, {}, {}, {}, {}] registered).any fun x =>
      x.1.toOption.isSome ∧
      ((x.2.user "u").any fun user => user.email = "e" ∧ user.passwordResetCode = some "1000" ∧
        user.passwordResetCodeExpiresAt = some 600000) ∧
      Storage.All x.2 fun row _ => match row with
        | .user id => id = "u"
        | _ => true := by decide +kernel
  obtain ⟨⟨result, db⟩, hsend, hfacts⟩ := (Option.any_eq_true _ _).1 hplay
  obtain ⟨hok, huser, hall⟩ := of_decide_eq_true hfacts
  cases result with
  | error => cases hok
  | ok response =>
  obtain ⟨user, huser, hcode⟩ := (Option.any_eq_true _ _).1 huser
  obtain ⟨hemail, hcode, hexpiry⟩ := of_decide_eq_true hcode
  refine ⟨db, response, alone_of_aloneIn hsend (show ∀ w : World, w ∈ _ → w.now = 0 by decide),
    ⟨user, response, huser, congrArg some hemail.symm, rfl, hcode⟩, fun now id user hcan => ?_,
    fun now hnow => ⟨user, huser, hcode, ⟨_, hexpiry, hnow⟩, ?_, rfl⟩⟩
  · exact of_decide_eq_true (Storage.all_iff.1 hall (.user id) user hcan.stored)
  · simp [isValidPassword, jsLength, String.any]

/-- A user resets the password ten minutes after the code was sent. -/
theorem reset_codes_single_use_once : ∃ tr e db, Run (Handles plainConfig) registered (tr ++ [e]) db ∧
    (∃ response, e.inp.result = .ok response) ∧ ResetsOwn tr e "1000" := by
  obtain ⟨db, response, hsends, hissues, hone, hcan⟩ := exists_sent
  obtain ⟨user, hcan⟩ := hcan 600000 le_rfl
  obtain ⟨db', hresets⟩ := hcan.resets plainConfig
  have hrun := (Run.nil.snoc hsends).snoc hresets
  refine ⟨_, _, _, hrun, ⟨_, rfl⟩, ?_⟩
  refine (reset_codes_single_use noCodes_registered hrun (fun e he => ?_) ?_ _ _ [] rfl _ rfl).1 _ rfl
  · simp only [List.nil_append, List.mem_append, List.mem_singleton] at he
    rcases he with rfl | rfl <;> trivial
  · refine along_snoc.2 ⟨along_snoc.2 ⟨along_nil _, fun _ _ _ h => nomatch h⟩, ?_⟩
    rintro _ id user' ⟨⟩ hcan
    obtain rfl := hone _ _ _ hcan
    exact ⟨fun id' _ hcan' => hone _ _ _ hcan', since_snoc.2 (Or.inl hissues)⟩

theorem not_unused {tr : List Handling} {e : Handling} {now : Time} {id : Uuid} {otp : String}
    (h : ResetsWith e otp) : ¬ Unused (tr ++ [e]) now id otp := by
  intro hunused
  have ⟨dto, response, hrequest, _⟩ := h
  rcases since_snoc.1 hunused with ⟨⟨_, _, -, hemail, -⟩, -⟩ | ⟨-, -, hnot⟩
  · rw [hrequest] at hemail
    cases hemail
  · exact hnot h

/-- A code resets the password twice. -/
theorem reset_code_used_again : ¬ ∀ tr db, Run (Handles plainConfig) registered tr db →
    (∀ e ∈ tr, e.inp.request.IsReset) →
    Along (fun tr e => ∀ response, e.inp.result = .ok response →
      (∀ dto, e.inp.request = .resetPassword dto → ResetsOwn tr e dto.otp) ∧
      ∀ dto, e.inp.request = .verifyResetPasswordOtp dto → VerifiesOwn tr e dto) tr := by
  intro hclaim
  obtain ⟨db, response, hsends, -, -, hcan⟩ := exists_sent
  obtain ⟨user, hcan⟩ := hcan 0 (by decide)
  obtain ⟨db', hresets⟩ := hcan.resets plainConfig
  obtain ⟨user', hcan'⟩ := hcan.again hresets
  obtain ⟨db'', hresets'⟩ := hcan'.resets plainConfig
  have hown := (hclaim _ _ (((Run.nil.snoc hsends).snoc hresets).snoc hresets') (fun e he => ?_)
    _ _ [] rfl _ rfl).1 _ rfl
  · obtain ⟨id, -, hunused, -⟩ := hown
    exact not_unused ⟨_, _, rfl, rfl, rfl⟩ hunused
  · simp only [List.nil_append, List.mem_append, List.mem_singleton] at he
    rcases he with (rfl | rfl) | rfl <;> trivial

end Auth
