/-
  The second factor of logins.

  A login of a user with two-factor authentication returns a temporary token, and the second factor
  turns this into a session.  The code that verifies an e-mail address opens a session as well, and
  nothing asks for the second factor there.
-/
import NovaLabs.Auth.LoginSessions

namespace Auth

open Lib Process
open Backend (Uuid Time)

/-! ## Tokens -/

/-- What is signed in the response. -/
def Response.tokens : Response → List String
  | .registered user => [user.accessToken]
  | .login (.requiresTwoFactor tempToken) => [tempToken]
  | .login (.loggedIn _ tokens) | .verified _ tokens | .refreshed tokens | .minted tokens
  | .totpLogin _ tokens | .passkeyLogin _ tokens => [tokens.accessToken, tokens.refreshToken]
  | .backupLogin result => [result.tokens.accessToken, result.tokens.refreshToken]
  | .login .unverified | .message _ | .secret _ | .backupCodes _ | .challenge _ => []

def Request.tempToken : Request → Option String
  | .verifyTotpLogin dto => some dto.tempToken
  | .verifyBackupCode dto => some dto.tempToken
  | _ => none

/-- The first tokens of a session, and the user that they are for. -/
def Response.opens : Response → Option (Uuid × Tokens)
  | .verified id tokens | .login (.loggedIn id tokens) | .totpLogin id tokens => some (id, tokens)
  | .backupLogin result => some (result.id, result.tokens)
  | _ => none

/-- A temporary token with a valid signature has been handed out before. -/
def Unforged (cfg : Config) (tr : List Handling) : Prop :=
  Along (fun tr e => ∀ token, e.inp.request.tempToken = some token →
    (cfg.decode .access token).isSome →
    ∃ e' ∈ tr, ∃ response, e'.inp.result = .ok response ∧ token ∈ response.tokens) tr

theorem Unforged.of_none {cfg : Config} {tr : List Handling}
    (h : ∀ e ∈ tr, e.inp.request.tempToken = none) : Unforged cfg tr := by
  rintro tr₁ e tr₂ rfl token htoken
  cases (h e (by simp)).symm.trans htoken

/-- The token is for a session: it has no type. -/
def IsSession (cfg : Config) (now : Time) (token : String) : Prop :=
  ∃ secret payload expiresIn, payload.type = none ∧ token = signAt cfg secret payload expiresIn now

/-! ## Factors -/

/-- The user that has the e-mail and the password. -/
structure HasPassword (cfg : Config) (db : Database) (dto : LoginUserDto) (id : Uuid) (user : User) :
    Prop where
  stored : db.user id = some user
  email : user.email = dto.email
  password : cfg.compare dto.password user.password

/-- A login has returned the temporary token, after it has checked the password of the user. -/
def IssuesTemp (cfg : Config) (id : Uuid) (token : String) (e : Handling) : Prop :=
  ∃ dto user, e.inp.request = .login dto ∧ HasPassword cfg e.pre dto id user ∧
    e.inp.result = .ok (.login (.requiresTwoFactor token))

/-- The request carries a valid TOTP code, or a backup code that is stored, and is removed. -/
def GivesFactor (cfg : Config) (id : Uuid) (user : User) (e : Handling) : Prop :=
  match e.inp.request with
  | .verifyTotpLogin dto =>
    ∃ secret, user.totpSecret = some secret ∧ cfg.verifyTotp dto.token secret e.inp.now
  | .verifyBackupCode dto =>
    ∃ before hash after, user.totpBackupCodes = some (before ++ hash :: after) ∧
      cfg.compare dto.backupCode hash ∧
      (e.post.user id).map (·.totpBackupCodes) = some (some (before ++ after))
  | _ => False

/-- The code is the one that was sent to the user, and has not expired. -/
structure HasCode (now : Time) (db : Database) (dto : VerifyOtpDto) (id : Uuid) (user : User) :
    Prop where
  stored : db.user id = some user
  given : dto.email ≠ "" ∧ dto.otp ≠ ""
  email : user.email = dto.email
  code : user.verificationCode = some dto.otp
  unexpired : ∃ expiresAt, user.verificationCodeExpiresAt = some expiresAt ∧ now ≤ expiresAt

/-- A user with two-factor authentication verifies an e-mail address. -/
def VerifiesEnrolled (e : Handling) : Prop :=
  ∃ dto id user, e.inp.request = .verifyOtp dto ∧ HasCode e.inp.now e.pre dto id user ∧
    user.twoFactorEnabled

section
variable {cfg : Config} {now : Time} {db db' : Database} {id : Uuid} {user : User} {token : String}
  {tokens : Tokens}

/-! ## What the requests that sign tokens do -/

theorem isSession_of_mem (h : token ∈ [(tokensAt cfg now id user).accessToken,
    (tokensAt cfg now id user).refreshToken]) : IsSession cfg now token := by
  rcases List.mem_cons.1 h with rfl | h
  · exact ⟨_, _, _, rfl, rfl⟩
  · exact ⟨_, _, _, rfl, List.mem_singleton.1 h⟩

theorem createUser_ok {dto : CreateUserDto} {registered : RegisteredUser}
    (h : Call cfg now db (createUser cfg dto) (.ok registered) db') :
    IsSession cfg now registered.accessToken := by
  unfold createUser at h
  obtain ⟨_, _, -, h⟩ := h.seq_ok
  obtain ⟨_, _, -, h⟩ := h.seq_ok
  obtain ⟨_, _, -, h⟩ := h.seq_ok
  obtain ⟨_, _, -, h⟩ := h.seq_ok
  obtain ⟨_, _, -, h⟩ := h.seq_ok
  obtain ⟨_, _, -, h⟩ := h.seq_ok
  obtain ⟨_, _, -, h⟩ := h.seq_ok
  obtain ⟨_, _, -, h⟩ := h.seq_ok
  obtain ⟨_, _, -, h⟩ := h.seq_ok
  obtain ⟨_, _, -, h⟩ := h.seq_ok
  obtain ⟨w, _, _, rfl, ⟨⟩, h⟩ := Alone.query h
  cases h.value.1
  exact ⟨_, _, _, rfl, rfl⟩

theorem createAdminUser_ok {dto : CreateUserDto} {registered : RegisteredUser}
    (h : Call cfg now db (createAdminUser cfg dto) (.ok registered) db') :
    IsSession cfg now registered.accessToken := by
  unfold createAdminUser at h
  obtain ⟨_, _, -, h⟩ := h.seq_ok
  obtain ⟨_, _, -, h⟩ := h.seq_ok
  obtain ⟨_, _, -, h⟩ := h.seq_ok
  obtain ⟨_, _, -, h⟩ := h.seq_ok
  obtain ⟨_, _, -, h⟩ := h.seq_ok
  obtain ⟨_, _, -, h⟩ := h.seq_ok
  obtain ⟨_, _, -, h⟩ := h.seq_ok
  obtain ⟨w, _, _, rfl, ⟨⟩, h⟩ := Alone.query h
  cases h.value.1
  exact ⟨_, _, _, rfl, rfl⟩

theorem verifyOtp_ok {dto : VerifyOtpDto}
    (h : Call cfg now db (verifyOtp cfg dto) (.ok (id, tokens)) db') :
    ∃ user, HasCode now db dto id user ∧ tokens = tokensAt cfg now id user := by
  unfold verifyOtp at h
  rcases Alone.failIf h with ⟨-, ⟨⟩, -⟩ | ⟨hemail, h⟩
  rcases Alone.failIf h with ⟨-, ⟨⟩, -⟩ | ⟨hotp, h⟩
  rcases findUser_call h with ⟨⟨⟩, -⟩ | ⟨id', user, huser, hselects, h⟩
  rcases Alone.failIf h with ⟨-, ⟨⟩, -⟩ | ⟨hcode, h⟩
  rcases failIfExpired_call h with ⟨⟨_, ⟨⟩⟩, -⟩ | ⟨expiresAt, hexpiry, hintime, h⟩
  obtain ⟨db₁, -, h⟩ := saveUser_call huser h
  rcases startSession_call h with ⟨⟨_, ⟨⟩⟩, -⟩ | ⟨db₂, -, h⟩
  cases h.value.1
  exact ⟨user, ⟨huser, ⟨hemail, hotp⟩, of_decide_eq_true hselects, not_not.1 hcode,
    expiresAt, hexpiry, hintime⟩, rfl⟩

theorem login_ok {dto : LoginUserDto} {result : LoginResult}
    (h : Call cfg now db (login cfg dto) (.ok result) db') :
    ∃ id user, HasPassword cfg db dto id user ∧ (result = .unverified ∨
      (user.isVerified ∧ user.twoFactorEnabled ∧ db' = db ∧
        result = .requiresTwoFactor (signAt cfg .access (tempPayload id) 300 now)) ∨
      (¬ user.twoFactorEnabled ∧ result = .loggedIn id (tokensAt cfg now id user))) := by
  unfold login at h
  obtain ⟨w, found, _, -, hfind, h⟩ := Alone.query h
  rcases Alone.okOr h with ⟨-, ⟨⟩, -⟩ | ⟨⟨id, user⟩, hfound, hrest⟩
  obtain ⟨rfl, hpassword⟩ := Option.filter_eq_some_iff.1 hfound
  obtain ⟨rfl, huser, hselects⟩ := findUser_some hfind
  refine ⟨id, user, ⟨huser, of_decide_eq_true hselects, hpassword⟩, ?_⟩
  dsimp only at hrest
  split_ifs at hrest with hverified henabled
  · obtain ⟨w, _, _, rfl, ⟨⟩, hend⟩ := Alone.query hrest
    obtain ⟨heq, rfl⟩ := hend.value
    cases heq
    exact Or.inr (Or.inl ⟨hverified, henabled, rfl, rfl⟩)
  · rcases startSession_call hrest with ⟨⟨_, ⟨⟩⟩, -⟩ | ⟨_, -, hend⟩
    cases hend.value.1
    exact Or.inr (Or.inr ⟨henabled, rfl⟩)
  · obtain ⟨_, _, -, hend⟩ := hrest.seq_ok
    cases hend.value.1
    exact Or.inl rfl

theorem refreshToken_ok (h : Call cfg now db (refreshToken cfg token) (.ok tokens) db') :
    ∃ id user, tokens = tokensAt cfg now id user := by
  unfold refreshToken at h
  obtain ⟨_, _, -, h⟩ := h.seq_ok
  obtain ⟨_, _, -, h⟩ := h.seq_ok
  obtain ⟨⟨id, user⟩, _, -, h⟩ := h.seq_ok
  obtain ⟨_, _, -, h⟩ := h.seq_ok
  obtain ⟨⟨_, stored⟩, _, -, h⟩ := h.seq_ok
  have hend {db : Database} {familyId : String} {version : ℕ}
      (h : Call cfg now db (do
        let tokens ← generateTokens cfg id user
        let _ ← createRefreshToken cfg id tokens.refreshToken familyId version
        return tokens) (.ok tokens) db') : tokens = tokensAt cfg now id user := by
    obtain ⟨_, _, -, h⟩ := (generateTokens_call h).seq_ok
    exact Except.ok.inj h.value.1
  dsimp only at h
  split_ifs at h
  · obtain ⟨_, _, -, h⟩ := h.seq_ok
    obtain ⟨_, _, -, h⟩ := h.seq_ok
    obtain ⟨_, _, -, h⟩ := h.seq_ok
    cases h.error.1
  split at h
  · obtain ⟨_, _, -, h⟩ := h.seq_ok
    obtain ⟨_, _, -, h⟩ := h.seq_ok
    obtain ⟨_, _, -, h⟩ := h.seq_ok
    exact ⟨id, user, hend h⟩
  · obtain ⟨_, _, -, h⟩ := h.seq_ok
    exact ⟨id, user, hend h⟩

theorem verifyTotpLogin_ok {dto : VerifyTotpDto}
    (h : Call cfg now db (verifyTotpLogin cfg dto) (.ok (id, tokens)) db') :
    ∃ claims user secret, verifyAt cfg .access dto.tempToken now = some claims ∧
      claims.type = some "2fa_pending" ∧ id = claims.sub ∧ db.user id = some user ∧
      user.secret = some secret ∧ cfg.verifyTotp dto.token secret now ∧
      tokens = tokensAt cfg now id user := by
  unfold verifyTotpLogin at h
  rcases verifyTempToken_call h with ⟨⟨_, ⟨⟩⟩, -⟩ | ⟨claims, hclaims, htype, h⟩
  rcases findUser_call h with ⟨⟨⟩, -⟩ | ⟨id', user, huser, hselects, h⟩
  rcases Alone.okOr h with ⟨-, ⟨⟩, -⟩ | ⟨secret, hsecret, h⟩
  obtain ⟨w, valid, _, rfl, ⟨⟩, h⟩ := Alone.query h
  rcases Alone.failIf h with ⟨-, ⟨⟩, -⟩ | ⟨hvalid, h⟩
  cases (generateTokens_call h).value.1
  exact ⟨claims, user, secret, hclaims, htype, of_decide_eq_true hselects, huser, hsecret,
    Bool.eq_true_of_not_eq_false hvalid, rfl⟩

theorem verifyBackupCode_ok {dto : UseBackupCodeDto} {result : BackupLogin}
    (h : Call cfg now db (verifyBackupCode cfg dto) (.ok result) db') :
    ∃ claims user before hash after, cfg.decode .access dto.tempToken = some claims ∧
      claims.type = some "2fa_pending" ∧ result.id = claims.sub ∧ db.user result.id = some user ∧
      user.totpBackupCodes = some (before ++ hash :: after) ∧ cfg.compare dto.backupCode hash ∧
      db'.user result.id = some { user with totpBackupCodes := some (before ++ after) } ∧
      IsSession cfg now result.tokens.accessToken ∧ IsSession cfg now result.tokens.refreshToken := by
  unfold verifyBackupCode at h
  rcases verifyTempToken_call h with ⟨⟨_, ⟨⟩⟩, -⟩ | ⟨claims, hclaims, htype, h⟩
  rcases findUser_call h with ⟨⟨⟩, -⟩ | ⟨id', user, huser, hselects, h⟩
  rcases Alone.okOr h with ⟨-, ⟨⟩, -⟩ | ⟨codes, hcodes, h⟩
  rcases Alone.okOr h with ⟨-, ⟨⟩, -⟩ | ⟨index, hindex, h⟩
  obtain ⟨db₁, hdb₁, h⟩ := saveUser_call huser h
  obtain ⟨heq, rfl⟩ := (generateTokens_call h).value
  cases heq
  obtain ⟨hlt, hmatch, -⟩ := List.findIdx?_eq_some_iff_getElem.1 hindex
  refine ⟨claims, user, codes.take index, codes[index], codes.drop (index + 1),
    (Option.filter_eq_some_iff.1 hclaims).1, htype, of_decide_eq_true hselects, huser, ?_, hmatch,
    ?_, ⟨_, _, _, rfl, rfl⟩, ⟨_, _, _, rfl, rfl⟩⟩
  · rw [List.cons_getElem_drop_succ, List.take_append_drop]
    exact (Option.filter_eq_some_iff.1 hcodes).1
  · rw [hdb₁, Function.update_self, ← List.eraseIdx_eq_take_drop_succ]
    rfl

theorem verifyAssertionResponse_ok {email responseId : String}
    (h : Call cfg now db (verifyAssertionResponse cfg email responseId) (.ok (id, tokens)) db') :
    ∃ user, tokens = tokensAt cfg now id user := by
  unfold verifyAssertionResponse at h
  obtain ⟨_, _, -, h⟩ := h.seq_ok
  obtain ⟨_, _, -, h⟩ := h.seq_ok
  obtain ⟨_, _, -, h⟩ := h.seq_ok
  obtain ⟨⟨id', user⟩, _, -, h⟩ := h.seq_ok
  obtain ⟨_, _, -, h⟩ := h.seq_ok
  obtain ⟨_, _, -, h⟩ := h.seq_ok
  obtain ⟨_, _, -, h⟩ := h.seq_ok
  obtain ⟨_, _, -, h⟩ := h.seq_ok
  obtain ⟨_, _, -, h⟩ := h.seq_ok
  cases (generateTokens_call h).value.1
  exact ⟨_, rfl⟩

/-! ## What is handed out -/

/-- The token of a response is for a session, or is the temporary one of a login. -/
theorem handled_tokens {request : Request} {response : Response}
    (h : Call cfg now db (request.program cfg) (.ok response) db') (htoken : token ∈ response.tokens) :
    IsSession cfg now token ∨ ∃ dto id user, request = .login dto ∧
      HasPassword cfg db dto id user ∧ response = .login (.requiresTwoFactor token) ∧
      token = signAt cfg .access (tempPayload id) 300 now := by
  cases request with
  | createUser dto =>
    obtain ⟨registered, _, hcall, hend⟩ := h.seq_ok
    cases hend.value.1
    rw [List.mem_singleton.1 htoken]
    exact Or.inl (createUser_ok hcall)
  | createAdminUser dto =>
    obtain ⟨registered, _, hcall, hend⟩ := h.seq_ok
    cases hend.value.1
    rw [List.mem_singleton.1 htoken]
    exact Or.inl (createAdminUser_ok hcall)
  | verifyOtp dto =>
    obtain ⟨⟨id, tokens⟩, _, hcall, hend⟩ := h.seq_ok
    cases hend.value.1
    obtain ⟨user, -, rfl⟩ := verifyOtp_ok hcall
    exact Or.inl (isSession_of_mem htoken)
  | login dto =>
    obtain ⟨result, _, hcall, hend⟩ := h.seq_ok
    cases hend.value.1
    obtain ⟨id, user, huser, rfl | ⟨-, -, -, rfl⟩ | ⟨-, rfl⟩⟩ := login_ok hcall
    · cases htoken
    · rw [List.mem_singleton.1 htoken]
      exact Or.inr ⟨dto, id, user, rfl, huser, rfl, rfl⟩
    · exact Or.inl (isSession_of_mem htoken)
  | refreshToken token =>
    obtain ⟨tokens, _, hcall, hend⟩ := h.seq_ok
    cases hend.value.1
    obtain ⟨id, user, rfl⟩ := refreshToken_ok hcall
    exact Or.inl (isSession_of_mem htoken)
  | mintAuthTokensForUser id user =>
    obtain ⟨tokens, _, hcall, hend⟩ := h.seq_ok
    cases hend.value.1
    rw [mintAuthTokensForUser, ← bind_pure (startSession cfg id user)] at hcall
    rcases startSession_call hcall with ⟨⟨_, ⟨⟩⟩, -⟩ | ⟨_, -, hend⟩
    cases hend.value.1
    exact Or.inl (isSession_of_mem htoken)
  | verifyTotpLogin dto =>
    obtain ⟨⟨id, tokens⟩, _, hcall, hend⟩ := h.seq_ok
    cases hend.value.1
    obtain ⟨_, _, _, -, -, -, -, -, -, rfl⟩ := verifyTotpLogin_ok hcall
    exact Or.inl (isSession_of_mem htoken)
  | verifyBackupCode dto =>
    obtain ⟨result, _, hcall, hend⟩ := h.seq_ok
    cases hend.value.1
    obtain ⟨_, _, _, _, _, -, -, -, -, -, -, -, haccess, hrefresh⟩ := verifyBackupCode_ok hcall
    rcases List.mem_cons.1 htoken with rfl | htoken
    · exact Or.inl haccess
    · rw [List.mem_singleton.1 htoken]
      exact Or.inl hrefresh
  | verifyAssertionResponse email responseId =>
    obtain ⟨⟨id, tokens⟩, _, hcall, hend⟩ := h.seq_ok
    cases hend.value.1
    obtain ⟨user, rfl⟩ := verifyAssertionResponse_ok hcall
    exact Or.inl (isSession_of_mem htoken)
  | resendVerificationOtp | requestResetPasswordOtp | resendResetPasswordVerificationOtp
  | verifyResetPasswordOtp | resetPassword | initiate2faSetup | confirm2faSetup | disable2fa
  | createAssertionOptions =>
    obtain ⟨_, _, -, hend⟩ := h.seq_ok
    cases hend.value.1
    cases htoken

/-- The request carries a temporary token that names the user. -/
def Presents (cfg : Config) (id : Uuid) (token : String) (request : Request) : Prop :=
  request.tempToken = some token ∧ ∃ claims, cfg.decode .access token = some claims ∧
    claims.type = some "2fa_pending" ∧ claims.sub = id

/-- What opens a session of an enrolled user. -/
theorem session_opened {e : Handling} {response : Response}
    (h : Handles cfg e.pre e.inp e.post) (hresult : e.inp.result = .ok response)
    (hopens : response.opens = some (id, tokens)) (huser : e.pre.user id = some user)
    (henabled : user.twoFactorEnabled) :
    VerifiesEnrolled e ∨
      (GivesFactor cfg id user e ∧ ∃ token, Presents cfg id token e.inp.request) := by
  obtain ⟨db, ⟨now, request, result⟩, db'⟩ := e
  dsimp only at hresult huser
  subst hresult
  change Call cfg now db (request.program cfg) (.ok response) db' at h
  cases request with
  | verifyOtp dto =>
    obtain ⟨⟨id', tokens'⟩, _, hcall, hend⟩ := h.seq_ok
    cases hend.value.1
    cases hopens
    obtain ⟨user', hhas, -⟩ := verifyOtp_ok hcall
    obtain rfl := Option.some.inj (hhas.stored.symm.trans huser)
    exact Or.inl ⟨dto, _, user', rfl, hhas, henabled⟩
  | login dto =>
    obtain ⟨result, _, hcall, hend⟩ := h.seq_ok
    cases hend.value.1
    obtain ⟨id', user', hhas, rfl | ⟨-, -, -, rfl⟩ | ⟨hdisabled, rfl⟩⟩ := login_ok hcall
    · cases hopens
    · cases hopens
    · cases hopens
      obtain rfl := Option.some.inj (hhas.stored.symm.trans huser)
      exact absurd henabled hdisabled
  | verifyTotpLogin dto =>
    obtain ⟨⟨id', tokens'⟩, _, hcall, hend⟩ := h.seq_ok
    cases hend.value.1
    cases hopens
    obtain ⟨claims, user', secret, hclaims, htype, hid, huser', hsecret, hvalid, -⟩ :=
      verifyTotpLogin_ok hcall
    obtain rfl := Option.some.inj (huser'.symm.trans huser)
    refine Or.inr ⟨⟨secret, (Option.filter_eq_some_iff.1 hsecret).1, hvalid⟩, dto.tempToken, rfl,
      claims, (Option.filter_eq_some_iff.1 hclaims).1, htype, hid.symm⟩
  | verifyBackupCode dto =>
    obtain ⟨result, _, hcall, hend⟩ := h.seq_ok
    obtain ⟨heq, rfl⟩ := hend.value
    cases heq
    cases hopens
    obtain ⟨claims, user', before, hash, after, hclaims, htype, hid, huser', hcodes, hmatch, hafter,
      -⟩ := verifyBackupCode_ok hcall
    obtain rfl := Option.some.inj (huser'.symm.trans huser)
    refine Or.inr ⟨⟨before, hash, after, hcodes, hmatch, ?_⟩, dto.tempToken, rfl, claims, hclaims,
      htype, hid.symm⟩
    dsimp only
    rw [hafter, Option.map_some]
  | createUser | createAdminUser | refreshToken | mintAuthTokensForUser | verifyAssertionResponse
  | resendVerificationOtp | requestResetPasswordOtp | resendResetPasswordVerificationOtp
  | verifyResetPasswordOtp | resetPassword | initiate2faSetup | confirm2faSetup | disable2fa
  | createAssertionOptions =>
    obtain ⟨_, _, -, hend⟩ := h.seq_ok
    cases hend.value.1
    cases hopens

/-- **While no enrolled user verifies an e-mail address, each session of an enrolled user is opened
    with a second factor, and with a temporary token that a login has issued for the password.** -/
theorem second_factor_required {tr : List Handling} {db₀ : Database}
    (hsign : ∀ secret claims claims', cfg.decode .access (cfg.sign secret claims) = some claims' →
      claims' = claims)
    (h : Run (Handles cfg) db₀ tr db) (hunforged : Unforged cfg tr)
    (hcode : ∀ e ∈ tr, ¬ VerifiesEnrolled e) :
    ∀ tr₁ e tr₂ response id tokens user, tr = tr₁ ++ e :: tr₂ → e.inp.result = .ok response →
      response.opens = some (id, tokens) → e.pre.user id = some user → user.twoFactorEnabled →
      GivesFactor cfg id user e ∧ ∃ token, e.inp.request.tempToken = some token ∧
        ∃ e' ∈ tr₁, IssuesTemp cfg id token e' := by
  rintro tr₁ e tr₂ response id tokens user rfl hresult hopens huser henabled
  rcases session_opened h.split.2.1 hresult hopens huser henabled with hbypass |
    ⟨hfactor, token, htoken, claims, hclaims, htype, rfl⟩
  · exact absurd hbypass (hcode e (by simp))
  refine ⟨hfactor, token, htoken, ?_⟩
  obtain ⟨e', he', response', hresult', hmem⟩ := hunforged tr₁ e tr₂ rfl token htoken
    (Option.isSome_iff_exists.2 ⟨claims, hclaims⟩)
  have hhandled : Handles cfg e'.pre e'.inp e'.post := h.split.1.step_of_mem he'
  rw [Handles, hresult'] at hhandled
  rcases handled_tokens hhandled hmem with ⟨secret, payload, expiresIn, hnone, rfl⟩ |
    ⟨dto, id', user', hrequest, hhas, rfl, rfl⟩
  · -- the token of a session is no temporary one
    rw [hsign _ _ _ hclaims, hnone] at htype
    cases htype
  · refine ⟨e', he', dto, user', hrequest, ?_, hresult'⟩
    rw [hsign _ _ _ hclaims]
    exact hhas

end

/-! ### Examples -/

theorem plainConfig_sign (secret : Secret) (claims claims' : JwtClaims)
    (h : plainConfig.decode .access (plainConfig.sign secret claims) = some claims') :
    claims' = claims := by
  have h : (if plainConfig.sign secret claims = "temp" then some plainTempClaims else none) =
    some claims' := h
  obtain ⟨htemp, heq⟩ := Option.ite_none_right_eq_some.1 h
  cases heq
  cases secret with
  | access =>
    have htemp : (if claims = plainTempClaims then "temp" else "access") = "temp" := htemp
    split_ifs at htemp with hclaims
    · exact hclaims.symm
    · exact absurd htemp (by decide)
  | refresh =>
    have htemp : (if claims.iat = 0 then "first" else if claims.iat = 1 then "second" else "third") =
      "temp" := htemp
    split_ifs at htemp <;> exact absurd htemp (by decide)

/-- A user logs in with the password and a TOTP code. -/
theorem second_factor_required_totp : ∃ tr₁ e db,
    Run (Handles plainConfig) enrolled (tr₁ ++ [e]) db ∧
      (∃ tokens, e.inp.result = .ok (.totpLogin "u" tokens)) ∧
      ∃ e' ∈ tr₁, IssuesTemp plainConfig "u" "temp" e' := by
  have hlogin : Handles plainConfig enrolled
      ⟨0, .login ⟨"e", "p"⟩, .ok (.login (.requiresTwoFactor "temp"))⟩ enrolled :=
    alone_of_aloneIn (show aloneIn _ _ [{ row := some "u" }, {}] _ = _ by rfl) (by decide)
  have htotp : Handles plainConfig enrolled
      ⟨0, .verifyTotpLogin ⟨"s", "temp"⟩, .ok (.totpLogin "u" ⟨"access", "first"⟩)⟩ enrolled :=
    alone_of_aloneIn (show aloneIn _ _ [{}, { row := some "u" }, {}, {}, {}] _ = _ by rfl) (by decide)
  have hrun := (Run.nil.snoc hlogin).snoc htotp
  refine ⟨_, _, _, hrun, ⟨_, rfl⟩, ?_⟩
  obtain ⟨-, token, htoken, hissued⟩ := second_factor_required plainConfig_sign hrun
    (along_snoc.2 ⟨along_snoc.2 ⟨along_nil _, fun token htoken => by cases htoken⟩,
      fun token htoken _ => by cases htoken; exact ⟨_, .head _, _, rfl, .head _⟩⟩)
    (by rintro e he ⟨dto, -, -, hdto, -⟩; simp at he; rcases he with rfl | rfl <;> cases hdto)
    _ _ [] _ "u" _ _ rfl rfl rfl rfl rfl
  cases htoken
  exact hissued

/-- The code that verifies an e-mail address opens a session of an enrolled user, without the
    password. -/
theorem second_factor_bypassed : ¬ ∀ tr db, Run (Handles plainConfig) registered tr db →
    Unforged plainConfig tr →
    ∀ tr₁ e tr₂ response id tokens user, tr = tr₁ ++ e :: tr₂ → e.inp.result = .ok response →
      response.opens = some (id, tokens) → e.pre.user id = some user → user.twoFactorEnabled →
      GivesFactor plainConfig id user e ∧ ∃ token, e.inp.request.tempToken = some token ∧
        ∃ e' ∈ tr₁, IssuesTemp plainConfig id token e' := by
  intro hclaim
  have hplay : (handleAll plainConfig registered
      [(0, .initiate2faSetup "u", [{ row := some "u" }, { text := "s" }, {}, {}]),
        (0, .confirm2faSetup "u" "s", [{ row := some "u" }, {}, {}, {}, {}, {}, {}, {}, {}, {}, {},
          {}, {}, {}, {}, {}, {}, {}, {}, {}]),
        (0, .resendVerificationOtp "e", [{ row := some "u" }, {}, {}, {}, {}, {}])]).any fun x =>
      (∀ e ∈ x.1, e.inp.request.tempToken = none) ∧
      ((x.2.user "u").any (·.twoFactorEnabled)) ∧
      (aloneIn (exec plainConfig) ((Request.verifyOtp ⟨"e", "1000"⟩).program plainConfig)
        [{ row := some "u" }, {}, {}, {}, {}, {}, { text := "f" }, { id := "k" }] x.2).any fun y =>
        y.1.toOption.any fun response => response.opens.any fun opened => opened.1 = "u" := by
    decide +kernel
  obtain ⟨⟨tr, db⟩, hplay, hfacts⟩ := (Option.any_eq_true _ _).1 hplay
  obtain ⟨hnone, huser, hfacts⟩ := of_decide_eq_true hfacts
  obtain ⟨user, huser, henabled⟩ := (Option.any_eq_true _ _).1 huser
  obtain ⟨⟨result, db'⟩, halone, hresult⟩ := (Option.any_eq_true _ _).1 hfacts
  cases result with
  | error e => cases hresult
  | ok response =>
    change response.opens.any _ = true at hresult
    obtain ⟨⟨id, tokens⟩, hopens, hid⟩ := (Option.any_eq_true _ _).1 hresult
    obtain rfl := of_decide_eq_true hid
    have hverify : Handles plainConfig db ⟨0, .verifyOtp ⟨"e", "1000"⟩, .ok response⟩ db' :=
      alone_of_aloneIn halone (show ∀ w : World, w ∈ _ → w.now = 0 by decide)
    refine (hclaim _ _ ((run_handleAll hplay).snoc hverify) (.of_none fun e he => ?_) _ _ [] response
      _ _ user rfl rfl hopens huser henabled).1
    rcases List.mem_append.1 he with he | he
    · exact hnone e he
    · rw [List.mem_singleton.1 he]
      rfl

end Auth
