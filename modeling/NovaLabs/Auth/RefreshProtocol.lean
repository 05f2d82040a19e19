/-
  How requests come to write refresh tokens: a login stores the first token of a family, and a
  refresh looks a token up, consumes it and stores its successor, or revokes the family.
-/
import NovaLabs.Auth.Effects

namespace Auth

open Lib Process
open Backend (Uuid Time)

/-! ## Requests and responses -/

/-- The logins that store the refresh token that they return. -/
def Request.opensSession : Request → Bool
  | .verifyOtp _ | .login _ | .mintAuthTokensForUser _ _ => true
  | _ => false

/-- The refresh token that a client gets. -/
def Response.refreshToken : Response → Option String
  | .login (.loggedIn _ tokens) | .verified _ tokens | .refreshed tokens | .minted tokens
  | .totpLogin _ tokens | .passkeyLogin _ tokens => some tokens.refreshToken
  | .backupLogin result => some result.tokens.refreshToken
  | _ => none

/-! ## Stages -/

/-- A login has a refresh token to store, or has stored it.  A refresh has been given a token, has
    verified it, has found its user, and its row, has consumed it, and has stored its successor; or
    has found a row that is not live; or is refused.  Other requests store no tokens. -/
inductive RefreshStage where
  | other
  | opening
  | opened (row : RefreshToken)
  | presented (token : String)
  | verified (token : String) (userId : Uuid)
  | known (token : String)
  | held (token : String) (id : Uuid) (row : RefreshToken)
  | consumed (token : String) (id : Uuid) (row : RefreshToken)
  | exchanged (token : String) (id : Uuid) (row new : RefreshToken)
  | reused (row : RefreshToken)
  | refused

/-- The next row of the family. -/
structure RefreshToken.Succeeds (new row : RefreshToken) : Prop where
  isLive : new.IsLive
  familyId : new.familyId = row.familyId
  version : new.version = row.version + 1

namespace RefreshStage

def permits (cfg : Config) : RefreshStage → Query → Prop
  | other, op => op.sparesTokens
  | opening, op => op.sparesTokens ∨ ∃ row, op = .insertToken row ∧ row.IsLive ∧ row.version = 1
  | presented token, op => op = .verify .refresh token
  | verified _ userId, op => op = .findUser (.byId userId)
  | known token, op => op = .findToken (cfg.hashRefreshToken token)
  | held _ id _, op => op = .now ∨ op = .consumeToken id
  | consumed _ _ row, op => op.sparesTokens ∨ ∃ new, op = .insertToken new ∧ new.Succeeds row
  | reused row, op => op.sparesTokens ∨ op = .revokeFamily row.familyId
  | opened _, _ | exchanged _ _ _ _, _ | refused, _ => False

def after : RefreshStage → (op : Query) → Answer op → RefreshStage
  | opening, .insertToken row, some _ => opened row
  | presented token, .verify _ _, some claims => verified token claims.sub
  | verified token _, .findUser _, some _ => known token
  | known token, .findToken _, some (id, row) => if row.IsLive then held token id row else reused row
  | held token id row, .now, now =>
    if row.expiresAt.any (· < now) then refused else held token id row
  | held token id row, .consumeToken _, _ => consumed token id row
  | consumed token id row, .insertToken new, some _ => exchanged token id row new
  | opening, .insertToken _, none | presented _, .verify _ _, none | verified _ _, .findUser _, none
  | known _, .findToken _, none | consumed _ _ _, .insertToken _, none => refused
  | q, _, _ => q

/-- How a session may end at the stage. -/
def ends (cfg : Config) : RefreshStage → Except HttpError Response → Prop
  | other, _ => True
  | opening, r => ∀ response, r = .ok response → response.refreshToken = none
  | opened row, r => ∀ response token, r = .ok response → response.refreshToken = some token →
      row.token = cfg.hashRefreshToken token
  | exchanged _ _ _ new, r => ∃ tokens, r = .ok (.refreshed tokens) ∧
      new.token = cfg.hashRefreshToken tokens.refreshToken
  | reused _, r | refused, r => ∃ e, r = .error e
  | presented _, _ | verified _ _, _ | known _, _ | held _ _ _, _ | consumed _ _ _, _ => False

/-- The row that the session has stored. -/
def stored : RefreshStage → Option RefreshToken
  | opened row | exchanged _ _ _ row => some row
  | _ => none

/-- The stage at which a request starts. -/
def start : Request → RefreshStage
  | .refreshToken token => presented token
  | request => if request.opensSession then opening else other

end RefreshStage

def refreshProtocol (cfg : Config) : Protocol Answer RefreshStage where
  permits := RefreshStage.permits cfg
  after := RefreshStage.after

section
variable {cfg : Config} {id : Uuid} {user : User}

/-! Queries that write no refresh token change few stages. -/

theorem opening_after {op : Query} (hop : op.sparesTokens) (a : Answer op) :
    RefreshStage.opening.after op a = .opening := by
  cases op <;> first | rfl | cases hop

theorem consumed_after {token : String} {row : RefreshToken} {op : Query} (hop : op.sparesTokens)
    (a : Answer op) : (RefreshStage.consumed token id row).after op a = .consumed token id row := by
  cases op <;> first | rfl | cases hop

theorem other_passes : Passes (refreshProtocol cfg) .other Query.sparesTokens :=
  fun _ hop => ⟨hop, fun _ => rfl⟩

theorem opening_passes : Passes (refreshProtocol cfg) .opening Query.sparesTokens :=
  fun _ hop => ⟨Or.inl hop, opening_after hop⟩

theorem consumed_passes (token : String) (row : RefreshToken) :
    Passes (refreshProtocol cfg) (.consumed token id row) Query.sparesTokens :=
  fun _ hop => ⟨Or.inl hop, consumed_after hop⟩

theorem reused_passes (row : RefreshToken) :
    Passes (refreshProtocol cfg) (.reused row) Query.sparesTokens :=
  fun _ hop => ⟨Or.inl hop, fun _ => rfl⟩

/-- Which queries write refresh tokens, and at which stages. -/
theorem RefreshStage.permits.cases {q : RefreshStage} {op : Query} (h : q.permits cfg op) :
    op.sparesTokens ∨ (∃ token id row, q = .held token id row ∧ op = .consumeToken id) ∨
    (∃ row, q = .reused row ∧ op = .revokeFamily row.familyId) ∨
    (∃ new, q = .opening ∧ op = .insertToken new ∧ new.IsLive ∧ new.version = 1) ∨
    ∃ token id row new, q = .consumed token id row ∧ op = .insertToken new ∧ new.Succeeds row := by
  cases q with
  | other => exact Or.inl h
  | opened | exchanged | refused => exact h.elim
  | presented | verified | known =>
    obtain rfl := h
    exact Or.inl rfl
  | opening =>
    rcases h with h | ⟨new, rfl, hlive, hversion⟩
    · exact Or.inl h
    · exact Or.inr (Or.inr (Or.inr (Or.inl ⟨new, rfl, rfl, hlive, hversion⟩)))
  | held token id row =>
    rcases h with rfl | rfl
    · exact Or.inl rfl
    · exact Or.inr (Or.inl ⟨token, id, row, rfl, rfl⟩)
  | consumed token id row =>
    rcases h with h | ⟨new, rfl, hnew⟩
    · exact Or.inl h
    · exact Or.inr (Or.inr (Or.inr (Or.inr ⟨token, id, row, new, rfl, rfl, hnew⟩)))
  | reused row =>
    rcases h with h | rfl
    · exact Or.inl h
    · exact Or.inr (Or.inr (Or.inl ⟨row, rfl, rfl⟩))

/-- A row is the first of a family, or the successor of a row that its session has consumed. -/
theorem RefreshStage.permits.insertToken {q : RefreshStage} {new : RefreshToken}
    (h : q.permits cfg (.insertToken new)) : new.version = 1 ∨
      ∃ token id row, q = .consumed token id row ∧ new.Succeeds row := by
  rcases h.cases with hspares | ⟨_, _, _, -, hop⟩ | ⟨_, -, hop⟩ | ⟨new', -, hop, -, hversion⟩ |
    ⟨token, id, row, new', hq, hop, hnew⟩
  · cases hspares
  · cases hop
  · cases hop
  · cases hop
    exact Or.inl hversion
  · cases hop
    exact Or.inr ⟨token, id, row, hq, hnew⟩

theorem RefreshStage.permits.consumeToken {q : RefreshStage} (h : q.permits cfg (.consumeToken id)) :
    ∃ token row, q = .held token id row := by
  rcases h.cases with hspares | ⟨token, _, row, hq, hop⟩ | ⟨_, -, hop⟩ | ⟨_, -, hop, -⟩ |
    ⟨_, _, _, _, -, hop, -⟩
  · cases hspares
  · cases hop
    exact ⟨token, row, hq⟩
  · cases hop
  · cases hop
  · cases hop

/-- Only a refresh that has found a row that is not live revokes a family. -/
theorem RefreshStage.permits.revokeFamily {q : RefreshStage} {familyId : String}
    (h : q.permits cfg (.revokeFamily familyId)) :
    ∃ row, q = .reused row ∧ row.familyId = familyId := by
  rcases h.cases with hspares | ⟨_, _, _, -, hop⟩ | ⟨row, hq, hop⟩ | ⟨_, -, hop, -⟩ |
    ⟨_, _, _, _, -, hop, -⟩
  · cases hspares
  · cases hop
  · exact ⟨row, hq, (Query.revokeFamily.inj hop).symm⟩
  · cases hop
  · cases hop

/-- A session comes to its end by storing a row. -/
theorem after_stored {q : RefreshStage} {op : Query} {a : Answer op} {new : RefreshToken}
    (hp : q.permits cfg op) (h : (q.after op a).stored = some new) : op = .insertToken new ∧
      ((q = .opening ∧ new.IsLive ∧ q.after op a = .opened new) ∨
        ∃ token id row, q = .consumed token id row ∧ new.Succeeds row ∧
          q.after op a = .exchanged token id row new) := by
  cases q with
  | opened | exchanged | refused => exact hp.elim
  | other | reused => cases h
  | presented | verified =>
    obtain rfl := hp
    cases a <;> cases h
  | known token =>
    obtain rfl := hp
    cases a with
    | none => cases h
    | some found =>
      simp only [RefreshStage.after] at h
      split_ifs at h <;> cases h
  | held token id row =>
    rcases hp with rfl | rfl
    · simp only [RefreshStage.after] at h
      split_ifs at h <;> cases h
    · cases h
  | opening =>
    rcases hp with hp | ⟨row, rfl, hlive, -⟩
    · rw [opening_after hp a] at h
      cases h
    · cases a with
      | none => cases h
      | some =>
        cases h
        exact ⟨rfl, Or.inl ⟨rfl, hlive, rfl⟩⟩
  | consumed token id row =>
    rcases hp with hp | ⟨new', rfl, hnew⟩
    · rw [consumed_after hp a] at h
      cases h
    · cases a with
      | none => cases h
      | some =>
        cases h
        exact ⟨rfl, Or.inr ⟨token, id, row, rfl, hnew, rfl⟩⟩

/-! ## Programs that store no refresh token -/

theorem saveUser_sparesTokens (held : User) (undefined : Undefined) :
    (saveUser id held undefined).Only Query.sparesTokens := by
  refine .bind (.query rfl) fun stored => ?_
  cases stored with
  | none => trivial
  | some stored => exact .ite (.query rfl) trivial

theorem generateVerificationCode_sparesTokens :
    generateVerificationCode.Only Query.sparesTokens :=
  .bind (.query rfl) fun _ => trivial

theorem inTenMinutes_sparesTokens : inTenMinutes.Only Query.sparesTokens :=
  .bind (.query rfl) fun _ => trivial

theorem failIfExpired_sparesTokens (expiresAt : Option Time) :
    (failIfExpired expiresAt).Only Query.sparesTokens := by
  cases expiresAt with
  | none => trivial
  | some expiresAt => exact .bind (.query rfl) fun _ => .failIf

theorem checkPassword_sparesTokens (password : String) :
    (checkPassword password).Only Query.sparesTokens :=
  .bind (.query rfl) fun _ => .failIf

theorem generateTokens_sparesTokens : (generateTokens cfg id user).Only Query.sparesTokens :=
  .bind (.query rfl) fun _ => .bind (.query rfl) fun _ => trivial

theorem verifyTempToken_sparesTokens (token : String) :
    (verifyTempToken token).Only Query.sparesTokens :=
  .bind (.query rfl) fun _ => .bind .okOr fun _ => .bind .failIf fun _ => trivial

theorem createUser_sparesTokens (dto : CreateUserDto) :
    (createUser cfg dto).Only Query.sparesTokens :=
  .bind (.query rfl) fun _ => .bind .failIf fun _ => .bind .failIf fun _ =>
    .bind (checkPassword_sparesTokens _) fun _ => .bind (.query rfl) fun _ =>
    .bind generateVerificationCode_sparesTokens fun _ => .bind inTenMinutes_sparesTokens fun _ =>
    .bind (.query rfl) fun _ => .bind .okOr fun _ => .bind (.query rfl) fun _ =>
    .bind (.query rfl) fun _ => trivial

theorem createAdminUser_sparesTokens (dto : CreateUserDto) :
    (createAdminUser cfg dto).Only Query.sparesTokens :=
  .bind (.query rfl) fun _ => .bind .failIf fun _ => .bind .failIf fun _ =>
    .bind (checkPassword_sparesTokens _) fun _ => .bind (.query rfl) fun _ =>
    .bind (.query rfl) fun _ => .bind .okOr fun _ => .bind (.query rfl) fun _ => trivial

theorem resendVerificationOtp_sparesTokens (email : String) :
    (resendVerificationOtp email).Only Query.sparesTokens :=
  .bind .failIf fun _ => .bind (.query rfl) fun _ => .bind .okOr fun _ =>
    .bind generateVerificationCode_sparesTokens fun _ => .bind inTenMinutes_sparesTokens fun _ =>
    .bind (saveUser_sparesTokens _ _) fun _ => .query rfl

theorem sendResetCode_sparesTokens (email : String) :
    (sendResetCode email).Only Query.sparesTokens :=
  .bind .failIf fun _ => .bind (.query rfl) fun _ => .bind .okOr fun _ =>
    .bind generateVerificationCode_sparesTokens fun _ => .bind inTenMinutes_sparesTokens fun _ =>
    .bind (saveUser_sparesTokens _ _) fun _ => .query rfl

theorem verifyResetPasswordOtp_sparesTokens (dto : VerifyOtpDto) :
    (verifyResetPasswordOtp dto).Only Query.sparesTokens :=
  .bind .failIf fun _ => .bind .failIf fun _ => .bind (.query rfl) fun _ => .bind .okOr fun _ =>
    .bind .failIf fun _ => .bind (failIfExpired_sparesTokens _) fun _ => saveUser_sparesTokens _ _

theorem resetPassword_sparesTokens (dto : ResetPasswordDto) :
    (resetPassword dto).Only Query.sparesTokens :=
  .bind (.query rfl) fun _ => .bind .okOr fun _ => .bind (failIfExpired_sparesTokens _) fun _ =>
    .bind .failIf fun _ => .bind .failIf fun _ => .bind (checkPassword_sparesTokens _) fun _ =>
    .bind (.query rfl) fun _ => saveUser_sparesTokens _ _

theorem verifyTotpLogin_sparesTokens (dto : VerifyTotpDto) :
    (verifyTotpLogin cfg dto).Only Query.sparesTokens :=
  .bind (verifyTempToken_sparesTokens _) fun _ => .bind (.query rfl) fun _ => .bind .okOr fun _ =>
    .bind .okOr fun _ => .bind (.query rfl) fun _ => .bind .failIf fun _ =>
    .bind generateTokens_sparesTokens fun _ => trivial

theorem verifyBackupCode_sparesTokens (dto : UseBackupCodeDto) :
    (verifyBackupCode cfg dto).Only Query.sparesTokens :=
  .bind (verifyTempToken_sparesTokens _) fun _ => .bind (.query rfl) fun _ => .bind .okOr fun _ =>
    .bind .okOr fun _ => .bind .okOr fun _ => .bind (saveUser_sparesTokens _ _) fun _ =>
    .bind generateTokens_sparesTokens fun _ => trivial

theorem initiate2faSetup_sparesTokens : (initiate2faSetup id).Only Query.sparesTokens :=
  .bind (.query rfl) fun _ => .bind .okOr fun _ => .bind (.query rfl) fun _ =>
    .bind (saveUser_sparesTokens _ _) fun _ => trivial

theorem confirm2faSetup_sparesTokens (token : String) :
    (confirm2faSetup id token).Only Query.sparesTokens :=
  .bind (.query rfl) fun _ => .bind .okOr fun _ => .bind .okOr fun _ => .bind (.query rfl) fun _ =>
    .bind .failIf fun _ => .bind (.mapM (fun _ => .query rfl) _) fun _ =>
    .bind (.mapM (f := fun code => ask (.hashPassword code)) (fun _ => .query rfl) _) fun _ =>
    .bind (saveUser_sparesTokens _ _) fun _ => trivial

theorem disable2fa_sparesTokens (password : String) :
    (disable2fa cfg id password).Only Query.sparesTokens :=
  .bind (.query rfl) fun _ => .bind .okOr fun _ => .bind .failIf fun _ => saveUser_sparesTokens _ _

theorem createAssertionOptions_sparesTokens (email : String) :
    (createAssertionOptions email).Only Query.sparesTokens :=
  .bind (.query rfl) fun _ => .bind .okOr fun _ => .bind .failIf fun _ =>
    .bind (.query rfl) fun _ => .bind (.query rfl) fun _ => trivial

theorem verifyAssertionResponse_sparesTokens (email responseId : String) :
    (verifyAssertionResponse cfg email responseId).Only Query.sparesTokens :=
  .bind (.query rfl) fun _ => .bind .okOr fun _ => .bind (.query rfl) fun _ => .bind .okOr fun _ =>
    .bind .okOr fun _ => .bind (.query rfl) fun _ => .bind .okOr fun _ =>
    .bind (saveUser_sparesTokens _ _) fun _ => .bind (.query rfl) fun _ =>
    .bind generateTokens_sparesTokens fun _ => trivial

/-! ## Programs that store refresh tokens -/

theorem createRefreshToken_meets {q : RefreshStage} {token familyId : String} {version : ℕ}
    {post : RefreshStage → Except HttpError Uuid → Prop}
    (hq : Passes (refreshProtocol cfg) q Query.sparesTokens)
    (hrow : ∀ row : RefreshToken, row.IsLive → row.token = cfg.hashRefreshToken token →
      row.familyId = familyId → row.version = version →
      q.permits cfg (.insertToken row) ∧ (∀ id, post (q.after (.insertToken row) (some id)) (.ok id)) ∧
        post (q.after (.insertToken row) none) (.error .queryFailed)) :
    Meets (refreshProtocol cfg) q (createRefreshToken cfg id token familyId version) post := by
  have hinsert (expiresAt : Option Time) : Meets (refreshProtocol cfg) q (do
      okOr (← ask (.insertToken
        { userId := id, token := cfg.hashRefreshToken token, familyId, version, expiresAt }))
        .queryFailed) post := by
    obtain ⟨hpermits, hsome, hnone⟩ := hrow
      { userId := id, token := cfg.hashRefreshToken token, familyId, version, expiresAt }
      ⟨rfl, rfl⟩ rfl rfl rfl
    refine Meets.query hpermits fun o => ?_
    cases o with
    | none => exact hnone
    | some id => exact hsome id
  unfold createRefreshToken computeExpiryFromEnv
  split
  · rw [bind_assoc]
    exact Meets.pass hq rfl fun now => hinsert _
  · exact hinsert none

/-! ### Logins -/

/-- A login has stored the token, or has failed. -/
def Stores (cfg : Config) (token : String) (q : RefreshStage) : Except HttpError Uuid → Prop
  | .ok _ => ∃ row, q = .opened row ∧ row.token = cfg.hashRefreshToken token
  | .error _ => q = .opening ∨ q = .refused

/-- A login has stored the token that it returns, or has failed. -/
def Opens (cfg : Config) (q : RefreshStage) : Except HttpError Tokens → Prop
  | .ok tokens => ∃ row, q = .opened row ∧ row.token = cfg.hashRefreshToken tokens.refreshToken
  | .error _ => q = .opening ∨ q = .refused

theorem saveRefreshToken_stores (token : String) :
    Meets (refreshProtocol cfg) .opening (saveRefreshToken cfg id token) (Stores cfg token) := by
  refine Meets.pass opening_passes rfl fun familyId => ?_
  refine createRefreshToken_meets opening_passes fun row hlive htoken _ hversion => ?_
  exact ⟨Or.inr ⟨row, rfl, hlive, hversion⟩, fun _ => ⟨row, rfl, htoken⟩, Or.inr rfl⟩

theorem startSession_opens :
    Meets (refreshProtocol cfg) .opening (startSession cfg id user) (Opens cfg) := by
  refine Meets.seq (generateTokens_sparesTokens.meets opening_passes) (fun q tokens hq => ?_)
    fun _ _ hq => Or.inl hq
  obtain rfl : q = .opening := hq
  exact (saveRefreshToken_stores _).seq (fun _ _ hq => hq) fun _ _ hq => hq

theorem verifyOtp_opens (dto : VerifyOtpDto) :
    Meets (refreshProtocol cfg) .opening (verifyOtp cfg dto) fun q r =>
      Opens cfg q (r.map Prod.snd) := by
  refine Meets.failIf (fun _ => Or.inl rfl) fun _ => Meets.failIf (fun _ => Or.inl rfl) fun _ => ?_
  refine Meets.pass opening_passes rfl fun found =>
    Meets.okOr (fun _ => Or.inl rfl) fun found _ => ?_
  refine Meets.failIf (fun _ => Or.inl rfl) fun _ => ?_
  refine Meets.seq ((failIfExpired_sparesTokens _).meets opening_passes) (fun q _ hq => ?_)
    fun _ _ hq => Or.inl hq
  obtain rfl : q = .opening := hq
  refine Meets.seq ((saveUser_sparesTokens _ _).meets opening_passes) (fun q _ hq => ?_)
    fun _ _ hq => Or.inl hq
  obtain rfl : q = .opening := hq
  exact startSession_opens.seq (fun _ _ hq => hq) fun _ _ hq => hq

theorem login_opens (dto : LoginUserDto) :
    Meets (refreshProtocol cfg) .opening (login cfg dto) fun q r =>
      q.ends cfg (r.map Response.login) := by
  have herror {q : RefreshStage} {e : HttpError} (hq : q = .opening ∨ q = .refused) :
      q.ends cfg (.error e) := by
    rcases hq with rfl | rfl
    · exact fun _ h => nomatch h
    · exact ⟨e, rfl⟩
  refine Meets.pass opening_passes rfl fun found =>
    Meets.okOr (fun _ => herror (Or.inl rfl)) fun found _ => Meets.ite (fun _ => ?_) fun _ =>
    Meets.ite (fun _ => ?_) fun _ => ?_
  · refine Meets.seq ((resendVerificationOtp_sparesTokens _).meets opening_passes)
      (fun q _ hq => ?_) fun _ _ hq => herror (Or.inl hq)
    obtain rfl : q = .opening := hq
    rintro _ ⟨⟩
    rfl
  · refine Meets.pass opening_passes rfl fun tempToken => ?_
    rintro _ ⟨⟩
    rfl
  · refine startSession_opens.seq (fun q tokens hq => ?_) fun q e hq => herror hq
    obtain ⟨row, rfl, hrow⟩ := hq
    rintro _ token ⟨⟩ ⟨⟩
    exact hrow

/-! ### Refreshes -/

/-- A refresh has stored the token that it returns, or has failed. -/
def Exchanges (cfg : Config) (q : RefreshStage) : Except HttpError Tokens → Prop
  | .ok tokens => ∃ token id row new, q = .exchanged token id row new ∧
      new.token = cfg.hashRefreshToken tokens.refreshToken
  | .error _ => q = .refused ∨ ∃ row, q = .reused row

theorem not_isLive_iff {row : RefreshToken} :
    ¬ row.IsLive ↔ row.revoked ∨ row.consumedAt.isSome := by
  rw [RefreshToken.IsLive, not_and_or, Bool.not_eq_false, ← ne_eq, ← Option.isSome_iff_ne_none]

theorem generateTokens_bind {α : Type} (f : Tokens → Proc α) : generateTokens cfg id user >>= f =
    ask (.sign .access (accessPayload cfg id user) cfg.accessExpiresIn) >>= fun accessToken =>
    ask (.sign .refresh (refreshPayload cfg id user) cfg.refreshExpiresIn) >>= fun refreshToken =>
    f { accessToken, refreshToken } := rfl

theorem rotate_exchanges (token : String) (tokenId : Uuid) (row : RefreshToken) :
    Meets (refreshProtocol cfg) (.consumed token tokenId row) (do
      let tokens ← generateTokens cfg id user
      let _ ← createRefreshToken cfg id tokens.refreshToken row.familyId (row.version + 1)
      return tokens) (Exchanges cfg) := by
  rw [generateTokens_bind]
  refine Meets.pass (consumed_passes token row) rfl fun accessToken =>
    Meets.pass (consumed_passes token row) rfl fun refreshToken => ?_
  have hstore : Meets (refreshProtocol cfg) (.consumed token tokenId row)
      (createRefreshToken cfg id refreshToken row.familyId (row.version + 1))
      fun q r => Exchanges cfg q (r.map fun _ => { accessToken, refreshToken }) := by
    refine createRefreshToken_meets (consumed_passes token row)
      fun new hlive htoken hfamily hversion => ?_
    exact ⟨Or.inr ⟨new, rfl, hlive, hfamily, hversion⟩,
      fun _ => ⟨token, tokenId, row, new, rfl, htoken⟩, Or.inl rfl⟩
  exact hstore.seq (fun _ _ hq => hq) fun _ _ hq => hq

theorem refreshToken_exchanges (token : String) :
    Meets (refreshProtocol cfg) (.presented token) (refreshToken cfg token) (Exchanges cfg) := by
  unfold refreshToken validateRefreshToken
  rw [bind_assoc]
  refine Meets.query rfl fun claims => ?_
  rw [bind_assoc]
  cases claims with
  | none => exact Or.inl rfl
  | some claims =>
  refine Meets.query rfl fun found => ?_
  cases found with
  | none => exact Or.inl rfl
  | some found =>
  refine Meets.query rfl fun stored => ?_
  cases stored with
  | none => exact Or.inl rfl
  | some stored =>
  obtain ⟨id, user⟩ := found
  obtain ⟨tokenId, row⟩ := stored
  refine Meets.ite (fun hreuse => ?_) fun hlive => ?_
  · have hafter : (refreshProtocol cfg).after (.known token)
        (.findToken (cfg.hashRefreshToken token)) (some (tokenId, row)) = .reused row :=
      if_neg (not_isLive_iff.2 hreuse)
    refine hafter.symm ▸ Meets.query (Or.inr rfl) fun _ => ?_
    refine Meets.pass (reused_passes row) rfl fun _ => ?_
    exact Meets.pass (reused_passes row) rfl fun _ => Or.inr ⟨row, rfl⟩
  · have hafter : (refreshProtocol cfg).after (.known token)
        (.findToken (cfg.hashRefreshToken token)) (some (tokenId, row)) =
        .held token tokenId row :=
      if_pos (not_not.1 fun h => hlive (not_isLive_iff.1 h))
    have hconsume : Meets (refreshProtocol cfg) (.held token tokenId row) (do
        ask (.consumeToken tokenId)
        let tokens ← generateTokens cfg id user
        let _ ← createRefreshToken cfg id tokens.refreshToken row.familyId (row.version + 1)
        return tokens) (Exchanges cfg) :=
      Meets.query (Or.inr rfl) fun _ => rotate_exchanges token tokenId row
    cases hexpiry : row.expiresAt with
    | none => exact hafter.symm ▸ hconsume
    | some expiresAt =>
      refine hafter.symm ▸ Meets.query (Or.inl rfl) fun now => Meets.failIf (fun hlate => ?_) ?_
      · have hrefused : (refreshProtocol cfg).after (.held token tokenId row) .now now =
            .refused := if_pos (by rw [hexpiry]; exact decide_eq_true hlate)
        exact Or.inl hrefused
      · intro hintime
        have hheld : (refreshProtocol cfg).after (.held token tokenId row) .now now =
            .held token tokenId row :=
          if_neg (by rw [hexpiry]; exact fun h => hintime (of_decide_eq_true h))
        exact hheld.symm ▸ hconsume

/-! ### All requests -/

theorem Opens.ends {q : RefreshStage} {r : Except HttpError Tokens} (h : Opens cfg q r)
    {f : Tokens → Response} (hf : ∀ tokens, (f tokens).refreshToken = some tokens.refreshToken) :
    q.ends cfg (r.map f) := by
  cases r with
  | ok tokens =>
    obtain ⟨row, rfl, hrow⟩ := h
    rintro _ token ⟨⟩ htoken
    cases (hf tokens).symm.trans htoken
    exact hrow
  | error e =>
    rcases h with rfl | rfl
    · exact fun _ h => nomatch h
    · exact ⟨e, rfl⟩

theorem Exchanges.ends {q : RefreshStage} {r : Except HttpError Tokens} (h : Exchanges cfg q r) :
    q.ends cfg (r.map Response.refreshed) := by
  cases r with
  | ok tokens =>
    obtain ⟨token, id, row, new, rfl, hnew⟩ := h
    exact ⟨tokens, rfl, hnew⟩
  | error e =>
    rcases h with rfl | ⟨row, rfl⟩
    · exact ⟨e, rfl⟩
    · exact ⟨e, rfl⟩

theorem program_refreshes (cfg : Config) (request : Request) :
    Meets (refreshProtocol cfg) (.start request) (request.program cfg) (RefreshStage.ends cfg) := by
  have hother {α : Type} {x : Proc α} {f : α → Proc Response} (hx : x.Only Query.sparesTokens)
      (hf : ∀ a, (f a).Only Query.sparesTokens) :
      Meets (refreshProtocol cfg) .other (x >>= f) (RefreshStage.ends cfg) :=
    ((hx.bind hf).meets other_passes).mono fun q r hq => hq.symm ▸ trivial
  cases request with
  | refreshToken token =>
    exact (refreshToken_exchanges token).seq (fun _ _ h => h.ends) fun _ _ h => h.ends
  | verifyOtp dto =>
    refine (verifyOtp_opens dto).seq (fun q found h => ?_) fun _ _ h => ?_
    · exact Opens.ends (f := Response.verified found.1) h fun _ => rfl
    · exact Opens.ends (f := Response.minted) h fun _ => rfl
  | login dto => exact (login_opens dto).seq (fun _ _ h => h) fun _ _ h => h
  | mintAuthTokensForUser id user =>
    exact startSession_opens.seq (fun _ _ h => h.ends (f := Response.minted) fun _ => rfl)
      fun _ _ h => h.ends (f := Response.minted) fun _ => rfl
  | createUser dto => exact hother (createUser_sparesTokens dto) fun _ => trivial
  | createAdminUser dto => exact hother (createAdminUser_sparesTokens dto) fun _ => trivial
  | resendVerificationOtp email =>
    exact hother (resendVerificationOtp_sparesTokens email) fun _ => trivial
  | requestResetPasswordOtp email | resendResetPasswordVerificationOtp email =>
    exact hother (sendResetCode_sparesTokens email) fun _ => trivial
  | verifyResetPasswordOtp dto =>
    exact hother (verifyResetPasswordOtp_sparesTokens dto) fun _ => trivial
  | resetPassword dto => exact hother (resetPassword_sparesTokens dto) fun _ => trivial
  | verifyTotpLogin dto => exact hother (verifyTotpLogin_sparesTokens dto) fun _ => trivial
  | verifyBackupCode dto => exact hother (verifyBackupCode_sparesTokens dto) fun _ => trivial
  | initiate2faSetup userId => exact hother initiate2faSetup_sparesTokens fun _ => trivial
  | confirm2faSetup userId token => exact hother (confirm2faSetup_sparesTokens token) fun _ => trivial
  | disable2fa userId password => exact hother (disable2fa_sparesTokens password) fun _ => trivial
  | createAssertionOptions email =>
    exact hother (createAssertionOptions_sparesTokens email) fun _ => trivial
  | verifyAssertionResponse email responseId =>
    exact hother (verifyAssertionResponse_sparesTokens email responseId) fun _ => trivial

end

end Auth
