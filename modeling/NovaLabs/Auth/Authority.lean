/-
  Whose authority a request has.

  The rows of users change at any time, by these services and by others.  The role and the hub of a
  request are those that its token was signed with: what the row had when the call that signed it
  read it.  This is as long ago as access tokens last, at most.
-/
import NovaLabs.Auth.Bearers
import NovaLabs.Auth.Rotation

namespace Auth

open Lib Process
open Backend (Uuid Time UserRole)

/-! ## Others write too -/

/-- What the world adds to an answer, with the database that others have left, if they wrote. -/
structure Moment extends World where
  others : Option Database := none

def execAmong (cfg : Config) (_ : ℕ) (m : Moment) (db : Database) (q : Query) :
    Option (Answer q × Database) :=
  exec cfg m.toWorld (m.others.getD db) q

/-- The authentication services, among other writers of the database. -/
def serviceAmong (cfg : Config) : System Answer Database Request Moment HttpError Response where
  program := Request.program cfg
  exec := execAmong cfg

abbrev SharedEv := Event Sessions (Turn Request Moment)

/-! ## Signatures -/

/-- At the event, session `t` signs the token. -/
def SignsAt (cfg : Config) (e : SharedEv) (t : ℕ) (secret : Secret) (payload : JwtPayload)
    (expiresIn : ℤ) (now : Time) (token : String) : Prop :=
  ∃ m : Moment, e.inp = .step t m ∧ e.pre.Asks t (.sign secret payload expiresIn) ∧ m.now = now ∧
    token = signAt cfg secret payload expiresIn now

/-- The session has read or inserted the row of the user, or was called for it. -/
def Origin (tr : List SharedEv) (t : ℕ) (id : Uuid) (user : User) : Prop :=
  (∃ e ∈ tr, (∃ m, e.inp = .step t m) ∧ e.post.shared.user id = some user) ∨
    Called tr t (.mintAuthTokensForUser id user)

/-- What may be signed for a user, and for how many seconds. -/
inductive Signable (cfg : Config) (id : Uuid) (user : User) : Secret → JwtPayload → ℤ → Prop
  | access : Signable cfg id user .access (accessPayload cfg id user) cfg.accessExpiresIn
  | refresh : Signable cfg id user .refresh (refreshPayload cfg id user) cfg.refreshExpiresIn
  | temp : Signable cfg id user .access (tempPayload id) 300

/-- What the session signs is for a user whose row it has. -/
def SignsKnown (cfg : Config) (tr : List SharedEv) (e : SharedEv) : Prop :=
  ∀ t secret payload expiresIn now token, SignsAt cfg e t secret payload expiresIn now token →
    ∃ id user, Origin tr t id user ∧ Signable cfg id user secret payload expiresIn

/-- The token has been signed before. -/
def Signed (cfg : Config) (tr : List SharedEv) (token : String) : Prop :=
  ∃ e ∈ tr, ∃ t secret payload expiresIn now, SignsAt cfg e t secret payload expiresIn now token

/-- Find the query that the event answers, and sign. -/
def signs (cfg : Config) (token : String) (e : SharedEv) : Bool :=
  match e.inp with
  | .call _ _ => false
  | .step t m => match e.pre.asked t with
    | some (.sign secret payload expiresIn) => token = signAt cfg secret payload expiresIn m.now
    | _ => false

theorem signed_of_any {cfg : Config} {tr : List SharedEv} {token : String}
    (h : tr.any (signs cfg token)) : Signed cfg tr token := by
  obtain ⟨e, he, h⟩ := List.any_eq_true.1 h
  unfold signs at h
  split at h
  · cases h
  · next t m hinp =>
    split at h
    · next secret payload expiresIn hasked =>
      exact ⟨e, he, t, secret, payload, expiresIn, m.now, m, hinp, Pool.asks_of_asked hasked, rfl,
        of_decide_eq_true h⟩
    · cases h

/-- An access token that has not expired was signed for the user, whose row the session had. -/
def Warranted (cfg : Config) (tr : List SharedEv) (now : Time) (id : Uuid) (user : User)
    (token : String) : Prop :=
  ∃ tr₁ e tr₂ t signedAt, tr = tr₁ ++ e :: tr₂ ∧ Origin tr₁ t id user ∧
    SignsAt cfg e t .access (accessPayload cfg id user) cfg.accessExpiresIn signedAt token ∧
    now / 1000 < signedAt / 1000 + cfg.accessExpiresIn

/-! ## The protocol of signatures -/

/-- The rows that a session has. -/
abbrev Rows := List (Uuid × User)

def signing (cfg : Config) : Protocol Answer Rows where
  permits known
    | .sign secret payload expiresIn =>
      ∃ id user, (id, user) ∈ known ∧ Signable cfg id user secret payload expiresIn
    | _ => True
  after
    | known, .findUser _, some found => found :: known
    | known, .insertUser user, some id => (id, user) :: known
    | known, _, _ => known

/-- A request to mint tokens comes with the row. -/
def Request.rows : Request → Rows
  | .mintAuthTokensForUser id user => [(id, user)]
  | _ => []

/-- A query that neither signs nor tells a row of a user. -/
def Query.isQuiet : Query → Bool
  | .sign _ _ _ | .findUser _ | .insertUser _ => false
  | _ => true

section
variable {cfg : Config} {known : Rows} {id : Uuid} {user : User}

theorem quiet_passes : Passes (signing cfg) known Query.isQuiet := by
  intro op hop
  cases op <;> first | exact ⟨trivial, fun _ => rfl⟩ | cases hop

/-! ### Helpers that are quiet -/

theorem saveUser_quiet {held : User} {undefined : Undefined} :
    (saveUser id held undefined).Only Query.isQuiet := by
  refine ⟨rfl, fun stored => ?_⟩
  cases stored with
  | none => trivial
  | some stored => exact Only.ite (Only.query rfl) trivial

theorem generateVerificationCode_quiet : generateVerificationCode.Only Query.isQuiet :=
  ⟨rfl, fun _ => trivial⟩

theorem inTenMinutes_quiet : inTenMinutes.Only Query.isQuiet := ⟨rfl, fun _ => trivial⟩

theorem checkPassword_quiet {password : String} : (checkPassword password).Only Query.isQuiet :=
  ⟨rfl, fun _ => Only.failIf⟩

theorem failIfExpired_quiet {expiresAt : Option Time} :
    (failIfExpired expiresAt).Only Query.isQuiet := by
  cases expiresAt with
  | none => trivial
  | some expiresAt => exact ⟨rfl, fun _ => Only.failIf⟩

theorem createRefreshToken_quiet {token familyId : String} {version : ℕ} :
    (createRefreshToken cfg id token familyId version).Only Query.isQuiet := by
  unfold createRefreshToken computeExpiryFromEnv
  cases cfg.refreshExpiryMs with
  | none => exact ⟨rfl, fun _ => Only.okOr⟩
  | some ms => exact ⟨rfl, fun _ => ⟨rfl, fun _ => Only.okOr⟩⟩

theorem saveRefreshToken_quiet {token : String} :
    (saveRefreshToken cfg id token).Only Query.isQuiet :=
  ⟨rfl, fun _ => createRefreshToken_quiet⟩

theorem verifyTempToken_quiet {token : String} : (verifyTempToken token).Only Query.isQuiet := by
  unfold verifyTempToken
  refine Only.bind (Only.query rfl) fun claims => ?_
  exact Only.bind Only.okOr fun _ => Only.bind Only.failIf fun _ => trivial

/-! ### Programs that sign -/

/-- From the rows that it has, the program signs what it may. -/
abbrev SignsOnly (cfg : Config) (known : Rows) {α : Type} (x : Proc α) : Prop :=
  Meets (signing cfg) known x fun _ _ => True

theorem Only.signs {α : Type} {x : Proc α} (hx : x.Only Query.isQuiet) : SignsOnly cfg known x :=
  (hx.meets quiet_passes).mono fun _ _ _ => trivial

theorem SignsOnly.seq {α β : Type} {x : Proc α} {f : α → Proc β} (hx : x.Only Query.isQuiet)
    (hf : ∀ a, SignsOnly cfg known (f a)) : SignsOnly cfg known (x >>= f) :=
  (hx.meets quiet_passes).seq (fun _ a hq => hq ▸ hf a) fun _ _ _ => trivial

theorem SignsOnly.failIf {α : Type} {c : Prop} [Decidable c] {e : HttpError} {f : Unit → Proc α}
    (hf : SignsOnly cfg known (f ())) : SignsOnly cfg known (Process.failIf c e >>= f) :=
  Meets.failIf (fun _ => trivial) fun _ => hf

theorem SignsOnly.map {α β : Type} {x : Proc α} {f : α → β} (hx : SignsOnly cfg known x) :
    SignsOnly cfg known (x >>= fun a => pure (f a)) :=
  Meets.seq hx (fun _ _ _ => trivial) fun _ _ _ => trivial

/-- What a search finds is known from then on. -/
theorem SignsOnly.findUser {α : Type} {which : UserWhere} {e : HttpError}
    {keep : Uuid × User → Bool} {f : Uuid × User → Proc α}
    (hf : ∀ found, SignsOnly cfg (found :: known) (f found)) :
    SignsOnly cfg known (ask (.findUser which) >>= fun found =>
      Process.okOr (found.filter keep) e >>= f) := by
  refine Meets.query trivial fun found => Meets.okOr (fun _ => trivial) fun row hrow => ?_
  obtain ⟨rfl, -⟩ := Option.filter_eq_some_iff.1 hrow
  exact hf row

theorem generateTokens_signs (hid : (id, user) ∈ known) :
    Meets (signing cfg) known (generateTokens cfg id user) fun q _ => q = known :=
  ⟨⟨id, user, hid, .access⟩, fun _ => ⟨⟨id, user, hid, .refresh⟩, fun _ => rfl⟩⟩

theorem startSession_signs (hid : (id, user) ∈ known) :
    SignsOnly cfg known (startSession cfg id user) := by
  refine (generateTokens_signs hid).seq (fun _ tokens hq => ?_) fun _ _ _ => trivial
  subst hq
  exact SignsOnly.seq saveRefreshToken_quiet fun _ => trivial

/-! ### Each of them -/

theorem createUser_signs (dto : CreateUserDto) : SignsOnly cfg known (createUser cfg dto) := by
  unfold createUser
  refine Meets.query trivial fun existing => SignsOnly.failIf (SignsOnly.failIf ?_)
  refine SignsOnly.seq checkPassword_quiet fun _ => SignsOnly.seq (Only.query rfl) fun password => ?_
  refine SignsOnly.seq generateVerificationCode_quiet fun code => ?_
  refine SignsOnly.seq inTenMinutes_quiet fun expiration => Meets.query trivial fun inserted => ?_
  refine Meets.okOr (fun _ => trivial) fun id hid => SignsOnly.seq (Only.query rfl) fun _ => ?_
  subst hid
  exact ⟨⟨id, _, .head _, .access⟩, fun _ => trivial⟩

theorem createAdminUser_signs (dto : CreateUserDto) :
    SignsOnly cfg known (createAdminUser cfg dto) := by
  unfold createAdminUser
  refine Meets.query trivial fun existing => SignsOnly.failIf (SignsOnly.failIf ?_)
  refine SignsOnly.seq checkPassword_quiet fun _ => SignsOnly.seq (Only.query rfl) fun password => ?_
  refine Meets.query trivial fun inserted => Meets.okOr (fun _ => trivial) fun id hid => ?_
  subst hid
  exact ⟨⟨id, _, .head _, .access⟩, fun _ => trivial⟩

theorem verifyOtp_signs (dto : VerifyOtpDto) : SignsOnly cfg known (verifyOtp cfg dto) := by
  unfold verifyOtp
  refine SignsOnly.failIf (SignsOnly.failIf ?_)
  refine Meets.query trivial fun found => Meets.okOr (fun _ => trivial) fun ⟨id, user⟩ hfound => ?_
  subst hfound
  refine SignsOnly.failIf (SignsOnly.seq failIfExpired_quiet fun _ => ?_)
  refine SignsOnly.seq saveUser_quiet fun _ => ?_
  exact Meets.seq (startSession_signs (.head _)) (fun _ _ _ => trivial) fun _ _ _ => trivial

theorem resendVerificationOtp_signs (email : String) :
    SignsOnly cfg known (resendVerificationOtp email) := by
  unfold resendVerificationOtp
  refine SignsOnly.failIf (Meets.query trivial fun found => Meets.okOr (fun _ => trivial) ?_)
  refine fun ⟨id, user⟩ _ => SignsOnly.seq generateVerificationCode_quiet fun code => ?_
  refine SignsOnly.seq inTenMinutes_quiet fun expiration => ?_
  exact SignsOnly.seq saveUser_quiet fun _ => Only.signs (Only.query rfl)

theorem login_signs (dto : LoginUserDto) : SignsOnly cfg known (login cfg dto) := by
  unfold login
  refine Meets.query trivial fun found => Meets.okOr (fun _ => trivial) fun ⟨id, user⟩ hfound => ?_
  obtain ⟨rfl, -⟩ := Option.filter_eq_some_iff.1 hfound
  refine Meets.ite (fun _ => ?_) fun _ => Meets.ite (fun _ => ?_) fun _ => ?_
  · exact Meets.seq (resendVerificationOtp_signs _) (fun _ _ _ => trivial) fun _ _ _ => trivial
  · exact ⟨⟨id, user, .head _, .temp⟩, fun _ => trivial⟩
  · exact Meets.seq (startSession_signs (.head _)) (fun _ _ _ => trivial) fun _ _ _ => trivial

theorem refreshToken_signs (token : String) : SignsOnly cfg known (refreshToken cfg token) := by
  unfold refreshToken validateRefreshToken
  have hvalid : (do
      let claims ← okOr (← ask (.verify .refresh token))
        (.unauthorized UserMessages.invalidRefreshToken)
      return claims.sub : Proc Uuid).Only Query.isQuiet :=
    Only.bind (Only.query rfl) fun _ => Only.bind Only.okOr fun _ => trivial
  refine SignsOnly.seq hvalid fun userId => Meets.query trivial fun found => ?_
  refine Meets.okOr (fun _ => trivial) fun ⟨id, user⟩ hfound => ?_
  subst hfound
  refine SignsOnly.seq (Only.query rfl) fun stored => Meets.okOr (fun _ => trivial) ?_
  refine fun ⟨tokenId, storedToken⟩ _ => Meets.ite (fun _ => Only.signs ?_) fun _ => ?_
  · exact ⟨rfl, fun _ => ⟨rfl, fun _ => ⟨rfl, fun _ => trivial⟩⟩⟩
  have hrest : SignsOnly cfg ((id, user) :: known) (do
      ask (.consumeToken tokenId)
      let tokens ← generateTokens cfg id user
      let _ ← createRefreshToken cfg id tokens.refreshToken storedToken.familyId
        (storedToken.version + 1)
      return tokens) := by
    refine SignsOnly.seq (Only.query rfl) fun _ => ?_
    refine (generateTokens_signs (.head _)).seq (fun _ tokens hq => ?_) fun _ _ _ => trivial
    subst hq
    exact SignsOnly.seq createRefreshToken_quiet fun _ => trivial
  cases storedToken.expiresAt with
  | none => exact hrest
  | some expiresAt => exact SignsOnly.seq (Only.query rfl) fun _ => SignsOnly.failIf hrest

theorem sendResetCode_signs (email : String) : SignsOnly cfg known (sendResetCode email) := by
  unfold sendResetCode
  refine SignsOnly.failIf (Meets.query trivial fun found => Meets.okOr (fun _ => trivial) ?_)
  refine fun ⟨id, user⟩ _ => SignsOnly.seq generateVerificationCode_quiet fun otp => ?_
  refine SignsOnly.seq inTenMinutes_quiet fun expiration => ?_
  exact SignsOnly.seq saveUser_quiet fun _ => Only.signs (Only.query rfl)

theorem verifyResetPasswordOtp_signs (dto : VerifyOtpDto) :
    SignsOnly cfg known (verifyResetPasswordOtp dto) := by
  unfold verifyResetPasswordOtp
  refine SignsOnly.failIf (SignsOnly.failIf ?_)
  refine Meets.query trivial fun found => Meets.okOr (fun _ => trivial) fun ⟨id, user⟩ _ => ?_
  exact SignsOnly.failIf (SignsOnly.seq failIfExpired_quiet fun _ => Only.signs saveUser_quiet)

theorem resetPassword_signs (dto : ResetPasswordDto) : SignsOnly cfg known (resetPassword dto) := by
  unfold resetPassword
  refine Meets.query trivial fun found => Meets.okOr (fun _ => trivial) fun ⟨id, user⟩ _ => ?_
  refine SignsOnly.seq failIfExpired_quiet fun _ => SignsOnly.failIf (SignsOnly.failIf ?_)
  refine SignsOnly.seq checkPassword_quiet fun _ => ?_
  exact SignsOnly.seq ⟨rfl, fun _ => trivial⟩ fun password => Only.signs saveUser_quiet

theorem verifyTotpLogin_signs (dto : VerifyTotpDto) :
    SignsOnly cfg known (verifyTotpLogin cfg dto) := by
  unfold verifyTotpLogin
  refine SignsOnly.seq verifyTempToken_quiet fun userId => Meets.query trivial fun found => ?_
  refine Meets.okOr (fun _ => trivial) fun ⟨id, user⟩ hfound => Meets.okOr (fun _ => trivial) ?_
  subst hfound
  refine fun secret _ => SignsOnly.seq (Only.query rfl) fun valid => SignsOnly.failIf ?_
  exact (generateTokens_signs (.head _)).seq (fun _ _ _ => trivial) fun _ _ _ => trivial

theorem verifyBackupCode_signs (dto : UseBackupCodeDto) :
    SignsOnly cfg known (verifyBackupCode cfg dto) := by
  unfold verifyBackupCode
  refine SignsOnly.seq verifyTempToken_quiet fun userId => Meets.query trivial fun found => ?_
  refine Meets.okOr (fun _ => trivial) fun ⟨id, user⟩ hfound => Meets.okOr (fun _ => trivial) ?_
  subst hfound
  refine fun codes _ => Meets.okOr (fun _ => trivial) fun index _ => ?_
  refine SignsOnly.seq saveUser_quiet fun _ => ?_
  -- the codes are not signed, so that the payloads are those of the row that was found
  have hsigns : Meets (signing cfg) ((id, user) :: known) (generateTokens cfg id
      { user with totpBackupCodes := some (codes.eraseIdx index) })
      fun q _ => q = (id, user) :: known := @generateTokens_signs cfg _ id user (.head _)
  exact hsigns.seq (fun _ _ _ => trivial) fun _ _ _ => trivial

theorem initiate2faSetup_signs (userId : Uuid) : SignsOnly cfg known (initiate2faSetup userId) := by
  unfold initiate2faSetup
  refine Meets.query trivial fun found => Meets.okOr (fun _ => trivial) fun ⟨id, user⟩ _ => ?_
  exact SignsOnly.seq (Only.query rfl) fun secret => SignsOnly.seq saveUser_quiet fun _ => trivial

theorem confirm2faSetup_signs (userId : Uuid) (token : String) :
    SignsOnly cfg known (confirm2faSetup userId token) := by
  unfold confirm2faSetup
  refine Meets.query trivial fun found => Meets.okOr (fun _ => trivial) fun ⟨id, user⟩ _ => ?_
  refine Meets.okOr (fun _ => trivial) fun secret _ => SignsOnly.seq (Only.query rfl) fun valid => ?_
  have hquiet (query : Query) (hquery : query.isQuiet) : (ask query).Only Query.isQuiet :=
    Only.query hquery
  refine SignsOnly.failIf (SignsOnly.seq ?_ fun plain => SignsOnly.seq ?_ fun hashed => ?_)
  · exact Only.mapM (fun _ => hquiet .randomBytes rfl) _
  · exact Only.mapM (fun code => hquiet (.hashPassword code) rfl) _
  · exact SignsOnly.seq saveUser_quiet fun _ => trivial

theorem disable2fa_signs (userId : Uuid) (password : String) :
    SignsOnly cfg known (disable2fa cfg userId password) := by
  unfold disable2fa
  refine Meets.query trivial fun found => Meets.okOr (fun _ => trivial) fun ⟨id, user⟩ _ => ?_
  exact SignsOnly.failIf (Only.signs saveUser_quiet)

theorem createAssertionOptions_signs (email : String) :
    SignsOnly cfg known (createAssertionOptions email) := by
  unfold createAssertionOptions
  refine Meets.query trivial fun found => Meets.okOr (fun _ => trivial) fun ⟨id, user⟩ _ => ?_
  refine SignsOnly.failIf (SignsOnly.seq (Only.query rfl) fun challenge => ?_)
  exact SignsOnly.seq (Only.query rfl) fun _ => trivial

theorem verifyAssertionResponse_signs (email responseId : String) :
    SignsOnly cfg known (verifyAssertionResponse cfg email responseId) := by
  unfold verifyAssertionResponse
  refine SignsOnly.seq (Only.query rfl) fun pending => Meets.okOr (fun _ => trivial) ?_
  refine fun challenge _ => Meets.query trivial fun found => Meets.okOr (fun _ => trivial) ?_
  rintro ⟨id, user⟩ rfl
  refine Meets.okOr (fun _ => trivial) fun credential _ => SignsOnly.seq (Only.query rfl) ?_
  refine fun counter => Meets.okOr (fun _ => trivial) fun newCounter _ => ?_
  refine SignsOnly.seq saveUser_quiet fun _ => SignsOnly.seq (Only.query rfl) fun _ => ?_
  have hsigns : Meets (signing cfg) ((id, user) :: known) (generateTokens cfg id
      { user with passkeyCredentials := some (countCredential responseId newCounter
        (user.passkeyCredentials.getD [])) }) fun q _ => q = (id, user) :: known :=
    @generateTokens_signs cfg _ id user (.head _)
  exact hsigns.seq (fun _ _ _ => trivial) fun _ _ _ => trivial

theorem program_signs (request : Request) :
    SignsOnly cfg request.rows (request.program cfg) := by
  cases request with
  | createUser dto => exact (createUser_signs dto).map
  | createAdminUser dto => exact (createAdminUser_signs dto).map
  | verifyOtp dto => exact (verifyOtp_signs dto).map
  | resendVerificationOtp email => exact (resendVerificationOtp_signs email).map
  | login dto => exact (login_signs dto).map
  | refreshToken token => exact (refreshToken_signs token).map
  | mintAuthTokensForUser id user => exact SignsOnly.map (startSession_signs (.head _))
  | requestResetPasswordOtp email | resendResetPasswordVerificationOtp email =>
    exact (sendResetCode_signs email).map
  | verifyResetPasswordOtp dto => exact (verifyResetPasswordOtp_signs dto).map
  | resetPassword dto => exact (resetPassword_signs dto).map
  | verifyTotpLogin dto => exact (verifyTotpLogin_signs dto).map
  | verifyBackupCode dto => exact (verifyBackupCode_signs dto).map
  | initiate2faSetup userId => exact (initiate2faSetup_signs userId).map
  | confirm2faSetup userId token => exact (confirm2faSetup_signs userId token).map
  | disable2fa userId password => exact (disable2fa_signs userId password).map
  | createAssertionOptions email => exact (createAssertionOptions_signs email).map
  | verifyAssertionResponse email responseId =>
    exact (verifyAssertionResponse_signs email responseId).map

/-! ## The signatures of a run -/

/-- What a session has, it has read, inserted or been given, and from this it signs. -/
structure Traced (cfg : Config) (tr : List SharedEv) (qs : ℕ → Option Rows) : Prop where
  origin : ∀ t known, qs t = some known → ∀ row ∈ known, Origin tr t row.1 row.2
  signs : Along (SignsKnown cfg) tr

variable {tr tr₁ tr₂ : List SharedEv} {e : SharedEv} {t : ℕ} {qs : ℕ → Option Rows}

theorem Origin.snoc (h : Origin tr t id user) : Origin (tr ++ [e]) t id user := by
  rcases h with ⟨e', he', h⟩ | h
  · exact Or.inl ⟨e', List.mem_append_left _ he', h⟩
  · exact Or.inr (called_snoc.2 (Or.inl h))

theorem Origin.mono (h : Origin tr₁ t id user) : Origin (tr₁ ++ tr₂) t id user := by
  induction tr₂ using List.reverseRecOn with
  | nil => rwa [List.append_nil]
  | append_singleton tr₂ e ih =>
    rw [← List.append_assoc]
    exact ih.snoc

/-- A session comes to have a row by a query that tells it, or by its request. -/
theorem after_origin {m : Moment} {op : Query} {a : Answer op} {row : Uuid × User}
    (hinp : e.inp = .step t m)
    (hexec : execAmong cfg t m e.pre.shared op = some (a, e.post.shared))
    (hrow : row ∈ (signing cfg).after known op a) :
    row ∈ known ∨ Origin (tr ++ [e]) t row.1 row.2 := by
  have htold (h : e.post.shared.user row.1 = some row.2) : Origin (tr ++ [e]) t row.1 row.2 :=
    Or.inl ⟨e, List.mem_append_right _ (.head _), ⟨m, hinp⟩, h⟩
  cases op with
  | findUser which =>
    cases a with
    | none => exact Or.inl hrow
    | some found =>
      rcases List.mem_cons.1 hrow with rfl | hrow
      · obtain ⟨hdb, huser, -⟩ := findUser_some hexec
        exact Or.inr (htold (hdb ▸ huser))
      · exact Or.inl hrow
  | insertUser user =>
    cases a with
    | none => exact Or.inl hrow
    | some id =>
      rcases List.mem_cons.1 hrow with rfl | hrow
      · rcases insertUser_cases hexec with ⟨h, -⟩ | ⟨h, -, -, hdb⟩
        · cases h
        · cases h
          refine Or.inr (htold ?_)
          rw [hdb]
          exact Finmap.lookup_insert _
      · exact Or.inl hrow
  | _ => exact Or.inl hrow

theorem Traced.call {request : Request} (h : Traced cfg tr qs) (hinp : e.inp = .call t request) :
    Traced cfg (tr ++ [e]) (Function.update qs t (some request.rows)) where
  origin t' known hknown row hrow := by
    rcases update_stage hknown with ⟨rfl, rfl⟩ | ⟨-, hknown⟩
    · cases request with
      | mintAuthTokensForUser id user =>
        rw [List.mem_singleton.1 hrow]
        exact Or.inr (called_snoc.2 (Or.inr hinp))
      | _ => cases hrow
    · exact (h.origin t' known hknown row hrow).snoc
  signs := along_snoc.2 ⟨h.signs, by
    rintro t' secret payload expiresIn now token ⟨m, hstep, -⟩
    cases hinp.symm.trans hstep⟩

theorem Traced.step {m : Moment} {op : Query} {a : Answer op}
    {post : Rows → Except HttpError Response → Prop}
    (hans : (serviceAmong cfg).Answered (signing cfg) post e qs t m known op a)
    (h : Traced cfg tr qs) :
    Traced cfg (tr ++ [e]) (Function.update qs t (some ((signing cfg).after known op a))) where
  origin t' known' hknown row hrow := by
    rcases update_stage hknown with ⟨rfl, rfl⟩ | ⟨-, hknown⟩
    · rcases after_origin hans.inp hans.exec hrow with hrow | horigin
      · exact (h.origin _ known hans.stage row hrow).snoc
      · exact horigin
    · exact (h.origin t' known' hknown row hrow).snoc
  signs := along_snoc.2 ⟨h.signs, by
    rintro t' secret payload expiresIn now token ⟨m', hstep, hasks, -⟩
    cases hans.inp.symm.trans hstep
    obtain rfl := hans.asks.unique hasks
    obtain ⟨id, user, hrow, hsignable⟩ := hans.permits
    exact ⟨id, user, h.origin t known hans.stage _ hrow, hsignable⟩⟩

/-- In every run, sessions sign for users whose rows they have. -/
theorem signs_of_run {db : Database} {p : Sessions}
    (h : Run (serviceAmong cfg).Steps (idle db) tr p) : Along (SignsKnown cfg) tr := by
  obtain ⟨qs, -, hJ⟩ := System.invariant (S := serviceAmong cfg) (P := signing cfg)
    (J := fun tr _ qs => Traced cfg tr qs) (C := fun _ _ => True) program_signs
    (fun tr e t request qs hinp _ _ _ hJ => hJ.call hinp)
    (fun tr e qs t m known op a hans _ hJ => hJ.step hans) h Tracks.idle
    ⟨nofun, along_nil _⟩ (along_iff_forall.2 fun _ _ => trivial)
  exact hJ.signs

/-! ## Whose authority it is -/

/-- Only the access secret is used to verify, and a signature gives the claims that were signed. -/
def SignsFaithfully (cfg : Config) : Prop :=
  ∀ secret claims claims', cfg.decode .access (cfg.sign secret claims) = some claims' →
    claims' = claims

variable {token : String} {now : Time} {claims : JwtClaims}

/-- A token that verifies was signed for a user, whose row the session had. -/
theorem signed_of_verified (hsign : SignsFaithfully cfg)
    (hsigns : Along (SignsKnown cfg) tr)
    (hunforged : (cfg.decode .access token).isSome → Signed cfg tr token)
    (hverify : verifyAt cfg .access token now = some claims) :
    ∃ tr₁ e tr₂ t secret payload expiresIn signedAt id user, tr = tr₁ ++ e :: tr₂ ∧
      Origin tr₁ t id user ∧ Signable cfg id user secret payload expiresIn ∧
      SignsAt cfg e t secret payload expiresIn signedAt token ∧ claims.toJwtPayload = payload ∧
      now / 1000 < signedAt / 1000 + expiresIn := by
  obtain ⟨hdecode, hexp⟩ := Option.filter_eq_some_iff.1 hverify
  obtain ⟨e, he, t, secret, payload, expiresIn, signedAt, hat⟩ :=
    hunforged (Option.isSome_iff_exists.2 ⟨claims, hdecode⟩)
  obtain ⟨tr₁, tr₂, rfl⟩ := List.append_of_mem he
  obtain ⟨id, user, horigin, hsignable⟩ :=
    hsigns tr₁ e tr₂ rfl t secret payload expiresIn signedAt token hat
  have htoken : token = signAt cfg secret payload expiresIn signedAt := hat.choose_spec.2.2.2
  rw [htoken, signAt] at hdecode
  obtain rfl := hsign _ _ _ hdecode
  exact ⟨tr₁, e, tr₂, t, secret, payload, expiresIn, signedAt, id, user, rfl, horigin, hsignable,
    hat, rfl, of_decide_eq_true hexp⟩

/-- A token whose claims tell a role is an access token. -/
theorem warranted_of_role (hsign : SignsFaithfully cfg) (hsigns : Along (SignsKnown cfg) tr)
    (hunforged : (cfg.decode .access token).isSome → Signed cfg tr token) {role : UserRole}
    (hverify : verifyFor cfg token now = some claims) (hrole : claims.role = some role) :
    ∃ id user, Warranted cfg tr now id user token ∧
      claims.toJwtPayload = accessPayload cfg id user := by
  obtain ⟨hverify, -⟩ := Option.filter_eq_some_iff.1 hverify
  obtain ⟨tr₁, e, tr₂, t, secret, payload, expiresIn, signedAt, id, user, rfl, horigin, hsignable,
    hat, hclaims, hexp⟩ := signed_of_verified hsign hsigns hunforged hverify
  rw [hclaims] at hrole
  cases hsignable with
  | access => exact ⟨id, user, ⟨tr₁, e, tr₂, t, signedAt, rfl, horigin, hat, hexp⟩, hclaims⟩
  | refresh | temp => cases hrole

/-! ### What the guards let through -/

section
variable {db : Database} {bearer : Bearer} {tenant : Tenant} {roles : List UserRole}
  {headerHubId defaultHubId : Option Uuid}

theorem roleLevel_pos (role : UserRole) : 0 < roleLevel role := by cases role <;> decide

theorem verified_of_authenticate (h : authenticate cfg db token now = .ok bearer) :
    ∃ claims, verifyFor cfg token now = some claims ∧ bearer.id = claims.sub ∧
      bearer.role = claims.role ∧ bearer.hubId = claims.hubId := by
  unfold authenticate at h
  split at h
  · cases h
  · next claims hverify =>
    split at h
    · cases h
    · cases h
      exact ⟨claims, hverify, rfl, rfl, rfl⟩

theorem joined_of_handleConnection (h : handleConnection cfg token now = some id) :
    ∃ claims, verifyAt cfg .access token now = some claims ∧ claims.sub = id := by
  unfold handleConnection at h
  split_ifs at h with hempty
  exact Option.map_eq_some_iff.1 h

theorem role_of_canActivate (h : canActivate (some roles) (some bearer) = .ok ()) :
    ∃ role, bearer.role = some role ∧ ∃ required ∈ roles, roleLevel required ≤ roleLevel role := by
  simp only [canActivate, List.any_eq_true, decide_eq_true_eq] at h
  split_ifs at h with hany
  obtain ⟨required, hmem, hlevel⟩ := hany
  cases hrole : bearer.role with
  | none =>
    -- no role is below every level
    rw [hrole, Option.map_none, Option.getD_none] at hlevel
    exact absurd (roleLevel_pos required) (Nat.not_lt.2 hlevel)
  | some role =>
    rw [hrole, Option.map_some, Option.getD_some] at hlevel
    exact ⟨role, rfl, required, hmem, hlevel⟩

theorem resolveTenant_cases (h : resolveTenant defaultHubId headerHubId (some bearer) = .ok tenant) :
    tenant = { hubId := bearer.hubId <|> defaultHubId } ∨
    (bearer.role = some .admin ∨ bearer.role = some .superAdmin) ∧
      ∃ header, headerHubId = some header ∧ tenant = {
        hubId := some header
        switched := some {
          actorId := bearer.id, actorEmail := bearer.email, actorRole := bearer.role
          targetId := header } } := by
  unfold resolveTenant at h
  split at h
  · cases h
    exact Or.inl rfl
  · next header hheader =>
    dsimp only at h
    split_ifs at h with hown
    · cases h
      exact Or.inl rfl
    split at h
    · next admin hadmin =>
      obtain ⟨hsame, hrole⟩ := Option.filter_eq_some_iff.1 hadmin
      cases hsame
      cases h
      exact Or.inr ⟨of_decide_eq_true hrole, header, (Option.filter_eq_some_iff.1 hheader).1, rfl⟩
    · cases h

theorem ok_of_bind {ε α β : Type} {x : Except ε α} {f : α → Except ε β} {b : β}
    (h : x >>= f = .ok b) : ∃ a, x = .ok a ∧ f a = .ok b := by
  cases x with
  | error e => cases h
  | ok a => exact ⟨a, rfl, h⟩

theorem ok_of_toOption {ε α : Type} {x : Except ε α} {a : α} (h : x.toOption = some a) :
    x = .ok a := by
  cases x with
  | error e => cases h
  | ok b =>
    cases h
    rfl

theorem passGuards_cases
    (h : passGuards cfg db token now (some roles) headerHubId = .ok (bearer, tenant)) :
    authenticate cfg db token now = .ok bearer ∧ canActivate (some roles) (some bearer) = .ok () ∧
      resolveTenant cfg.defaultHubId headerHubId (some bearer) = .ok tenant := by
  obtain ⟨bearer', hbearer, h⟩ := ok_of_bind h
  obtain ⟨⟨⟩, hactive, h⟩ := ok_of_bind h
  obtain ⟨tenant', htenant, h⟩ := ok_of_bind h
  cases h
  exact ⟨hbearer, hactive, htenant⟩

end

/-! ### The whole -/

/-- An administrator switches to the hub of a header. -/
structure Switches (bearer : Bearer) (headerHubId : Option Uuid) (tenant : Tenant) : Prop where
  admin : bearer.role = some .admin ∨ bearer.role = some .superAdmin
  audited : ∃ header, headerHubId = some header ∧ tenant = {
    hubId := some header
    switched := some {
      actorId := bearer.id, actorEmail := bearer.email, actorRole := bearer.role
      targetId := header } }

/-- **However requests are interleaved, and whatever others write: the role and the hub that a
    handler sees are those of a row that a session had when it signed the token, not longer ago than
    tokens last, and an administrator alone reads the metrics or switches hubs, which is logged.  A
    token for the second factor opens no handler.  It may open the gateway, whose notifications go
    to the user whom the token was signed for, whatever it was signed as.** -/
theorem authority_signed {db : Database} {p : Sessions} (hsign : SignsFaithfully cfg)
    (h : Run (serviceAmong cfg).Steps (idle db) tr p)
    (hunforged : (cfg.decode .access token).isSome → Signed cfg tr token) :
    (∀ db' now roles headerHubId bearer tenant,
      passGuards cfg db' token now (some roles) headerHubId = .ok (bearer, tenant) →
      ∃ user, Warranted cfg tr now bearer.id user token ∧ bearer.role = some user.role ∧
        (∃ required ∈ roles, roleLevel required ≤ roleLevel user.role) ∧
        (tenant = { hubId := user.hubId <|> cfg.defaultHubId } ∨
          Switches bearer headerHubId tenant)) ∧
    (∀ now scrapeToken, readMetrics cfg token now scrapeToken = .ok () →
      token = scrapeToken ∨ ∃ id user, Warranted cfg tr now id user token ∧
        (user.role = .admin ∨ user.role = .superAdmin)) ∧
    (∀ e ∈ tr, ∀ t secret id expiresIn signedAt,
      SignsAt cfg e t secret (tempPayload id) expiresIn signedAt token →
      (∀ db' now bearer, authenticate cfg db' token now ≠ .ok bearer) ∧
      ∀ now id', handleConnection cfg token now = some id' → id' = id) ∧
    ∀ now id, handleConnection cfg token now = some id →
      ∃ tr₁ e tr₂ t user secret payload expiresIn signedAt, tr = tr₁ ++ e :: tr₂ ∧
        Origin tr₁ t id user ∧ Signable cfg id user secret payload expiresIn ∧
        SignsAt cfg e t secret payload expiresIn signedAt token := by
  have hsigns := signs_of_run h
  refine ⟨?_, ?_, ?_, ?_⟩
  · intro db' now roles headerHubId bearer tenant hadmit
    obtain ⟨hbearer, hactive, htenant⟩ := passGuards_cases hadmit
    obtain ⟨claims, hverify, hid, hrole, hhub⟩ := verified_of_authenticate hbearer
    obtain ⟨role, hrole', required, hmem, hlevel⟩ := role_of_canActivate hactive
    obtain ⟨id, user, hwarranted, hclaims⟩ :=
      warranted_of_role hsign hsigns hunforged hverify (hrole.symm.trans hrole')
    rw [hclaims] at hid hrole hhub
    rw [hrole] at hrole'
    cases hrole'
    refine ⟨user, hid ▸ hwarranted, hrole, ⟨required, hmem, hlevel⟩, ?_⟩
    rcases resolveTenant_cases htenant with htenant | ⟨hadmin, haudited⟩
    · left
      rw [htenant, hhub]
      cases huser : user.hubId <;> cases hdefault : cfg.defaultHubId <;>
        simp [accessPayload, huser, hdefault]
    · exact Or.inr ⟨hadmin, haudited⟩
  · intro now scrapeToken hread
    unfold readMetrics at hread
    split_ifs at hread with hscrape hempty
    · exact Or.inl hscrape.2.2
    split at hread
    · next claims hverify =>
      split_ifs at hread with hadmin
      obtain ⟨role, hrole, hadmin⟩ : ∃ role, claims.role = some role ∧
          (role = .admin ∨ role = .superAdmin) := by
        rcases hadmin with hrole | hrole
        · exact ⟨_, hrole, Or.inl rfl⟩
        · exact ⟨_, hrole, Or.inr rfl⟩
      obtain ⟨id, user, hwarranted, hclaims⟩ :=
        warranted_of_role hsign hsigns hunforged hverify hrole
      rw [hclaims] at hrole
      cases hrole
      exact Or.inr ⟨id, user, hwarranted, hadmin⟩
    · cases hread
  · rintro e - t secret id expiresIn signedAt ⟨m, -, -, -, rfl⟩
    refine ⟨fun db' now bearer hbearer => ?_, fun now id' hjoins => ?_⟩
    · obtain ⟨claims, hverify, -⟩ := verified_of_authenticate hbearer
      obtain ⟨hverify, hissued⟩ := Option.filter_eq_some_iff.1 hverify
      obtain ⟨hdecode, -⟩ := Option.filter_eq_some_iff.1 hverify
      obtain rfl := hsign _ _ _ hdecode
      -- a temporary token names no issuer
      cases (of_decide_eq_true hissued).1
    · obtain ⟨claims, hverify, rfl⟩ := joined_of_handleConnection hjoins
      obtain ⟨hdecode, -⟩ := Option.filter_eq_some_iff.1 hverify
      obtain rfl := hsign _ _ _ hdecode
      rfl
  · intro now id hjoins
    obtain ⟨claims, hverify, rfl⟩ := joined_of_handleConnection hjoins
    obtain ⟨tr₁, e, tr₂, t, secret, payload, expiresIn, signedAt, id, user, rfl, horigin, hsignable,
      hat, hclaims, -⟩ := signed_of_verified hsign hsigns hunforged hverify
    have hid : claims.sub = id := by
      rw [hclaims]
      cases hsignable <;> rfl
    exact ⟨tr₁, e, tr₂, t, user, secret, payload, expiresIn, signedAt, rfl, hid ▸ horigin,
      hid ▸ hsignable, hat⟩

end

/-! ### An example -/

def administrator : User :=
  { email := "e", firstname := "Ada", lastname := "L", password := "p", isVerified := true
    role := .admin }

def administratorClaims : JwtClaims :=
  { accessPayload plainConfig "u" administrator with iat := 0, exp := 900 }

/-- A configuration for examples, with one access token. -/
def administratorConfig : Config :=
  { plainConfig with
    sign := fun
      | .access, claims => if claims = administratorClaims then "access" else "other"
      | .refresh, _ => "refresh"
    decode := fun
      | .access, token => if token = "access" then some administratorClaims else none
      | .refresh, _ => none }

theorem administratorConfig_sign : SignsFaithfully administratorConfig := by
  intro secret claims claims' h
  have h : (if administratorConfig.sign secret claims = "access" then some administratorClaims
    else none) = some claims' := h
  obtain ⟨htoken, heq⟩ := Option.ite_none_right_eq_some.1 h
  cases heq
  cases secret with
  | access =>
    have htoken : (if claims = administratorClaims then "access" else "other") = "access" := htoken
    split_ifs at htoken with hclaims
    · exact hclaims.symm
    · exact absurd htoken (by decide)
  | refresh => exact absurd htoken (show ¬ "refresh" = "access" by decide)

/-- An administrator logs in, and is an administrator no longer: the token still switches hubs. -/
theorem authority_signed_demoted : ∃ tr p,
    Run (serviceAmong administratorConfig).Steps (idle (Finmap.insert (.user "u") administrator ∅))
      tr p ∧
    (p.shared.user "u").map (·.role) = some .user ∧
    ∃ bearer tenant user, passGuards administratorConfig p.shared "access" 1000 (some [.staff])
        (some "h") = .ok (bearer, tenant) ∧
      Warranted administratorConfig tr 1000 "u" user "access" ∧ user.role = .admin ∧
      tenant.hubId = some "h" := by
  have hplay : ((serviceAmong administratorConfig).play
      (idle (Finmap.insert (.user "u") administrator ∅))
      [.call 0 (.login ⟨"e", "p"⟩), .step 0 { row := some "u" }, .step 0 {}, .step 0 {},
        .step 0 { text := "f", others := some (Finmap.insert (.user "u")
          { administrator with role := .user } ∅) }]).any fun x =>
      (x.2.shared.user "u").map (·.role) = some .user ∧
      x.1.any (signs administratorConfig "access") ∧
      (passGuards administratorConfig x.2.shared "access" 1000 (some [.staff]) (some "h")).toOption.any
        fun y => y.1.id = "u" ∧ y.1.role = some .admin ∧ y.2.hubId = some "h" := by
    decide +kernel
  obtain ⟨⟨tr, p⟩, hplay, hfacts⟩ := (Option.any_eq_true _ _).1 hplay
  obtain ⟨hdemoted, hsigned, hadmit⟩ := of_decide_eq_true hfacts
  obtain ⟨⟨bearer, tenant⟩, hadmit, hfacts⟩ := (Option.any_eq_true _ _).1 hadmit
  obtain ⟨hid, hrole, hhub⟩ := of_decide_eq_true hfacts
  have hadmit := ok_of_toOption hadmit
  obtain ⟨user, hwarranted, huser, -⟩ := (authority_signed administratorConfig_sign
    (System.run_play hplay) fun _ => signed_of_any hsigned).1 _ _ _ _ _ _ hadmit
  rw [hrole] at huser
  refine ⟨tr, p, System.run_play hplay, hdemoted, bearer, tenant, user, hadmit, ?_, ?_, hhub⟩
  · exact (show bearer.id = "u" from hid) ▸ hwarranted
  · exact (Option.some.inj huser).symm

end Auth
