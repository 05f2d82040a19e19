/-
  What the operations of the passkey service do, each run alone.
-/
import NovaLabs.Passkey.Operations
import NovaLabs.Auth.Calls

namespace Passkey

open Lib Process
open Backend (Uuid)
open Auth (User PasskeyCredential HttpError Tokens)

section
variable {α : Type} {cfg : Auth.Config} {W : World → Prop} {s s' : Server} {email : String}
  {userId : Uuid} {response : AuthenticatorResponse}

/-! ## Queries -/

/-- A part of the server is the database. -/
def dbPart : Part Auth.Database Server where
  get := Server.db
  put s db := { s with db }
  get_put _ _ := rfl
  put_get _ := rfl
  put_put _ _ _ := rfl

/-- A program of the authentication services, run alone on the database. -/
theorem ofAuth_alone {x : Auth.Proc α} {r : Except HttpError α}
    (h : Alone (exec cfg) W s (ofAuth x) r s') :
    ∃ db, Alone (Auth.exec cfg) (fun w => ∃ w', W w' ∧ w'.toWorld = w) s.db x r db ∧
      s' = { s with db } := Alone.embed (f := Query.auth) dbPart (fun _ _ _ => rfl) h

theorem findUser_alone {which : Auth.UserWhere} {e : HttpError} {f : Uuid × User → Proc α}
    {r : Except HttpError α}
    (h : Alone (exec cfg) W s (ask (.auth (.findUser which)) >>= fun o => okOr o e >>= f) r s') :
    (r = .error e ∧ s' = s ∧ ∀ id user, s.db.user id = some user → ¬ which.selects id user) ∨
      ∃ id user, s.db.user id = some user ∧ which.selects id user ∧
        Alone (exec cfg) W s (f (id, user)) r s' := by
  obtain ⟨w, found, _, -, hexec, h⟩ := Alone.query h
  obtain ⟨⟨found, db⟩, hfind, heq⟩ := Option.map_eq_some_iff.1 hexec
  cases heq
  obtain rfl : s.db = db := by
    obtain ⟨_, -, heq⟩ := Option.map_eq_some_iff.1 hfind
    exact (Prod.mk.inj heq).2
  rcases Alone.okOr h with ⟨rfl, rfl, rfl⟩ | ⟨⟨id, user⟩, rfl, h⟩
  · exact Or.inl ⟨rfl, rfl, fun id user huser => (Auth.findUser_none hfind huser).2⟩
  · obtain ⟨-, huser, hselects⟩ := Auth.findUser_some hfind
    exact Or.inr ⟨id, user, huser, hselects, h⟩

/-- The challenge that is pending under a key. -/
def Server.Pending (s : Server) (key challenge : String) : Prop :=
  s.db.challenge key = some challenge ∧ challenge ≠ ""

theorem pending_alone {key : String} {e : HttpError} {f : String → Proc α}
    {r : Except HttpError α}
    (h : Alone (exec cfg) W s (ask (.auth (.findChallenge key)) >>= fun pending =>
      okOr (pending.filter (· ≠ "")) e >>= f) r s') :
    (r = .error e ∧ s' = s ∧ ∀ challenge, ¬ s.Pending key challenge) ∨
      ∃ challenge, s.Pending key challenge ∧ Alone (exec cfg) W s (f challenge) r s' := by
  obtain ⟨w, pending, _, -, hexec, h⟩ := Alone.query h
  cases hexec
  rcases Alone.okOr h with ⟨hnone, rfl, rfl⟩ | ⟨challenge, hsome, h⟩
  · refine Or.inl ⟨rfl, rfl, fun challenge hp => ?_⟩
    rw [hp.1, Option.filter_some, if_pos (by simpa using hp.2)] at hnone
    cases hnone
  · obtain ⟨hpending, hne⟩ := Option.filter_eq_some_iff.1 hsome
    exact Or.inr ⟨challenge, ⟨hpending, of_decide_eq_true hne⟩, h⟩

/-- The user with other credentials. -/
def withCredentials (user : User) (list : List PasskeyCredential) : User :=
  { user with passkeyCredentials := some list }

@[simp] theorem credentials_with (user : User) (list : List PasskeyCredential) :
    credentials (withCredentials user list) = list := rfl

@[simp] theorem email_with (user : User) (list : List PasskeyCredential) :
    (withCredentials user list).email = user.email := rfl

/-- A save of the credentials changes these. -/
theorem save_alone {id : Uuid} {user : User} {list : List PasskeyCredential} {f : Unit → Proc α}
    {r : Except HttpError α} (huser : s.db.user id = some user)
    (h : Alone (exec cfg) W s
      (ofAuth (Auth.saveUser id (withCredentials user list) {}) >>= f) r s') :
    ∃ db, db.user = Function.update s.db.user id (some (withCredentials user list)) ∧
      Alone (exec cfg) W { s with db } (f ()) r s' := by
  have hsave {r₁ : Except HttpError Unit} {s₁ : Server}
      (h : Alone (exec cfg) W s (ofAuth (Auth.saveUser id (withCredentials user list) {})) r₁ s₁) :
      r₁ = .ok () ∧ ∃ db, s₁ = { s with db } ∧
        db.user = Function.update s.db.user id (some (withCredentials user list)) := by
    obtain ⟨db, halone, rfl⟩ := ofAuth_alone h
    rw [← bind_pure (Auth.saveUser id (withCredentials user list) {})] at halone
    obtain ⟨db₁, hdb₁, hend⟩ := Auth.saveUser_alone huser halone
    obtain ⟨rfl, rfl⟩ := hend.value
    exact ⟨rfl, db, rfl, hdb₁⟩
  rcases h.seq with ⟨_, s₁, h₁, h⟩ | ⟨e, -, h₁⟩
  · obtain ⟨-, db, rfl, hdb⟩ := hsave h₁
    exact ⟨db, hdb, h⟩
  · cases (hsave h₁).1

theorem tokens_alone {id : Uuid} {user : User} {f : Tokens → Proc α} {r : Except HttpError α}
    (h : Alone (exec cfg) W s (ofAuth (Auth.generateTokens cfg id user) >>= f) r s') :
    ∃ tokens, Alone (exec cfg) W s (f tokens) r s' := by
  have hsign {r₁ : Except HttpError Tokens} {s₁ : Server}
      (h : Alone (exec cfg) W s (ofAuth (Auth.generateTokens cfg id user)) r₁ s₁) :
      s₁ = s ∧ ∃ tokens, r₁ = .ok tokens := by
    obtain ⟨db, halone, rfl⟩ := ofAuth_alone h
    obtain ⟨_, _, _, -, ⟨⟩, hrefresh⟩ := Alone.query halone
    obtain ⟨_, _, _, -, ⟨⟩, hend⟩ := Alone.query hrefresh
    obtain ⟨rfl, rfl⟩ := hend.value
    exact ⟨rfl, _, rfl⟩
  rcases h.seq with ⟨tokens, s₁, h₁, h⟩ | ⟨e, -, h₁⟩
  · exact ⟨tokens, (hsign h₁).1 ▸ h⟩
  · obtain ⟨-, _, heq⟩ := hsign h₁
    cases heq

/-! ## The map of challenges -/

theorem user_setChallenge (db : Auth.Database) (key challenge : String) :
    Auth.Database.user (Finmap.insert (.challenge key) challenge db) = db.user :=
  funext fun _ => Finmap.lookup_insert_of_ne _ Auth.Row.noConfusion

theorem user_deleteChallenge (db : Auth.Database) (key : String) :
    Auth.Database.user (Finmap.erase (.challenge key) db) = db.user :=
  funext fun _ => Finmap.lookup_erase_ne Auth.Row.noConfusion

/-! ## Operations -/

theorem createRegistrationOptions_alone {r : Except HttpError String}
    (h : Alone (exec cfg) W s (createRegistrationOptions cfg userId) r s') :
    s'.db.user = s.db.user := by
  unfold createRegistrationOptions at h
  rcases findUser_alone h with ⟨-, rfl, -⟩ | ⟨id, user, -, -, h⟩
  · rfl
  · obtain ⟨w, challenge, s₁, -, hgenerate, h⟩ := Alone.query h
    obtain ⟨-, heq⟩ := Option.ite_none_right_eq_some.1 hgenerate
    cases heq
    obtain ⟨_, _, s₂, -, ⟨⟩, h⟩ := Alone.query h
    obtain ⟨-, rfl⟩ := h.value
    exact user_setChallenge ..

/-- A registration adds the credential, or fails. -/
theorem verifyRegistration_alone {r : Except HttpError (Uuid × User)}
    (h : Alone (exec cfg) W s (verifyRegistrationResponse userId response) r s') :
    ((∃ e, r = .error e) ∧ s' = s) ∨
      ∃ user w, W w ∧ (∃ out, r = .ok out) ∧ s.db.user userId = some user ∧
        s'.db.user = Function.update s.db.user userId (some (withCredentials user
          (credentials user ++ [storedCredential response
            ⟨response.id, w.publicKey, w.newCounter⟩]))) := by
  unfold verifyRegistrationResponse at h
  rcases pending_alone h with ⟨rfl, rfl, -⟩ | ⟨challenge, -, h⟩
  · exact Or.inl ⟨⟨_, rfl⟩, rfl⟩
  rcases findUser_alone h with ⟨rfl, rfl, -⟩ | ⟨id, user, huser, hid, hrest⟩
  · exact Or.inl ⟨⟨_, rfl⟩, rfl⟩
  obtain rfl := of_decide_eq_true hid
  obtain ⟨w, credential, _, hw, ⟨⟩, h⟩ := Alone.query hrest
  rcases Alone.okOr h with ⟨-, rfl, rfl⟩ | ⟨credential, hcredential, h⟩
  · exact Or.inl ⟨⟨_, rfl⟩, rfl⟩
  obtain ⟨-, heq⟩ := Option.ite_none_right_eq_some.1 hcredential
  cases heq
  obtain ⟨db, hdb, h⟩ := save_alone huser h
  obtain ⟨_, _, _, -, ⟨⟩, h⟩ := Alone.query h
  obtain ⟨rfl, rfl⟩ := h.value
  exact Or.inr ⟨user, w, hw, ⟨_, rfl⟩, huser, (user_deleteChallenge ..).trans hdb⟩

/-- Options list the credentials of the user, and come with a challenge that is pending then. -/
theorem createAssertionOptions_alone {r : Except HttpError AssertionOptions}
    (h : Alone (exec cfg) W s (createAssertionOptions email) r s') :
    ((∃ e, r = .error e) ∧ s' = s ∧ ((∀ id user, s.db.user id = some user → user.email ≠ email) ∨
        ∃ id user, s.db.user id = some user ∧ user.email = email ∧ credentials user = [])) ∨
      ∃ id user options, s.db.user id = some user ∧ user.email = email ∧ r = .ok options ∧
        options.allowCredentials = allowCredentials user ∧ s'.db.user = s.db.user ∧
        s'.Pending (assertKey email) options.challenge := by
  unfold createAssertionOptions at h
  rcases findUser_alone h with ⟨rfl, rfl, hnone⟩ | ⟨id, user, huser, hemail, h⟩
  · refine Or.inl ⟨⟨_, rfl⟩, rfl, Or.inl fun id user huser hemail => hnone id user huser ?_⟩
    exact decide_eq_true hemail
  have hemail := of_decide_eq_true hemail
  rcases Alone.failIf h with ⟨hnil, rfl, rfl⟩ | ⟨-, h⟩
  · exact Or.inl ⟨⟨_, rfl⟩, rfl, Or.inr ⟨id, user, huser, hemail, hnil⟩⟩
  obtain ⟨w, challenge, s₁, -, hgenerate, h⟩ := Alone.query h
  obtain ⟨⟨hne, -⟩, heq⟩ := Option.ite_none_right_eq_some.1 hgenerate
  cases heq
  obtain ⟨_, _, s₂, -, ⟨⟩, h⟩ := Alone.query h
  obtain ⟨rfl, rfl⟩ := h.value
  exact Or.inr ⟨id, user, _, huser, hemail, rfl, rfl, user_setChallenge ..,
    Finmap.lookup_insert .., hne⟩

/-- An assertion that is verified with a stored credential changes the counter of that one. -/
theorem verifyAssertion_alone {r : Except HttpError (Uuid × User × Tokens)}
    (h : Alone (exec cfg) W s (verifyAssertionResponse cfg email response) r s') :
    ((∃ e, r = .error e) ∧ s'.db.user = s.db.user ∧
      (s.Pending (assertKey email) response.challenge →
        (∀ id user, s.db.user id = some user → user.email ≠ email) ∨
          ∃ id user, s.db.user id = some user ∧ user.email = email ∧
            (credentials user).find? (·.id = response.id) = none)) ∨
      ∃ id user credential w, W w ∧ (∃ out, r = .ok out) ∧ s.db.user id = some user ∧
        user.email = email ∧ (credentials user).find? (·.id = response.id) = some credential ∧
        s'.passed = verificationCredential response.id credential :: s.passed ∧
        s'.db.user = Function.update s.db.user id (some (withCredentials user
          (Auth.countCredential response.id w.newCounter (credentials user)))) := by
  unfold verifyAssertionResponse at h
  rcases pending_alone h with ⟨rfl, rfl, hnone⟩ | ⟨challenge, hpending, h⟩
  · exact Or.inl ⟨⟨_, rfl⟩, rfl, fun hp => absurd hp (hnone _)⟩
  rcases findUser_alone h with ⟨rfl, rfl, hnone⟩ | ⟨id, user, huser, hemail, h⟩
  · refine Or.inl ⟨⟨_, rfl⟩, rfl, fun _ => Or.inl fun id user huser hemail => ?_⟩
    exact hnone id user huser (decide_eq_true hemail)
  have hemail := of_decide_eq_true hemail
  rcases Alone.okOr h with ⟨hfind, rfl, rfl⟩ | ⟨credential, hfind, h⟩
  · exact Or.inl ⟨⟨_, rfl⟩, rfl, fun _ => Or.inr ⟨id, user, huser, hemail, hfind⟩⟩
  obtain ⟨w, counter, _, hw, hverify, h⟩ := Alone.query h
  cases hverify
  rcases Alone.okOr h with ⟨hrefused, rfl, rfl⟩ | ⟨counter, hcounter, h⟩
  · refine Or.inl ⟨⟨_, rfl⟩, rfl, fun hp => ?_⟩
    have heq : response.challenge = challenge := Option.some.inj (hp.1.symm.trans hpending.1)
    rw [if_pos heq] at hrefused
    cases hrefused
  obtain ⟨-, heq⟩ := Option.ite_none_right_eq_some.1 hcounter
  cases heq
  obtain ⟨db, hdb, h⟩ := save_alone
    (s := { s with passed := verificationCredential response.id credential :: s.passed }) huser h
  obtain ⟨_, _, _, -, ⟨⟩, h⟩ := Alone.query h
  obtain ⟨tokens, h⟩ := tokens_alone h
  obtain ⟨rfl, rfl⟩ := h.value
  exact Or.inr ⟨id, user, credential, w, hw, ⟨_, rfl⟩, huser, hemail, hfind, rfl,
    (user_deleteChallenge ..).trans hdb⟩

/-! ## Each call ends -/

theorem generate_total (s : Server) : ∃ challenge s', s.generate challenge = some (challenge, s') := by
  obtain ⟨challenge, hfresh⟩ := Infinite.exists_notMem_finset ("" :: s.issued).toFinset
  rw [List.mem_toFinset, List.mem_cons, not_or] at hfresh
  exact ⟨challenge, _, if_pos hfresh⟩

theorem exec_total (cfg : Auth.Config) (newCounter : ℕ) (s : Server) (q : Query) :
    ∃ w a s', World.newCounter w = newCounter ∧ exec cfg w s q = some (a, s') := by
  cases q with
  | auth q =>
    obtain ⟨w, a, db, -, h⟩ := Auth.exec_total cfg 0 s.db q
    exact ⟨{ w with newCounter }, a, _, rfl, Option.map_eq_some_iff.2 ⟨(a, db), h, rfl⟩⟩
  | generateRegistrationOptions | generateAuthenticationOptions =>
    obtain ⟨text, s', h⟩ := generate_total s
    exact ⟨{ text, newCounter }, _, s', rfl, h⟩
  | verifyRegistration | verifyAuthentication => exact ⟨{ newCounter }, _, _, rfl, rfl⟩

theorem exists_call (cfg : Auth.Config) (newCounter : ℕ) (s : Server) (x : Proc α) :
    ∃ r s', Alone (exec cfg) (fun w => w.newCounter = newCounter) s x r s' :=
  exists_alone (fun s q => exec_total cfg newCounter s q) x s

end

end Passkey
