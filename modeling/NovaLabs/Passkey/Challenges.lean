/-
  The challenges of passkeys, however requests are interleaved.

  A verification reads the pending challenge when it begins, and deletes what is pending when it
  ends.  Where this is still the challenge that it has read, each challenge is used once.
-/
import NovaLabs.Passkey.Operations
import NovaLabs.Auth.Rotation

namespace Passkey

open Lib Process
open Backend (Uuid)
open Auth (User HttpError Tokens)

/-! ## Queries about challenges -/

namespace Query

/-- The key that is read. -/
def reads : Query → Option String
  | .auth (.findChallenge key) => some key
  | _ => none

/-- The key that is written. -/
def writes : Query → Option String
  | .auth (.setChallenge key _) | .auth (.deleteChallenge key) => some key
  | _ => none

/-- The key whose challenge is deleted. -/
def deletes : Query → Option String
  | .auth (.deleteChallenge key) => some key
  | _ => none

/-- The challenge that a response has to be made for. -/
def expectedChallenge : Query → Option String
  | .verifyRegistration _ challenge | .verifyAuthentication _ challenge _ => some challenge
  | _ => none

/-- The query creates options. -/
def generates : Query → Prop
  | .generateRegistrationOptions _ _ _ | .generateAuthenticationOptions _ => True
  | _ => False

/-- The query is about users and tokens only. -/
def sparesChallenges : Query → Bool
  | .auth (.findUser _) | .auth (.reloadUser _) | .auth (.updateUser _ _) | .auth (.sign _ _ _) => true
  | _ => false

end Query

/-! ## Stages -/

/-- How far a session has got with its challenge. -/
inductive Stage
  | opening
  | generated (challenge : String)
  | opened
  | checking (key : String)
  | holding (key challenge : String)
  | accepted (key challenge : String)
  | consumed (challenge : String)
  | refused

namespace Stage

def permits : Stage → Query → Prop
  | opening, q => q.sparesChallenges ∨ q.generates
  | generated challenge, q => ∃ key, q = .auth (.setChallenge key challenge)
  | checking key, q => q = .auth (.findChallenge key)
  | holding key challenge, q =>
    (∃ email, q = .auth (.findUser (.byEmail email))) ∨
      (∃ userId, q = .auth (.findUser (.byId userId)) ∧ key = registerKey userId) ∨
      q.expectedChallenge = some challenge
  | accepted key _, q => q.sparesChallenges ∨ q = .auth (.deleteChallenge key)
  | consumed _, q => q.sparesChallenges
  | opened, _ | refused, _ => False

/-- A user that is found has the id that was asked for. -/
def after : Stage → (q : Query) → Answer q → Stage
  | opening, .generateRegistrationOptions _ _ _, challenge
  | opening, .generateAuthenticationOptions _, challenge => generated challenge
  | generated _, .auth (.setChallenge _ _), _ => opened
  | checking key, .auth (.findChallenge _), pending =>
    (pending.filter (· ≠ "")).elim refused (holding key)
  | holding _ challenge, .auth (.findUser (.byId _)), some (id, _) =>
    holding (registerKey id) challenge
  | holding key challenge, .verifyRegistration _ _, some _
  | holding key challenge, .verifyAuthentication _ _ _, some _ => accepted key challenge
  | holding _ _, .verifyRegistration _ _, none
  | holding _ _, .verifyAuthentication _ _ _, none => refused
  | accepted _ challenge, .auth (.deleteChallenge _), _ => consumed challenge
  | q, _, _ => q

/-- How a session may end at the stage. -/
def ends {α : Type} : Stage → Except HttpError α → Prop
  | opening, r | holding _ _, r | accepted _ _, r | refused, r => ∃ e, r = .error e
  | opened, _ | consumed _, _ => True
  | generated _, _ | checking _, _ => False

/-- The stage at which a request starts. -/
def start : Request → Stage
  | .createRegistrationOptions _ | .createAssertionOptions _ => opening
  | .verifyRegistrationResponse userId _ => checking (registerKey userId)
  | .verifyAssertionResponse email _ => checking (assertKey email)

end Stage

def challengeProtocol : Protocol Answer Stage where
  permits := Stage.permits
  after := Stage.after

/-! ## The programs keep to the protocol -/

section
variable {cfg : Auth.Config} {α β : Type} {key challenge : String} {q : Stage}

theorem opening_passes : Passes challengeProtocol .opening Query.sparesChallenges := by
  intro q hq
  refine ⟨Or.inl hq, fun a => ?_⟩
  cases q with
  | auth q => rfl
  | _ => cases hq

theorem accepted_after {q : Query} (hq : q.sparesChallenges) (a : Answer q) :
    (Stage.accepted key challenge).after q a = .accepted key challenge := by
  cases q with
  | auth q => cases q <;> first | rfl | cases hq
  | _ => cases hq

theorem accepted_passes (key challenge : String) :
    Passes challengeProtocol (.accepted key challenge) Query.sparesChallenges :=
  fun _ hq => ⟨Or.inl hq, accepted_after hq⟩

theorem consumed_passes (challenge : String) :
    Passes challengeProtocol (.consumed challenge) Query.sparesChallenges :=
  fun _ hq => ⟨hq, fun _ => rfl⟩

theorem saveUser_sparesChallenges (id : Uuid) (held : User) :
    (ofAuth (Auth.saveUser id held {})).Only Query.sparesChallenges := by
  have hsave : (Auth.saveUser id held {}).Only fun q => (Query.auth q).sparesChallenges := by
    refine .bind (.query rfl) fun stored => ?_
    cases stored with
    | none => trivial
    | some stored => exact .ite (.query rfl) trivial
  exact Only.embed (f := Query.auth) hsave fun _ hq => hq

theorem generateTokens_sparesChallenges (id : Uuid) (user : User) :
    (ofAuth (Auth.generateTokens cfg id user)).Only Query.sparesChallenges := by
  have htokens : (Auth.generateTokens cfg id user).Only fun q => (Query.auth q).sparesChallenges :=
    .bind (.query rfl) fun _ => .bind (.query rfl) fun _ => trivial
  exact Only.embed (f := Query.auth) htokens fun _ hq => hq

/-- The session has the challenge that is pending, or there is none. -/
theorem pending_meets {e : HttpError} {f : String → Proc α}
    (hf : ∀ challenge, Meets challengeProtocol (.holding key challenge) (f challenge) Stage.ends) :
    Meets challengeProtocol (.checking key) (ask (.auth (.findChallenge key)) >>= fun pending =>
      okOr (pending.filter (· ≠ "")) e >>= f) Stage.ends := by
  refine Meets.query rfl fun pending => ?_
  have hafter : challengeProtocol.after (.checking key) (.auth (.findChallenge key)) pending =
      (pending.filter (· ≠ "")).elim .refused (.holding key) := rfl
  refine Meets.okOr (fun hnone => ?_) fun challenge hsome => ?_
  · rw [hafter, hnone]
    exact ⟨e, rfl⟩
  · rw [hafter, hsome]
    exact hf challenge

/-- A save keeps the stage, at which the challenge is deleted. -/
theorem save_meets {id : Uuid} {held : User} {f : Unit → Proc α}
    (hf : Meets challengeProtocol (.consumed challenge) (f ()) Stage.ends) :
    Meets challengeProtocol (.accepted key challenge) (ofAuth (Auth.saveUser id held {}) >>= fun _ =>
      ask (.auth (.deleteChallenge key)) >>= f) Stage.ends := by
  refine ((saveUser_sparesChallenges id held).meets (accepted_passes key challenge)).seq ?_ ?_
  · rintro _ _ rfl
    exact Meets.query (Or.inr rfl) fun _ => hf
  · rintro _ e rfl
    exact ⟨e, rfl⟩

theorem createRegistrationOptions_meets (userId : Uuid) :
    Meets challengeProtocol .opening (createRegistrationOptions cfg userId) Stage.ends := by
  refine Meets.pass opening_passes rfl fun found => Meets.okOr (fun _ => ⟨_, rfl⟩) ?_
  rintro ⟨id, user⟩ -
  refine Meets.query (Or.inr trivial) fun challenge => ?_
  exact Meets.query ⟨_, rfl⟩ fun _ => trivial

theorem verifyRegistrationResponse_meets (userId : Uuid) (response : AuthenticatorResponse) :
    Meets challengeProtocol (.checking (registerKey userId))
      (verifyRegistrationResponse userId response) Stage.ends := by
  refine pending_meets fun challenge =>
    Meets.query (Or.inr (Or.inl ⟨userId, rfl, rfl⟩)) fun found => ?_
  cases found with
  | none => exact ⟨_, rfl⟩
  | some found =>
    refine Meets.query (Or.inr (Or.inr rfl)) fun credential => ?_
    cases credential with
    | none => exact ⟨_, rfl⟩
    | some credential => exact save_meets trivial

theorem createAssertionOptions_meets (email : String) :
    Meets challengeProtocol .opening (createAssertionOptions email) Stage.ends := by
  refine Meets.pass opening_passes rfl fun found => Meets.okOr (fun _ => ⟨_, rfl⟩) ?_
  rintro ⟨id, user⟩ -
  refine Meets.failIf (fun _ => ⟨_, rfl⟩) fun _ => Meets.query (Or.inr trivial) fun challenge => ?_
  exact Meets.query ⟨_, rfl⟩ fun _ => trivial

theorem verifyAssertionResponse_meets (email : String) (response : AuthenticatorResponse) :
    Meets challengeProtocol (.checking (assertKey email))
      (verifyAssertionResponse cfg email response) Stage.ends := by
  refine pending_meets fun challenge => Meets.query (Or.inl ⟨email, rfl⟩) fun found => ?_
  refine Meets.okOr (fun _ => ⟨_, rfl⟩) ?_
  rintro ⟨id, user⟩ -
  refine Meets.okOr (fun _ => ⟨_, rfl⟩) fun matchingCredential _ => ?_
  refine Meets.query (Or.inr (Or.inr rfl)) fun newCounter => ?_
  cases newCounter with
  | none => exact ⟨_, rfl⟩
  | some newCounter =>
    refine save_meets ?_
    refine ((generateTokens_sparesChallenges id _).meets (consumed_passes challenge)).seq ?_ ?_
    · rintro _ _ rfl
      trivial
    · rintro _ _ rfl
      trivial

/-- A request ends as its operation does. -/
theorem meets_return {x : Proc α} (h : Meets challengeProtocol q x Stage.ends) (f : α → β) :
    Meets challengeProtocol q (x >>= fun a => pure (f a)) Stage.ends := by
  refine h.seq (fun q a hq => ?_) fun q e hq => ?_
  · cases q with
    | opening | holding | accepted | refused =>
      obtain ⟨e, ⟨⟩⟩ := hq
    | generated | checking => exact hq
    | opened | consumed => trivial
  · cases q with
    | opening | holding | accepted | refused => exact ⟨e, rfl⟩
    | generated | checking => exact hq
    | opened | consumed => trivial

theorem program_meets (cfg : Auth.Config) (request : Request) :
    Meets challengeProtocol (Stage.start request) (request.program cfg) Stage.ends := by
  cases request with
  | createRegistrationOptions userId => exact meets_return (createRegistrationOptions_meets userId) _
  | verifyRegistrationResponse userId response =>
    exact meets_return (verifyRegistrationResponse_meets userId response) _
  | createAssertionOptions email => exact meets_return (createAssertionOptions_meets email) _
  | verifyAssertionResponse email response =>
    exact meets_return (verifyAssertionResponse_meets email response) _

end

/-! ## What a query does to the challenges -/

section
variable {cfg : Auth.Config} {w : World} {s s' : Server} {q : Stage} {op : Query} {a : Answer op}

/-- What a session's query does to the challenges, by the stage of the session. -/
inductive Moves (s s' : Server) : Stage → Query → Stage → Prop
  | generate {op : Query} {challenge : String} : op.writes = none → op.reads = none →
      op.expectedChallenge = none → challenge ∉ s.issued → s'.issued = challenge :: s.issued →
      s'.db.challenge = s.db.challenge → Moves s s' .opening op (.generated challenge)
  | set {key challenge : String} : s'.issued = s.issued →
      s'.db.challenge = Function.update s.db.challenge key (some challenge) →
      Moves s s' (.generated challenge) (.auth (.setChallenge key challenge)) .opened
  | read {key challenge : String} : s'.issued = s.issued → s'.db.challenge = s.db.challenge →
      s.db.challenge key = some challenge →
      Moves s s' (.checking key) (.auth (.findChallenge key)) (.holding key challenge)
  | accept {op : Query} {key challenge : String} : s'.issued = s.issued →
      s'.db.challenge = s.db.challenge → op.writes = none → op.reads = none →
      op.expectedChallenge = some challenge →
      Moves s s' (.holding key challenge) op (.accepted key challenge)
  | delete {key challenge : String} : s'.issued = s.issued →
      s'.db.challenge = Function.update s.db.challenge key none →
      Moves s s' (.accepted key challenge) (.auth (.deleteChallenge key)) (.consumed challenge)
  | refuse {q : Stage} {op : Query} : s'.issued = s.issued → s'.db.challenge = s.db.challenge →
      op.writes = none → Moves s s' q op .refused
  | stay {q : Stage} {op : Query} : s'.issued = s.issued → s'.db.challenge = s.db.challenge →
      op.writes = none → op.reads = none → op.expectedChallenge = none → Moves s s' q op q

theorem challenge_setChallenge (db : Auth.Database) (key challenge : String) :
    Auth.Database.challenge (Finmap.insert (.challenge key) challenge db) =
      Function.update db.challenge key (some challenge) := by
  funext key'
  by_cases h : key' = key
  · subst h
    rw [Function.update_self]
    exact Finmap.lookup_insert ..
  · rw [Function.update_of_ne h]
    exact Finmap.lookup_insert_of_ne _ (by simpa using h)

theorem challenge_deleteChallenge (db : Auth.Database) (key : String) :
    Auth.Database.challenge (Finmap.erase (.challenge key) db) =
      Function.update db.challenge key none := by
  funext key'
  by_cases h : key' = key
  · subst h
    rw [Function.update_self]
    exact Finmap.lookup_erase ..
  · rw [Function.update_of_ne h]
    exact Finmap.lookup_erase_ne (by simpa using h)

theorem exec_spares (hop : op.sparesChallenges) (h : exec cfg w s op = some (a, s')) :
    s'.issued = s.issued ∧ s'.db.challenge = s.db.challenge := by
  cases op with
  | auth op =>
    obtain ⟨⟨_, db⟩, hexec, heq⟩ := Option.map_eq_some_iff.1 h
    cases heq
    refine ⟨rfl, funext fun key => ?_⟩
    cases op with
    | findUser =>
      obtain ⟨_, -, heq⟩ := Option.map_eq_some_iff.1 hexec
      cases heq
      rfl
    | updateUser id c =>
      cases hexec
      rw [Auth.Database.challenge, Auth.lookup_update]
      cases hrow : s.db.lookup (.challenge key) with
      | none => exact hrow.symm
      | some row => exact hrow.symm
    | reloadUser | sign =>
      cases hexec
      rfl
    | _ => cases hop
  | _ => cases hop

theorem spares_kinds (hop : op.sparesChallenges) :
    op.writes = none ∧ op.reads = none ∧ op.expectedChallenge = none := by
  cases op with
  | auth op => cases op <;> first | exact ⟨rfl, rfl, rfl⟩ | cases hop
  | _ => cases hop

/-- A query that is about users and tokens only, moves nothing. -/
theorem Moves.spares (hop : op.sparesChallenges) (h : exec cfg w s op = some (a, s')) :
    Moves s s' q op q := by
  obtain ⟨hissued, hstore⟩ := exec_spares hop h
  obtain ⟨hwrites, hreads, hexpected⟩ := spares_kinds hop
  exact .stay hissued hstore hwrites hreads hexpected

/-- **A permitted query moves as the stages say.** -/
theorem moves (hp : q.permits op) (h : exec cfg w s op = some (a, s')) :
    Moves s s' q op (q.after op a) := by
  cases q with
  | opened | refused => exact hp.elim
  | opening =>
    rcases hp with hop | hop
    · rw [show Stage.opening.after op a = .opening from (opening_passes op hop).2 a]
      exact .spares hop h
    · cases op with
      | generateRegistrationOptions | generateAuthenticationOptions =>
        obtain ⟨⟨-, hfresh⟩, heq⟩ := Option.ite_none_right_eq_some.1 h
        cases heq
        exact .generate rfl rfl rfl hfresh rfl rfl
      | _ => exact hop.elim
  | generated challenge =>
    obtain ⟨key, rfl⟩ := hp
    cases h
    exact .set rfl (challenge_setChallenge ..)
  | checking key =>
    obtain rfl := hp
    cases h
    rw [Stage.after]
    cases hpending : (s.db.challenge key).filter (· ≠ "") with
    | none => exact .refuse rfl rfl rfl
    | some challenge => exact .read rfl rfl (Option.filter_eq_some_iff.1 hpending).1
  | holding key challenge =>
    rcases hp with ⟨email, rfl⟩ | ⟨userId, rfl, rfl⟩ | hop
    · exact .spares rfl h
    · have hafter : (Stage.holding (registerKey userId) challenge).after
          (.auth (.findUser (.byId userId))) a = .holding (registerKey userId) challenge := by
        obtain ⟨⟨_, db⟩, hexec, heq⟩ := Option.map_eq_some_iff.1 h
        cases heq
        cases a with
        | none => rfl
        | some found =>
          obtain rfl := of_decide_eq_true (Auth.findUser_some hexec).2.2
          rfl
      rw [hafter]
      exact .spares rfl h
    · cases op with
      | verifyRegistration response expectedChallenge =>
        cases h
        obtain rfl := Option.some.inj hop
        by_cases heq : response.challenge = expectedChallenge
        · rw [if_pos heq]
          exact .accept rfl rfl rfl rfl rfl
        · rw [if_neg heq]
          exact .refuse rfl rfl rfl
      | verifyAuthentication response expectedChallenge credential =>
        cases h
        obtain rfl := Option.some.inj hop
        by_cases heq : response.challenge = expectedChallenge
        · rw [if_pos heq]
          exact .accept rfl rfl rfl rfl rfl
        · rw [if_neg heq]
          exact .refuse rfl rfl rfl
      | _ => cases hop
  | accepted key challenge =>
    rcases hp with hop | rfl
    · rw [accepted_after hop]
      exact .spares hop h
    · cases h
      exact .delete rfl (challenge_deleteChallenge ..)
  | consumed challenge => exact .spares hp h

end

/-! ## Runs -/

/-- Who makes a query of the kind, and what it is about. -/
def queried (kind : Query → Option String) (e : Ev) : Option (ℕ × String) :=
  match e.inp with
  | .step t _ => ((e.pre.asked t).bind kind).map (t, ·)
  | .call _ _ => none

/-- The session has read the challenge under the key, and no request has written it since. -/
def Undisturbed (tr : List Ev) (t : ℕ) (key : String) : Prop :=
  Since (fun e => queried Query.reads e = some (t, key))
    (fun e => (queried Query.writes e).map Prod.snd ≠ some key) tr

/-- No request has written a challenge between the read and the deletion of a verification. -/
def DeletesUndisturbed (tr : List Ev) : Prop :=
  Along (fun tr e => ∀ i ∈ queried Query.deletes e, Undisturbed tr i.1 i.2) tr

instance (tr : List Ev) (t : ℕ) (key : String) : Decidable (Undisturbed tr t key) :=
  inferInstanceAs (Decidable (Since _ _ tr))

instance (tr : List Ev) : Decidable (DeletesUndisturbed tr) :=
  inferInstanceAs (Decidable (Along _ tr))

/-- The session has had a response verified for the challenge. -/
def Verifies (tr : List Ev) (t : ℕ) (challenge : String) : Prop :=
  ∃ e ∈ tr, queried Query.expectedChallenge e = some (t, challenge)

instance (tr : List Ev) (t : ℕ) (challenge : String) : Decidable (Verifies tr t challenge) :=
  inferInstanceAs (Decidable (∃ e ∈ tr, _))

/-- Where a challenge is. -/
inductive Place
  | generated (t : ℕ)
  | pending (key : String)
  | consumed (t : ℕ)

def At (s : Server) (qs : ℕ → Option Stage) (challenge : String) : Place → Prop
  | .generated t => qs t = some (.generated challenge)
  | .pending key => s.db.challenge key = some challenge
  | .consumed t => qs t = some (.consumed challenge)

namespace Stage

/-- The key, and the challenge that has been read under it. -/
def read : Stage → Option (String × String)
  | holding key challenge | accepted key challenge => some (key, challenge)
  | _ => none

/-- A response has been verified for the challenge. -/
def Verified (challenge : String) : Stage → Prop
  | accepted _ challenge' | consumed challenge' => challenge' = challenge
  | refused => True
  | opening | generated _ | opened | checking _ | holding _ _ => False

end Stage

/-- What holds in every run: an issued challenge is at one place, a verification has read what is
    pending, and its stage is right about what it has verified. -/
structure Placed (tr : List Ev) (s : Server) (qs : ℕ → Option Stage) : Prop where
  issued : ∀ {challenge place}, At s qs challenge place → challenge ∈ s.issued
  one : ∀ {challenge place place'}, At s qs challenge place → At s qs challenge place' →
    place = place'
  current : ∀ {t q key challenge}, qs t = some q → q.read = some (key, challenge) →
    Undisturbed tr t key → s.db.challenge key = some challenge
  verified : ∀ {t challenge}, Verifies tr t challenge → ∃ q, qs t = some q ∧ q.Verified challenge

section
variable {cfg : Auth.Config} {tr : List Ev} {e : Ev} {s s' : Server} {qs qs' : ℕ → Option Stage}
  {t : ℕ} {w : World} {q q' : Stage} {op : Query} {a : Answer op} {challenge : String}
  {place : Place} {kind : Query → Option String}

theorem queried_answered
    (h : (service cfg).Answered challengeProtocol Stage.ends e qs t w q op a) :
    queried kind e = (kind op).map (t, ·) := by
  obtain ⟨next, hnext, -⟩ := h.asked
  rw [queried, h.inp]
  simp only [Pool.asked, hnext, Option.bind_some]

theorem queried_call {request : Request} (h : e.inp = .call t request) : queried kind e = none := by
  rw [queried, h]

theorem asks_delete {key : String} (h : queried Query.deletes e = some (t, key)) :
    e.pre.Asks t (.auth (.deleteChallenge key)) := by
  unfold queried at h
  split at h
  · obtain ⟨key', hkey', heq⟩ := Option.map_eq_some_iff.1 h
    cases heq
    obtain ⟨op, hop, hdeletes⟩ := Option.bind_eq_some_iff.1 hkey'
    unfold Query.deletes at hdeletes
    split at hdeletes
    · cases hdeletes
      exact Pool.asks_of_asked hop
    · cases hdeletes
  · cases h

/-- Only a verification that has gone through deletes. -/
theorem deleting {key : String} (h : q.permits (.auth (.deleteChallenge key))) :
    ∃ challenge, q = .accepted key challenge := by
  cases q with
  | opening =>
    rcases h with h | h
    · cases h
    · exact h.elim
  | generated =>
    obtain ⟨key', heq⟩ := h
    cases heq
  | checking => cases h
  | holding => rcases h with ⟨email, h⟩ | ⟨userId, h, -⟩ | h <;> cases h
  | accepted key' challenge =>
    rcases h with h | h
    · cases h
    · cases h
      exact ⟨challenge, rfl⟩
  | consumed => cases h
  | opened | refused => exact h.elim

theorem verifies_snoc : Verifies (tr ++ [e]) t challenge ↔
    Verifies tr t challenge ∨ queried Query.expectedChallenge e = some (t, challenge) := by
  simp only [Verifies, List.mem_append, List.mem_singleton, or_and_right, exists_or, exists_eq_left]

/-- Where a challenge is after a step of a session. -/
theorem At.elsewhere (h : At s' (Function.update qs t (some q')) challenge place) :
    (∃ key, place = .pending key ∧ s'.db.challenge key = some challenge) ∨
      (place = .generated t ∧ q' = .generated challenge) ∨
      (place = .consumed t ∧ q' = .consumed challenge) ∨
      (At s qs challenge place ∧ (∀ key, place ≠ .pending key)) := by
  cases place with
  | pending key => exact Or.inl ⟨key, rfl, h⟩
  | generated t' =>
    rcases update_stage h with ⟨rfl, heq⟩ | ⟨-, h⟩
    · exact Or.inr (Or.inl ⟨rfl, heq.symm⟩)
    · exact Or.inr (Or.inr (Or.inr ⟨h, nofun⟩))
  | consumed t' =>
    rcases update_stage h with ⟨rfl, heq⟩ | ⟨-, h⟩
    · exact Or.inr (Or.inr (Or.inl ⟨rfl, heq.symm⟩))
    · exact Or.inr (Or.inr (Or.inr ⟨h, nofun⟩))

/-- A challenge that goes to a new place, leaves the one where it was. -/
theorem one_of_move {challenge₀ : String} {place₀ : Place}
    (hone : ∀ {challenge place place'}, At s qs challenge place → At s qs challenge place' →
      place = place')
    (hnew : ∀ {challenge place}, At s' qs' challenge place →
      At s qs challenge place ∨ (challenge = challenge₀ ∧ place = place₀))
    (hold : ∀ {place}, At s qs challenge₀ place → ¬ At s' qs' challenge₀ place)
    {place' : Place} (h : At s' qs' challenge place) (h' : At s' qs' challenge place') :
    place = place' := by
  rcases hnew h with hat | ⟨rfl, rfl⟩ <;> rcases hnew h' with hat' | ⟨heq, heq'⟩
  · exact hone hat hat'
  · subst heq
    exact absurd h (hold hat)
  · exact absurd h' (hold hat')
  · exact heq'.symm

/-- A step that leaves the pending challenges, and enters no stage with a place, moves nothing. -/
theorem At.stays (hq : qs t = some q) (hstore : s'.db.challenge = s.db.challenge)
    (hq' : q' = q ∨ ∀ challenge, q' ≠ .generated challenge ∧ q' ≠ .consumed challenge)
    (h : At s' (Function.update qs t (some q')) challenge place) : At s qs challenge place := by
  rcases h.elsewhere with ⟨key, rfl, hkey⟩ | ⟨rfl, heq⟩ | ⟨rfl, heq⟩ | ⟨h, -⟩
  · exact (congrFun hstore key).symm.trans hkey
  · rcases hq' with rfl | hne
    · exact hq.trans (congrArg some heq)
    · exact absurd heq (hne challenge).1
  · rcases hq' with rfl | hne
    · exact hq.trans (congrArg some heq)
    · exact absurd heq (hne challenge).2
  · exact h

theorem Moves.issued (h : Moves s s' q op q') {challenge : String} (hmem : challenge ∈ s.issued) :
    challenge ∈ s'.issued := by
  cases h with
  | generate _ _ _ _ hissued => exact hissued ▸ List.mem_cons_of_mem _ hmem
  | set hissued | read hissued | accept hissued | delete hissued | refuse hissued | stay hissued =>
    exact hissued.symm ▸ hmem

/-- Other keys keep their challenges. -/
theorem Moves.other (h : Moves s s' q op q') {key : String} (hop : op.writes ≠ some key) :
    s'.db.challenge key = s.db.challenge key := by
  cases h with
  | set _ hstore | delete _ hstore =>
    rw [hstore, Function.update_of_ne]
    rintro rfl
    exact hop rfl
  | generate _ _ _ _ _ hstore | read _ hstore | accept _ hstore | refuse _ hstore
  | stay _ hstore => rw [hstore]

namespace Placed

/-- A step moves no challenge, or one, which is then nowhere else. -/
theorem moved (h : Placed tr s qs) (hq : qs t = some q) (hm : Moves s s' q op q')
    (hdelete : ∀ key, op.deletes = some key → Undisturbed tr t key) :
    (∀ {challenge place}, At s' (Function.update qs t (some q')) challenge place →
      At s qs challenge place) ∨
    ∃ challenge₀ place₀, challenge₀ ∈ s'.issued ∧
      (∀ {challenge place}, At s' (Function.update qs t (some q')) challenge place →
        At s qs challenge place ∨ (challenge = challenge₀ ∧ place = place₀)) ∧
      ∀ {place}, At s qs challenge₀ place →
        ¬ At s' (Function.update qs t (some q')) challenge₀ place := by
  cases hm with
  | refuse _ hstore => exact Or.inl (At.stays hq hstore (Or.inr fun _ => ⟨nofun, nofun⟩))
  | stay _ hstore => exact Or.inl (At.stays hq hstore (Or.inl rfl))
  | read _ hstore => exact Or.inl (At.stays hq hstore (Or.inr fun _ => ⟨nofun, nofun⟩))
  | accept _ hstore => exact Or.inl (At.stays hq hstore (Or.inr fun _ => ⟨nofun, nofun⟩))
  | @generate _ challenge₀ _ _ _ hfresh hissued hstore =>
    refine Or.inr ⟨challenge₀, .generated t, hissued ▸ List.mem_cons_self, fun hat => ?_,
      fun hat => absurd (h.issued hat) hfresh⟩
    rcases hat.elsewhere with ⟨key, rfl, hkey⟩ | ⟨rfl, heq⟩ | ⟨-, heq⟩ | ⟨hat, -⟩
    · exact Or.inl ((congrFun hstore key).symm.trans hkey)
    · cases heq
      exact Or.inr ⟨rfl, rfl⟩
    · cases heq
    · exact Or.inl hat
  | @set key₀ challenge₀ hissued hstore =>
    have hold : At s qs challenge₀ (.generated t) := hq
    refine Or.inr ⟨challenge₀, .pending key₀, hissued ▸ h.issued hold, fun hat => ?_,
      fun hat hat' => ?_⟩
    · rcases hat.elsewhere with ⟨key, rfl, hkey⟩ | ⟨-, heq⟩ | ⟨-, heq⟩ | ⟨hat, -⟩
      · rw [hstore, Function.update_apply] at hkey
        split_ifs at hkey with hkey₀
        · exact Or.inr ⟨(Option.some.inj hkey).symm, congrArg _ hkey₀⟩
        · exact Or.inl hkey
      · cases heq
      · cases heq
      · exact Or.inl hat
    · obtain rfl := h.one hold hat
      cases (Function.update_self ..).symm.trans hat'
  | @delete key₀ challenge₀ hissued hstore =>
    have hold : At s qs challenge₀ (.pending key₀) := h.current hq rfl (hdelete key₀ rfl)
    refine Or.inr ⟨challenge₀, .consumed t, hissued ▸ h.issued hold, fun hat => ?_,
      fun hat hat' => ?_⟩
    · rcases hat.elsewhere with ⟨key, rfl, hkey⟩ | ⟨-, heq⟩ | ⟨rfl, heq⟩ | ⟨hat, -⟩
      · rw [hstore, Function.update_apply] at hkey
        split_ifs at hkey with hkey₀
        exact Or.inl hkey
      · cases heq
      · cases heq
        exact Or.inr ⟨rfl, rfl⟩
      · exact Or.inl hat
    · obtain rfl := h.one hold hat
      rw [At, hstore, Function.update_self] at hat'
      cases hat'

/-- What a verification has read is what is pending, as long as nobody writes it. -/
theorem current_step (h : Placed tr e.pre.shared qs)
    (hans : (service cfg).Answered challengeProtocol Stage.ends e qs t w q op a)
    (hm : Moves e.pre.shared e.post.shared q op q') {t' : ℕ} {q₁ : Stage} {key challenge : String}
    (hq₁ : Function.update qs t (some q') t' = some q₁) (hread : q₁.read = some (key, challenge))
    (hsince : Undisturbed (tr ++ [e]) t' key) :
    e.post.shared.db.challenge key = some challenge := by
  rcases since_snoc.1 hsince with hreads | ⟨hsince, hkeeps⟩
  · rw [queried_answered hans] at hreads
    obtain ⟨key', hkey', heq⟩ := Option.map_eq_some_iff.1 hreads
    cases heq
    rw [Function.update_self, Option.some.injEq] at hq₁
    subst hq₁
    cases hm with
    | read _ hstore hpending =>
      cases hread
      exact (congrFun hstore key).trans hpending
    | set | delete | refuse => cases hread
    | generate _ hnone | accept _ _ _ hnone | stay _ _ _ hnone => cases hnone.symm.trans hkey'
  · have hop : op.writes ≠ some key := by
      rintro heq
      rw [queried_answered hans, heq] at hkeeps
      exact hkeeps rfl
    rw [hm.other hop]
    rcases update_stage hq₁ with ⟨rfl, rfl⟩ | ⟨-, hq₁⟩
    · cases hm with
      | read _ _ hpending =>
        cases hread
        exact hpending
      | accept => exact h.current hans.stage hread hsince
      | stay => exact h.current hans.stage hread hsince
      | generate | set | delete | refuse => cases hread
    · exact h.current hq₁ hread hsince

/-- A verified response has been made for the challenge of the stage. -/
theorem verified_step (h : Placed tr e.pre.shared qs)
    (hans : (service cfg).Answered challengeProtocol Stage.ends e qs t w q op a)
    (hm : Moves e.pre.shared e.post.shared q op q') {t' : ℕ}
    (hverifies : Verifies (tr ++ [e]) t' challenge) :
    ∃ q₁, Function.update qs t (some q') t' = some q₁ ∧ q₁.Verified challenge := by
  rcases verifies_snoc.1 hverifies with hverifies | hverifies
  · obtain ⟨q₁, hq₁, hverified⟩ := h.verified hverifies
    by_cases ht' : t' = t
    · subst ht'
      obtain rfl := Option.some.inj (hans.stage.symm.trans hq₁)
      refine ⟨q', Function.update_self .., ?_⟩
      cases hm with
      | generate | set | read | accept => exact hverified.elim
      | delete | stay => exact hverified
      | refuse => trivial
    · exact ⟨q₁, (Function.update_of_ne ht' ..).trans hq₁, hverified⟩
  · rw [queried_answered hans] at hverifies
    obtain ⟨challenge', hexpected, heq⟩ := Option.map_eq_some_iff.1 hverifies
    cases heq
    refine ⟨q', Function.update_self .., ?_⟩
    cases hm with
    | accept _ _ _ _ hexpected' => exact Option.some.inj (hexpected'.symm.trans hexpected)
    | refuse => trivial
    | set | read | delete => cases hexpected
    | generate _ _ hnone | stay _ _ _ _ hnone => cases hnone.symm.trans hexpected

theorem call {request : Request} (h : Placed tr e.pre.shared qs) (he : e.inp = .call t request)
    (ht : qs t = none) (hshared : e.post.shared = e.pre.shared) :
    Placed (tr ++ [e]) e.post.shared (Function.update qs t (some (Stage.start request))) := by
  have hat {challenge place}
      (hat : At e.post.shared (Function.update qs t (some (Stage.start request))) challenge place) :
      At e.pre.shared qs challenge place := by
    rw [hshared] at hat
    rcases hat.elsewhere with ⟨key, rfl, hkey⟩ | ⟨-, heq⟩ | ⟨-, heq⟩ | ⟨hat, -⟩
    · exact hkey
    · cases request <;> cases heq
    · cases request <;> cases heq
    · exact hat
  refine ⟨fun h' => hshared ▸ h.issued (hat h'), fun h₁ h₂ => h.one (hat h₁) (hat h₂), ?_, ?_⟩
  · intro t' q key challenge hq hread hsince
    rw [hshared]
    rcases since_snoc.1 hsince with hreads | ⟨hsince, -⟩
    · rw [queried_call he] at hreads
      cases hreads
    rcases update_stage hq with ⟨rfl, rfl⟩ | ⟨-, hq⟩
    · cases request <;> cases hread
    · exact h.current hq hread hsince
  · intro t' challenge hverifies
    rcases verifies_snoc.1 hverifies with hverifies | hverifies
    · obtain ⟨q, hq, hverified⟩ := h.verified hverifies
      have ht' : t' ≠ t := by
        rintro rfl
        cases ht.symm.trans hq
      exact ⟨q, (Function.update_of_ne ht' ..).trans hq, hverified⟩
    · rw [queried_call he] at hverifies
      cases hverifies

theorem step (h : Placed tr e.pre.shared qs)
    (hans : (service cfg).Answered challengeProtocol Stage.ends e qs t w q op a)
    (hdelete : ∀ i ∈ queried Query.deletes e, Undisturbed tr i.1 i.2) :
    Placed (tr ++ [e]) e.post.shared (Function.update qs t (some (q.after op a))) := by
  have hm : Moves e.pre.shared e.post.shared q op (q.after op a) := moves hans.permits hans.exec
  have hmoved := h.moved hans.stage hm fun key hkey => hdelete (t, key) (by
    rw [queried_answered hans, hkey]
    rfl)
  refine ⟨fun hat => ?_, ?_, fun hq hread hsince => h.current_step hans hm hq hread hsince,
    fun hverifies => h.verified_step hans hm hverifies⟩
  · rcases hmoved with hsame | ⟨challenge₀, place₀, hissued, hnew, -⟩
    · exact hm.issued (h.issued (hsame hat))
    · rcases hnew hat with hat | ⟨rfl, rfl⟩
      · exact hm.issued (h.issued hat)
      · exact hissued
  · rcases hmoved with hsame | ⟨challenge₀, place₀, -, hnew, hold⟩
    · exact fun hat hat' => h.one (hsame hat) (hsame hat')
    · exact one_of_move h.one hnew hold

end Placed

/-- The server as it starts: no challenge is pending. -/
def starting (s : Server) : Sessions := { shared := s }

/-- In every run whose deletions are undisturbed. -/
theorem placed {p : Sessions} (hs : ∀ key, s.db.challenge key = none)
    (h : Run (service cfg).Steps (starting s) tr p) (hC : DeletesUndisturbed tr) :
    ∃ qs, Tracks challengeProtocol Stage.ends p qs ∧ Placed tr p.shared qs := by
  refine System.invariant (J := Placed) (program_meets cfg)
    (fun tr e t r qs he ht hshared _ hJ => hJ.call he ht hshared)
    (fun tr e qs t w q op a hans hdelete hJ => hJ.step hans hdelete) h .idle ?_ hC
  have hnowhere {challenge place} : ¬ At s (fun _ => none) challenge place := by
    cases place with
    | generated t => exact nofun
    | pending key => exact fun hat => nomatch (hs key).symm.trans hat
    | consumed t => exact nofun
  exact
    { issued := fun hat => absurd hat hnowhere
      one := fun hat => absurd hat hnowhere
      current := nofun
      verified := fun ⟨_, he, _⟩ => nomatch he }

/-- **Where no request writes a challenge between the read and the deletion of a verification, an
    issued challenge leads to one success at most, and a verification deletes the challenge that it
    has verified.** -/
theorem challenges_single_use {p : Sessions} (hs : ∀ key, s.db.challenge key = none)
    (h : Run (service cfg).Steps (starting s) tr p) (hC : DeletesUndisturbed tr) :
    (∀ t t' challenge r r', Verifies tr t challenge → p.Ended t (.ok r) →
      Verifies tr t' challenge → p.Ended t' (.ok r') → t = t') ∧
    ∀ tr₁ e tr₂ t key challenge challenge', tr = tr₁ ++ e :: tr₂ →
      queried Query.deletes e = some (t, key) → Verifies tr₁ t challenge →
      e.pre.shared.db.challenge key = some challenge' → challenge' = challenge := by
  constructor
  · intro t t' challenge r r' hverifies hended hverifies' hended'
    obtain ⟨qs, htracks, hplaced⟩ := placed hs h hC
    have hconsumed {t₁ r₁} (hverifies : Verifies tr t₁ challenge) (hended : p.Ended t₁ (.ok r₁)) :
        At p.shared qs challenge (.consumed t₁) := by
      obtain ⟨q, hq, hverified⟩ := hplaced.verified hverifies
      obtain ⟨q', hq', hends⟩ := htracks.ended hended
      obtain rfl := Option.some.inj (hq.symm.trans hq')
      cases q with
      | opening | generated | opened | checking | holding => exact hverified.elim
      | accepted | refused => obtain ⟨e, ⟨⟩⟩ := hends
      | consumed challenge' =>
        obtain rfl : challenge' = challenge := hverified
        exact hq
    cases hplaced.one (hconsumed hverifies hended) (hconsumed hverifies' hended')
    rfl
  · rintro tr₁ e tr₂ t key challenge challenge' rfl hdeletes hverifies hpending
    obtain ⟨qs, htracks, hplaced⟩ := placed hs h.split.1 fun tr₁' e' tr₂' heq =>
      hC tr₁' e' (tr₂' ++ e :: tr₂) (by rw [heq, List.append_assoc, List.cons_append])
    have hundisturbed := hC tr₁ e tr₂ rfl (t, key) hdeletes
    obtain ⟨q, hq, hverified⟩ := hplaced.verified hverifies
    obtain ⟨q', hq', hp⟩ := htracks.asks (asks_delete hdeletes)
    obtain rfl := Option.some.inj (hq.symm.trans hq')
    obtain ⟨challenge₁, rfl⟩ := deleting hp
    obtain rfl : challenge₁ = challenge := hverified
    exact Option.some.inj (hpending.symm.trans (hplaced.current hq rfl hundisturbed))

end

def passkeyUser : User :=
  { email := "e", firstname := "Ada", lastname := "L", password := "p", isVerified := true
    passkeyCredentials := some [{ id := "k", publicKey := "AQID", counter := 0 }] }

/-- The only user has a passkey. -/
def withPasskey : Server where
  db := Finmap.insert (.user "u") (passkeyUser) ∅

theorem withPasskey_starts (key : String) : withPasskey.db.challenge key = none := by
  rw [withPasskey, Auth.Database.challenge, Finmap.lookup_insert_of_ne _ Auth.Row.noConfusion,
    Finmap.lookup_empty]

/-- A login with the challenge of the options. -/
theorem challenges_single_use_once : ∃ tr p,
    Run (service Auth.plainConfig).Steps (starting withPasskey) tr p ∧ Verifies tr 1 "c" ∧
      (∃ r, p.Ended 1 (.ok r)) ∧ ∀ t r, Verifies tr t "c" → p.Ended t (.ok r) → t = 1 := by
  have hplay : ((service Auth.plainConfig).play (starting withPasskey)
      [.call 0 (.createAssertionOptions "e"), .step 0 { row := some "u" }, .step 0 { text := "c" },
        .step 0 {}, .call 1 (.verifyAssertionResponse "e" ⟨"k", "c", []⟩), .step 1 {},
        .step 1 { row := some "u" }, .step 1 {}, .step 1 {}, .step 1 {}, .step 1 {},
        .step 1 {}]).any fun x =>
      (x.2.returned 1).isSome ∧ Verifies x.1 1 "c" ∧ DeletesUndisturbed x.1 := by decide
  obtain ⟨⟨tr, p⟩, hplay, hfacts⟩ := (Option.any_eq_true _ _).1 hplay
  obtain ⟨hreturned, hverifies, hundisturbed⟩ := of_decide_eq_true hfacts
  obtain ⟨r, hr⟩ := Option.isSome_iff_exists.1 hreturned
  have hended := Pool.returned_eq_some.1 hr
  have hrun := System.run_play hplay
  exact ⟨tr, p, hrun, hverifies, ⟨r, hended⟩, fun t r' hverifies' hended' =>
    (challenges_single_use withPasskey_starts hrun hundisturbed).1 t 1 "c" r' r hverifies' hended'
      hverifies hended⟩

/-- A response that is sent twice logs in twice. -/
theorem challenge_used_twice : ¬ ∀ (cfg : Auth.Config) (s : Server) (tr : List Ev) (p : Sessions),
    (∀ key, s.db.challenge key = none) → Run (service cfg).Steps (starting s) tr p →
    (∀ t t' challenge r r', Verifies tr t challenge → p.Ended t (.ok r) →
      Verifies tr t' challenge → p.Ended t' (.ok r') → t = t') ∧
    ∀ tr₁ e tr₂ t key challenge challenge', tr = tr₁ ++ e :: tr₂ →
      queried Query.deletes e = some (t, key) → Verifies tr₁ t challenge →
      e.pre.shared.db.challenge key = some challenge' → challenge' = challenge := by
  intro hclaim
  have hplay : ((service Auth.plainConfig).play (starting withPasskey)
      [.call 0 (.createAssertionOptions "e"), .step 0 { row := some "u" }, .step 0 { text := "c" },
        .step 0 {}, .call 1 (.verifyAssertionResponse "e" ⟨"k", "c", []⟩),
        .call 2 (.verifyAssertionResponse "e" ⟨"k", "c", []⟩), .step 1 {}, .step 2 {},
        .step 1 { row := some "u" }, .step 1 {}, .step 1 {}, .step 1 {}, .step 1 {}, .step 1 {},
        .step 2 { row := some "u" }, .step 2 {}, .step 2 {}, .step 2 {}, .step 2 {},
        .step 2 {}]).any fun x =>
      (x.2.returned 1).isSome ∧ Verifies x.1 1 "c" ∧ (x.2.returned 2).isSome ∧
        Verifies x.1 2 "c" := by decide
  obtain ⟨⟨tr, p⟩, hplay, hfacts⟩ := (Option.any_eq_true _ _).1 hplay
  obtain ⟨hreturned, hverifies, hreturned', hverifies'⟩ := of_decide_eq_true hfacts
  obtain ⟨r, hr⟩ := Option.isSome_iff_exists.1 hreturned
  obtain ⟨r', hr'⟩ := Option.isSome_iff_exists.1 hreturned'
  have honce := (hclaim _ _ tr p withPasskey_starts (System.run_play hplay)).1 1 2 "c" r r' hverifies
    (Pool.returned_eq_some.1 hr) hverifies' (Pool.returned_eq_some.1 hr')
  cases honce

end Passkey
