/-
  Who holds the tokens of membership_token, and until when they are found.

  Whose token it is goes back, transfer by transfer, each of which the holder authorised, to the one
  call that issued the token.  Neither the status nor the dates of a token ever change, so that
  `get_token` finds it up to its expiry date and not after it, whereas it can still be transferred.
-/
import NovaLabs.Memberships.Contract

namespace Memberships

open Lib Soroban

variable {me : Address}

/-! ## Steps -/

/-- The call goes through. -/
def Succeeds (e : Ev me) : Prop :=
  succeeds (e.inp.call.run e.inp.env) e.pre.state = true

instance (e : Ev me) : Decidable (Succeeds e) := inferInstanceAs (Decidable (_ = true))

/-- The call issues the token `id` to `user`, until `expiryDate`. -/
def Issues (e : Ev me) (id : TokenId) (user : Address) (expiryDate : ℕ) : Prop :=
  e.inp.call = .issueToken id user expiryDate ∧ Succeeds e

/-- The call transfers the token `id` to `newUser`. -/
def Transfers (e : Ev me) (id : TokenId) (newUser : Address) : Prop :=
  e.inp.call = .transferToken id newUser ∧ Succeeds e

/-- What a call can do. -/
inductive Effect (e : Ev me) : Prop
  | refused : ¬ Succeeds e → e.post.state = e.pre.state → Effect e
  | issue {id user n admin} : Issues e id user n → e.pre.state.admin = some admin →
      admin ∈ e.inp.env.auths → e.pre.state.tokens.lookup id = none → e.inp.env.now < n →
      e.post.state = e.pre.state.put ⟨id, user, .active, e.inp.env.now, n⟩ → Effect e
  | transfer {id user token} : Transfers e id user →
      e.pre.state.tokens.lookup id = some token → token.user ∈ e.inp.env.auths →
      e.post.state.tokens = e.pre.state.tokens.insert id { token with user } → Effect e
  | admin {a} : e.inp.call = .setAdmin a → a ∈ e.inp.env.auths →
      e.post.state = { e.pre.state with admin := some a } → Effect e

theorem Step.effect {e : Ev me} (h : Step e.pre e.inp e.post) : Effect e := by
  obtain ⟨w, ⟨env, c⟩, w'⟩ := e
  obtain rfl : w' = next w ⟨env, c⟩ := h.post
  rcases commit_cases (c.run env) w.state with ⟨⟨⟩, hr⟩ | ⟨hno, hs⟩
  swap
  · refine .refused (fun hok => ?_) hs
    obtain ⟨_, _, hr⟩ := succeeds_iff.1 hok
    exact hno _ _ hr
  have hok : succeeds (c.run env) w.state = true := succeeds_iff.2 ⟨_, _, hr⟩
  cases c with
  | issueToken id user n =>
    obtain ⟨⟨admin, ha, hauth⟩, hs, hn, hpost⟩ := issueToken_returns.1 hr
    exact .issue ⟨rfl, hok⟩ ha hauth hs hn hpost
  | transferToken id user =>
    obtain ⟨token, hs, -, hauth, hpost⟩ := transferToken_returns.1 hr
    exact .transfer ⟨rfl, hok⟩ hs hauth (congrArg State.tokens hpost)
  | setAdmin a =>
    obtain ⟨hauth, hpost⟩ := setAdmin_returns.1 hr
    exact .admin rfl hauth hpost

/-! ## Titles -/

/-- The token `id` passes from holder to holder along the calls. -/
inductive Passes (id : TokenId) (a : Address) : List (Ev me) → Address → Prop
  | nil : Passes id a [] a
  | other {b tr e} : Passes id a tr b → (∀ c, ¬ Transfers e id c) → Passes id a (tr ++ [e]) b
  | transfer {b c tr e} : Passes id a tr b → Transfers e id c → b ∈ e.inp.env.auths →
      Passes id a (tr ++ [e]) c

/-- The token `id` was issued by the admin along the calls, and has passed to its user since. -/
structure Titled (tr : List (Ev me)) (id : TokenId) (token : MembershipToken) : Prop where
  keyed : token.id = id
  status : token.status = .active
  dates : token.issueDate < token.expiryDate
  chain : ∃ tr₁ e tr₂ user admin, tr = tr₁ ++ e :: tr₂ ∧ Issues e id user token.expiryDate ∧
    e.pre.state.admin = some admin ∧ admin ∈ e.inp.env.auths ∧
    e.inp.env.now = token.issueDate ∧ Passes id user tr₂ token.user

section
variable {tr : List (Ev me)} {e : Ev me} {id : TokenId} {token : MembershipToken} {c : Address}

theorem Titled.other (h : Titled tr id token) (hn : ∀ c, ¬ Transfers e id c) :
    Titled (tr ++ [e]) id token := by
  obtain ⟨tr₁, e₁, tr₂, user, admin, rfl, hissue, ha, hauth, hnow, hpass⟩ := h.chain
  exact ⟨h.keyed, h.status, h.dates, tr₁, e₁, tr₂ ++ [e], user, admin, by simp, hissue, ha, hauth,
    hnow, hpass.other hn⟩

theorem Titled.transfer (h : Titled tr id token) (ht : Transfers e id c)
    (hauth : token.user ∈ e.inp.env.auths) :
    Titled (tr ++ [e]) id { token with user := c } := by
  obtain ⟨tr₁, e₁, tr₂, user, admin, rfl, hissue, ha, hauth₁, hnow, hpass⟩ := h.chain
  exact ⟨h.keyed, h.status, h.dates, tr₁, e₁, tr₂ ++ [e], user, admin, by simp, hissue, ha, hauth₁,
    hnow, hpass.transfer ht hauth⟩

/-- The tokens of a storage are titled. -/
def AllTitled (tr : List (Ev me)) (s : State) : Prop :=
  ∀ id token, s.tokens.lookup id = some token → Titled tr id token

theorem Effect.allTitled (h : Effect e) (ht : AllTitled tr e.pre.state) :
    AllTitled (tr ++ [e]) e.post.state := by
  intro id token hs
  cases h with
  | refused hno hpost =>
    rw [hpost] at hs
    exact (ht id token hs).other fun _ h => hno h.2
  | @issue id₀ user n admin hissue ha hauth hnone hn hpost =>
    rw [hpost, State.put, Store.lookup_insert_ite] at hs
    split_ifs at hs with hid
    · obtain rfl := Option.some.inj hs
      subst hid
      exact ⟨rfl, rfl, hn, tr, e, [], user, admin, rfl, hissue, ha, hauth, rfl, .nil⟩
    · refine (ht id token hs).other fun _ h => ?_
      cases hissue.1.symm.trans h.1
  | @transfer id₀ user token₀ htransfer hs₀ hauth hpost =>
    rw [hpost, Store.lookup_insert_ite] at hs
    split_ifs at hs with hid
    · obtain rfl := Option.some.inj hs
      subst hid
      exact (ht id token₀ hs₀).transfer htransfer hauth
    · refine (ht id token hs).other fun _ h => ?_
      cases htransfer.1.symm.trans h.1
      exact hid rfl
  | admin hcall _ hpost =>
    rw [hpost] at hs
    refine (ht id token hs).other fun _ h => ?_
    cases hcall.symm.trans h.1

theorem allTitled_run {t : ℕ} {w : World} (h : Run Step ⟨{}, t⟩ tr w) : AllTitled tr w.state :=
  h.history (P := fun tr w => AllTitled tr w.state)
    (fun _ w i w' ht hs => Effect.allTitled (e := ⟨w, i, w'⟩) (Step.effect hs) ht)
    fun _ _ hs => by simp at hs

/-! ## Dates -/

/-- Tokens are kept, with their dates and their status. -/
theorem Effect.keeps (h : Effect e) (hs : e.pre.state.tokens.lookup id = some token) :
    ∃ user, e.post.state.tokens.lookup id = some { token with user } := by
  cases h with
  | refused _ hpost => exact ⟨token.user, by rw [hpost, hs]⟩
  | @issue id₀ _ _ _ _ _ _ hnone _ hpost =>
    refine ⟨token.user, ?_⟩
    rw [hpost, State.put, Store.lookup_insert_ite, if_neg, hs]
    rintro rfl
    cases hnone.symm.trans hs
  | @transfer id₀ user token₀ _ hs₀ _ hpost =>
    rw [hpost, Store.lookup_insert_ite]
    split_ifs with hid
    · subst hid
      obtain rfl := Option.some.inj (hs₀.symm.trans hs)
      exact ⟨user, rfl⟩
    · exact ⟨token.user, hs⟩
  | admin _ _ hpost => exact ⟨token.user, by rw [hpost, hs]⟩

theorem kept_run {w w' : World} (h : Run Step w tr w')
    (hs : w.state.tokens.lookup id = some token) :
    ∃ user, w'.state.tokens.lookup id = some { token with user } := by
  refine h.invariant' (P := fun w => ∃ user, w.state.tokens.lookup id = some { token with user })
    (fun w i w' ⟨user, hs⟩ hstep => ?_) ⟨token.user, hs⟩
  exact (Effect.keeps (e := ⟨w, i, w'⟩) (Step.effect hstep) hs).imp fun _ h => h

/-- A call that issues a token finds none, and leaves one. -/
theorem Effect.issued {user : Address} {n : ℕ} (h : Effect e) (hi : Issues e id user n) :
    e.pre.state.tokens.lookup id = none ∧
      e.post.state.tokens.lookup id = some ⟨id, user, .active, e.inp.env.now, n⟩ := by
  cases h with
  | refused hno _ => exact absurd hi.2 hno
  | issue hissue _ _ hnone _ hpost =>
    cases hissue.1.symm.trans hi.1
    exact ⟨hnone, by rw [hpost, State.put, Finmap.lookup_insert]⟩
  | transfer ht _ _ _ => cases ht.1.symm.trans hi.1
  | admin hcall _ _ => cases hcall.symm.trans hi.1

end

/-! ## The law -/

/-- What holds of the tokens along the run `tr` that ends in `w`. -/
structure TitleLaw (tr : List (Ev me)) (w : World) : Prop where
  /-- each token goes back to the call that issued it -/
  titled : AllTitled tr w.state
  /-- no id is issued twice -/
  once : ∀ tr₁ e tr₂ id user n, tr = tr₁ ++ e :: tr₂ → Issues e id user n →
    ∀ e' ∈ tr₂, ∀ user' n', ¬ Issues e' id user' n'
  /-- a token that has been issued is found up to the date it was issued until -/
  found : ∀ e ∈ tr, ∀ id user n, Issues e id user n → ∀ env : Env me,
    (∃ token s', Returns (getToken env id) w.state token s') ↔ env.now ≤ n
  /-- its holder can transfer it at any time -/
  transfers : ∀ id token, w.state.tokens.lookup id = some token → ∀ (env : Env me) newUser,
    (∃ s', Returns (transferToken env id newUser) w.state () s') ↔ token.user ∈ env.auths

/-- **Titles.** Along every run, tokens belong to whom their holders passed them to, are issued once,
    and are found until they expire. -/
theorem title_law {t : ℕ} {tr : List (Ev me)} {w : World} (h : Run Step ⟨{}, t⟩ tr w) :
    TitleLaw tr w := by
  have htitled := allTitled_run h
  refine ⟨htitled, ?_, fun e hev id user n hissue env => ?_, fun id token hs env newUser => ?_⟩
  · rintro tr₁ e tr₂ id user n rfl hissue e' hev' user' n' hissue'
    obtain ⟨-, hs, hrun⟩ := h.split
    obtain ⟨tr₃, tr₄, rfl⟩ := List.append_of_mem hev'
    obtain ⟨hrun₃, hs', -⟩ := hrun.split
    obtain ⟨_, hlater⟩ := kept_run hrun₃ (hs.effect.issued hissue).2
    cases (hs'.effect.issued hissue').1.symm.trans hlater
  · obtain ⟨tr₁, tr₂, rfl⟩ := List.append_of_mem hev
    obtain ⟨-, hs, hrun⟩ := h.split
    obtain ⟨user', hlater⟩ := kept_run hrun (hs.effect.issued hissue).2
    simp only [getToken_returns, hlater]
    constructor
    · rintro ⟨_, _, ⟨⟩, hn, -⟩
      exact hn rfl
    · intro hn
      exact ⟨_, _, rfl, fun _ => hn, rfl⟩
  · simp only [transferToken_returns, hs]
    constructor
    · rintro ⟨_, _, ⟨⟩, -, hauth, -⟩
      exact hauth
    · intro hauth
      exact ⟨_, token, rfl, (htitled id token hs).status, hauth, rfl⟩

/-- A token is issued, transferred, and transferred again after its expiry. -/
def sampleInputs : List (Input ⟨0⟩) :=
  [⟨sampleEnv 1, .setAdmin ⟨1⟩⟩, ⟨sampleEnv 2, .issueToken 7 ⟨2⟩ 10⟩,
    ⟨sampleEnv 5, .transferToken 7 ⟨3⟩⟩, ⟨sampleEnv 20, .transferToken 7 ⟨4⟩⟩]

theorem title_law_sample : ∃ (tr : List (Ev ⟨0⟩)) (w : World), TitleLaw tr w ∧ tr.length = 4 ∧
    w.state.tokens.lookup 7 = some ⟨7, ⟨4⟩, .active, 2, 10⟩ := by
  have h : Run Step ⟨{}, 0⟩ (eventsFrom next ⟨{}, 0⟩ sampleInputs)
      (sampleInputs.foldl next ⟨{}, 0⟩) :=
    .cons ⟨by decide, rfl⟩ (.cons ⟨by decide, rfl⟩ (.cons ⟨by decide, rfl⟩
      (.cons ⟨by decide, rfl⟩ .nil)))
  exact ⟨_, _, title_law h, rfl, by decide⟩

/-- Whoever names himself the admin can issue tokens: the calls ask nobody else. -/
theorem issue_open {w : World} {env : Env me} {a user : Address} {id : TokenId} {n : ℕ}
    (ha : a ∈ env.auths) (hs : w.state.tokens.lookup id = none) (hn : env.now < n) :
    ([⟨env, .setAdmin a⟩, ⟨env, .issueToken id user n⟩].foldl next w).state.tokens.lookup id =
      some ⟨id, user, .active, env.now, n⟩ := by
  have hadmin : Returns (setAdmin env a) w.state () { w.state with admin := some a } :=
    setAdmin_returns.2 ⟨ha, rfl⟩
  have hissue : Returns (issueToken env id user n) { w.state with admin := some a } ()
      (State.put { w.state with admin := some a } ⟨id, user, .active, env.now, n⟩) :=
    issueToken_returns.2 ⟨⟨a, rfl, ha⟩, hs, hn, rfl⟩
  simp only [List.foldl_cons, List.foldl_nil, next, Call.run, hadmin.commit_eq, hissue.commit_eq]
  rw [State.put, Finmap.lookup_insert]

end Memberships
