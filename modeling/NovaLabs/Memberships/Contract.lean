/-
  The membership_token contract (contracts/membership_token/src): storage, entry points, calls.
-/
import NovaLabs.Lib.Run
import NovaLabs.Lib.Store
import NovaLabs.Soroban.Host

namespace Memberships

open Lib Soroban

/-! ## Types -/

inductive MembershipStatus where
  | active
  | expired
  deriving DecidableEq

/-- The ids of tokens. -/
abbrev TokenId := ℕ

structure MembershipToken where
  id : TokenId
  user : Address
  status : MembershipStatus
  issueDate : ℕ
  expiryDate : ℕ
  deriving DecidableEq

inductive Error where
  | adminNotSet
  | tokenAlreadyIssued
  | invalidExpiryDate
  | tokenNotFound
  | tokenExpired
  deriving DecidableEq

/-- The contract's storage, one field per key. -/
structure State where
  admin : Option Address := none
  tokens : Store TokenId MembershipToken := ∅

abbrev Fn (α : Type) := Code State Error α

/-! ## Entry points -/

section
variable {me : Address} (env : Env me)

def issueToken (id : TokenId) (user : Address) (expiryDate : ℕ) : Fn Unit := do
  let admin ← okOr (← get).admin .adminNotSet
  requireAuth env admin
  failIf ((← get).tokens.lookup id).isSome .tokenAlreadyIssued
  failIf (expiryDate ≤ env.now) .invalidExpiryDate
  let token : MembershipToken := ⟨id, user, .active, env.now, expiryDate⟩
  modify fun s => { s with tokens := s.tokens.insert id token }

def transferToken (id : TokenId) (newUser : Address) : Fn Unit := do
  let token ← okOr ((← get).tokens.lookup id) .tokenNotFound
  failIf (token.status ≠ .active) .tokenExpired
  requireAuth env token.user
  modify fun s => { s with tokens := s.tokens.insert id { token with user := newUser } }

def getToken (id : TokenId) : Fn MembershipToken := do
  let token ← okOr ((← get).tokens.lookup id) .tokenNotFound
  failIf (token.status = .active ∧ token.expiryDate < env.now) .tokenExpired
  return token

def setAdmin (admin : Address) : Fn Unit := do
  requireAuth env admin
  modify fun s => { s with admin := some admin }

end

/-! ## Calls -/

/-- The exported functions that write storage. -/
inductive Call where
  | issueToken (id : TokenId) (user : Address) (expiryDate : ℕ)
  | transferToken (id : TokenId) (newUser : Address)
  | setAdmin (admin : Address)
  deriving DecidableEq

def Call.run {me : Address} (env : Env me) : Call → Fn Unit
  | .issueToken id user expiryDate => Memberships.issueToken env id user expiryDate
  | .transferToken id newUser => Memberships.transferToken env id newUser
  | .setAdmin admin => Memberships.setAdmin env admin

/-- A call with what the host gives it. -/
structure Input (me : Address) where
  env : Env me
  call : Call

structure World where
  state : State
  now : ℕ

/-- The world after a call. -/
def next {me : Address} (w : World) (i : Input me) : World :=
  ⟨commit (i.call.run i.env) w.state, i.env.now⟩

/-- The calls: the time does not go back. -/
structure Step {me : Address} (w : World) (i : Input me) (w' : World) : Prop where
  clock : w.now ≤ i.env.now
  post : w' = next w i

abbrev Ev (me : Address) := Event World (Input me)

/-! ## What the calls do -/

section
variable {me : Address} {env : Env me} {s s' : State} {u : Unit} {id : TokenId} {a : Address}
  {n : ℕ} {token : MembershipToken}

def State.put (s : State) (token : MembershipToken) : State :=
  { s with tokens := s.tokens.insert token.id token }

theorem issueToken_returns : Returns (issueToken env id a n) s u s' ↔
    (∃ admin, s.admin = some admin ∧ admin ∈ env.auths) ∧ s.tokens.lookup id = none ∧
      env.now < n ∧ s' = s.put ⟨id, a, .active, env.now, n⟩ := by
  simp only [issueToken, returns_get_bind, returns_okOr_bind, returns_requireAuth_bind,
    returns_failIf_bind, returns_modify, Bool.not_eq_true, Option.isSome_eq_false_iff,
    Option.isNone_iff_eq_none, not_le, State.put]
  constructor
  · rintro ⟨admin, ha, hauth, hs, hn, rfl⟩
    exact ⟨⟨admin, ha, hauth⟩, hs, hn, rfl⟩
  · rintro ⟨⟨admin, ha, hauth⟩, hs, hn, rfl⟩
    exact ⟨admin, ha, hauth, hs, hn, rfl⟩

theorem transferToken_returns : Returns (transferToken env id a) s u s' ↔
    ∃ token, s.tokens.lookup id = some token ∧ token.status = .active ∧
      token.user ∈ env.auths ∧
      s' = { s with tokens := s.tokens.insert id { token with user := a } } := by
  simp only [transferToken, returns_get_bind, returns_okOr_bind, returns_failIf_bind,
    returns_requireAuth_bind, returns_modify, ne_eq, not_not]

theorem getToken_returns : Returns (getToken env id) s token s' ↔
    s.tokens.lookup id = some token ∧ (token.status = .active → env.now ≤ token.expiryDate) ∧
      s' = s := by
  simp only [getToken, returns_get_bind, returns_okOr_bind, returns_failIf_bind, returns_pure,
    not_and, not_lt]
  constructor
  · rintro ⟨_, hs, hn, rfl, rfl⟩
    exact ⟨hs, hn, rfl⟩
  · rintro ⟨hs, hn, rfl⟩
    exact ⟨token, hs, hn, rfl, rfl⟩

theorem setAdmin_returns : Returns (setAdmin env a) s u s' ↔
    a ∈ env.auths ∧ s' = { s with admin := some a } := by
  rw [setAdmin, returns_requireAuth_bind, returns_modify]

end

end Memberships
