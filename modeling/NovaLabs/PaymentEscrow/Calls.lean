/-
  What the calls of payment_escrow do: one specification for each kind of call.

  A call that ends without a transfer changes the configuration or disputes an escrow (`Local`); a
  call that reaches a transfer creates an escrow (`Creates`) or pays one out (`PaysOut`), and says
  what it will write once the transfer has returned.
-/
import NovaLabs.PaymentEscrow.Contract

namespace PaymentEscrow

open Lib Soroban

variable {me : Address} {env : Env me} {s s' : State} {q : Transfer}
  {k : State → Act State Transfer Error Unit}

/-! ## Records -/

/-- Funds are held for the escrow. -/
def EscrowStatus.Held (st : EscrowStatus) : Prop := st = .pending ∨ st = .disputed

instance (st : EscrowStatus) : Decidable st.Held := inferInstanceAs (Decidable (_ ∨ _))

/-- Who receives the funds when the escrow takes the final status `st`. -/
def Escrow.recipient (e : Escrow) (st : EscrowStatus) : Address :=
  if st = .released then e.beneficiary else e.depositor

/-- The record of an escrow settled at time `now`. -/
def Escrow.settle (e : Escrow) (st : EscrowStatus) (now : ℕ) : Escrow :=
  { e with status := st, resolvedAt := some now }

/-- The record of an escrow disputed at time `now`. -/
def Escrow.dispute (e : Escrow) (now : ℕ) : Escrow :=
  { e with status := .disputed, disputeRaisedAt := some now }

/-- What an escrow keeps for life. -/
structure Escrow.SameTerms (e e' : Escrow) : Prop where
  id : e'.id = e.id
  depositor : e'.depositor = e.depositor
  beneficiary : e'.beneficiary = e.beneficiary
  amount : e'.amount = e.amount
  paymentToken : e'.paymentToken = e.paymentToken
  disputeWindow : e'.disputeWindow = e.disputeWindow

theorem Escrow.SameTerms.refl (e : Escrow) : e.SameTerms e := ⟨rfl, rfl, rfl, rfl, rfl, rfl⟩

theorem Escrow.sameTerms_settle (e : Escrow) (st : EscrowStatus) (now : ℕ) :
    e.SameTerms (e.settle st now) := ⟨rfl, rfl, rfl, rfl, rfl, rfl⟩

theorem Escrow.sameTerms_dispute (e : Escrow) (now : ℕ) : e.SameTerms (e.dispute now) :=
  ⟨rfl, rfl, rfl, rfl, rfl, rfl⟩

/-! ## Storage updates -/

def State.lock (s : State) (key : ReentrancyKey) : State := { s with locks := insert key s.locks }

def State.unlock (s : State) (key : ReentrancyKey) : State := { s with locks := s.locks.erase key }

def State.put (s : State) (e : Escrow) : State := { s with escrows := s.escrows.insert e.id e }

/-- The storage after `index_escrow`. -/
def State.index (s : State) (e : Escrow) : State :=
  { s with
    depositorEscrows := s.depositorEscrows.insert e.depositor
      ((s.depositorEscrows.lookup e.depositor).getD [] ++ [e.id])
    beneficiaryEscrows := s.beneficiaryEscrows.insert e.beneficiary
      ((s.beneficiaryEscrows.lookup e.beneficiary).getD [] ++ [e.id]) }

section
variable (s) (e : Escrow) (key : ReentrancyKey)

@[simp] theorem lock_escrows : (s.lock key).escrows = s.escrows := rfl
@[simp] theorem unlock_escrows : (s.unlock key).escrows = s.escrows := rfl
@[simp] theorem index_escrows : (s.index e).escrows = s.escrows := rfl
@[simp] theorem put_escrows : (s.put e).escrows = s.escrows.insert e.id e := rfl
@[simp] theorem lock_locks : (s.lock key).locks = insert key s.locks := rfl
@[simp] theorem unlock_locks : (s.unlock key).locks = s.locks.erase key := rfl
@[simp] theorem index_locks : (s.index e).locks = s.locks := rfl
@[simp] theorem put_locks : (s.put e).locks = s.locks := rfl

end

/-! ## Payouts -/

/-- How an entry point pays out: its lock, the status it asks for, the status it sets. -/
structure Payout where
  key : ReentrancyKey
  before : EscrowStatus
  after : EscrowStatus

/-- The escrow a call is to pay out, and how. -/
def Call.payout : Call → Option (String × Payout)
  | .release _ id => some (id, ⟨.release, .pending, .released⟩)
  | .refund _ id => some (id, ⟨.refund, .pending, .refunded⟩)
  | .claim _ id => some (id, ⟨.claim, .pending, .released⟩)
  | .resolveDispute _ id true => some (id, ⟨.resolve, .disputed, .released⟩)
  | .resolveDispute _ id false => some (id, ⟨.resolve, .disputed, .refunded⟩)
  | _ => none

/-- A payout takes held funds, settles, and has its own lock; only `resolve_dispute` settles a
    disputed escrow. -/
theorem payout_spec {c : Call} {id : String} {p : Payout} (h : c.payout = some (id, p)) :
    p.before.Held ∧ ¬ p.after.Held ∧
      (p.before = .disputed → ∃ caller b, c = .resolveDispute caller id b) ∧ p.key ≠ .create := by
  cases c with
  | initializeContract | setDisputeWindow | createEscrow | raiseDispute => cases h
  | release | refund | claim => cases h; simp [EscrowStatus.Held]
  | resolveDispute caller id' b => cases b <;> cases h <;> simp [EscrowStatus.Held]

/-- What the payout of `e` by a call asks of its caller. -/
def Call.admitted (env : Env me) (s : State) (e : Escrow) : Call → Prop
  | .release caller _ | .refund caller _ | .resolveDispute caller _ _ =>
    s.admin = some caller ∧ caller ∈ env.auths
  | .claim caller _ =>
    caller ∈ env.auths ∧ caller = e.beneficiary ∧ e.releaseAfter ≠ 0 ∧ e.releaseAfter ≤ env.now
  | _ => False

/-- The call `c` pays the escrow `e`, stored at `id`, out: the storage `s'` and the transfer `q`
    when it calls the token, and what it does afterwards. -/
structure PaysOut (env : Env me) (c : Call) (id : String) (p : Payout) (e : Escrow) (s : State)
    (q : Transfer) (s' : State) (k : State → Act State Transfer Error Unit) : Prop where
  payout : c.payout = some (id, p)
  stored : s.escrows.lookup id = some e
  status : e.status = p.before
  admitted : c.admitted env s e
  free : p.key ∉ s.locks
  req : q = ⟨e.paymentToken, me, e.recipient p.after, e.amount⟩
  locked : s' = s.lock p.key
  rest : ∀ t, k t = .done (.ok ()) ((t.put (e.settle p.after env.now)).unlock p.key)

/-- The call creates the escrow `e`. -/
structure Creates (env : Env me) (c : Call) (e : Escrow) (s : State) (q : Transfer) (s' : State)
    (k : State → Act State Transfer Error Unit) : Prop where
  call : c = .createEscrow e.depositor e.id e.beneficiary e.amount e.description e.releaseAfter
  auth : e.depositor ∈ env.auths
  pos : 0 < e.amount
  fresh : s.escrows.lookup e.id = none
  pending : e.status = .pending
  free : .create ∉ s.locks
  req : q = ⟨e.paymentToken, e.depositor, me, e.amount⟩
  locked : s' = s.lock .create
  rest : ∀ t, k t = .done (.ok ()) (((t.put e).index e).unlock .create)

section
variable {e : Escrow} {caller : Address} {id : String}

theorem requireAdmin_returns {u : Unit} :
    Returns (requireAdmin env caller) s u s' ↔
      s.admin = some caller ∧ caller ∈ env.auths ∧ s' = s := by
  simp only [requireAdmin, getAdmin, requireAuth, returns_bind, returns_get,
    returns_okOr, returns_failIf, returns_hostRequire, ne_eq, not_not]
  constructor
  · rintro ⟨a, _, ⟨_, _, ⟨rfl, rfl⟩, ha, rfl⟩, _, _, ⟨rfl, rfl⟩, h, rfl⟩
    exact ⟨ha, h, rfl⟩
  · rintro ⟨ha, h, rfl⟩
    exact ⟨caller, s', ⟨s', s', ⟨rfl, rfl⟩, ha, rfl⟩, (), s', ⟨rfl, rfl⟩, h, rfl⟩

theorem loadEscrow_returns :
    Returns (loadEscrow id) s e s' ↔ s.escrows.lookup id = some e ∧ s' = s := by
  simp [loadEscrow, and_comm]

theorem releaseChecks_returns :
    Returns (releaseChecks env caller id) s e s' →
      s.admin = some caller ∧ caller ∈ env.auths ∧ s.escrows.lookup id = some e ∧
        e.status = .pending ∧ s' = s := by
  simp only [releaseChecks, returns_bind, requireAdmin_returns, loadEscrow_returns,
    returns_failIf, returns_pure, ne_eq, not_not]
  rintro ⟨_, _, ⟨ha, hu, rfl⟩, e', _, ⟨he, rfl⟩, _, _, ⟨hp, rfl⟩, rfl, rfl⟩
  exact ⟨ha, hu, he, hp, rfl⟩

theorem resolveChecks_returns :
    Returns (resolveChecks env caller id) s e s' →
      s.admin = some caller ∧ caller ∈ env.auths ∧ s.escrows.lookup id = some e ∧
        e.status = .disputed ∧ s' = s := by
  simp only [resolveChecks, returns_bind, requireAdmin_returns, loadEscrow_returns,
    returns_failIf, returns_pure, ne_eq, not_not]
  rintro ⟨_, _, ⟨ha, hu, rfl⟩, e', _, ⟨he, rfl⟩, _, _, ⟨hp, rfl⟩, rfl, rfl⟩
  exact ⟨ha, hu, he, hp, rfl⟩

theorem claimChecks_returns :
    Returns (claimChecks env caller id) s e s' →
      s.escrows.lookup id = some e ∧ e.status = .pending ∧
        (Call.claim caller id).admitted env s e ∧ s' = s := by
  simp only [claimChecks, requireAuth, returns_bind, returns_hostRequire, loadEscrow_returns,
    returns_failIf, returns_pure, ne_eq, not_not, not_lt]
  rintro ⟨_, _, ⟨hu, rfl⟩, e', _, ⟨he, rfl⟩, _, _, ⟨hb, rfl⟩, _, _, ⟨hp, rfl⟩, _, _, ⟨hr, rfl⟩, _, _,
    ⟨hn, rfl⟩, rfl, rfl⟩
  exact ⟨he, hp, ⟨hu, hb, hr, hn⟩, rfl⟩

theorem createChecks_returns {depositor : Address} {amount : ℤ} {r : Address × ℕ} :
    Returns (createChecks env depositor id amount) s r s' →
      depositor ∈ env.auths ∧ 0 < amount ∧ s.escrows.lookup id = none ∧ s' = s := by
  simp only [createChecks, requireAuth, getPaymentToken, getDisputeWindow, bind_pure_comp,
    returns_bind, returns_map, returns_hostRequire, returns_failIf, returns_get, returns_okOr,
    not_le, Bool.not_eq_true, Option.isSome_eq_false_iff, Option.isNone_iff_eq_none]
  rintro ⟨_, _, ⟨ha, rfl⟩, _, _, ⟨hp, rfl⟩, _, _, ⟨rfl, rfl⟩, _, _, ⟨hf, rfl⟩, _, _,
    ⟨_, _, ⟨rfl, rfl⟩, -, rfl⟩, _, ⟨_, ⟨rfl, rfl⟩, -⟩, -⟩
  exact ⟨ha, hp, hf, rfl⟩

theorem reentrancyProtect_returns {key : ReentrancyKey} {u : Unit} :
    Returns (reentrancyProtect key) s u s' ↔ key ∉ s.locks ∧ s' = s.lock key := by
  simp [reentrancyProtect, State.lock]

theorem payOut_callsOut {key : ReentrancyKey} {r : Address} {st : EscrowStatus}
    (h : CallsOut (payOut env key e r st) s q s' k) :
    key ∉ s.locks ∧ q = ⟨e.paymentToken, me, r, e.amount⟩ ∧ s' = s.lock key ∧
      ∀ t, k t = .done (.ok ()) ((t.put (e.settle st env.now)).unlock key) := by
  simp only [payOut, callsOut_bind, callsOut_request, not_callsOut_lift, finishes_lift,
    not_finishes_request, reentrancyProtect_returns, and_false, false_and, exists_false, or_false,
    false_or] at h
  obtain ⟨_, _, ⟨hk, rfl⟩, _, ⟨rfl, rfl, rfl⟩, rfl⟩ := h
  exact ⟨hk, rfl, rfl, fun _ => rfl⟩

theorem not_finishes_payOut {key : ReentrancyKey} {r : Address} {st : EscrowStatus} {u : Unit} :
    ¬ Finishes (payOut env key e r st) s u s' := by
  simp [payOut]

end

/-! ## The three kinds of calls -/

/-- A call without a transfer. -/
inductive Local (env : Env me) : Call → State → State → Prop
  | config {c s s'} : c.payout = none → s'.escrows = s.escrows → s'.locks = s.locks →
      Local env c s s'
  | dispute {caller id s e} : s.escrows.lookup id = some e → e.status = .pending →
      Local env (.raiseDispute caller id) s (s.put (e.dispute env.now))

theorem finishes_cases {c : Call} (h : Finishes (entryPoint env c) s () s') : Local env c s s' := by
  cases c with
  | initializeContract admin token w =>
    simp only [entryPoint, finishes_lift, initializeContract, requireAuth, returns_bind,
      returns_get, returns_failIf, returns_hostRequire, returns_modify] at h
    obtain ⟨_, _, ⟨rfl, rfl⟩, _, _, ⟨-, rfl⟩, _, _, ⟨-, rfl⟩, rfl⟩ := h
    exact .config rfl rfl rfl
  | setDisputeWindow caller w =>
    simp only [entryPoint, finishes_lift, setDisputeWindow, returns_bind, requireAdmin_returns,
      returns_modify] at h
    obtain ⟨_, _, ⟨-, -, rfl⟩, rfl⟩ := h
    exact .config rfl rfl rfl
  | raiseDispute caller id =>
    simp only [entryPoint, finishes_lift, raiseDispute, saveEscrow, requireAuth, returns_bind,
      returns_hostRequire, loadEscrow_returns, returns_failIf, returns_checked, returns_modify,
      ne_eq, not_not] at h
    obtain ⟨_, _, ⟨-, rfl⟩, e, _, ⟨he, rfl⟩, _, _, ⟨-, rfl⟩, _, _, ⟨hp, rfl⟩, _, _, ⟨-, rfl⟩, _, _,
      ⟨-, -, rfl⟩, _, _, ⟨-, rfl⟩, rfl⟩ := h
    exact .dispute he hp
  | createEscrow => simp [entryPoint, createEscrow] at h
  | release caller id | refund caller id | resolveDispute caller id b | claim caller id =>
    simp only [entryPoint, release, refund, resolveDispute, claim, finishes_bind,
      not_finishes_payOut, and_false, exists_false] at h

/-- What a call without a transfer does to the whole storage. -/
inductive Changes (env : Env me) : Call → State → State → Prop
  | setup {admin token w s} : s.admin = none → admin ∈ env.auths →
      Changes env (.initializeContract admin token w) s
        { s with admin := some admin, paymentToken := some token, defaultDisputeWindow := some w }
  | window {caller w s} : s.admin = some caller → caller ∈ env.auths →
      Changes env (.setDisputeWindow caller w) s { s with defaultDisputeWindow := some w }
  | dispute {id s e} : s.escrows.lookup id = some e → e.status = .pending →
      e.depositor ∈ env.auths →
      Changes env (.raiseDispute e.depositor id) s (s.put (e.dispute env.now))

theorem finishes_changes {c : Call} (h : Finishes (entryPoint env c) s () s') :
    Changes env c s s' := by
  cases c with
  | initializeContract admin token w =>
    simp only [entryPoint, finishes_lift, initializeContract, returns_get_bind,
      returns_failIf_bind, returns_requireAuth_bind, returns_modify] at h
    obtain ⟨hnone, hauth, rfl⟩ := h
    exact .setup (by simpa using hnone) hauth
  | setDisputeWindow caller w =>
    simp only [entryPoint, finishes_lift, setDisputeWindow, returns_bind, requireAdmin_returns,
      returns_modify] at h
    obtain ⟨_, _, ⟨ha, hauth, rfl⟩, rfl⟩ := h
    exact .window ha hauth
  | raiseDispute caller id =>
    simp only [entryPoint, finishes_lift, raiseDispute, returns_requireAuth_bind, loadEscrow,
      bind_assoc, returns_get_bind, returns_okOr_bind, returns_failIf_bind, returns_checked_bind,
      saveEscrow, returns_modify, ne_eq, not_not] at h
    obtain ⟨hauth, e, hs, rfl, hp, -, -, -, rfl⟩ := h
    exact .dispute hs hp hauth
  | createEscrow => simp [entryPoint, createEscrow] at h
  | release caller id | refund caller id | resolveDispute caller id b | claim caller id =>
    simp only [entryPoint, release, refund, resolveDispute, claim, finishes_bind,
      not_finishes_payOut, and_false, exists_false] at h

theorem callsOut_cases {c : Call} (h : CallsOut (entryPoint env c) s q s' k) :
    (∃ e, Creates env c e s q s' k) ∨ ∃ id p e, PaysOut env c id p e s q s' k := by
  cases c with
  | initializeContract | setDisputeWindow | raiseDispute => exact absurd h not_callsOut_lift
  | createEscrow depositor id beneficiary amount description releaseAfter =>
    simp only [entryPoint, createEscrow, callsOut_bind, callsOut_request, not_callsOut_lift,
      finishes_lift, not_finishes_request, reentrancyProtect_returns, and_false, false_and,
      exists_false, or_false, false_or] at h
    obtain ⟨⟨token, w⟩, _, hc, _, _, ⟨hk, rfl⟩, _, ⟨rfl, rfl, rfl⟩, rfl⟩ := h
    obtain ⟨ha, hp, hf, rfl⟩ := createChecks_returns hc
    exact Or.inl ⟨⟨id, depositor, beneficiary, amount, token, .pending, description, env.now,
      releaseAfter, w, none, none⟩, rfl, ha, hp, hf, rfl, hk, rfl, rfl, fun _ => rfl⟩
  | release caller id =>
    simp only [entryPoint, release, callsOut_bind, not_callsOut_lift, finishes_lift, false_and,
      exists_false, or_false] at h
    obtain ⟨e, _, hc, hp⟩ := h
    obtain ⟨ha, hu, he, hs, rfl⟩ := releaseChecks_returns hc
    obtain ⟨hk, hq, hl, hr⟩ := payOut_callsOut hp
    exact Or.inr ⟨id, _, e, rfl, he, hs, ⟨ha, hu⟩, hk, hq, hl, hr⟩
  | refund caller id =>
    simp only [entryPoint, refund, callsOut_bind, not_callsOut_lift, finishes_lift, false_and,
      exists_false, or_false] at h
    obtain ⟨e, _, hc, hp⟩ := h
    obtain ⟨ha, hu, he, hs, rfl⟩ := releaseChecks_returns hc
    obtain ⟨hk, hq, hl, hr⟩ := payOut_callsOut hp
    exact Or.inr ⟨id, _, e, rfl, he, hs, ⟨ha, hu⟩, hk, hq, hl, hr⟩
  | resolveDispute caller id b =>
    simp only [entryPoint, resolveDispute, callsOut_bind, not_callsOut_lift, finishes_lift,
      false_and, exists_false, or_false] at h
    obtain ⟨e, _, hc, hp⟩ := h
    obtain ⟨ha, hu, he, hs, rfl⟩ := resolveChecks_returns hc
    obtain ⟨hk, hq, hl, hr⟩ := payOut_callsOut hp
    cases b with
    | true => exact Or.inr ⟨id, _, e, rfl, he, hs, ⟨ha, hu⟩, hk, hq, hl, hr⟩
    | false => exact Or.inr ⟨id, _, e, rfl, he, hs, ⟨ha, hu⟩, hk, hq, hl, hr⟩
  | claim caller id =>
    simp only [entryPoint, claim, callsOut_bind, not_callsOut_lift, finishes_lift, false_and,
      exists_false, or_false] at h
    obtain ⟨e, _, hc, hp⟩ := h
    obtain ⟨he, hs, ha, rfl⟩ := claimChecks_returns hc
    obtain ⟨hk, hq, hl, hr⟩ := payOut_callsOut hp
    exact Or.inr ⟨id, _, e, rfl, he, hs, ha, hk, hq, hl, hr⟩

end PaymentEscrow
