/-
  What the host gives a contract call: addresses, the ledger time, the authorisations, and tokens
  as ledgers of balances.
-/
import NovaLabs.Soroban.Code
import Mathlib.Data.Finset.Insert
import Mathlib.Tactic.SplitIfs
import Mathlib.Tactic.Ring
import Mathlib.Tactic.Linarith

namespace Soroban

/-- An account or contract address. -/
structure Address where
  id : ℕ
  deriving DecidableEq, Repr

/-- The host's side of a call to the contract at `me`: the ledger timestamp and the addresses
    that authorised the call.  The contract's own address is not among them: it is not its own
    invoker and defines no `__check_auth`. -/
structure Env (me : Address) where
  now : ℕ
  auths : Finset Address
  me_notMem : me ∉ auths

/-- `address.require_auth()`. -/
def requireAuth {S E : Type} {me : Address} (env : Env me) (a : Address) : Code S E Unit :=
  hostRequire (a ∈ env.auths)

@[simp] theorem returns_requireAuth {S E : Type} {me : Address} {env : Env me} {a : Address}
    {s s' : S} {u : Unit} :
    Returns (requireAuth env a : Code S E Unit) s u s' ↔ a ∈ env.auths ∧ s' = s :=
  returns_hostRequire

theorem returns_requireAuth_bind {S E β : Type} {me : Address} {env : Env me} {a : Address}
    {f : Unit → Code S E β} {s s' : S} {b : β} :
    Returns (requireAuth env a >>= f) s b s' ↔ a ∈ env.auths ∧ Returns (f ()) s b s' :=
  returns_bind_of_checks fun _ _ => returns_requireAuth

theorem stops_requireAuth_bind {S E β : Type} {me : Address} {env : Env me} {a : Address}
    {f : Unit → Code S E β} {s s' : S} {e : Stop E} :
    Stops (requireAuth env a >>= f) s e s' ↔
      (a ∉ env.auths ∧ e = .panic ∧ s' = s) ∨ (a ∈ env.auths ∧ Stops (f ()) s e s') := by
  rw [stops_bind_of_reads (p := fun _ => a ∈ env.auths) fun _ _ => returns_requireAuth, requireAuth,
    stops_hostRequire]
  exact or_congr_right ⟨fun ⟨_, h⟩ => h, fun h => ⟨(), h⟩⟩

/-- A call to the contract at `⟨0⟩` that the addresses `⟨1⟩` to `⟨4⟩` authorise. -/
def sampleEnv (now : ℕ) : Env ⟨0⟩ := ⟨now, {⟨1⟩, ⟨2⟩, ⟨3⟩, ⟨4⟩}, by decide⟩

/-! ## Tokens -/

/-- A call of `transfer` on a token contract. -/
structure Transfer where
  token : Address
  src : Address
  dst : Address
  amount : ℤ
  deriving DecidableEq

/-- The balances by token and holder. -/
abbrev Ledger := Address → Address → ℤ

/-- What a holder's balance gains by a transfer. -/
def Transfer.gain (t : Transfer) (token holder : Address) : ℤ :=
  if token = t.token then
    (if holder = t.dst then t.amount else 0) - (if holder = t.src then t.amount else 0)
  else 0

/-- The ledger after a transfer of exactly the requested amount. -/
def Ledger.move (l : Ledger) (t : Transfer) : Ledger :=
  fun token holder => l token holder + t.gain token holder

/-- A payout costs the payer at most the amount. -/
theorem gain_payout (token tok dst me : Address) {n : ℤ} (h : 0 ≤ n) :
    -(if tok = token then n else 0) ≤ (Transfer.mk tok me dst n).gain token me := by
  unfold Transfer.gain
  by_cases ht : token = tok
  · subst ht
    simp only [if_true]
    split_ifs <;> linarith
  · rw [if_neg ht, if_neg (Ne.symm ht)]; simp

/-- A payout to someone else costs the payer the amount. -/
theorem gain_withdrawal {me token tok dst : Address} {n : ℤ} (h : dst ≠ me) :
    (Transfer.mk tok me dst n).gain token me = -if tok = token then n else 0 := by
  unfold Transfer.gain
  by_cases ht : token = tok
  · simp [ht, Ne.symm h]
  · rw [if_neg ht, if_neg (Ne.symm ht), neg_zero]

/-- A deposit by someone else brings the amount. -/
theorem gain_deposit {me token tok src : Address} {n : ℤ} (h : src ≠ me) :
    (Transfer.mk tok src me n).gain token me = if tok = token then n else 0 := by
  unfold Transfer.gain
  by_cases ht : token = tok
  · simp [ht, Ne.symm h]
  · rw [if_neg ht, if_neg (Ne.symm ht)]

/-- Tokens that move exactly the requested amount where they accept a transfer, and fail
    otherwise. -/
def exactTokens (accepts : Transfer → Ledger → Bool) (t : Transfer) (l : Ledger) : Option Ledger :=
  if accepts t l then some (l.move t) else none

theorem exactTokens_eq_some {accepts : Transfer → Ledger → Bool} {t : Transfer} {l l' : Ledger}
    (h : exactTokens accepts t l = some l') : accepts t l = true ∧ l' = l.move t := by
  unfold exactTokens at h
  split_ifs at h with ha
  exact ⟨ha, (Option.some.inj h).symm⟩

end Soroban
