/-
  Conservation of credits: the balances add up to the total supply, which is what was minted less
  what was spent.

  So no balance exceeds the supply, and the additions and subtractions behind a balance check
  cannot overflow.
-/
import NovaLabs.ResourceCredits.Contract

namespace ResourceCredits

open Lib Soroban

variable {me : Address} {env : Env me} {s s' : State} {u : Unit} {a b : Address} {n : ℕ}

/-! ## What the entry points do -/

/-- The sum of all balances. -/
def State.credits (s : State) : ℕ := Store.total s.balance fun _ n => n

def State.put (s : State) (a : Address) (n : ℕ) : State :=
  { s with balance := s.balance.insert a n }

theorem mintCredits_returns : Returns (mintCredits env a b n) s u s' ↔ n ≠ 0 ∧
    s.admin = some a ∧ a ∈ env.auths ∧ getBalance s b + n < 2 ^ 128 ∧
      s.totalSupply + n < 2 ^ 128 ∧
      s' = { s.put b (getBalance s b + n) with totalSupply := s.totalSupply + n } := by
  simp only [mintCredits, setBalance, setTotalSupply, requireAuth, returns_bind, returns_failIf,
    returns_get, returns_okOr, returns_hostRequire, returns_checked, returns_modify, not_not]
  constructor
  · rintro ⟨_, _, ⟨hn, rfl⟩, _, _, ⟨rfl, rfl⟩, _, _, ⟨ha, rfl⟩, _, _, ⟨rfl, rfl⟩, _, _, ⟨hauth, rfl⟩, _,
      _, ⟨rfl, rfl⟩, _, _, ⟨rfl, hb, rfl⟩, _, _, rfl, _, _, ⟨rfl, rfl⟩, _, _, ⟨rfl, hs, rfl⟩, rfl⟩
    exact ⟨hn, ha, hauth, hb, hs, rfl⟩
  · rintro ⟨hn, ha, hauth, hb, hs, rfl⟩
    exact ⟨(), s, ⟨hn, rfl⟩, s, s, ⟨rfl, rfl⟩, a, s, ⟨ha, rfl⟩, (), s, ⟨rfl, rfl⟩, (), s, ⟨hauth, rfl⟩,
      s, s, ⟨rfl, rfl⟩, _, s, ⟨rfl, hb, rfl⟩, (), _, rfl, _, _, ⟨rfl, rfl⟩, _, _, ⟨rfl, hs, rfl⟩, rfl⟩

theorem transferCredits_returns : Returns (transferCredits env a b n) s u s' ↔ n ≠ 0 ∧
    a ∈ env.auths ∧ n ≤ getBalance s a ∧
      getBalance (s.put a (getBalance s a - n)) b + n < 2 ^ 128 ∧
      s' = (s.put a (getBalance s a - n)).put b
        (getBalance (s.put a (getBalance s a - n)) b + n) := by
  simp only [transferCredits, setBalance, requireAuth, returns_bind, returns_failIf, returns_get,
    returns_hostRequire, returns_checked, returns_checkedSub, returns_modify, not_lt]
  constructor
  · rintro ⟨_, _, ⟨hn, rfl⟩, _, _, ⟨ha, rfl⟩, _, _, ⟨rfl, rfl⟩, _, _, ⟨hle, rfl⟩, _, _,
      ⟨rfl, -, rfl⟩, _, _, rfl, _, _, ⟨rfl, rfl⟩, _, _, ⟨rfl, hb, rfl⟩, rfl⟩
    exact ⟨hn, ha, hle, hb, rfl⟩
  · rintro ⟨hn, ha, hle, hb, rfl⟩
    exact ⟨(), s, ⟨hn, rfl⟩, (), s, ⟨ha, rfl⟩, s, s, ⟨rfl, rfl⟩, (), s, ⟨hle, rfl⟩, _, s,
      ⟨rfl, hle, rfl⟩, (), _, rfl, _, _, ⟨rfl, rfl⟩, _, _, ⟨rfl, hb, rfl⟩, rfl⟩

theorem spendCredits_returns : Returns (spendCredits env a n) s u s' ↔ n ≠ 0 ∧ a ∈ env.auths ∧
    n ≤ getBalance s a ∧ n ≤ s.totalSupply ∧
      s' = { s.put a (getBalance s a - n) with totalSupply := s.totalSupply - n } := by
  simp only [spendCredits, setBalance, setTotalSupply, requireAuth, returns_bind, returns_failIf,
    returns_get, returns_hostRequire, returns_checkedSub, returns_modify, not_lt]
  constructor
  · rintro ⟨_, _, ⟨hn, rfl⟩, _, _, ⟨ha, rfl⟩, _, _, ⟨rfl, rfl⟩, _, _, ⟨hle, rfl⟩, _, _,
      ⟨rfl, -, rfl⟩, _, _, rfl, _, _, ⟨rfl, rfl⟩, _, _, ⟨rfl, hs, rfl⟩, rfl⟩
    exact ⟨hn, ha, hle, hs, rfl⟩
  · rintro ⟨hn, ha, hle, hs, rfl⟩
    exact ⟨(), s, ⟨hn, rfl⟩, (), s, ⟨ha, rfl⟩, s, s, ⟨rfl, rfl⟩, (), s, ⟨hle, rfl⟩, _, s,
      ⟨rfl, hle, rfl⟩, (), _, rfl, _, _, ⟨rfl, rfl⟩, _, _, ⟨rfl, hs, rfl⟩, rfl⟩

theorem initializeContract_returns : Returns (initializeContract a b) s u s' ↔ s.admin = none ∧
    s' = { s with admin := some a, paymentToken := some b, totalSupply := 0 } := by
  rw [initializeContract, returns_get_bind]
  simp [Option.isSome_iff_ne_none]

/-- Writing a balance exchanges it in the sum. -/
theorem credits_put (s : State) (a : Address) (n : ℕ) :
    (s.put a n).credits + getBalance s a = s.credits + n := by
  have h := Store.total_insert s.balance a n fun _ n => n
  rw [State.credits, State.credits, getBalance, ← h]
  cases s.balance.lookup a <;> rfl

theorem getBalance_le (s : State) (a : Address) : getBalance s a ≤ s.credits := by
  have h := Store.elim_le_total s.balance a fun _ n => n
  rw [getBalance, State.credits]
  cases hl : s.balance.lookup a with
  | none => exact Nat.zero_le _
  | some n => rw [hl] at h; exact h

/-! ## Runs -/

abbrev Ev (me : Address) := Event State (Input me)

/-- What a call mints. -/
def mintedBy (e : Ev me) : ℕ :=
  match e.inp.call with
  | .mintCredits _ _ amount => if succeeds (e.inp.call.run e.inp.env) e.pre then amount else 0
  | _ => 0

/-- What a call spends. -/
def spentBy (e : Ev me) : ℕ :=
  match e.inp.call with
  | .spendCredits _ amount => if succeeds (e.inp.call.run e.inp.env) e.pre then amount else 0
  | _ => 0

def minted (tr : List (Ev me)) : ℕ := (tr.map mintedBy).sum

def spent (tr : List (Ev me)) : ℕ := (tr.map spentBy).sum

/-- What the entry points preserve, of the amounts minted and spent and the storage. -/
structure Balanced (minted spent : ℕ) (s : State) : Prop where
  sum : s.credits = s.totalSupply
  supply : s.totalSupply + spent = minted
  bound : s.totalSupply < 2 ^ 128
  unset : s.admin = none → s.totalSupply = 0

variable {m k : ℕ} {tr : List (Ev me)}

theorem Balanced.mint (h : Balanced m k s) (hr : Returns (mintCredits env a b n) s u s') :
    Balanced (m + n) k s' := by
  obtain ⟨-, ha, -, -, hs, rfl⟩ := mintCredits_returns.1 hr
  have hput : (s.put b (getBalance s b + n)).credits + getBalance s b =
      s.credits + (getBalance s b + n) := credits_put s b _
  have hsum := h.sum
  have hsupply := h.supply
  refine ⟨?_, ?_, hs, fun hn => by rw [show s.admin = none from hn] at ha; cases ha⟩
  · change (s.put b (getBalance s b + n)).credits = s.totalSupply + n
    omega
  · change s.totalSupply + n + k = m + n
    omega

/-- After the debit of `n`, the other balances and `n` are within the supply. -/
theorem Balanced.debit (h : Balanced m k s) (hn : n ≤ getBalance s a) :
    (s.put a (getBalance s a - n)).credits + n = s.totalSupply := by
  have hput := credits_put s a (getBalance s a - n)
  have hsum := h.sum
  omega

theorem Balanced.transfer (h : Balanced m k s) (hr : Returns (transferCredits env a b n) s u s') :
    Balanced m k s' := by
  obtain ⟨-, -, hle, -, rfl⟩ := transferCredits_returns.1 hr
  have hput := credits_put (s.put a (getBalance s a - n)) b
    (getBalance (s.put a (getBalance s a - n)) b + n)
  have hdebit := h.debit hle
  refine ⟨?_, h.supply, h.bound, h.unset⟩
  change State.credits _ = s.totalSupply
  omega

theorem Balanced.spend (h : Balanced m k s) (hr : Returns (spendCredits env a n) s u s') :
    Balanced m (k + n) s' := by
  obtain ⟨-, -, hle, hs, rfl⟩ := spendCredits_returns.1 hr
  have hdebit := h.debit hle
  have hsupply := h.supply
  refine ⟨?_, ?_, (Nat.sub_le _ _).trans_lt h.bound, fun hn => ?_⟩
  · change (s.put a (getBalance s a - n)).credits = s.totalSupply - n
    omega
  · change s.totalSupply - n + (k + n) = m
    omega
  · change s.totalSupply - n = 0
    rw [h.unset hn, Nat.zero_sub]

theorem Balanced.start (h : Balanced m k s) (hr : Returns (initializeContract a b) s u s') :
    Balanced m k s' := by
  obtain ⟨hn, rfl⟩ := initializeContract_returns.1 hr
  have hzero := h.unset hn
  refine ⟨h.sum.trans hzero, ?_, Nat.two_pow_pos 128, fun hn => by cases hn⟩
  have hsupply := h.supply
  rw [hzero] at hsupply
  exact hsupply

/-- A successful mint or spend of the step counts, and nothing else does. -/
theorem Balanced.step {i : Input me} (h : Balanced (minted tr) (spent tr) s)
    (hst : Steps s i s') :
    Balanced (minted (tr ++ [⟨s, i, s'⟩])) (spent (tr ++ [⟨s, i, s'⟩])) s' := by
  simp only [minted, spent, List.map_append, List.map_singleton, List.sum_append,
    List.sum_singleton, mintedBy, spentBy]
  rw [← minted, ← spent]
  rcases commit_cases (i.call.run i.env) s with ⟨_, hret⟩ | ⟨hno, hsame⟩
  · rw [show commit (i.call.run i.env) s = s' from hst.symm] at hret
    have hyes : succeeds (i.call.run i.env) s = true := succeeds_iff.2 ⟨_, _, hret⟩
    rw [hyes]
    cases hcall : i.call <;> rw [hcall] at hret
    · exact h.start hret
    · exact h.mint hret
    · exact h.transfer hret
    · exact h.spend hret
  · have hsame : s' = s := hst.trans hsame
    subst hsame
    have hfail : succeeds (i.call.run i.env) s' = false := by
      rw [← Bool.not_eq_true, succeeds_iff]
      rintro ⟨_, _, hret⟩
      exact hno _ _ hret
    rw [hfail]
    cases i.call <;> exact h

/-- The balances add up to the supply, the supply is what was minted less what was spent, and a
    transfer or a spending that passes the balance check goes through. -/
structure Conserved (tr : List (Ev me)) (s : State) : Prop where
  sum : s.credits = s.totalSupply
  supply : s.totalSupply + spent tr = minted tr
  transfers : ∀ (env : Env me) src dst amount, amount ≠ 0 → src ∈ env.auths →
    amount ≤ getBalance s src → ∃ s', Returns (transferCredits env src dst amount) s () s'
  spends : ∀ (env : Env me) member amount, amount ≠ 0 → member ∈ env.auths →
    amount ≤ getBalance s member → ∃ s', Returns (spendCredits env member amount) s () s'

/-- **Credits are conserved, and the arithmetic behind a balance check is safe.** -/
theorem credits_conserved (h : Run Steps {} tr s) : Conserved tr s := by
  have hb : Balanced (minted tr) (spent tr) s :=
    h.history (P := fun tr s => Balanced (minted tr) (spent tr) s)
      (fun _ _ _ _ hb hst => hb.step hst) ⟨Store.total_empty _, rfl, by decide, fun _ => rfl⟩
  refine ⟨hb.sum, hb.supply, fun env src dst amount hn ha hle => ?_,
    fun env member amount hn ha hle => ?_⟩
  · refine ⟨_, transferCredits_returns.2 ⟨hn, ha, hle, ?_, rfl⟩⟩
    have hto := getBalance_le (s.put src (getBalance s src - amount)) dst
    have hdebit := hb.debit hle
    have hbound := hb.bound
    omega
  · refine ⟨_, spendCredits_returns.2 ⟨hn, ha, hle, ?_, rfl⟩⟩
    have hmem := getBalance_le s member
    rw [hb.sum] at hmem
    exact hle.trans hmem

/-- Credits are minted, transferred, also to oneself, and spent. -/
def sampleInputs : List (Input ⟨0⟩) :=
  [.initializeContract ⟨1⟩ ⟨9⟩, .mintCredits ⟨1⟩ ⟨2⟩ 100, .transferCredits ⟨2⟩ ⟨3⟩ 30,
    .transferCredits ⟨3⟩ ⟨3⟩ 30, .spendCredits ⟨3⟩ 10, .spendCredits ⟨3⟩ 40].map
    fun call => ⟨sampleEnv 0, call⟩

theorem credits_conserved_sample :
    let tr := eventsFrom next {} sampleInputs
    let s := sampleInputs.foldl next {}
    Conserved tr s ∧ minted tr = 100 ∧ spent tr = 10 ∧ s.totalSupply = 90 :=
  ⟨credits_conserved (run_foldl next sampleInputs {}), by decide, by decide, by decide⟩

end ResourceCredits
