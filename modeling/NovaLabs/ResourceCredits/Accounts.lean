/-
  The accounts of resource_credits: every balance is what the calls have credited less what they
  have debited, and who authorised it.

  A call that goes through posts at most one amount: from nobody when credits are minted, to nobody
  when they are spent.
-/
import NovaLabs.ResourceCredits.Conservation

namespace ResourceCredits

open Lib Soroban

variable {me : Address}

/-! ## Postings -/

/-- An amount that is taken from an account, or is new, and goes to another one, or is gone. -/
structure Posting where
  src : Option Address
  dst : Option Address
  amount : ℕ

/-- What a call posts that goes through. -/
def Call.posting : Call → Option Posting
  | .initializeContract .. => none
  | .mintCredits _ recipient amount => some ⟨none, some recipient, amount⟩
  | .transferCredits src dst amount => some ⟨some src, some dst, amount⟩
  | .spendCredits member amount => some ⟨some member, none, amount⟩

/-- What a step posts. -/
def posted (e : Ev me) : Option Posting :=
  if succeeds (e.inp.call.run e.inp.env) e.pre then e.inp.call.posting else none

def journal (tr : List (Ev me)) : List Posting := tr.filterMap posted

/-- What a posting brings an account. -/
def Posting.credit (p : Posting) (a : Address) : ℕ := if p.dst = some a then p.amount else 0

/-- What a posting takes from an account. -/
def Posting.debit (p : Posting) (a : Address) : ℕ := if p.src = some a then p.amount else 0

def credited (ps : List Posting) (a : Address) : ℕ := (ps.map (·.credit a)).sum

def debited (ps : List Posting) (a : Address) : ℕ := (ps.map (·.debit a)).sum

section
variable {s s' : State} {a b : Address} {n : ℕ} {e : Ev me} {tr : List (Ev me)}

theorem getBalance_put : getBalance (s.put a n) b = if b = a then n else getBalance s b := by
  rw [getBalance, State.put, Store.lookup_insert_ite]
  split_ifs <;> rfl

/-- What a step posts is what changes. -/
structure Posts (e : Ev me) (p : Posting) : Prop where
  balance : ∀ a, getBalance e.post a + p.debit a = getBalance e.pre a + p.credit a
  held : ∀ a, p.src = some a → a ∈ e.inp.env.auths ∧ p.amount ≤ getBalance e.pre a
  issued : p.src = none → ∃ admin, e.pre.admin = some admin ∧ admin ∈ e.inp.env.auths

theorem mint_posts {env : Env me} {u : Unit} {p : Posting}
    (hp : (Call.mintCredits a b n).posting = some p)
    (h : Returns (mintCredits env a b n) s u s') :
    Posts ⟨s, ⟨env, .mintCredits a b n⟩, s'⟩ p := by
  obtain ⟨-, ha, hauth, -, -, rfl⟩ := mintCredits_returns.1 h
  cases hp
  refine ⟨fun c => ?_, nofun, fun _ => ⟨a, ha, hauth⟩⟩
  change getBalance (s.put b (getBalance s b + n)) c + 0 = _
  rw [getBalance_put, Posting.credit]
  by_cases hc : c = b
  · rw [if_pos hc, if_pos (by rw [hc]), hc, add_zero]
  · rw [if_neg hc, if_neg (fun he => hc (Option.some.inj he).symm)]

theorem transfer_posts {env : Env me} {u : Unit} {p : Posting}
    (hp : (Call.transferCredits a b n).posting = some p)
    (h : Returns (transferCredits env a b n) s u s') :
    Posts ⟨s, ⟨env, .transferCredits a b n⟩, s'⟩ p := by
  obtain ⟨-, hauth, hle, -, rfl⟩ := transferCredits_returns.1 h
  cases hp
  refine ⟨fun c => ?_, ?_, nofun⟩
  · simp only [getBalance_put, Posting.credit, Posting.debit, Option.some.injEq, eq_comm (b := c)]
    -- the recipient's balance is read after the debit, which matters where it is the sender
    by_cases ha : c = a <;> by_cases hb : c = b
    · subst ha
      subst hb
      simp only [if_true]
      omega
    · subst ha
      simp only [if_true, if_neg hb]
      omega
    · subst hb
      simp only [if_true, if_neg ha, Nat.add_zero]
    · simp only [if_neg ha, if_neg hb]
  · rintro _ ⟨⟩
    exact ⟨hauth, hle⟩

theorem spend_posts {env : Env me} {u : Unit} {p : Posting}
    (hp : (Call.spendCredits a n).posting = some p)
    (h : Returns (spendCredits env a n) s u s') :
    Posts ⟨s, ⟨env, .spendCredits a n⟩, s'⟩ p := by
  obtain ⟨-, hauth, hle, -, rfl⟩ := spendCredits_returns.1 h
  cases hp
  refine ⟨fun c => ?_, ?_, nofun⟩
  · change getBalance (s.put a (getBalance s a - n)) c + _ = getBalance s c + 0
    rw [getBalance_put, Posting.debit]
    by_cases hc : c = a
    · rw [if_pos hc, if_pos (by rw [hc]), hc]
      exact Nat.sub_add_cancel hle
    · rw [if_neg hc, if_neg (fun he => hc (Option.some.inj he).symm)]
  · rintro _ ⟨⟩
    exact ⟨hauth, hle⟩

/-- A step makes its posting, or none and leaves the balances; the admin is set once. -/
theorem step_posts (h : Steps e.pre e.inp e.post) :
    (∀ p, posted e = some p → Posts e p) ∧
      (posted e = none → ∀ a, getBalance e.post a = getBalance e.pre a) ∧
      ∀ admin, e.pre.admin = some admin → e.post.admin = some admin := by
  obtain ⟨s, ⟨env, c⟩, s'⟩ := e
  have h : s' = commit (c.run env) s := h
  unfold posted
  dsimp only
  rcases commit_cases (c.run env) s with ⟨⟨⟩, hr⟩ | ⟨hno, hs⟩
  swap
  · have hfail : succeeds (c.run env) s = false := by
      rw [← Bool.not_eq_true, succeeds_iff]
      rintro ⟨_, _, hret⟩
      exact hno _ _ hret
    rw [hfail, h, hs]
    exact ⟨nofun, fun _ _ => rfl, fun _ ha => ha⟩
  rw [← h] at hr
  rw [if_pos (succeeds_iff.2 ⟨_, _, hr⟩)]
  cases c with
  | initializeContract a b =>
    obtain ⟨hnone, rfl⟩ := initializeContract_returns.1 hr
    exact ⟨nofun, fun _ _ => rfl, fun admin ha => by cases hnone.symm.trans ha⟩
  | mintCredits a b n =>
    refine ⟨fun p hp => mint_posts hp hr, nofun, fun admin ha => ?_⟩
    obtain ⟨-, -, -, -, -, rfl⟩ := mintCredits_returns.1 hr
    exact ha
  | transferCredits a b n =>
    refine ⟨fun p hp => transfer_posts hp hr, nofun, fun admin ha => ?_⟩
    obtain ⟨-, -, -, -, rfl⟩ := transferCredits_returns.1 hr
    exact ha
  | spendCredits a n =>
    refine ⟨fun p hp => spend_posts hp hr, nofun, fun admin ha => ?_⟩
    obtain ⟨-, -, -, -, rfl⟩ := spendCredits_returns.1 hr
    exact ha

/-! ## Accounts -/

theorem journal_snoc : journal (tr ++ [e]) = journal tr ++ (posted e).toList := by
  rw [journal, List.filterMap_append, journal]
  cases h : posted e <;> simp [h]

/-- What has been posted to an account is its balance. -/
theorem balance_run (h : Run Steps {} tr s) (a : Address) :
    getBalance s a + debited (journal tr) a = credited (journal tr) a := by
  refine h.history (P := fun tr s =>
    getBalance s a + debited (journal tr) a = credited (journal tr) a)
    (fun tr s i s' ih hs => ?_) ?_
  · obtain ⟨hposts, hidle, -⟩ := step_posts (e := ⟨s, i, s'⟩) hs
    rw [journal_snoc]
    cases hp : posted ⟨s, i, s'⟩ with
    | none =>
      have hsame : getBalance s' a = getBalance s a := hidle hp a
      rw [Option.toList_none, List.append_nil, hsame]
      exact ih
    | some p =>
      have hbalance : getBalance s' a + p.debit a = getBalance s a + p.credit a :=
        (hposts p hp).balance a
      simp only [debited, credited, Option.toList_some, List.map_append, List.map_singleton,
        List.sum_append, List.sum_singleton] at ih ⊢
      omega
  · rfl

theorem admin_run {s : State} (h : Run Steps s tr s') {admin : Address}
    (ha : s.admin = some admin) : s'.admin = some admin :=
  h.invariant' (P := fun s => s.admin = some admin)
    (fun s i s' ha hs => (step_posts (e := ⟨s, i, s'⟩) hs).2.2 admin ha) ha

end

/-- The accounts along the run `tr` that ends in `s`. -/
structure Accounted (tr : List (Ev me)) (s : State) : Prop where
  /-- a balance is what was credited less what was debited -/
  balance : ∀ a, getBalance s a + debited (journal tr) a = credited (journal tr) a
  /-- no account is overdrawn at any time -/
  covered : ∀ tr₁ tr₂, tr = tr₁ ++ tr₂ → ∀ a,
    debited (journal tr₁) a ≤ credited (journal tr₁) a
  /-- a debit is authorised by the holder -/
  held : ∀ e ∈ tr, ∀ a, getBalance e.post a < getBalance e.pre a →
    a ∈ e.inp.env.auths ∧ ∃ p, posted e = some p ∧ p.src = some a
  /-- new credits are authorised by the one admin that the contract ever has -/
  issued : ∀ e ∈ tr, ∀ p, posted e = some p → p.src = none →
    ∃ admin, s.admin = some admin ∧ admin ∈ e.inp.env.auths

theorem run_prefix {tr₁ tr₂ : List (Ev me)} {s : State} (h : Run Steps {} (tr₁ ++ tr₂) s) :
    ∃ s₁, Run Steps {} tr₁ s₁ := by
  cases tr₂ with
  | nil =>
    rw [List.append_nil] at h
    exact ⟨s, h⟩
  | cons e tr₂ => exact ⟨e.pre, h.split.1⟩

/-- **Accounts.** Along every run the balances are what has been posted, no account is overdrawn or
    debited without its holder, and all credits come from one admin. -/
theorem accounts {tr : List (Ev me)} {s : State} (h : Run Steps {} tr s) : Accounted tr s := by
  refine ⟨balance_run h, ?_, fun e hev a hlt => ?_, fun e hev p hp hsrc => ?_⟩
  · rintro tr₁ tr₂ rfl a
    obtain ⟨s₁, h₁⟩ := run_prefix h
    rw [← balance_run h₁ a]
    exact Nat.le_add_left _ _
  · obtain ⟨hposts, hidle, -⟩ := step_posts (h.step_of_mem hev)
    cases hp : posted e with
    | none =>
      rw [hidle hp a] at hlt
      exact absurd hlt (lt_irrefl _)
    | some p =>
      have hbalance := (hposts p hp).balance a
      have hsrc : p.src = some a := by
        by_contra hne
        rw [Posting.debit, if_neg hne] at hbalance
        omega
      exact ⟨((hposts p hp).held a hsrc).1, p, rfl, hsrc⟩
  · obtain ⟨tr₁, tr₂, rfl⟩ := List.append_of_mem hev
    obtain ⟨-, hs, hrun⟩ := h.split
    obtain ⟨hposts, -, hadmin⟩ := step_posts hs
    obtain ⟨admin, ha, hauth⟩ := (hposts p hp).issued hsrc
    exact ⟨admin, admin_run hrun (hadmin admin ha), hauth⟩

theorem accounts_sample : Accounted (eventsFrom next {} sampleInputs) (sampleInputs.foldl next {}) ∧
    (journal (eventsFrom next {} sampleInputs)).length = 4 ∧
    credited (journal (eventsFrom next {} sampleInputs)) ⟨3⟩ = 60 ∧
    debited (journal (eventsFrom next {} sampleInputs)) ⟨3⟩ = 40 :=
  ⟨accounts (run_foldl next sampleInputs {}), by decide, by decide, by decide⟩

end ResourceCredits
