/-
  The voting power of the holders of a token in fractions, in basis points (fractionalization.rs).

  Each holder has the floor of their part of 10000, so the power of all holders falls short of 10000
  by less than one point for each of them.
-/
import NovaLabs.ManageHub.Dividends
import NovaLabs.ManageHub.StakeRewards
import NovaLabs.ManageHub.Titles

namespace ManageHub

open Lib Soroban

variable {me : Address}

/-! ## The query -/

structure FractionHolder where
  holder : Address
  shares : ℤ
  votingPowerBps : ℕ
  deriving DecidableEq

/-- `n as u32`, of an `i128`. -/
def asU32 (n : ℤ) : ℕ := (n % 2 ^ 32).toNat

/-- The list of holders so far, with a further one. -/
def pushHolder (totalShares : ℤ) (shares : SortedMap Address ℤ) (holders : List FractionHolder)
    (holder : Address) : Fn (List FractionHolder) :=
  (shares.get holder).elim (pure holders) fun shareCount => do
    let product ← okOr (fitI128 (shareCount * 10000)) .timestampOverflow
    let votingPower ← okOr (checkedDivI128 product totalShares) .timestampOverflow
    return holders ++ [⟨holder, shareCount, asU32 votingPower⟩]

def getFractionHolders (tokenId : TokenId) : Fn (List FractionHolder) := do
  let info ← getFractionInfo tokenId
  let shares ← getFractionShares tokenId
  shares.keys.foldlM (pushHolder info.totalShares shares) []

/-! ## What it lists -/

/-- A holder of some of the shares, with their voting power. -/
def lineOf (total : ℤ) (e : Address × ℤ) : FractionHolder :=
  ⟨e.1, e.2, (10000 * e.2 / total).toNat⟩

/-- The holders of the token's shares, each listed once, with the power that their shares give. -/
structure VotingRegister (s : State) (id : TokenId) (total : ℤ) (holders : List FractionHolder) :
    Prop where
  order : holders.Pairwise fun a b => a.holder < b.holder
  listed : ∀ a n, 0 < n → (s.sharesOf id a = n ↔ ∃ h ∈ holders, h.holder = a ∧ h.shares = n)
  whole : (holders.map (·.shares)).sum = total
  power : ∀ h ∈ holders, (h.votingPowerBps : ℤ) = 10000 * h.shares / total
  short : (holders.map (·.votingPowerBps)).sum ≤ 10000 ∧
    10000 < (holders.map (·.votingPowerBps)).sum + holders.length
  sole : ∀ h ∈ holders, h.votingPowerBps = 10000 ↔ holders = [h]

section
variable {s s' : State} {id : TokenId} {total unit n : ℤ} {a : Address}
  {shares : SortedMap Address ℤ} {holders r : List FractionHolder}

/-- A part of the whole has at most all points, which fit into `u32`. -/
theorem power_le (hn : 0 < n) (hle : n ≤ total) :
    0 ≤ 10000 * n / total ∧ 10000 * n / total ≤ 10000 := by
  have ht := hn.trans_le hle
  refine ⟨Int.ediv_nonneg (by omega) ht.le, Int.ediv_le_of_le_mul ht ?_⟩
  omega

theorem pushHolder_returns (hn : 0 < n) (hle : n ≤ total) (hget : shares.get a = some n) :
    Returns (pushHolder total shares holders a) s r s' ↔
      n * 10000 < 2 ^ 127 ∧ r = holders ++ [lineOf total (a, n)] ∧ s' = s := by
  obtain ⟨hnonneg, hpower⟩ := power_le hn hle
  have hchecked (hlt : n * 10000 < 2 ^ 127) :
      checkedDivI128 (n * 10000) total = some (10000 * n / total) := by
    rw [checkedDivI128_of_nonneg (by omega) (hn.trans_le hle) hlt, mul_comm]
  have hcast : asU32 (10000 * n / total) = (10000 * n / total).toNat := by
    rw [asU32, Int.emod_eq_of_lt hnonneg (by omega)]
  simp only [pushHolder, hget, Option.elim_some, returns_okOr_bind,
    fitI128_of_nonneg (n := n * 10000) (by omega), Option.ite_none_right_eq_some, Option.some.injEq]
  constructor
  · rintro ⟨_, ⟨hlt, rfl⟩, power, hp, hr⟩
    obtain rfl := Option.some.inj ((hchecked hlt).symm.trans hp)
    obtain ⟨rfl, rfl⟩ := returns_pure.1 hr
    exact ⟨hlt, by rw [hcast]; rfl, rfl⟩
  · rintro ⟨hlt, rfl, rfl⟩
    refine ⟨_, ⟨hlt, rfl⟩, _, hchecked hlt, ?_⟩
    rw [hcast]
    exact returns_pure.2 ⟨rfl, rfl⟩

/-- The loop lists the holders of a part of the entries. -/
theorem pushHolders_returns {l : List (Address × ℤ)}
    (hl : ∀ e ∈ l, shares.get e.1 = some e.2 ∧ 0 < e.2 ∧ e.2 ≤ total) :
    Returns ((l.map Prod.fst).foldlM (pushHolder total shares) holders) s r s' ↔
      (∀ e ∈ l, e.2 * 10000 < 2 ^ 127) ∧ r = holders ++ l.map (lineOf total) ∧ s' = s := by
  induction l generalizing holders with
  | nil => simp [eq_comm]
  | cons e l ih =>
    obtain ⟨⟨hget, hpos, hle⟩, hl⟩ := List.forall_mem_cons.1 hl
    rw [List.map_cons, List.foldlM_cons, returns_bind_of_reads (p := fun r =>
      e.2 * 10000 < 2 ^ 127 ∧ r = holders ++ [lineOf total e])
      fun _ _ => (pushHolder_returns hpos hle hget).trans and_assoc.symm, List.forall_mem_cons]
    constructor
    · rintro ⟨_, ⟨hlt, rfl⟩, hr⟩
      obtain ⟨hall, rfl, rfl⟩ := (ih hl).1 hr
      exact ⟨⟨hlt, hall⟩, by rw [List.append_assoc]; rfl, rfl⟩
    · rintro ⟨⟨hlt, hall⟩, rfl, rfl⟩
      exact ⟨_, ⟨hlt, rfl⟩, (ih hl).2 ⟨hall, by rw [List.append_assoc]; rfl, rfl⟩⟩

theorem SharesOf.le_total (h : SharesOf unit total shares) (hget : shares.get a = some n) :
    n ≤ total := by
  rw [← h.sum]
  refine List.single_le_sum (fun m hm => ?_) n
    (List.mem_map.2 ⟨(a, n), SortedMap.get_eq_some.1 hget, rfl⟩)
  obtain ⟨e, he, rfl⟩ := List.mem_map.1 hm
  exact (h.positive e.1 e.2 (SortedMap.get_eq_some.2 he)).le

theorem getFractionHolders_returns {info : FractionalTokenInfo}
    (hi : s.get (.fractionInfo id) = some info) (hs : s.get (.fractionShares id) = some shares)
    (hof : SharesOf unit info.totalShares shares) :
    Returns (getFractionHolders id) s r s' ↔ (∀ e ∈ shares.entries, e.2 * 10000 < 2 ^ 127) ∧
      r = shares.entries.map (lineOf info.totalShares) ∧ s' = s := by
  have hl : ∀ e ∈ shares.entries, shares.get e.1 = some e.2 ∧ 0 < e.2 ∧ e.2 ≤ info.totalShares := by
    intro e he
    have hget := SortedMap.get_eq_some.2 he
    exact ⟨hget, hof.positive e.1 e.2 hget, hof.le_total hget⟩
  simp only [getFractionHolders, returns_bind_of_reads fun _ _ => getFractionInfo_returns,
    returns_bind_of_reads fun _ _ => getFractionShares_returns, hi, hs, Option.some.injEq,
    exists_eq_left']
  rw [SortedMap.keys, pushHolders_returns hl, List.nil_append]

/-- A line that shows all points is that of the holder of all shares. -/
theorem power_eq_all (hn : 0 < n) (hle : n ≤ total) :
    (10000 * n / total).toNat = 10000 ↔ n = total := by
  obtain ⟨hnonneg, -⟩ := power_le hn hle
  have ht := hn.trans_le hle
  constructor
  · intro h
    have hall : 10000 * n / total = 10000 := by omega
    have hmul := Int.ediv_mul_le (10000 * n) ht.ne'
    rw [hall] at hmul
    omega
  · rintro rfl
    rw [Int.mul_ediv_cancel _ hn.ne']
    rfl

/-- Who has all shares is the only one in the entries. -/
theorem SharesOf.all_iff {e : Address × ℤ} (h : SharesOf unit total shares) (he : e ∈ shares.entries) :
    e.2 = total ↔ shares.entries = [e] := by
  constructor
  · intro hall
    have hget := SortedMap.get_eq_some.2 he
    have honly (e' : Address × ℤ) (he' : e' ∈ shares.entries) : e' = e := by
      have hget' := SortedMap.get_eq_some.2 he'
      have hkey : e'.1 = e.1 := by
        by_contra hne
        have hnone := h.sole (hall ▸ hget) hne
        rw [hget', Option.getD_some] at hnone
        exact (h.positive _ _ hget').ne' hnone
      exact Prod.ext hkey (Option.some.inj ((hkey ▸ hget').symm.trans hget))
    have hnodup : shares.entries.Nodup := shares.sorted.imp fun hlt heq => hlt.ne (congrArg _ heq)
    rw [List.eq_replicate_of_mem honly] at hnodup
    have hlen := List.length_pos_of_mem he
    rw [List.eq_replicate_of_mem honly, show shares.entries.length = 1 from
      le_antisymm (List.nodup_replicate.1 hnodup) hlen]
    rfl
  · intro hone
    rw [← h.sum, SortedMap.sum, hone]
    simp

theorem votingRegister {info : FractionalTokenInfo}
    (hi : s.get (.fractionInfo id) = some info) (hs : s.get (.fractionShares id) = some shares)
    (hof : SharesOf unit info.totalShares shares) (ht : 0 < info.totalShares) :
    VotingRegister s id info.totalShares (shares.entries.map (lineOf info.totalShares)) := by
  have hpower (e : Address × ℤ) (he : e ∈ shares.entries) :
      ((lineOf info.totalShares e).votingPowerBps : ℤ) = 10000 * e.2 / info.totalShares := by
    have hget := SortedMap.get_eq_some.2 he
    exact Int.toNat_of_nonneg (power_le (hof.positive _ _ hget) (hof.le_total hget)).1
  have hsum : ((((shares.entries.map (lineOf info.totalShares)).map (·.votingPowerBps)).sum : ℕ) : ℤ) =
      ((shares.entries.map Prod.snd).map fun n => 10000 * n / info.totalShares).sum := by
    rw [← Nat.coe_castAddMonoidHom, map_list_sum, List.map_map, List.map_map, List.map_map]
    exact congrArg List.sum (List.map_congr_left hpower)
  have hne : shares.entries.map Prod.snd ≠ [] := by
    intro hnil
    have hzero := hof.sum
    rw [SortedMap.sum, hnil, List.sum_nil] at hzero
    omega
  obtain ⟨hle, hlt⟩ := sub_sum_ediv_lt 10000 ht hne hof.sum
  rw [← hsum, List.length_map] at hlt
  rw [← hsum] at hle
  refine ⟨List.pairwise_map.2 shares.sorted, fun a n hn => ?_, ?_, fun h hh => ?_, ?_,
    fun h hh => ?_⟩
  · rw [sharesOf_some hi hs]
    constructor
    · intro he
      cases hget : shares.get a with
      | none =>
        rw [hget] at he
        exact absurd he hn.ne
      | some m =>
        rw [hget, Option.getD_some] at he
        exact ⟨lineOf _ (a, m), List.mem_map_of_mem (SortedMap.get_eq_some.1 hget), rfl, he⟩
    · rintro ⟨h, hh, rfl, rfl⟩
      obtain ⟨e, he, rfl⟩ := List.mem_map.1 hh
      exact congrArg (Option.getD · 0) (SortedMap.get_eq_some.2 he)
  · rw [List.map_map]
    exact hof.sum
  · obtain ⟨e, he, rfl⟩ := List.mem_map.1 hh
    exact hpower e he
  · rw [List.length_map]
    omega
  · obtain ⟨e, he, rfl⟩ := List.mem_map.1 hh
    have hget := SortedMap.get_eq_some.2 he
    refine (power_eq_all (hof.positive _ _ hget) (hof.le_total hget)).trans ?_
    rw [hof.all_iff he]
    constructor
    · intro hone
      rw [hone, List.map_singleton]
    · intro hone
      obtain ⟨e', he', heq⟩ := List.map_eq_singleton_iff.1 hone
      rw [he'] at he ⊢
      rw [List.mem_singleton.1 he]

end

/-! ## Runs -/

/-- Tokens are in more than one share. -/
def ManyShares (s : State) : Prop :=
  ∀ id info, s.get (.fractionInfo id) = some info → 1 < info.totalShares

section
variable {w w' w₀ : World} {i : Input me} {tr : List (Ev me)} {id : TokenId}
  {info : FractionalTokenInfo}

theorem Step.manyShares (h : Step w i w') (hd : ManyShares w.state) : ManyShares w'.state := by
  cases hc : i.call with
  | fractionalizeToken id total unit =>
    refine h.of_returns (by rw [hc]; rfl) hd fun s' hr id' info' hi' => ?_
    obtain ⟨token, ⟨⟨ht, -⟩, -⟩, rfl⟩ := fractionalizeToken_returns.1 hr
    rw [get_put_ne (by simp)] at hi'
    by_cases he : id' = id
    · subst he
      rw [get_put_self] at hi'
      cases hi'
      exact ht
    · rw [get_put_ne (by simpa using he)] at hi'
      exact hd id' info' hi'
  | recombineFractions id holder =>
    refine h.of_returns (by rw [hc]; rfl) hd fun s' hr id' info' hi' => ?_
    obtain ⟨_, _, _, -, rfl⟩ := recombineFractions_returns.1 hr
    rw [get_del_ne (by simp), get_del_ne (by simp)] at hi'
    obtain ⟨-, hi'⟩ := get_del_eq_some.1 hi'
    rw [get_put_ne (by simp)] at hi'
    exact hd id' info' hi'
  | _ =>
    intro id' info' hi'
    rw [h.frame (by rw [hc]; simp)] at hi'
    exact hd id' info' hi'

theorem manyShares_of_run (h : Run Step w₀ tr w) (h₀ : w₀.state = ∅) : ManyShares w.state := by
  refine h.invariant' (P := fun w => ManyShares w.state) (fun _ _ _ hd hs => hs.manyShares hd)
    fun id info hi => ?_
  rw [h₀] at hi
  cases hi

/-- **The list of holders is the exact register of a token's shares, and its voting powers are the
    floors of their parts: it is refused only where ten thousand times the shares of a holder are too
    many, and a holder can recombine the token exactly if the register gives them all points.** -/
theorem voting_register (h : Run Step w₀ tr w) (h₀ : w₀.state = ∅)
    (hi : w.state.get (.fractionInfo id) = some info) :
    (∀ holders s', Returns (getFractionHolders id) w.state holders s' →
      s' = w.state ∧ VotingRegister w.state id info.totalShares holders ∧
      ∀ (env : HubEnv me) (holder : Address),
        (∃ s', Returns (recombineFractions env id holder) w.state () s') ↔
          holder ∈ env.auths ∧ ∃ h ∈ holders, h.holder = holder ∧ h.votingPowerBps = 10000) ∧
    ((∃ holders s', Returns (getFractionHolders id) w.state holders s') ↔
      ∀ a, w.state.sharesOf id a * 10000 < 2 ^ 127) := by
  obtain ⟨shares, hs, hof⟩ := sharesValid_of_run h h₀ id info hi
  have hpos : 0 < info.totalShares := zero_lt_one.trans (manyShares_of_run h h₀ id info hi)
  have hregister := votingRegister hi hs hof hpos
  obtain ⟨user, hu, -⟩ := dividedBy_of_run h₀ h (Option.isSome_of_eq_some hi)
  obtain ⟨token, ht, -⟩ := Option.map_eq_some_iff.1 hu
  constructor
  · intro holders s' hr
    obtain ⟨-, rfl, rfl⟩ := (getFractionHolders_returns hi hs hof).1 hr
    refine ⟨rfl, hregister, fun env holder => ?_⟩
    rw [recombineFractions_passes]
    constructor
    · rintro ⟨info', shares', _, hauth, ⟨hi', hs'⟩, hall, -⟩
      obtain rfl := Option.some.inj (hi.symm.trans hi')
      obtain rfl := Option.some.inj (hs.symm.trans hs')
      exact ⟨hauth, lineOf _ (holder, _),
        List.mem_map_of_mem (SortedMap.get_eq_some.1 hall), rfl, (power_eq_all hpos le_rfl).2 rfl⟩
    · rintro ⟨hauth, _, hh, rfl, hpower⟩
      obtain ⟨e, he, rfl⟩ := List.mem_map.1 hh
      have hget := SortedMap.get_eq_some.2 he
      have hall := (power_eq_all (hof.positive _ _ hget) (hof.le_total hget)).1 hpower
      exact ⟨info, shares, token, hauth, ⟨hi, hs⟩, hall ▸ hget, ht⟩
  · simp only [getFractionHolders_returns hi hs hof, sharesOf_some hi hs]
    constructor
    · rintro ⟨_, _, hlt, -⟩ a
      cases hget : shares.get a with
      | none => simp
      | some n => exact hlt (a, n) (SortedMap.get_eq_some.1 hget)
    · intro hlt
      refine ⟨_, _, fun e he => ?_, rfl, rfl⟩
      have hlt := hlt e.1
      rwa [SortedMap.get_eq_some.2 he] at hlt

end

/-- `⟨2⟩` has 60 of 100 shares, `⟨3⟩` the others. -/
theorem voting_register_divided : ∃ holders,
    Returns (getFractionHolders 1) (divideCalls.foldl next start).state holders
      (divideCalls.foldl next start).state ∧
    VotingRegister (divideCalls.foldl next start).state 1 100 holders ∧
    holders = [⟨⟨2⟩, 60, 6000⟩, ⟨⟨3⟩, 40, 4000⟩] := by
  have hi : (divideCalls.foldl next start).state.get (.fractionInfo 1) =
      some ⟨1, 100, 10, 3, ⟨2⟩⟩ := by rfl
  have hr : Returns (getFractionHolders 1) (divideCalls.foldl next start).state
      [⟨⟨2⟩, 60, 6000⟩, ⟨⟨3⟩, 40, 4000⟩] (divideCalls.foldl next start).state := by rfl
  exact ⟨_, hr, ((voting_register (run_calls divideCalls (by decide)) rfl hi).1 _ _ hr).2.1, rfl⟩

end ManageHub
