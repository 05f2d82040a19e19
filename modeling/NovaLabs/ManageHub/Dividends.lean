/-
  How a dividend is split among the holders of a token in fractions.

  Each holder gets the floor of its part, and the first one what rounding leaves over.  The parts
  are added up by Euclidean division (`sum_ediv_emod`): what is left over is the sum of the
  remainders, in units of the total.
-/
import NovaLabs.ManageHub.Rewards

namespace ManageHub

open Lib Soroban

variable {me : Address}

/-! ## Sums of floors -/

section
variable (a : ℤ) {d : ℤ}

theorem sum_ediv_emod (l : List ℤ) :
    d * (l.map fun k => a * k / d).sum + (l.map fun k => a * k % d).sum = a * l.sum := by
  induction l with
  | nil => simp
  | cons k l ih =>
    have hk := Int.mul_ediv_add_emod (a * k) d
    simp only [List.map_cons, List.sum_cons, mul_add]
    omega

theorem sum_emod_nonneg (hd : 0 < d) (l : List ℤ) : 0 ≤ (l.map fun k => a * k % d).sum := by
  refine List.sum_nonneg fun n hn => ?_
  obtain ⟨k, -, rfl⟩ := List.mem_map.1 hn
  exact Int.emod_nonneg _ hd.ne'

theorem sum_emod_lt (hd : 0 < d) {l : List ℤ} (hl : l ≠ []) :
    (l.map fun k => a * k % d).sum < l.length * d := by
  induction l with
  | nil => exact absurd rfl hl
  | cons k l ih =>
    have hk := Int.emod_lt_of_pos (a * k) hd
    rw [List.map_cons, List.sum_cons, List.length_cons, Nat.cast_succ, add_mul, one_mul]
    by_cases hl' : l = []
    · simp [hl', hk]
    · have := ih hl'
      omega

/-- What rounding leaves over of `a`, split in parts of the whole `d`, is less than the number of
    parts. -/
theorem sub_sum_ediv_lt (hd : 0 < d) {l : List ℤ} (hl : l ≠ []) (hsum : l.sum = d) :
    0 ≤ a - (l.map fun k => a * k / d).sum ∧ a - (l.map fun k => a * k / d).sum < l.length := by
  have hdiv := sum_ediv_emod (d := d) a l
  have hleft : (a - (l.map fun k => a * k / d).sum) * d = (l.map fun k => a * k % d).sum := by
    rw [hsum] at hdiv
    rw [sub_mul, mul_comm (List.sum _) d]
    omega
  constructor
  · refine nonneg_of_mul_nonneg_left ?_ hd
    rw [hleft]
    exact sum_emod_nonneg a hd l
  · refine lt_of_mul_lt_mul_right ?_ hd.le
    rw [hleft]
    exact sum_emod_lt a hd hl

end

/-! ## One distribution -/

/-- The shares are positive and add up to the whole. -/
structure SharesOfWhole (total : ℤ) (shares : SortedMap Address ℤ) : Prop where
  positive : ∀ holder n, shares.get holder = some n → 0 < n
  sum : shares.sum = total

/-- A holder's part of an amount, rounded down. -/
def partOf (amount total : ℤ) (shares : SortedMap Address ℤ) (holder : Address) : ℤ :=
  amount * (shares.get holder).getD 0 / total

/-- How a distribution changes the pending rewards. -/
structure SplitExactly (s s' : State) (id : TokenId) (amount total : ℤ)
    (shares : SortedMap Address ℤ) : Prop where
  whole : (shares.keys.map fun holder => s'.pendingReward id holder - s.pendingReward id holder).sum =
    amount
  first : ∃ firstHolder rest, ∃ remainder : ℤ, shares.keys = firstHolder :: rest ∧
    0 ≤ remainder ∧ remainder < shares.len ∧ s'.pendingReward id firstHolder =
      s.pendingReward id firstHolder + partOf amount total shares firstHolder + remainder ∧
    ∀ holder ∈ rest, s'.pendingReward id holder =
      s.pendingReward id holder + partOf amount total shares holder
  others : ∀ holder, shares.get holder = none →
    s'.pendingReward id holder = s.pendingReward id holder
  frame : ∀ k, k ≠ .pendingRewards id → s'.get k = s.get k

section
variable {env : HubEnv me} {s s' : State} {id : TokenId} {amount total : ℤ} {holder : Address}
  {shares : SortedMap Address ℤ} {sofar r : SortedMap Address ℤ × ℤ}

theorem getD_credit {rewards : SortedMap Address ℤ} {holder' : Address} {n : ℤ} :
    ((rewards.credit holder n).get holder').getD 0 =
      (rewards.get holder').getD 0 + if holder' = holder then n else 0 := by
  rw [SortedMap.get_credit]
  split_ifs with h
  · rw [h, Option.getD_some]
  · rw [add_zero]

/-- The loop gives each holder of a list without repetitions its part. -/
theorem distributeShares_split (ha : 0 ≤ amount)
    (hs : ∀ holder k, shares.get holder = some k → 0 < k) {l : List Address} (hl : l.Nodup)
    (h : Returns (l.foldlM (distributeShare amount total shares) sofar) s r s') :
    r.2 = sofar.2 + (l.map (partOf amount total shares)).sum ∧ ∀ holder,
      (r.1.get holder).getD 0 =
        (sofar.1.get holder).getD 0 + if holder ∈ l then partOf amount total shares holder else 0 := by
  induction l generalizing s sofar with
  | nil =>
    obtain ⟨rfl, -⟩ := returns_pure.1 h
    simp
  | cons holder l ih =>
    rw [List.foldlM_cons] at h
    obtain ⟨sofar', s₁, h₁, h₂⟩ := returns_bind.1 h
    obtain ⟨k, hk, rfl⟩ := distributeShare_returns h₁
    obtain ⟨hnot, hl⟩ := List.nodup_cons.1 hl
    obtain ⟨hsum, hget⟩ := ih hl h₂
    have hpart : (amount * k).tdiv total = partOf amount total shares holder := by
      rw [partOf, hk, Option.getD_some,
        Int.tdiv_eq_ediv_of_nonneg (mul_nonneg ha (hs holder k hk).le)]
    rw [hpart] at hsum hget
    refine ⟨by rw [hsum, List.map_cons, List.sum_cons, add_assoc], fun holder' => ?_⟩
    rw [hget, getD_credit]
    by_cases he : holder' = holder
    · subst he
      simp [hnot]
    · simp [he]

/-- What the parts leave over is less than the number of holders. -/
theorem SharesOfWhole.remainder (h : SharesOfWhole total shares) (amount : ℤ)
    (hl : shares.len ≠ 0) :
    0 ≤ amount - (shares.keys.map (partOf amount total shares)).sum ∧
      amount - (shares.keys.map (partOf amount total shares)).sum < shares.len := by
  have hshares : SharesOf 1 total shares := ⟨h.positive, fun _ _ _ => one_dvd _, h.sum⟩
  have ht := hshares.total_pos hl
  have hmap : shares.keys.map (partOf amount total shares) =
      (shares.keys.map fun k => (shares.get k).getD 0).map fun k => amount * k / total := by
    rw [List.map_map]
    rfl
  have hlen : (shares.keys.map fun k => (shares.get k).getD 0).length = shares.len := by
    rw [List.length_map, SortedMap.keys, List.length_map, SortedMap.len]
  have hne : (shares.keys.map fun k => (shares.get k).getD 0) ≠ [] := by
    intro he
    rw [he] at hlen
    exact hl hlen.symm
  have hbounds := sub_sum_ediv_lt amount ht hne ((SortedMap.sum_eq_keys shares).symm.trans h.sum)
  rw [hlen] at hbounds
  rwa [hmap]

/-- Where each holder's reward grows by its part, and the first one's by the remainder as well, the
    amount is split exactly. -/
theorem SharesOfWhole.splitExactly (h : SharesOfWhole total shares) (hl : shares.len ≠ 0)
    {firstHolder : Address} {rest : List Address} (hkeys : shares.keys = firstHolder :: rest)
    (hget : ∀ holder, s'.pendingReward id holder = s.pendingReward id holder +
      (if holder ∈ shares.keys then partOf amount total shares holder else 0) +
      if holder = firstHolder then amount - (shares.keys.map (partOf amount total shares)).sum else 0)
    (hframe : ∀ k, k ≠ .pendingRewards id → s'.get k = s.get k) :
    SplitExactly s s' id amount total shares := by
  obtain ⟨hnonneg, hlt⟩ := h.remainder amount hl
  have hnodup : (firstHolder :: rest).Nodup := hkeys ▸ shares.nodup_keys
  obtain ⟨hnot, -⟩ := List.nodup_cons.1 hnodup
  have hrest (holder : Address) (hmem : holder ∈ rest) :
      s'.pendingReward id holder = s.pendingReward id holder + partOf amount total shares holder := by
    have hne : holder ≠ firstHolder := fun he => hnot (he ▸ hmem)
    rw [hget, if_neg hne, if_pos (hkeys ▸ List.mem_cons_of_mem _ hmem), add_zero]
  have hfirst : s'.pendingReward id firstHolder = s.pendingReward id firstHolder +
      partOf amount total shares firstHolder +
      (amount - (shares.keys.map (partOf amount total shares)).sum) := by
    rw [hget, if_pos rfl, if_pos (hkeys ▸ List.mem_cons_self ..)]
  refine ⟨?_, ⟨firstHolder, rest, _, hkeys, hnonneg, hlt, hfirst, hrest⟩, fun holder hnone => ?_,
    hframe⟩
  · have hmap : (rest.map fun holder => s'.pendingReward id holder - s.pendingReward id holder) =
        rest.map (partOf amount total shares) :=
      List.map_congr_left fun holder hmem => by rw [hrest holder hmem, add_sub_cancel_left]
    rw [hkeys, List.map_cons, List.sum_cons, hmap, hfirst, hkeys, List.map_cons, List.sum_cons]
    ring
  · have hkey : holder ∉ shares.keys := fun hmem => by
      obtain ⟨n, hn⟩ := SortedMap.mem_keys.1 hmem
      cases hnone.symm.trans hn
    have hne : holder ≠ firstHolder := fun he => hkey (he ▸ hkeys ▸ List.mem_cons_self ..)
    rw [hget, if_neg hkey, if_neg hne, add_zero, add_zero]

/-- What is pending of a token once the rewards of its holders are written. -/
theorem pendingReward_put {rewards : SortedMap Address ℤ} :
    (s.put (.pendingRewards id) rewards).pendingReward id holder = (rewards.get holder).getD 0 := by
  rw [State.pendingReward, pendingRewards_put]

theorem distributeFractionRewards_split {info : FractionalTokenInfo} {d : DividendDistribution}
    (hi : s.get (.fractionInfo id) = some info) (hs : s.get (.fractionShares id) = some shares)
    (hw : SharesOfWhole info.totalShares shares)
    (h : Returns (distributeFractionRewards env id amount) s d s') :
    SplitExactly s s' id amount info.totalShares shares := by
  simp only [distributeFractionRewards, returns_reads_bind, returns_failIf,
    getFractionInfo_returns, getFractionShares_returns, returns_load, returns_okOr, returns_ite,
    returns_store_bind, returns_pure, not_le] at h
  obtain ⟨_, ⟨ha, -⟩, _, -, info', ⟨hi', -⟩, shares', ⟨hs', -⟩, _, ⟨hl, -⟩, _, ⟨rfl, -⟩,
    ⟨rewards, distributed⟩, hloop, remainder, ⟨hr, -⟩, h⟩ := h
  obtain rfl := Option.some.inj (hi.symm.trans hi')
  obtain rfl := Option.some.inj (hs.symm.trans hs')
  obtain rfl := eq_of_fitI128 hr
  obtain ⟨hsum, hget⟩ := distributeShares_split ha.le hw.positive shares.nodup_keys hloop
  obtain ⟨hnonneg, -⟩ := hw.remainder amount hl
  obtain ⟨firstHolder, rest, hkeys⟩ : ∃ firstHolder rest, shares.keys = firstHolder :: rest := by
    refine List.exists_cons_of_ne_nil fun hnil => hl ?_
    rw [SortedMap.len, ← List.length_map Prod.fst, ← SortedMap.keys, hnil, List.length_nil]
  dsimp only at h hsum hget
  rw [zero_add] at hsum
  subst hsum
  have hframe (rewards : SortedMap Address ℤ) (k : DataKey) (hk : k ≠ .pendingRewards id) :
      (s.put (.pendingRewards id) rewards).get k = s.get k := get_put_ne hk
  rcases h with ⟨-, firstHolder', hhead, rewards', hadd, -, rfl⟩ | ⟨hn, _, ⟨rfl, -⟩, -, rfl⟩
  · obtain rfl : firstHolder = firstHolder' := by simpa [hkeys] using hhead
    refine hw.splitExactly hl hkeys (fun holder => ?_) (hframe _)
    rw [pendingReward_put, addReward_returns hadd, getD_credit, hget]
    rfl
  · refine hw.splitExactly hl hkeys (fun holder => ?_) (hframe _)
    rw [pendingReward_put, hget, show amount - _ = 0 from le_antisymm (not_lt.1 hn) hnonneg, ite_self,
      add_zero]
    rfl

/-- **A dividend is split exactly, or nothing changes.** -/
theorem dividend_split {w w' : World} {i : Input me} {info : FractionalTokenInfo} (h : Step w i w')
    (hc : i.call = .distributeFractionRewards id amount)
    (hi : w.state.get (.fractionInfo id) = some info)
    (hs : w.state.get (.fractionShares id) = some shares)
    (hw : SharesOfWhole info.totalShares shares) :
    (i.ok w = true → SplitExactly w.state w'.state id amount info.totalShares shares) ∧
      (¬ i.ok w = true → w'.state = w.state) := by
  refine ⟨fun hok => ?_, h.state_eq_of_not_ok⟩
  obtain ⟨d, hr⟩ := returns_ignore.1 ((h.ok_iff_returns (by rw [hc]; rfl)).1 hok)
  exact distributeFractionRewards_split hi hs hw hr

/-- `⟨2⟩` has 60 of 100 shares, `⟨3⟩` the others: of 501, the first gets 301. -/
theorem dividend_split_odd : ∃ shares, SplitExactly (divideCalls.foldl next start).state
    (next (divideCalls.foldl next start) (hubCall 6 (.distributeFractionRewards 1 501))).state 1 501
      100 shares ∧
    (next (divideCalls.foldl next start)
      (hubCall 6 (.distributeFractionRewards 1 501))).state.pendingReward 1 ⟨2⟩ = 301 := by
  have hi : (divideCalls.foldl next start).state.get (.fractionInfo 1) =
      some ⟨1, 100, 10, 3, ⟨2⟩⟩ := by rfl
  obtain ⟨shares, hs, hok⟩ := sharesValid_of_run (run_calls divideCalls (by decide)) rfl 1 _ hi
  exact ⟨shares, (dividend_split (step_next (by decide)) rfl hi hs ⟨hok.positive, hok.sum⟩).1
    (by decide), by decide⟩

end

end ManageHub
