/-
  The rewards of fractions over whole runs.

  What is distributed is recorded in full: the parts, rounded down, do not exceed the amount, and
  the remainder goes to the first holder.  A recombination removes the record with all that is
  pending, whoever it is for, so that rewards are kept as long as none are pending then.
-/
import NovaLabs.ManageHub.Ownership
import Mathlib.Algebra.Order.BigOperators.Group.List

namespace ManageHub

open Lib Soroban

variable {me : Address}

/-! ## Pending rewards -/

/-- `get_pending_rewards`. -/
def State.pendingRewards (s : State) (id : TokenId) : SortedMap Address ℤ :=
  (s.get (.pendingRewards id)).getD ∅

def State.pendingReward (s : State) (id : TokenId) (holder : Address) : ℤ :=
  ((s.pendingRewards id).get holder).getD 0

def State.pendingTotal (s : State) (id : TokenId) : ℤ := (s.pendingRewards id).sum

/-- Nobody's reward is lower. -/
def RewardsLe (rewards rewards' : SortedMap Address ℤ) : Prop :=
  ∀ holder, (rewards.get holder).getD 0 ≤ (rewards'.get holder).getD 0

section
variable {s s' : State} {rewards rewards' rewards'' shares : SortedMap Address ℤ}
  {id : TokenId} {holder : Address} {n total unit : ℤ}

theorem RewardsLe.refl : RewardsLe rewards rewards := fun _ => le_rfl

theorem RewardsLe.trans (h : RewardsLe rewards rewards') (h' : RewardsLe rewards' rewards'') :
    RewardsLe rewards rewards'' := fun holder => (h holder).trans (h' holder)

theorem rewardsLe_credit (hn : 0 ≤ n) : RewardsLe rewards (rewards.credit holder n) := by
  intro holder'
  rw [SortedMap.get_credit]
  split_ifs with h
  · rw [h, Option.getD_some]
    omega
  · exact le_rfl

theorem pendingRewards_congr (h : s'.get (.pendingRewards id) = s.get (.pendingRewards id)) :
    s'.pendingRewards id = s.pendingRewards id := by
  rw [State.pendingRewards, h, State.pendingRewards]

theorem pendingRewards_put : (s.put (.pendingRewards id) rewards).pendingRewards id = rewards := by
  rw [State.pendingRewards, get_put_self, Option.getD_some]

theorem SharesOf.total_pos (h : SharesOf unit total shares) (hl : shares.len ≠ 0) : 0 < total := by
  rw [← h.sum]
  refine List.sum_pos _ (fun n hn => ?_) (fun he => hl ?_)
  · obtain ⟨⟨holder, n⟩, he, rfl⟩ := List.mem_map.1 hn
    exact h.positive holder n (SortedMap.get_eq_some.2 he)
  · rw [SortedMap.len, List.map_eq_nil_iff.1 he, List.length_nil]

/-- Where nobody's reward is negative and they sum up to nothing, there are none. -/
theorem pendingReward_eq_zero (h : ∀ holder, 0 ≤ s.pendingReward id holder)
    (h₀ : s.pendingTotal id = 0) (holder : Address) : s.pendingReward id holder = 0 := by
  refine le_antisymm ?_ (h holder)
  rw [← h₀, State.pendingReward]
  have hall : ∀ n ∈ (s.pendingRewards id).entries.map Prod.snd, 0 ≤ n := by
    intro n hn
    obtain ⟨⟨holder', n⟩, he, rfl⟩ := List.mem_map.1 hn
    have hp := h holder'
    rwa [State.pendingReward, SortedMap.get_eq_some.2 he] at hp
  cases hg : (s.pendingRewards id).get holder with
  | none => exact List.sum_nonneg hall
  | some n =>
    exact List.single_le_sum hall n (List.mem_map_of_mem (SortedMap.get_eq_some.1 hg))

end

/-! ## Distribution -/

section
variable {env : HubEnv me} {s s' : State} {id : TokenId} {amount total : ℤ} {holder : Address}
  {shares rewards rewards' : SortedMap Address ℤ} {sofar r : SortedMap Address ℤ × ℤ}

theorem addReward_returns {n : ℤ} (h : Returns (addReward rewards holder n) s rewards' s') :
    rewards' = rewards.credit holder n := by
  simp only [addReward, returns_okOr_bind, returns_pure] at h
  obtain ⟨reward, hr, rfl, -⟩ := h
  rw [eq_of_fitI128 hr, SortedMap.credit]

theorem distributeShare_returns
    (h : Returns (distributeShare amount total shares sofar holder) s r s') :
    ∃ k, shares.get holder = some k ∧
      r = (sofar.1.credit holder ((amount * k).tdiv total), sofar.2 + (amount * k).tdiv total) := by
  simp only [distributeShare, returns_okOr_bind, returns_reads_bind, returns_pure] at h
  obtain ⟨k, hk, product, hp, part, hd, distributed, hsum, rewards, hr, rfl, -⟩ := h
  obtain rfl := eq_of_fitI128 hp
  obtain rfl := eq_of_checkedDivI128 hd
  obtain rfl := eq_of_fitI128 hsum
  exact ⟨k, hk, by rw [addReward_returns hr]⟩

/-- The parts are recorded in full, lower nobody's reward, and are at most those of the shares. -/
theorem distributeShares_returns (ha : 0 ≤ amount) (ht : 0 < total)
    (hs : ∀ holder k, shares.get holder = some k → 0 < k) {l : List Address}
    (h : Returns (l.foldlM (distributeShare amount total shares) sofar) s r s') :
    r.1.sum - r.2 = sofar.1.sum - sofar.2 ∧ RewardsLe sofar.1 r.1 ∧
      r.2 * total ≤ sofar.2 * total + amount * (l.map fun k => (shares.get k).getD 0).sum := by
  induction l generalizing s sofar with
  | nil =>
    obtain ⟨rfl, -⟩ := returns_pure.1 h
    exact ⟨rfl, .refl, by simp⟩
  | cons holder l ih =>
    rw [List.foldlM_cons] at h
    obtain ⟨sofar', s₁, h₁, h₂⟩ := returns_bind.1 h
    obtain ⟨k, hk, rfl⟩ := distributeShare_returns h₁
    obtain ⟨hsum, hle, hbound⟩ := ih h₂
    have hprod : 0 ≤ amount * k := mul_nonneg ha (hs holder k hk).le
    have hpart : 0 ≤ (amount * k).tdiv total := Int.tdiv_nonneg hprod ht.le
    have hfloor : (amount * k).tdiv total * total ≤ amount * k := by
      rw [Int.tdiv_eq_ediv_of_nonneg hprod]
      exact Int.ediv_mul_le _ ht.ne'
    refine ⟨?_, (rewardsLe_credit hpart).trans hle, ?_⟩
    · rw [hsum, SortedMap.sum_credit]
      omega
    · rw [List.map_cons, List.sum_cons, hk, Option.getD_some, mul_add]
      rw [add_mul] at hbound
      omega

/-- The whole amount is recorded, and nobody's reward is lowered. -/
theorem distributeFractionRewards_returns {d : DividendDistribution} (hv : SharesValid s)
    (h : Returns (distributeFractionRewards env id amount) s d s') :
    ∃ rewards, s' = s.put (.pendingRewards id) rewards ∧
      rewards.sum = s.pendingTotal id + amount ∧ RewardsLe (s.pendingRewards id) rewards := by
  simp only [distributeFractionRewards, returns_reads_bind, returns_failIf,
    getFractionInfo_returns, getFractionShares_returns, returns_load, returns_okOr, returns_ite,
    returns_store_bind, returns_pure, not_le] at h
  obtain ⟨_, ⟨ha, -⟩, _, -, info, ⟨hi, -⟩, shares, ⟨hs, -⟩, _, ⟨hl, -⟩, _, ⟨rfl, -⟩,
    ⟨rewards, distributed⟩, hloop, remainder, ⟨hr, -⟩, h⟩ := h
  obtain ⟨shares', hs', hok⟩ := hv id info hi
  obtain rfl := Option.some.inj (hs.symm.trans hs')
  obtain rfl := eq_of_fitI128 hr
  have ht := hok.total_pos hl
  obtain ⟨hsum, hle, hbound⟩ := distributeShares_returns ha.le ht hok.positive hloop
  rw [← SortedMap.sum_eq_keys, hok.sum, zero_mul, zero_add] at hbound
  have hdist : distributed ≤ amount := le_of_mul_le_mul_right hbound ht
  change rewards.sum - distributed = s.pendingTotal id - 0 at hsum
  dsimp only at h hle
  rcases h with ⟨hpos, firstHolder, -, rewards', hadd, -, rfl⟩ | ⟨hn, _, ⟨rfl, -⟩, -, rfl⟩
  · refine ⟨rewards', rfl, ?_, ?_⟩
    · rw [addReward_returns hadd, SortedMap.sum_credit]
      omega
    · rw [addReward_returns hadd]
      exact hle.trans (rewardsLe_credit hpos.le)
  · exact ⟨_, rfl, by omega, hle⟩

end

/-! ## The law -/

/-- What the event distributes for the token. -/
def distributedBy (id : TokenId) (ev : Ev me) : ℤ :=
  match ev.inp.call with
  | .distributeFractionRewards tokenId totalAmount =>
    if tokenId = id ∧ ev.inp.ok ev.pre then totalAmount else 0
  | _ => 0

/-- All that was distributed for the token so far. -/
def distributed (tr : List (Ev me)) (id : TokenId) : ℤ := (tr.map (distributedBy id)).sum

/-- What is pending for each token is all that was distributed, and no call lowers the reward of
    another address than the holder's who recombines. -/
structure RewardsKept (tr : List (Ev me)) (w : World) : Prop where
  total : ∀ id, w.state.pendingTotal id = distributed tr id
  holders : ∀ ev ∈ tr, ∀ id holder, ev.inp.call ≠ .recombineFractions id holder →
    ev.pre.state.pendingReward id holder ≤ ev.post.state.pendingReward id holder

/-- No shares of a token are recombined while rewards of it are pending. -/
def NonePending (ev : Ev me) : Prop :=
  ∀ id holder info shares token, ev.inp.call = .recombineFractions id holder →
    Recombinable ev.inp.env ev.pre.state id holder info shares token →
    ev.pre.state.pendingTotal id = 0

/-- Nobody's reward is negative. -/
def RewardsNonneg (s : State) : Prop := ∀ id holder, 0 ≤ s.pendingReward id holder

/-! ## Steps -/

theorem distributed_snoc (tr : List (Ev me)) (ev : Ev me) (id : TokenId) :
    distributed (tr ++ [ev]) id = distributed tr id + distributedBy id ev := by
  rw [distributed, List.map_append, List.sum_append, List.map_singleton, List.sum_singleton,
    distributed]

section
variable {env : HubEnv me} {s s' : State} {u : Unit} {w w' : World} {i : Input me}
  {id tokenId : TokenId} {holder : Address}

theorem recombineFractions_rewards (h : Returns (recombineFractions env tokenId holder) s u s') :
    s'.pendingRewards id = if id = tokenId then ∅ else s.pendingRewards id := by
  obtain ⟨info, shares, token, -, rfl⟩ := recombineFractions_returns.1 h
  split_ifs with he
  · rw [he, State.pendingRewards, get_del_self, Option.getD_none]
  · refine pendingRewards_congr ?_
    rw [get_del_ne (by simpa using he), get_del_ne (by simp), get_del_ne (by simp),
      get_put_ne (by simp)]

/-- Apart from recombinations, the calls add what they distribute, and lower nobody's reward. -/
theorem Step.rewards (h : Step w i w') (hv : SharesValid w.state)
    (hne : ∀ id holder, i.call ≠ .recombineFractions id holder) (id : TokenId) :
    w'.state.pendingTotal id = w.state.pendingTotal id + distributedBy id ⟨w, i, w'⟩ ∧
      RewardsLe (w.state.pendingRewards id) (w'.state.pendingRewards id) := by
  have hsame (he : w'.state.get (.pendingRewards id) = w.state.get (.pendingRewards id))
      (h₀ : distributedBy id ⟨w, i, w'⟩ = 0) :
      w'.state.pendingTotal id = w.state.pendingTotal id + distributedBy id ⟨w, i, w'⟩ ∧
        RewardsLe (w.state.pendingRewards id) (w'.state.pendingRewards id) := by
    rw [h₀, add_zero, State.pendingTotal, pendingRewards_congr he, State.pendingTotal]
    exact ⟨rfl, .refl⟩
  cases hc : i.call with
  | distributeFractionRewards tokenId amount =>
    have hby : distributedBy id ⟨w, i, w'⟩ = if tokenId = id ∧ i.ok w then amount else 0 := by
      rw [distributedBy, hc]
    by_cases hok : i.ok w = true
    · obtain ⟨d, hr⟩ := returns_ignore.1 ((h.ok_iff_returns (by rw [hc]; rfl)).1 hok)
      obtain ⟨rewards, hput, hsum, hle⟩ := distributeFractionRewards_returns hv hr
      by_cases hid : tokenId = id
      · subst hid
        rw [hby, if_pos ⟨rfl, hok⟩, State.pendingTotal, hput, pendingRewards_put]
        exact ⟨hsum, hle⟩
      · refine hsame ?_ (by rw [hby, if_neg fun h => hid h.1])
        rw [hput, get_put_ne (by simpa using Ne.symm hid)]
    · exact hsame (by rw [h.state_eq_of_not_ok hok]) (by rw [hby, if_neg fun h => hok h.2])
  | recombineFractions tokenId holder => exact absurd hc (hne tokenId holder)
  | _ => exact hsame (h.frame (by rw [hc]; simp)) (by rw [distributedBy, hc])

theorem distributedBy_recombine (hc : i.call = .recombineFractions tokenId holder) :
    distributedBy id ⟨w, i, w'⟩ = 0 := by
  rw [distributedBy, hc]

/-- A recombination empties the rewards of its token, and leaves those of the others alone. -/
theorem Step.rewards_recombine (h : Step w i w')
    (hc : i.call = .recombineFractions tokenId holder) :
    (∃ info shares token, Recombinable i.env w.state tokenId holder info shares token) ∧
        (∀ id, w'.state.pendingRewards id = if id = tokenId then ∅ else w.state.pendingRewards id) ∨
      (∀ info shares token, ¬ Recombinable i.env w.state tokenId holder info shares token) ∧
        w'.state = w.state := by
  by_cases hok : i.ok w = true
  · have hr := (h.ok_iff_returns (by rw [hc]; rfl)).1 hok
    exact Or.inl ⟨recombineFractions_passes.1 ⟨_, hr⟩, fun id => recombineFractions_rewards hr⟩
  · refine Or.inr ⟨fun info shares token hrec => hok ?_, h.state_eq_of_not_ok hok⟩
    obtain ⟨s', hr⟩ := recombineFractions_passes.2 ⟨info, shares, token, hrec⟩
    exact (h.of_code (by rw [hc]; rfl) hr).1

theorem Step.rewardsNonneg (h : Step w i w') (hv : SharesValid w.state)
    (hn : RewardsNonneg w.state) : RewardsNonneg w'.state := by
  intro id addr
  by_cases hc : ∃ tokenId holder, i.call = .recombineFractions tokenId holder
  · obtain ⟨tokenId, holder, hc⟩ := hc
    rcases h.rewards_recombine hc with ⟨-, hr⟩ | ⟨-, he⟩
    · rw [State.pendingReward, hr]
      split_ifs
      · exact le_rfl
      · exact hn id addr
    · rw [he]
      exact hn id addr
  · exact (hn id addr).trans ((h.rewards hv (fun tokenId holder he => hc ⟨tokenId, holder, he⟩) id).2
      addr)

/-- The step lemma: the rewards are kept exactly if none are pending where shares are recombined. -/
theorem Step.rewardsKept {tr : List (Ev me)} (h : Step w i w') (hv : SharesValid w.state)
    (hn : RewardsNonneg w.state) (hk : RewardsKept tr w) :
    RewardsKept (tr ++ [⟨w, i, w'⟩]) w' ↔ NonePending ⟨w, i, w'⟩ := by
  have hsnoc (ht : ∀ id, w'.state.pendingTotal id = distributed (tr ++ [⟨w, i, w'⟩]) id)
      (hle : ∀ id, RewardsLe (w.state.pendingRewards id) (w'.state.pendingRewards id)) :
      RewardsKept (tr ++ [⟨w, i, w'⟩]) w' := by
    refine ⟨ht, fun ev hev id holder hc => ?_⟩
    rcases List.mem_append.1 hev with hev | hev
    · exact hk.holders ev hev id holder hc
    · obtain rfl := List.mem_singleton.1 hev
      exact hle id holder
  by_cases hc : ∃ tokenId holder, i.call = .recombineFractions tokenId holder
  · obtain ⟨tokenId, holder, hc⟩ := hc
    have hd (id : TokenId) : distributed (tr ++ [⟨w, i, w'⟩]) id = w.state.pendingTotal id := by
      rw [distributed_snoc, distributedBy_recombine hc, add_zero, hk.total]
    rcases h.rewards_recombine hc with ⟨⟨info, shares, token, hok⟩, hr⟩ | ⟨hnot, he⟩
    · constructor
      · intro hk' id' holder' _ _ _ hc' _
        have hid : id' = tokenId := by
          change i.call = _ at hc'
          rw [hc] at hc'
          cases hc'
          rfl
        have ht := hk'.total id'
        rwa [hd, State.pendingTotal, hr, if_pos hid, eq_comm] at ht
      · intro hnone
        have h₀ := hnone tokenId holder info shares token hc hok
        refine hsnoc (fun id => ?_) fun id addr => ?_
        · rw [hd, State.pendingTotal, hr]
          split_ifs with hid
          · rw [hid]
            exact h₀.symm
          · rfl
        · rw [hr]
          split_ifs with hid
          · rw [hid]
            exact (pendingReward_eq_zero (hn tokenId) h₀ addr).le
          · exact le_rfl
    · refine iff_of_true (hsnoc (fun id => ?_) fun id => ?_) fun id' holder' _ _ _ hc' hok => ?_
      · rw [hd, he]
      · rw [he]
        exact .refl
      · change i.call = _ at hc'
        rw [hc] at hc'
        cases hc'
        exact absurd hok (hnot _ _ _)
  · have hne (id : TokenId) (holder : Address) : i.call ≠ .recombineFractions id holder :=
      fun he => hc ⟨id, holder, he⟩
    refine iff_of_true (hsnoc (fun id => ?_) fun id => (h.rewards hv hne id).2)
      fun id holder _ _ _ he => absurd he (hne id holder)
    rw [(h.rewards hv hne id).1, distributed_snoc, hk.total]

end

/-! ## Runs -/

theorem rewardsNonneg_of_run {w₀ w : World} {tr : List (Ev me)} (h : Run Step w₀ tr w)
    (h₀ : w₀.state = ∅) : RewardsNonneg w.state := by
  refine (h.invariant' (P := fun w => SharesValid w.state ∧ RewardsNonneg w.state)
    (fun _ _ _ hp hs => ⟨hs.sharesValid hp.1, hs.rewardsNonneg hp.1 hp.2⟩)
    ⟨sharesValid_empty h₀, fun id holder => ?_⟩).2
  rw [h₀]
  exact le_rfl

/-- **All that was distributed for the tokens is pending throughout a run exactly if no shares are
    recombined while rewards of their token are pending.** -/
theorem rewards_kept_iff {w₀ w : World} {tr : List (Ev me)} (h₀ : w₀.state = ∅)
    (h : Run Step w₀ tr w) :
    (RewardsKept tr w ∧ Along (fun tr ev => RewardsKept tr ev.pre) tr) ↔
      ∀ ev ∈ tr, NonePending ev := by
  rw [← along_iff_forall]
  refine Run.always_iff (fun tr ev hr hs hk => ?_) h ⟨fun id => ?_, fun ev hev => ?_⟩
  · exact hs.rewardsKept (sharesValid_of_run hr h₀) (rewardsNonneg_of_run hr h₀) hk
  · rw [h₀]
    rfl
  · exact absurd hev List.not_mem_nil

/-- Rewards of 500 are distributed for the divided token. -/
def distributeCalls : List (Input ⟨0⟩) :=
  divideCalls ++ [hubCall 6 (.distributeFractionRewards 1 500)]

theorem nonePending_of_calls {is : List (Input me)} {w : World}
    (h : ∀ i ∈ is, ∀ id holder, i.call ≠ .recombineFractions id holder) :
    ∀ ev ∈ eventsFrom next w is, NonePending ev := by
  intro ev hev id holder _ _ _ hc
  exact absurd hc (h ev.inp (inp_mem_of_eventsFrom hev) id holder)

/-- All 500 are pending after `⟨2⟩`, who has but 60 of the 100 shares, has tried to recombine them. -/
theorem rewards_kept_iff_refused :
    RewardsKept (eventsFrom next start (distributeCalls ++ [hubCall 7 (.recombineFractions 1 ⟨2⟩)]))
      ((distributeCalls ++ [hubCall 7 (.recombineFractions 1 ⟨2⟩)]).foldl next start) := by
  refine ((rewards_kept_iff rfl (run_calls _ (by decide))).2 ?_).1
  rw [eventsFrom_append]
  refine List.forall_mem_append.2
    ⟨nonePending_of_calls (by simp [distributeCalls, divideCalls, issueCalls, hubCall]),
      List.forall_mem_singleton.2 fun id holder info shares token hc hok => ?_⟩
  cases hc
  obtain ⟨s', hr⟩ := recombineFractions_passes.2 ⟨info, shares, token, hok⟩
  exact absurd (succeeds_iff.2 ⟨(), s', hr⟩) (by decide)

/-- The rewards of `⟨3⟩`, who has sold all shares since, are gone when `⟨2⟩` recombines them. -/
theorem rewards_lost : ¬ ∀ (tr : List (Ev ⟨0⟩)) (w : World), Run Step start tr w →
    RewardsKept tr w := by
  intro h
  have hk := h _ _ (run_calls (distributeCalls ++ [hubCall 7 (.transferFraction 1 ⟨3⟩ ⟨2⟩ 40),
    hubCall 8 (.recombineFractions 1 ⟨2⟩)]) (by decide))
  exact absurd (hk.total 1) (by decide)

end ManageHub
