/-
  Royalties: what is announced at a sale, against the price.
-/
import NovaLabs.Lib.Truncation
import NovaLabs.ManageHub.Authority
import NovaLabs.ManageHub.TokenCalls
import Mathlib.Algebra.BigOperators.Ring.Finset
import Mathlib.Algebra.BigOperators.Ring.List
import Mathlib.Algebra.Order.BigOperators.Group.List

namespace ManageHub

open Lib Soroban

variable {me : Address}

/-! ## What is due -/

/-- The part of the price in basis points, rounded down. -/
def royaltyOf (price : ℤ) (r : RoyaltyRecipient) : ℤ := price * r.percentage / 10000

/-- The royalties of the recipients in order, without those of nothing. -/
def royalties (price : ℤ) (recipients : List RoyaltyRecipient) : List (Address × ℤ) :=
  (recipients.map fun r => (r.address, royaltyOf price r)).filter (0 < ·.2)

/-- What the royalties add up to. -/
def totalRoyalty (price : ℤ) (recipients : List RoyaltyRecipient) : ℤ :=
  ((royalties price recipients).map (·.2)).sum

section
variable {price : ℤ} {r : RoyaltyRecipient} {recipients : List RoyaltyRecipient}

theorem royalties_cons : royalties price (r :: recipients) =
    if 0 < royaltyOf price r then (r.address, royaltyOf price r) :: royalties price recipients
    else royalties price recipients := by
  simp only [royalties, List.map_cons, List.filter_cons, decide_eq_true_eq]

theorem royaltyOf_nonneg (hp : 0 ≤ price) : 0 ≤ royaltyOf price r :=
  Int.ediv_nonneg (mul_nonneg hp (Int.natCast_nonneg _)) (by decide)

theorem totalRoyalty_cons (hp : 0 ≤ price) : totalRoyalty price (r :: recipients) =
    royaltyOf price r + totalRoyalty price recipients := by
  have h := royaltyOf_nonneg (r := r) hp
  rw [totalRoyalty, royalties_cons]
  split_ifs with hpos
  · rfl
  · rw [le_antisymm (not_lt.1 hpos) h, zero_add, totalRoyalty]

theorem totalRoyalty_eq (hp : 0 ≤ price) :
    totalRoyalty price recipients = (recipients.map (royaltyOf price)).sum := by
  induction recipients with
  | nil => rfl
  | cons r recipients ih => rw [totalRoyalty_cons hp, ih, List.map_cons, List.sum_cons]

theorem totalRoyalty_nonneg (hp : 0 ≤ price) : 0 ≤ totalRoyalty price recipients := by
  rw [totalRoyalty_eq hp]
  refine List.sum_nonneg fun n hn => ?_
  obtain ⟨r, -, rfl⟩ := List.mem_map.1 hn
  exact royaltyOf_nonneg hp

/-- Nothing is due on a price that is not positive. -/
theorem royalties_of_nonpos (hp : price ≤ 0) : royalties price recipients = [] := by
  rw [royalties, List.filter_eq_nil_iff]
  intro p hm
  obtain ⟨r, -, rfl⟩ := List.mem_map.1 hm
  have hprod : price * r.percentage ≤ 0 := mul_nonpos_of_nonpos_of_nonneg hp (Int.natCast_nonneg _)
  have hle : royaltyOf price r ≤ 0 := Int.ediv_nonpos_of_nonpos_of_neg hprod (by decide)
  simpa using hle

/-- The percentages that `set_royalty` accepts do add up to 10000 at most. -/
theorem sum_percentages_le
    (h : recipients.foldl (fun total r => saturatingAdd 32 total r.percentage) 0 ≤ 10000) :
    (recipients.map (·.percentage)).sum ≤ 10000 := by
  have hcap : recipients.foldl (fun total r => saturatingAdd 32 total r.percentage)
      (min 0 (2 ^ 32 - 1)) = min (0 + (recipients.map (·.percentage)).sum) (2 ^ 32 - 1) :=
    foldl_capped (fun a r => saturatingAdd_min 32 a r.percentage) recipients 0
  rw [Nat.zero_min, Nat.zero_add] at hcap
  rw [hcap] at h
  omega

/-- Parts of at most 10000 basis points add up to no more than the price. -/
theorem totalRoyalty_le (hp : 0 ≤ price) (h : (recipients.map (·.percentage)).sum ≤ 10000) :
    totalRoyalty price recipients ≤ price := by
  have hsum : (recipients.map fun r => price * (r.percentage : ℤ)).sum =
      price * ((recipients.map (·.percentage)).sum : ℕ) := by
    rw [List.sum_map_mul_left, Nat.cast_list_sum, List.map_map]
    rfl
  have hmul : totalRoyalty price recipients * 10000 ≤
      price * ((recipients.map (·.percentage)).sum : ℕ) := by
    rw [totalRoyalty_eq hp, ← hsum]
    exact sum_ediv_mul_le (fun r : RoyaltyRecipient => price * (r.percentage : ℤ)) (by decide) _
  have hle : price * ((recipients.map (·.percentage)).sum : ℕ) ≤ price * 10000 :=
    mul_le_mul_of_nonneg_left (by exact_mod_cast h) hp
  exact le_of_mul_le_mul_right (hmul.trans hle) (by decide)

end

/-! ## What is announced -/

section
variable {price t : ℤ} {id : TokenId} {recipients : List RoyaltyRecipient} {s s' : State}
  {l : List (Address × ℤ)}

/-- All products fit, and what is announced so far stays within the price: the loop announces the
    royalties that are left. -/
theorem announceRoyalties_returns (hp : 0 ≤ price) (hf : FitsI128 price)
    (hfits : ∀ r ∈ recipients, FitsI128 (price * r.percentage)) (ht : 0 ≤ t)
    (hle : t + totalRoyalty price recipients ≤ price) :
    Returns (recipients.foldlM (announceRoyalty price) (t, l)) s
      (t + totalRoyalty price recipients, l ++ royalties price recipients) s := by
  induction recipients generalizing t l with
  | nil => simp [totalRoyalty, royalties]
  | cons r recipients ih =>
    obtain ⟨hr, hrest⟩ := List.forall_mem_cons.1 hfits
    have hdiv : (price * r.percentage).tdiv 10000 = royaltyOf price r :=
      Int.tdiv_eq_ediv_of_nonneg (mul_nonneg hp (Int.natCast_nonneg _))
    have hn := royaltyOf_nonneg (r := r) hp
    have htotal : 0 ≤ totalRoyalty price recipients := totalRoyalty_nonneg hp
    rw [totalRoyalty_cons hp, ← add_assoc] at hle ⊢
    rw [List.foldlM_cons, returns_bind]
    have hloop (l' : List (Address × ℤ)) := ih (l := l') hrest (add_nonneg ht hn) hle
    by_cases hpos : 0 < royaltyOf price r
    · refine ⟨(t + royaltyOf price r, l ++ [(r.address, royaltyOf price r)]), s, ?_, ?_⟩
      · rw [announceRoyalty, returns_exactI128_bind, hdiv, if_pos hpos]
        refine ⟨hr, returns_exactI128_bind.2 ⟨?_, rfl⟩⟩
        obtain ⟨-, hlt⟩ := hf
        constructor <;> dsimp only <;> omega
      · have hsnoc := hloop (l ++ [(r.address, royaltyOf price r)])
        rw [List.append_assoc, List.singleton_append] at hsnoc
        rwa [royalties_cons, if_pos hpos]
    · have hzero : royaltyOf price r = 0 := le_antisymm (not_lt.1 hpos) hn
      refine ⟨(t, l), s, ?_, ?_⟩
      · rw [announceRoyalty, returns_exactI128_bind, hdiv, if_neg hpos]
        exact ⟨hr, rfl⟩
      · rw [hzero, add_zero] at hloop
        rw [royalties_cons, if_neg hpos, hzero, add_zero]
        exact hloop l

/-- A product that does not fit stops the loop. -/
theorem announceRoyalties_stops {b : ℤ × List (Address × ℤ)} {v : ℤ × List (Address × ℤ)}
    (h : Returns (recipients.foldlM (announceRoyalty price) b) s v s') :
    ∀ r ∈ recipients, FitsI128 (price * r.percentage) := by
  induction recipients generalizing b s with
  | nil => simp
  | cons r recipients ih =>
    rw [List.foldlM_cons] at h
    obtain ⟨b₁, s₁, h₁, h₂⟩ := returns_bind.1 h
    rw [announceRoyalty, returns_exactI128_bind] at h₁
    exact List.forall_mem_cons.2 ⟨h₁.1, ih h₂⟩

/-- The code of a sale at a positive price, for a token with royalties. -/
theorem calculateAndPayRoyalties_returns {v : ℤ × List (Address × ℤ)}
    (hs : s.get (.royalty id) = some ⟨id, recipients, true⟩) (hp : 0 < price) :
    Returns (calculateAndPayRoyalties id price) s v s' ↔
      Returns (recipients.foldlM (announceRoyalty price) (0, [])) s v s' := by
  rw [calculateAndPayRoyalties, returns_load_bind, hs, if_neg (not_le.2 hp)]
  rfl

theorem calculateAndPayRoyalties_returns_of_nonpos {v : ℤ × List (Address × ℤ)} (hp : price ≤ 0) :
    Returns (calculateAndPayRoyalties id price) s v s' ↔ v = (0, []) ∧ s' = s := by
  rw [calculateAndPayRoyalties, returns_load_bind, if_pos hp, returns_pure]

/-- **For recipients that `set_royalty` accepts, and products that fit, the royalties of a sale are
    announced, rounded down; they add up to the total that is returned, and not to more than a price
    that is not negative.  A sale at a positive price with a product that does not fit changes
    nothing.** -/
theorem royalties_within_price {s₀ s₁ : State} (hset : Returns (setRoyalty id recipients) s₀ () s₁)
    (hs : s.get (.royalty id) = s₁.get (.royalty id)) (hf : FitsI128 price) :
    ((∀ r ∈ recipients, FitsI128 (price * r.percentage)) →
      Returns (calculateAndPayRoyalties id price) s
        (totalRoyalty price recipients, royalties price recipients) s ∧
      totalRoyalty price recipients ≤ max price 0) ∧
    (0 < price → (∃ r ∈ recipients, ¬ FitsI128 (price * r.percentage)) →
      ∀ (env : HubEnv me) (newUser : Address),
        commit (transferTokenWithRoyalty env id newUser price) s = s) := by
  obtain ⟨haccept, rfl⟩ := setRoyalty_returns.1 hset
  rw [get_put_self] at hs
  have hpct := sum_percentages_le haccept
  refine ⟨fun hfits => ?_, fun hp ⟨r, hr, hover⟩ env newUser => ?_⟩
  · rcases le_or_gt price 0 with hp | hp
    · rw [totalRoyalty, royalties_of_nonpos hp]
      exact ⟨(calculateAndPayRoyalties_returns_of_nonpos hp).2 ⟨rfl, rfl⟩, le_max_right _ _⟩
    · have hle := totalRoyalty_le hp.le hpct
      refine ⟨(calculateAndPayRoyalties_returns hs hp).2 ?_, hle.trans (le_max_left _ _)⟩
      have hloop := announceRoyalties_returns (l := []) (s := s) hp.le hf hfits le_rfl
        ((zero_add _).trans_le hle)
      rwa [zero_add, List.nil_append] at hloop
  · refine commit_eq_self fun _ s' h => hover ?_
    rw [transferTokenWithRoyalty] at h
    obtain ⟨_, s₂, h₁, h₂⟩ := returns_bind.1 h
    obtain ⟨v, h₂⟩ := returns_ignore.1 h₂
    have hs₂ : s₂.get (.royalty id) = s.get (.royalty id) :=
      get_eq_of_returns [.token] h₁ (by simp)
    exact announceRoyalties_stops ((calculateAndPayRoyalties_returns (hs₂.trans hs) hp).1 h₂) r hr

end

/-- Two parts for one address, and one for another. -/
def sampleRecipients : List RoyaltyRecipient := [⟨⟨5⟩, 333⟩, ⟨⟨6⟩, 0⟩, ⟨⟨5⟩, 250⟩]

/-- A token with royalties. -/
def royaltyCalls : List (Input ⟨0⟩) := issueCalls ++ [hubCall 3 (.setRoyalty 1 sampleRecipients)]

/-- At the price 100, two parts are announced, 3 and 2. -/
theorem royalties_within_price_sold :
    Returns (calculateAndPayRoyalties 1 100) (royaltyCalls.foldl next start).state
      (5, [(⟨5⟩, 3), (⟨5⟩, 2)]) (royaltyCalls.foldl next start).state ∧ (5 : ℤ) ≤ max 100 0 ∧
    commit (transferTokenWithRoyalty (hubEnv 4) 1 ⟨3⟩ (2 ^ 126))
      (royaltyCalls.foldl next start).state = (royaltyCalls.foldl next start).state :=
  have hset : Returns (setRoyalty 1 sampleRecipients) (issueCalls.foldl next start).state ()
      (royaltyCalls.foldl next start).state := setRoyalty_returns.2 ⟨by decide, rfl⟩
  have h (price : ℤ) (hf : FitsI128 price) := royalties_within_price hset rfl hf
  have hsold := (h 100 (by decide)).1 (by decide)
  ⟨hsold.1, hsold.2, (h (2 ^ 126) (by decide)).2 (by decide) (by decide) (hubEnv 4) ⟨3⟩⟩

/-- At a negative price the total is 0, which is more than the price; and where the price times the
    percentage does not fit, nothing is multiplied, and the token changes hands. -/
theorem royalties_exceed_price :
    Returns (setRoyalty 1 sampleRecipients) (issueCalls.foldl next start).state ()
      (royaltyCalls.foldl next start).state ∧
    (∀ r ∈ sampleRecipients, FitsI128 (-1 * r.percentage)) ∧
    Returns (calculateAndPayRoyalties 1 (-1)) (royaltyCalls.foldl next start).state (0, [])
      (royaltyCalls.foldl next start).state ∧ ¬ (0 : ℤ) ≤ -1 ∧
    (∃ r ∈ sampleRecipients, ¬ FitsI128 (-2 ^ 127 * r.percentage)) ∧
    (royaltyCalls.foldl next start).state.userOf 1 = some ⟨2⟩ ∧
    (commit (transferTokenWithRoyalty (hubEnv 4) 1 ⟨3⟩ (-2 ^ 127))
      (royaltyCalls.foldl next start).state).userOf 1 = some ⟨3⟩ :=
  ⟨setRoyalty_returns.2 ⟨by decide, rfl⟩, by decide,
    (calculateAndPayRoyalties_returns_of_nonpos (by decide)).2 ⟨rfl, rfl⟩, by decide, by decide,
    by decide, by decide⟩

end ManageHub
