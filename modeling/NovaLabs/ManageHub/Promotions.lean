/-
  Promotions over whole runs: how a code is looked up, what it costs, and how often it is redeemed.

  Several promotions may have the same tier and code.  The first of them in the list decides, also
  where it cannot be used and a later one can.
-/
import NovaLabs.ManageHub.SubscriptionCalls

namespace ManageHub

open Lib Soroban

variable {me : Address}

/-! ## Looking up a code -/

/-- The promotion is inside its dates, and has redemptions left. -/
structure TierPromotion.Usable (promotion : TierPromotion) (now : ℕ) : Prop where
  dates : promotion.startDate ≤ now ∧ now ≤ promotion.endDate
  left : promotion.maxRedemptions = 0 ∨ promotion.currentRedemptions < promotion.maxRedemptions

/-- The promotion with one more redemption. -/
def TierPromotion.redeemed (promotion : TierPromotion) : TierPromotion :=
  { promotion with currentRedemptions := promotion.currentRedemptions + 1 }

/-- The base price less the discount. -/
def TierPromotion.discounted (promotion : TierPromotion) (basePrice : ℤ) : ℤ :=
  basePrice - (basePrice * promotion.discountPercent).tdiv 100

/-- The base price with the promotion. -/
def TierPromotion.priceFor (promotion : TierPromotion) (basePrice : ℤ) : ℤ :=
  if 0 < promotion.promoPrice then promotion.promoPrice else promotion.discounted basePrice

/-- The promotion has its own price, or no number of the discount overflows. -/
def TierPromotion.Computable (promotion : TierPromotion) (basePrice : ℤ) : Prop :=
  0 < promotion.promoPrice ∨
    (FitsI128 (basePrice * promotion.discountPercent) ∧ FitsI128 (promotion.discounted basePrice))

/-- The ids of the promotions, in the order in which they were created. -/
def State.promoList (s : State) : List String := (s.get .tierPromotionList).getD []

/-- The promotion with the id, if it is for the tier and the code. -/
def State.promotionFor (s : State) (tierId promoCode promoId : String) : Option TierPromotion :=
  (s.get (.tierPromotion promoId)).filter fun p => p.tierId = tierId ∧ p.promoCode = promoCode

/-- The first of the promotions that is for the tier and the code, with its id. -/
def State.firstOf (s : State) (tierId promoCode : String) (promoList : List String) :
    Option (String × TierPromotion) :=
  promoList.findSome? fun promoId => (s.promotionFor tierId promoCode promoId).map (promoId, ·)

/-- The first listed promotion that is for the tier and the code, with its id. -/
def State.firstPromotion (s : State) (tierId promoCode : String) :
    Option (String × TierPromotion) :=
  s.firstOf tierId promoCode s.promoList

section
variable {env : HubEnv me} {s s' : State} {tierId promoCode promoId : String}
  {basePrice price : ℤ} {promotion : TierPromotion} {promoList : List String}

theorem promotionFor_eq_some :
    s.promotionFor tierId promoCode promoId = some promotion ↔
      s.get (.tierPromotion promoId) = some promotion ∧ promotion.tierId = tierId ∧
        promotion.promoCode = promoCode := by
  rw [State.promotionFor, Option.filter_eq_some_iff, decide_eq_true_eq]

theorem mem_of_firstOf (h : s.firstOf tierId promoCode promoList = some (promoId, promotion)) :
    promoId ∈ promoList ∧ s.promotionFor tierId promoCode promoId = some promotion := by
  obtain ⟨promoId', hmem, hp⟩ := List.exists_of_findSome?_eq_some h
  obtain ⟨promotion', hp', he⟩ := Option.map_eq_some_iff.1 hp
  cases he
  exact ⟨hmem, hp'⟩

/-- A discount of at most 100% takes off at most the price. -/
theorem tdiv_percent_le {discountPercent : ℕ} (hb : 0 ≤ basePrice) (hd : discountPercent ≤ 100) :
    0 ≤ (basePrice * discountPercent).tdiv 100 ∧
      (basePrice * discountPercent).tdiv 100 ≤ basePrice := by
  have hp : 0 ≤ basePrice * discountPercent := by positivity
  have hle : basePrice * discountPercent ≤ basePrice * 100 :=
    mul_le_mul_of_nonneg_left (by exact_mod_cast hd) hb
  rw [Int.tdiv_eq_ediv_of_nonneg hp]
  omega

theorem computable_iff (hb : FitsI128 basePrice) (hd : promotion.discountPercent ≤ 100) :
    promotion.Computable basePrice ↔
      0 < promotion.promoPrice ∨ FitsI128 (basePrice * promotion.discountPercent) := by
  have hfit : FitsI128 (promotion.discounted basePrice) := by
    unfold FitsI128 TierPromotion.discounted at *
    rcases le_total 0 basePrice with h | h
    · have := tdiv_percent_le h hd
      omega
    · have := tdiv_percent_le (neg_nonneg.2 h) hd
      rw [neg_mul, Int.neg_tdiv] at this
      omega
  rw [TierPromotion.Computable, and_iff_left hfit]

theorem discountedPrice_returns :
    Returns (discountedPrice basePrice promotion.discountPercent) s price s' ↔
      ((FitsI128 (basePrice * promotion.discountPercent) ∧
        FitsI128 (promotion.discounted basePrice)) ∧
      price = promotion.discounted basePrice) ∧ s' = s := by
  rw [discountedPrice, returns_exactI128_bind, returns_exactI128]
  exact ⟨fun ⟨hp, hd, he⟩ => ⟨⟨⟨hp, hd⟩, he.1⟩, he.2⟩, fun ⟨⟨⟨hp, hd⟩, he⟩, hs⟩ => ⟨hp, hd, he, hs⟩⟩

/-- A usable promotion is redeemed, if its price can be computed and its counter has room. -/
theorem redeemPromotion_returns :
    Returns (redeemPromotion env promoId basePrice promotion) s price s' ↔
      (promotion.Usable env.now ∧ promotion.Computable basePrice ∧
        promotion.currentRedemptions + 1 < 2 ^ 32) ∧
      price = promotion.priceFor basePrice ∧
        s' = s.put (.tierPromotion promoId) promotion.redeemed := by
  have hcount {x : Fn ℤ} {p : Prop} {v : ℤ}
      (hx : ∀ n t, Returns x s n t ↔ (p ∧ n = v) ∧ t = s) :
      Returns (do
        let finalPrice ← x
        let currentRedemptions ← checked 32 (promotion.currentRedemptions + 1)
        store (.tierPromotion promoId) { promotion with currentRedemptions }
        return finalPrice) s price s' ↔
      (p ∧ promotion.currentRedemptions + 1 < 2 ^ 32) ∧ price = v ∧
        s' = s.put (.tierPromotion promoId) promotion.redeemed := by
    simp only [returns_bind_of_reads hx, returns_checked_bind, returns_store_bind, returns_pure]
    constructor
    · rintro ⟨_, ⟨hp, rfl⟩, hroom, rfl, rfl⟩
      exact ⟨⟨hp, hroom⟩, rfl, rfl⟩
    · rintro ⟨⟨hp, hroom⟩, rfl, rfl⟩
      exact ⟨_, ⟨hp, rfl⟩, hroom, rfl, rfl⟩
  have husable : promotion.Usable env.now ↔
      ¬ (env.now < promotion.startDate ∨ promotion.endDate < env.now) ∧
      ¬ (promotion.maxRedemptions > 0 ∧
        promotion.currentRedemptions ≥ promotion.maxRedemptions) := by
    constructor
    · rintro ⟨hdates, hleft⟩
      omega
    · intro h
      exact ⟨by omega, by omega⟩
  simp only [redeemPromotion, returns_failIf_bind, ← and_assoc, ← husable]
  rw [TierPromotion.Computable, TierPromotion.priceFor]
  by_cases h : 0 < promotion.promoPrice
  · simp only [gt_iff_lt, h, if_true, true_or, and_true]
    rw [hcount (p := True) (v := promotion.promoPrice) (by simp)]
    simp only [true_and, and_assoc]
  · simp only [gt_iff_lt, h, if_false, false_or]
    rw [hcount fun _ _ => discountedPrice_returns]
    simp only [and_assoc]

theorem searchPromotions_returns :
    Returns (searchPromotions env tierId promoCode basePrice promoList) s price s' ↔
      ∃ promoId promotion, s.firstOf tierId promoCode promoList = some (promoId, promotion) ∧
        Returns (redeemPromotion env promoId basePrice promotion) s price s' := by
  induction promoList with
  | nil => simp [searchPromotions, State.firstOf]
  | cons promoId promoList ih =>
    rw [searchPromotions, returns_load_bind, State.firstOf, List.findSome?_cons,
      State.promotionFor]
    cases (s.get (.tierPromotion promoId)).filter
        fun p => p.tierId = tierId ∧ p.promoCode = promoCode with
    | none => exact ih
    | some promotion => simp

theorem applyPromotion_returns :
    Returns (applyPromotion env tierId promoCode basePrice) s price s' ↔
      ∃ promoId promotion, s.firstPromotion tierId promoCode = some (promoId, promotion) ∧
        Returns (redeemPromotion env promoId basePrice promotion) s price s' := by
  rw [applyPromotion, returns_load_bind, searchPromotions_returns]
  rfl

end

/-! ## What becomes of a promotion -/

/-- The tier and the code of a subscription with a promotion. -/
def Call.promoFor : Call → Option (String × String)
  | .createSubscriptionWithTier _ _ _ tierId _ (some promoCode) => some (tierId, promoCode)
  | _ => none

/-- The event creates a subscription with the promotion. -/
def Redeems (promoId : String) (ev : Ev me) : Prop :=
  ev.inp.ok ev.pre = true ∧
    (ev.inp.call.promoFor.bind fun k => (ev.pre.state.firstPromotion k.1 k.2).map Prod.fst) =
      some promoId

instance {promoId : String} {ev : Ev me} : Decidable (Redeems promoId ev) :=
  inferInstanceAs (Decidable (_ ∧ _))

/-- What becomes of a promotion in a call, that redeems it if `redeems`. -/
inductive PromotionChange (now : ℕ) (redeems : Prop) :
    Option TierPromotion → Option TierPromotion → Prop
  | same {o} : ¬ redeems → PromotionChange now redeems o o
  | create {promotion} : ¬ redeems → promotion.currentRedemptions = 0 →
    promotion.discountPercent ≤ 100 → PromotionChange now redeems none (some promotion)
  | redeem {promotion} : redeems → promotion.Usable now →
    PromotionChange now redeems (some promotion) (some promotion.redeemed)

section
variable {env : HubEnv me} {s s' : State} {u : Unit} {admin : Address} {promoId : String}
  {w w' : World} {i : Input me}

theorem createPromotion_writes {params : CreatePromotionParams}
    (h : Returns (createPromotion env admin params) s u s') :
    s.get (.tierPromotion params.promoId) = none ∧ ∃ promotion promoList,
      (promotion.currentRedemptions = 0 ∧ promotion.discountPercent ≤ 100) ∧
        s' = (s.put (.tierPromotion params.promoId) promotion).put .tierPromotionList promoList := by
  simp only [createPromotion, ignore, bind_assoc, pure_bind, returns_requireAuth_bind,
    returns_failIf_bind, returns_load_bind, returns_store_bind, returns_store,
    returns_bind_of_reads fun _ _ => getTier_returns, Option.not_isSome_iff_eq_none] at h
  obtain ⟨-, tier, -, hd, -, hn, rfl⟩ := h
  exact ⟨hn, _, _, ⟨rfl, not_lt.1 hd⟩, rfl⟩

/-- The subscription that is created with a code, and its price. -/
theorem createSubscriptionWithTier_promo {id tierId promoCode : String}
    {user paymentToken : Address} {cycle : BillingCycle}
    (h : Returns (createSubscriptionWithTier env id user paymentToken tierId cycle
      (some promoCode)) s u s') :
    ∃ tier promoId promotion subscription, s.get (.tier tierId) = some (.subscription tier) ∧
      s.firstPromotion tierId promoCode = some (promoId, promotion) ∧
      promotion.Usable env.now ∧ s'.get (.subscription id) = some subscription ∧
      subscription.amount = promotion.priceFor (tier.priceOf cycle) ∧ 0 < subscription.amount ∧
      ∀ promoId', s'.get (.tierPromotion promoId') =
        if promoId' = promoId then some promotion.redeemed else s.get (.tierPromotion promoId') := by
  obtain ⟨s₁, tier, price, expiresAt, hcr, rfl⟩ := createSubscriptionWithTier_returns.1 h
  obtain ⟨promoId, promotion, hf, hr⟩ := applyPromotion_returns.1 hcr.priced
  obtain ⟨⟨hu, -⟩, rfl, rfl⟩ := redeemPromotion_returns.1 hr
  refine ⟨tier, promoId, promotion, newSubscription env id user paymentToken
    (promotion.priceFor (tier.priceOf cycle)) expiresAt tierId cycle, hcr.onSale.1, hf, hu, ?_, rfl,
    hcr.payment.1, fun promoId' => ?_⟩
  · rw [logged_get (by simp) (by simp), State.subscribed, get_put_ne (by simp), get_put_self]
  · rw [logged_get (by simp) (by simp), State.subscribed, get_put_ne (by simp),
      get_put_ne (by simp)]
    split_ifs with he
    · rw [he, get_put_self]
    · rw [get_put_ne (by simpa using he)]

/-- The step lemma: what a call does to the promotion. -/
theorem Step.promotionChange (h : Step w i w') (promoId : String) :
    PromotionChange i.env.now (Redeems promoId ⟨w, i, w'⟩)
      (w.state.get (.tierPromotion promoId)) (w'.state.get (.tierPromotion promoId)) := by
  by_cases hok : i.ok w = true
  swap
  · rw [h.state_eq_of_not_ok hok]
    exact .same fun hr => hok hr.1
  have hnot (hc : i.call.promoFor = none) : ¬ Redeems promoId ⟨w, i, w'⟩ := by
    rintro ⟨-, hr⟩
    rw [hc] at hr
    cases hr
  cases hc : i.call with
  | createPromotion admin params =>
    have hn := hnot (by rw [hc]; rfl)
    obtain ⟨hnone, promotion, promoList, ⟨hz, hd⟩, hp⟩ :=
      createPromotion_writes ((h.ok_iff_returns (by rw [hc]; rfl)).1 hok)
    rw [hp, get_put_ne (by simp)]
    by_cases he : promoId = params.promoId
    · rw [he, hnone, get_put_self]
      exact .create (he ▸ hn) hz hd
    · rw [get_put_ne (by simpa using he)]
      exact .same hn
  | createSubscriptionWithTier id user paymentToken tierId cycle promoCode =>
    have hr := (h.ok_iff_returns (x := createSubscriptionWithTier i.env id user paymentToken tierId
      cycle promoCode) (by rw [hc]; rfl)).1 hok
    cases promoCode with
    | none =>
      obtain ⟨s₁, tier, price, expiresAt, hcr, hp⟩ := createSubscriptionWithTier_returns.1 hr
      obtain ⟨-, rfl⟩ := returns_pure.1 hcr.priced
      rw [hp, logged_get (by simp) (by simp), State.subscribed, get_put_ne (by simp),
        get_put_ne (by simp)]
      exact .same (hnot (by rw [hc]; rfl))
    | some promoCode =>
      obtain ⟨tier, promoId', promotion, subscription, -, hf, hu, -, -, -, hp⟩ :=
        createSubscriptionWithTier_promo hr
      have hredeems : Redeems promoId ⟨w, i, w'⟩ ↔ promoId' = promoId := by
        rw [Redeems, and_iff_right hok, hc, Call.promoFor, Option.bind_some, hf, Option.map_some,
          Option.some.injEq]
      rw [hp promoId]
      split_ifs with he
      · subst he
        rw [(promotionFor_eq_some.1 (mem_of_firstOf hf).2).1]
        exact .redeem (hredeems.2 rfl) hu
      · exact .same fun hr => he (hredeems.1 hr).symm
  | _ =>
    rw [h.frame (by rw [hc]; simp)]
    exact .same (hnot (by rw [hc]; rfl))

end

/-! ## Counts of redemptions -/

/-- The subscriptions that a run has created with the promotion. -/
def redemptions (promoId : String) (tr : List (Ev me)) : ℕ := tr.countP (Redeems promoId ·)

/-- The promotion, if there is one, counts its redemptions, up to its maximum. -/
structure PromotionKept (promoId : String) (tr : List (Ev me)) (o : Option TierPromotion) :
    Prop where
  count : o.elim 0 (·.currentRedemptions) = redemptions promoId tr
  limit : ∀ promotion ∈ o, 0 < promotion.maxRedemptions →
    promotion.currentRedemptions ≤ promotion.maxRedemptions
  discount : ∀ promotion ∈ o, promotion.discountPercent ≤ 100

section
variable {w₀ w : World} {tr : List (Ev me)} {promoId : String}

theorem redemptions_snoc {ev : Ev me} :
    redemptions promoId (tr ++ [ev]) =
      redemptions promoId tr + if Redeems promoId ev then 1 else 0 := by
  simp [redemptions, List.countP_append, List.countP_cons]

theorem PromotionChange.kept {now : ℕ} {ev : Ev me} {o o' : Option TierPromotion}
    (h : PromotionChange now (Redeems promoId ev) o o') (hk : PromotionKept promoId tr o) :
    PromotionKept promoId (tr ++ [ev]) o' := by
  obtain ⟨hc, hl, hd⟩ := hk
  cases h with
  | same hn =>
    refine ⟨?_, hl, hd⟩
    rw [redemptions_snoc, if_neg hn, hc, Nat.add_zero]
  | create hn hz hd' =>
    refine ⟨?_, ?_, ?_⟩
    · rw [redemptions_snoc, if_neg hn, Nat.add_zero, ← hc]
      exact hz
    · rintro _ ⟨⟩ -
      rw [hz]
      exact Nat.zero_le _
    · rintro _ ⟨⟩
      exact hd'
  | @redeem promotion hr hu =>
    refine ⟨?_, ?_, ?_⟩
    · rw [redemptions_snoc, if_pos hr, ← hc]
      rfl
    · rintro _ ⟨⟩ hpos
      exact hu.left.resolve_left hpos.ne'
    · rintro _ ⟨⟩
      exact (hd promotion rfl :)

theorem promotionKept_of_run (promoId : String) (h : Run Step w₀ tr w) (h₀ : w₀.state = ∅) :
    PromotionKept promoId tr (w.state.get (.tierPromotion promoId)) := by
  refine h.history (P := fun tr w => PromotionKept promoId tr (w.state.get (.tierPromotion promoId)))
    (fun tr w i w' hk hstep => (hstep.promotionChange promoId).kept hk) ?_
  rw [h₀]
  exact ⟨rfl, nofun, nofun⟩

/-! ## The law -/

/-- A promotion for the tier and the code is listed that is usable at the time. -/
def State.Offers (s : State) (tierId promoCode : String) (now : ℕ) : Prop :=
  ∃ promoId ∈ s.promoList, ∃ promotion,
    s.promotionFor tierId promoCode promoId = some promotion ∧ promotion.Usable now

/-- The first promotion for the tier and the code is usable, with a price that can be computed and
    room in its counter. -/
def State.FirstServes (s : State) (tierId promoCode : String) (basePrice : ℤ) (now : ℕ) : Prop :=
  ∃ promoId promotion, s.firstPromotion tierId promoCode = some (promoId, promotion) ∧
    promotion.Usable now ∧
    (0 < promotion.promoPrice ∨ FitsI128 (basePrice * promotion.discountPercent)) ∧
    promotion.currentRedemptions + 1 < 2 ^ 32

/-- Each promotion counts the subscriptions that have been created with it, up to its maximum. -/
def RedemptionsCounted (tr : List (Ev me)) (s : State) : Prop :=
  ∀ promoId promotion, s.get (.tierPromotion promoId) = some promotion →
    promotion.currentRedemptions = redemptions promoId tr ∧
      (0 < promotion.maxRedemptions → promotion.currentRedemptions ≤ promotion.maxRedemptions)

theorem State.FirstServes.offers {s : State} {tierId promoCode : String} {basePrice : ℤ} {now : ℕ}
    (h : s.FirstServes tierId promoCode basePrice now) : s.Offers tierId promoCode now := by
  obtain ⟨promoId, promotion, hf, hu, -⟩ := h
  obtain ⟨hmem, hp⟩ := mem_of_firstOf hf
  exact ⟨promoId, hmem, promotion, hp, hu⟩

theorem applyPromotion_iff_serves {env : HubEnv me} {s : State} {tierId promoCode : String}
    {basePrice : ℤ} (hb : FitsI128 basePrice)
    (hd : ∀ promoId promotion, s.get (.tierPromotion promoId) = some promotion →
      promotion.discountPercent ≤ 100) :
    (∃ price s', Returns (applyPromotion env tierId promoCode basePrice) s price s') ↔
      s.FirstServes tierId promoCode basePrice env.now := by
  have hfirst {promoId : String} {promotion : TierPromotion}
      (hf : s.firstPromotion tierId promoCode = some (promoId, promotion)) :
      promotion.Computable basePrice ↔
        0 < promotion.promoPrice ∨ FitsI128 (basePrice * promotion.discountPercent) :=
    computable_iff hb (hd promoId promotion (promotionFor_eq_some.1 (mem_of_firstOf hf).2).1)
  simp only [applyPromotion_returns, redeemPromotion_returns]
  constructor
  · rintro ⟨price, s', promoId, promotion, hf, ⟨hu, hc, hroom⟩, -, -⟩
    exact ⟨promoId, promotion, hf, hu, (hfirst hf).1 hc, hroom⟩
  · rintro ⟨promoId, promotion, hf, hu, hc, hroom⟩
    exact ⟨_, _, promoId, promotion, hf, ⟨hu, (hfirst hf).2 hc, hroom⟩, rfl, rfl⟩

theorem redemptionsCounted_of_run (h : Run Step w₀ tr w) (h₀ : w₀.state = ∅) :
    RedemptionsCounted tr w.state := by
  intro promoId promotion hp
  obtain ⟨hc, hl, -⟩ := promotionKept_of_run promoId h h₀
  rw [hp] at hc hl
  exact ⟨hc, hl promotion rfl⟩

/-- **A code is accepted whenever a usable promotion for it is listed, exactly if none is, or the
    first promotion for it serves; and promotions always count their redemptions.** -/
theorem promotions_found {tierId promoCode : String} {basePrice : ℤ} (env : HubEnv me)
    (h : Run Step w₀ tr w) (h₀ : w₀.state = ∅) (hb : FitsI128 basePrice) :
    (((∃ price s', Returns (applyPromotion env tierId promoCode basePrice) w.state price s') ↔
      w.state.Offers tierId promoCode env.now) ∧ RedemptionsCounted tr w.state) ↔
    ¬ w.state.Offers tierId promoCode env.now ∨
      w.state.FirstServes tierId promoCode basePrice env.now := by
  have hd (promoId : String) (promotion : TierPromotion)
      (hp : w.state.get (.tierPromotion promoId) = some promotion) :
      promotion.discountPercent ≤ 100 := (promotionKept_of_run promoId h h₀).discount promotion hp
  rw [and_iff_left (redemptionsCounted_of_run h h₀), applyPromotion_iff_serves hb hd]
  constructor
  · intro hiff
    by_cases ho : w.state.Offers tierId promoCode env.now
    · exact Or.inr (hiff.2 ho)
    · exact Or.inl ho
  · rintro (hn | hs)
    · exact iff_of_false (fun hs => hn hs.offers) hn
    · exact iff_of_true hs hs.offers

end

/-- A tier, and two promotions for it with the same code, of which the first has ended at time 6. -/
def promotionCalls : List (Input ⟨0⟩) :=
  [hubCall 1 (.setUsdcContract ⟨1⟩ ⟨9⟩),
    hubCall 2 (.createTier ⟨1⟩ ⟨"basic", "Basic", .basic, 100, 1000, [], 1, 1⟩),
    hubCall 3 (.createPromotion ⟨1⟩ ⟨"spring", "basic", 20, 0, 0, 5, "SAVE", 1⟩),
    hubCall 4 (.createPromotion ⟨1⟩ ⟨"summer", "basic", 10, 0, 0, 9, "SAVE", 1⟩)]

/-- At the time 5, the first promotion serves. -/
theorem promotions_found_first :
    ((∃ price s', Returns (applyPromotion (hubEnv 5) "basic" "SAVE" 100)
      (promotionCalls.foldl next start).state price s') ↔
        (promotionCalls.foldl next start).state.Offers "basic" "SAVE" 5) ∧
      RedemptionsCounted (eventsFrom next start promotionCalls)
        (promotionCalls.foldl next start).state :=
  (promotions_found (hubEnv 5) (run_calls promotionCalls (by decide)) rfl (by decide)).2
    (Or.inr ⟨"spring", ⟨"basic", 20, 0, 0, 5, "SAVE", 1, 0⟩, by decide,
      ⟨by decide, by decide⟩, by decide, by decide⟩)

/-- At the time 7, the first promotion has ended, and the code is refused although the second could
    be used. -/
theorem promotions_hidden : ¬ ∀ (tr : List (Ev ⟨0⟩)) (w : World), Run Step start tr w →
    ∀ (env : HubEnv ⟨0⟩) (tierId promoCode : String) (basePrice : ℤ), w.now ≤ env.now →
      FitsI128 basePrice →
      ((∃ price s', Returns (applyPromotion env tierId promoCode basePrice) w.state price s') ↔
        w.state.Offers tierId promoCode env.now) := by
  intro h
  have hiff := h _ _ (run_calls promotionCalls (by decide)) (hubEnv 7) "basic" "SAVE" 100
    (by decide) (by decide)
  rw [← succeeds_iff] at hiff
  exact absurd (hiff.2 ⟨"summer", by decide, ⟨"basic", 10, 0, 0, 9, "SAVE", 1, 0⟩, by decide,
    ⟨by decide, by decide⟩⟩) (by decide)

/-! ## Prices -/

/-- No price of the tier is negative. -/
structure SubscriptionTier.Priced (tier : SubscriptionTier) : Prop where
  monthly : 0 ≤ tier.price
  annual : 0 ≤ tier.annualPrice

/-- No price of a tier is negative. -/
def TiersPriced (s : State) : Prop :=
  ∀ id tier, s.get (.tier id) = some (.subscription tier) → tier.Priced

section
variable {env : HubEnv me} {s s' : State} {u : Unit} {admin : Address} {tier : SubscriptionTier}
  {w₀ w w' : World} {i : Input me} {tr : List (Ev me)}

theorem SubscriptionTier.Priced.priceOf_nonneg (h : tier.Priced) (cycle : BillingCycle) :
    0 ≤ tier.priceOf cycle := by
  cases cycle with
  | monthly => exact h.monthly
  | annual => exact h.annual

theorem TiersPriced.put (h : TiersPriced s) {id : String} (record : TierRecord)
    (hr : ∀ tier, record = .subscription tier → tier.Priced) :
    TiersPriced (s.put (.tier id) record) := by
  intro id' tier ht
  by_cases he : id' = id
  · rw [he, get_put_self] at ht
    exact hr tier (Option.some.inj ht)
  · rw [get_put_ne (by simpa using he)] at ht
    exact h id' tier ht

theorem TiersPriced.congr (h : TiersPriced s)
    (hs : ∀ id, s'.get (.tier id) = s.get (.tier id)) : TiersPriced s' :=
  fun id tier ht => h id tier (hs id ▸ ht)

theorem createTier_priced {params : CreateTierParams} (ht : TiersPriced s)
    (h : Returns (createTier env admin params) s u s') : TiersPriced s' := by
  simp only [createTier, returns_requireAuth_bind, returns_failIf_bind, returns_load_bind,
    returns_store_bind, returns_store, not_lt] at h
  obtain ⟨-, hp, ha, -, rfl⟩ := h
  refine (ht.put (.subscription _) fun tier he => ?_).congr fun id => by
    rw [get_put_ne (by simp), get_put_ne (by simp)]
  cases he
  exact ⟨hp, ha⟩

theorem updateTier_priced {params : UpdateTierParams} (ht : TiersPriced s)
    (h : Returns (updateTier env admin params) s u s') : TiersPriced s' := by
  simp only [updateTier, returns_requireAuth_bind, returns_failIf_bind, returns_store,
    returns_bind_of_reads fun _ _ => getTier_returns, Option.any_eq_true, decide_eq_true_eq,
    not_exists, not_and, not_lt] at h
  obtain ⟨-, tier, hs, hp, ha, rfl⟩ := h
  obtain ⟨hmonthly, hannual⟩ := ht _ _ hs
  refine ht.put _ fun tier' he => ?_
  cases he
  constructor
  · cases hprice : params.price with
    | none => simpa [SubscriptionTier.update, hprice] using hmonthly
    | some price => simpa [SubscriptionTier.update, hprice] using hp price hprice
  · cases hprice : params.annualPrice with
    | none => simpa [SubscriptionTier.update, hprice] using hannual
    | some price => simpa [SubscriptionTier.update, hprice] using ha price hprice

theorem deactivateTier_priced {id : String} (ht : TiersPriced s)
    (h : Returns (deactivateTier env admin id) s u s') : TiersPriced s' := by
  simp only [deactivateTier, returns_requireAuth_bind, returns_store,
    returns_bind_of_reads fun _ _ => getTier_returns] at h
  obtain ⟨-, tier, hs, rfl⟩ := h
  obtain ⟨hmonthly, hannual⟩ := ht _ _ hs
  refine ht.put _ fun tier' he => ?_
  cases he
  exact ⟨hmonthly, hannual⟩

theorem Step.tiersPriced (h : Step w i w') (ht : TiersPriced w.state) : TiersPriced w'.state := by
  cases hc : i.call with
  | createTier =>
    exact h.of_returns (by rw [hc]; rfl) (P := TiersPriced) ht fun _ hr => createTier_priced ht hr
  | updateTier =>
    exact h.of_returns (by rw [hc]; rfl) (P := TiersPriced) ht fun _ hr => updateTier_priced ht hr
  | deactivateTier =>
    exact h.of_returns (by rw [hc]; rfl) (P := TiersPriced) ht
      fun _ hr => deactivateTier_priced ht hr
  | createStakingTier =>
    refine h.of_returns (by rw [hc]; rfl) (P := TiersPriced) ht fun _ hr => ?_
    obtain ⟨-, tierList, rfl⟩ := createStakingTier_writes hr
    refine (ht.put _ fun tier he => ?_).congr fun id => get_put_ne (by simp)
    cases he
  | _ => exact ht.congr fun _ => h.frame (by rw [hc]; simp)

theorem tiersPriced_of_run (h : Run Step w₀ tr w) (h₀ : w₀.state = ∅) : TiersPriced w.state := by
  refine h.invariant' (P := fun w => TiersPriced w.state) (fun _ _ _ ht hs => hs.tiersPriced ht) ?_
  rw [h₀]
  exact nofun

/-- A discount leaves a price between 0 and the base price. -/
theorem TierPromotion.priceFor_le_iff {promotion : TierPromotion} {basePrice : ℤ}
    (hb : 0 ≤ basePrice) (hd : promotion.discountPercent ≤ 100) :
    promotion.priceFor basePrice ≤ basePrice ↔ promotion.promoPrice ≤ basePrice := by
  unfold TierPromotion.priceFor TierPromotion.discounted
  have := tdiv_percent_le hb hd
  split_ifs with h <;> omega

/-- **A subscription that is created with a code costs at least 1, and at most the price of the tier
    exactly if the first promotion for the code does not set a higher one.** -/
theorem promotion_price {id tierId promoCode : String} {user paymentToken : Address}
    {cycle : BillingCycle} (h : Run Step w₀ tr w) (h₀ : w₀.state = ∅) (hs : Step w i w')
    (hc : i.call = .createSubscriptionWithTier id user paymentToken tierId cycle (some promoCode))
    (hok : i.ok w = true) :
    ∃ tier promoId promotion subscription,
      w.state.get (.tier tierId) = some (.subscription tier) ∧
      w.state.firstPromotion tierId promoCode = some (promoId, promotion) ∧
      w'.state.get (.subscription id) = some subscription ∧
      ((1 ≤ subscription.amount ∧ subscription.amount ≤ tier.priceOf cycle) ↔
        promotion.promoPrice ≤ tier.priceOf cycle) := by
  obtain ⟨tier, promoId, promotion, subscription, ht, hf, -, hsub, ha, hpos, -⟩ :=
    createSubscriptionWithTier_promo ((hs.ok_iff_returns (by rw [hc]; rfl)).1 hok)
  have hd := (promotionKept_of_run promoId h h₀).discount promotion
    (promotionFor_eq_some.1 (mem_of_firstOf hf).2).1
  have hb := (tiersPriced_of_run h h₀ tierId tier ht).priceOf_nonneg cycle
  refine ⟨tier, promoId, promotion, subscription, ht, hf, hsub, ?_⟩
  have hone : 1 ≤ subscription.amount := hpos
  rw [and_iff_right hone, ha, TierPromotion.priceFor_le_iff hb hd]

end

/-- At the time 5, the code takes 20% off. -/
theorem promotion_price_discount : ∃ tier promoId promotion subscription,
    (promotionCalls.foldl next start).state.get (.tier "basic") = some (.subscription tier) ∧
    (promotionCalls.foldl next start).state.firstPromotion "basic" "SAVE" =
      some (promoId, promotion) ∧
    (next (promotionCalls.foldl next start) (hubCall 5 (.createSubscriptionWithTier "a" ⟨2⟩ ⟨9⟩
      "basic" .monthly (some "SAVE")))).state.get (.subscription "a") = some subscription ∧
    ((1 ≤ subscription.amount ∧ subscription.amount ≤ tier.priceOf .monthly) ↔
      promotion.promoPrice ≤ tier.priceOf .monthly) :=
  promotion_price (run_calls promotionCalls (by decide)) rfl (step_next (by decide)) rfl (by decide)

/-- A promotion with a price of 500, for a tier of 100. -/
def raiseCalls : List (Input ⟨0⟩) :=
  promotionCalls ++
    [hubCall 5 (.createPromotion ⟨1⟩ ⟨"luxury", "basic", 0, 500, 0, 9, "MORE", 1⟩)]

/-- The subscription with it costs 500. -/
theorem promotion_raises : ¬ ∀ (tr : List (Ev ⟨0⟩)) (w w' : World) (i : Input ⟨0⟩)
    (id tierId promoCode : String) (user paymentToken : Address) (cycle : BillingCycle),
    Run Step start tr w → Step w i w' →
    i.call = .createSubscriptionWithTier id user paymentToken tierId cycle (some promoCode) →
    i.ok w = true → ∀ tier subscription,
      w.state.get (.tier tierId) = some (.subscription tier) →
      w'.state.get (.subscription id) = some subscription →
      1 ≤ subscription.amount ∧ subscription.amount ≤ tier.priceOf cycle := by
  intro h
  have hle := (h _ _ _ _ "a" "basic" "MORE" ⟨2⟩ ⟨9⟩ .monthly (run_calls raiseCalls (by decide))
    (step_next (i := hubCall 6 (.createSubscriptionWithTier "a" ⟨2⟩ ⟨9⟩ "basic" .monthly
      (some "MORE"))) (by decide)) rfl (by decide)
    ⟨"basic", "Basic", .basic, 100, 1000, [], 1, 1, true, 2, 2⟩
    (newSubscription (hubEnv 6) "a" ⟨2⟩ ⟨9⟩ 500 2592006 "basic" .monthly) (by decide)
    (by decide)).2
  exact absurd hle (by decide)

end ManageHub
