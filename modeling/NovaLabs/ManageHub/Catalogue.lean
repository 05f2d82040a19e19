/-
  The catalogue: the tiers that the hub lists, over whole runs.

  Subscription tiers and staking tiers have their own lists of ids, and their records are kept under
  the same keys.  An id is taken for both by the first tier that has it, so no list leads to a record
  of the other kind, on which the host would trap.
-/
import NovaLabs.Lib.Listing
import NovaLabs.ManageHub.Authority
import NovaLabs.ManageHub.Promotions
import NovaLabs.ManageHub.TierChangeCalls

namespace ManageHub

open Lib Soroban

variable {me : Address}

/-! ## Queries -/

/-- The tiers with the ids, as `read` reads their records; an id without a record is passed over. -/
def tiersOf {α : Type} (read : Option TierRecord → Fn α) : List String → Fn (List α)
  | [] => pure []
  | id :: ids => do
    let record ← load (.tier id)
    record.elim (tiersOf read ids) fun record => do
      let tier ← read (some record)
      let tiers ← tiersOf read ids
      return tier :: tiers

def getAllTiers : Fn (List SubscriptionTier) := do
  let tierIds := (← load .tierList).getD []
  tiersOf subscriptionTierOf tierIds

def getActiveTiers : Fn (List SubscriptionTier) := do
  let allTiers ← getAllTiers
  return allTiers.filter (·.isActive)

def getStakingTiers : Fn (List StakingTier) := do
  let list := (← load .stakingTierList).getD []
  tiersOf stakingTierOf list

/-! ## What the storage stands for -/

/-- The tiers that have been made, in this order, as they are now. -/
structure Catalogue where
  tiers : List SubscriptionTier
  stakingTiers : List StakingTier

def newTier (params : CreateTierParams) (now : ℕ) : SubscriptionTier :=
  { id := params.id, name := params.name, level := params.level, price := params.price
    annualPrice := params.annualPrice, features := params.features, maxUsers := params.maxUsers
    maxStorage := params.maxStorage, isActive := true, createdAt := now, updatedAt := now }

/-- The tier with the id is changed, in its place. -/
def Catalogue.modify (c : Catalogue) (id : String) (f : SubscriptionTier → SubscriptionTier) :
    Catalogue :=
  { c with tiers := c.tiers.map fun tier => if tier.id = id then f tier else tier }

/-- What a call at the time `now` does to the catalogue, if it goes through. -/
def Catalogue.after (c : Catalogue) (now : ℕ) : Call → Catalogue
  | .createTier _ params => { c with tiers := c.tiers ++ [newTier params now] }
  | .updateTier _ params => c.modify params.id (·.update params now)
  | .deactivateTier _ id => c.modify id (·.deactivated now)
  | .createStakingTier _ tier => { c with stakingTiers := c.stakingTiers ++ [tier] }
  | _ => c

/-- The catalogue that the calls of a run have made. -/
def catalogue (tr : List (Ev me)) : Catalogue :=
  tr.foldl (fun c ev => if ev.inp.ok ev.pre = true then c.after ev.inp.env.now ev.inp.call else c)
    ⟨[], []⟩

/-- The tier is in the catalogue, and on sale. -/
def Catalogue.Offers (c : Catalogue) (tierId : String) (tier : SubscriptionTier) : Prop :=
  tier ∈ c.tiers ∧ tier.id = tierId ∧ tier.isActive = true

def TierRecord.asSubscription : TierRecord → Option SubscriptionTier
  | .subscription tier => some tier
  | .staking _ => none

def TierRecord.asStaking : TierRecord → Option StakingTier
  | .subscription _ => none
  | .staking tier => some tier

/-- The storage stands for the catalogue. -/
structure Catalogued (s : State) (c : Catalogue) : Prop where
  tiers : Lists SubscriptionTier.id (fun id => (s.get (.tier id)).bind TierRecord.asSubscription)
    ((s.get .tierList).getD []) c.tiers
  staking : Lists StakingTier.id (fun id => (s.get (.tier id)).bind TierRecord.asStaking)
    ((s.get .stakingTierList).getD []) c.stakingTiers

/-! ## Reading it -/

section
variable {α : Type} {s s' : State} {c : Catalogue} {id : String} {ids : List String}
  {tier : SubscriptionTier} {stakingTier : StakingTier} {record : TierRecord}

theorem asSubscription_eq_some : record.asSubscription = some tier ↔ record = .subscription tier := by
  cases record <;> simp [TierRecord.asSubscription]

theorem asStaking_eq_some : record.asStaking = some stakingTier ↔ record = .staking stakingTier := by
  cases record <;> simp [TierRecord.asStaking]

/-- Ids that lead to records of the right kind are read in order. -/
theorem tiersOf_returns {read : Option TierRecord → Fn α} {view : TierRecord → Option α}
    (hread : ∀ record a, view record = some a → Returns (read (some record)) s a s)
    (h : ∀ id ∈ ids, ((s.get (.tier id)).bind view).isSome) :
    Returns (tiersOf read ids) s (ids.filterMap fun id => (s.get (.tier id)).bind view) s := by
  induction ids with
  | nil => exact returns_pure.2 ⟨rfl, rfl⟩
  | cons id ids ih =>
    obtain ⟨hid, hids⟩ := List.forall_mem_cons.1 h
    obtain ⟨a, ha⟩ := Option.isSome_iff_exists.1 hid
    obtain ⟨record, hrecord, hview⟩ := Option.bind_eq_some_iff.1 ha
    rw [tiersOf, returns_load_bind, hrecord, Option.elim_some, List.filterMap_cons, ha]
    exact returns_bind.2 ⟨a, s, hread record a hview,
      returns_bind.2 ⟨_, s, ih hids, returns_pure.2 ⟨rfl, rfl⟩⟩⟩

theorem getAllTiers_returns (h : Catalogued s c) : Returns getAllTiers s c.tiers s := by
  refine returns_load_bind.2 ?_
  rw [← h.tiers.filterMap]
  refine tiersOf_returns (fun record a ha => ?_) fun id hid => h.tiers.mem_keys.1 hid
  rw [asSubscription_eq_some.1 ha]
  exact returns_pure.2 ⟨rfl, rfl⟩

theorem getActiveTiers_returns (h : Catalogued s c) :
    Returns getActiveTiers s (c.tiers.filter (·.isActive)) s :=
  returns_bind.2 ⟨c.tiers, s, getAllTiers_returns h, returns_pure.2 ⟨rfl, rfl⟩⟩

theorem getStakingTiers_returns (h : Catalogued s c) :
    Returns getStakingTiers s c.stakingTiers s := by
  refine returns_load_bind.2 ?_
  rw [← h.staking.filterMap]
  refine tiersOf_returns (fun record a ha => ?_) fun id hid => h.staking.mem_keys.1 hid
  rw [asStaking_eq_some.1 ha]
  exact returns_pure.2 ⟨rfl, rfl⟩

theorem Catalogued.tier_iff (h : Catalogued s c) :
    s.get (.tier id) = some (.subscription tier) ↔ tier ∈ c.tiers ∧ tier.id = id := by
  rw [← h.tiers.get_iff, Option.bind_eq_some_iff]
  simp only [asSubscription_eq_some, exists_eq_right]

/-- No id is in both lists, nor twice in one of them. -/
theorem Catalogued.nodup (h : Catalogued s c) :
    (c.tiers.map SubscriptionTier.id ++ c.stakingTiers.map StakingTier.id).Nodup := by
  rw [h.tiers.keys_eq, h.staking.keys_eq]
  refine h.tiers.nodup.append h.staking.nodup fun id hid hid' => ?_
  obtain ⟨tier, ht⟩ := Option.isSome_iff_exists.1 (h.tiers.mem_keys.1 hid)
  obtain ⟨stakingTier, hst⟩ := Option.isSome_iff_exists.1 (h.staking.mem_keys.1 hid')
  obtain ⟨record, hr, hs⟩ := Option.bind_eq_some_iff.1 ht
  obtain ⟨record', hr', hs'⟩ := Option.bind_eq_some_iff.1 hst
  rw [asSubscription_eq_some.1 hs] at hr
  rw [hr, asStaking_eq_some.1 hs'] at hr'
  cases hr'

end

/-! ## Writing it -/

section
variable {env : HubEnv me} {s s' : State} {u : Unit} {c : Catalogue} {admin : Address} {id : String}

/-- The tiers and their lists are as before. -/
structure SameTiers (s s' : State) : Prop where
  tier : ∀ id, s'.get (.tier id) = s.get (.tier id)
  tierList : s'.get .tierList = s.get .tierList
  stakingTierList : s'.get .stakingTierList = s.get .stakingTierList

theorem Catalogued.congr (h : Catalogued s c) (hs : SameTiers s s') : Catalogued s' c where
  tiers := by
    rw [hs.tierList]
    exact h.tiers.congr fun id => by rw [hs.tier]
  staking := by
    rw [hs.stakingTierList]
    exact h.staking.congr fun id => by rw [hs.tier]

theorem get_put_tier {id' : String} {record : TierRecord} :
    (s.put (.tier id) record).get (.tier id') =
      if id' = id then some record else s.get (.tier id') := by
  split_ifs with he
  · rw [he, get_put_self]
  · exact get_put_ne (by simpa using he)

theorem Catalogued.add_tier {tier : SubscriptionTier} (hc : Catalogued s c)
    (hnew : s.get (.tier tier.id) = none)
    (ht : ∀ id, s'.get (.tier id) = if id = tier.id then some (.subscription tier)
      else s.get (.tier id))
    (hl : s'.get .tierList = some ((s.get .tierList).getD [] ++ [tier.id]))
    (hl' : s'.get .stakingTierList = s.get .stakingTierList) :
    Catalogued s' { c with tiers := c.tiers ++ [tier] } where
  tiers := by
    rw [hl, Option.getD_some]
    refine hc.tiers.append (by rw [hnew]; rfl) fun id => ?_
    rw [ht]
    split_ifs <;> rfl
  staking := by
    rw [hl']
    refine hc.staking.congr fun id => ?_
    rw [ht]
    split_ifs with he
    · rw [he, hnew]
      rfl
    · rfl

theorem Catalogued.add_staking {tier : StakingTier} (hc : Catalogued s c)
    (hnew : s.get (.tier tier.id) = none)
    (ht : ∀ id, s'.get (.tier id) = if id = tier.id then some (.staking tier)
      else s.get (.tier id))
    (hl : s'.get .tierList = s.get .tierList)
    (hl' : s'.get .stakingTierList = some ((s.get .stakingTierList).getD [] ++ [tier.id])) :
    Catalogued s' { c with stakingTiers := c.stakingTiers ++ [tier] } where
  tiers := by
    rw [hl]
    refine hc.tiers.congr fun id => ?_
    rw [ht]
    split_ifs with he
    · rw [he, hnew]
      rfl
    · rfl
  staking := by
    rw [hl', Option.getD_some]
    refine hc.staking.append (by rw [hnew]; rfl) fun id => ?_
    rw [ht]
    split_ifs <;> rfl

theorem createTier_catalogued {params : CreateTierParams} (hc : Catalogued s c)
    (h : Returns (createTier env admin params) s u s') :
    Catalogued s' (c.after env.now (.createTier admin params)) := by
  simp only [createTier, returns_requireAuth_bind, returns_failIf_bind, returns_load_bind,
    returns_store_bind, returns_store, Option.not_isSome_iff_eq_none] at h
  obtain ⟨-, -, -, hnew, rfl⟩ := h
  have hnew : s.get (.tier (newTier params env.now).id) = none := hnew
  refine hc.add_tier hnew (fun id => ?_) ?_ ?_
  · rw [get_put_ne (by simp), get_put_ne (by simp), get_put_tier]
    rfl
  · rw [get_put_ne (by simp), get_put_self, get_put_ne (by simp)]
    rfl
  · rw [get_put_ne (by simp), get_put_ne (by simp), get_put_ne (by simp)]

theorem createStakingTier_catalogued {tier : StakingTier} (hc : Catalogued s c)
    (h : Returns (createStakingTier env admin tier) s u s') :
    Catalogued s' (c.after env.now (.createStakingTier admin tier)) := by
  simp only [createStakingTier, returns_bind_of_checks fun _ _ => requireStoredAdmin_returns,
    returns_failIf_bind, returns_load_bind, returns_store_bind, returns_store,
    Option.not_isSome_iff_eq_none] at h
  obtain ⟨-, -, -, -, hnew, rfl⟩ := h
  refine hc.add_staking hnew (fun id => ?_) ?_ ?_
  · rw [get_put_ne (by simp), get_put_tier]
  · rw [get_put_ne (by simp), get_put_ne (by simp)]
  · rw [get_put_self, get_put_ne (by simp)]

/-- The record of a subscription tier is written again, under its id. -/
theorem Catalogued.modify {f : SubscriptionTier → SubscriptionTier} {tier : SubscriptionTier}
    (hc : Catalogued s c) (hf : ∀ tier, (f tier).id = tier.id)
    (h : s.get (.tier id) = some (.subscription tier)) :
    Catalogued (s.put (.tier id) (.subscription (f tier))) (c.modify id f) where
  tiers := by
    rw [get_put_ne (by simp)]
    refine hc.tiers.modify hf fun id' => ?_
    rw [get_put_tier]
    split_ifs with he
    · rw [he, h]
      rfl
    · rfl
  staking := by
    rw [get_put_ne (by simp)]
    refine hc.staking.congr fun id' => ?_
    rw [get_put_tier]
    split_ifs with he
    · rw [he, h]
      rfl
    · rfl

theorem updateTier_catalogued {params : UpdateTierParams} (hc : Catalogued s c)
    (h : Returns (updateTier env admin params) s u s') :
    Catalogued s' (c.after env.now (.updateTier admin params)) := by
  simp only [updateTier, returns_requireAuth_bind, returns_failIf_bind, returns_store,
    returns_bind_of_reads fun _ _ => getTier_returns] at h
  obtain ⟨-, tier, ht, -, -, rfl⟩ := h
  exact hc.modify (f := (·.update params env.now)) (fun _ => rfl) ht

theorem deactivateTier_catalogued (hc : Catalogued s c)
    (h : Returns (deactivateTier env admin id) s u s') :
    Catalogued s' (c.after env.now (.deactivateTier admin id)) := by
  simp only [deactivateTier, returns_requireAuth_bind, returns_store,
    returns_bind_of_reads fun _ _ => getTier_returns] at h
  obtain ⟨-, tier, ht, rfl⟩ := h
  exact hc.modify (f := (·.deactivated env.now)) (fun _ => rfl) ht

end

/-! ## Steps -/

section
variable {w w' : World} {i : Input me} {c : Catalogue} {tierId : String}

/-- The step lemma: a call that goes through does to the tiers what it does to the catalogue. -/
theorem Step.catalogued (h : Step w i w') (hc : Catalogued w.state c) :
    Catalogued w'.state (if i.ok w = true then c.after i.env.now i.call else c) := by
  by_cases hok : i.ok w = true
  swap
  · rwa [if_neg hok, h.state_eq_of_not_ok hok]
  rw [if_pos hok]
  cases hcall : i.call with
  | createTier =>
    exact createTier_catalogued hc ((h.ok_iff_returns (by rw [hcall]; rfl)).1 hok)
  | createStakingTier =>
    exact createStakingTier_catalogued hc ((h.ok_iff_returns (by rw [hcall]; rfl)).1 hok)
  | updateTier =>
    exact updateTier_catalogued hc ((h.ok_iff_returns (by rw [hcall]; rfl)).1 hok)
  | deactivateTier =>
    exact deactivateTier_catalogued hc ((h.ok_iff_returns (by rw [hcall]; rfl)).1 hok)
  | _ =>
    exact hc.congr ⟨fun _ => h.frame (by rw [hcall]; simp), h.frame (by rw [hcall]; simp),
      h.frame (by rw [hcall]; simp)⟩

/-- The amount is the base price, with a code the price of the first promotion that is listed for the
    tier and the code, which can be used. -/
def PricedAs (s : State) (now : ℕ) (tierId : String) (basePrice amount : ℤ) :
    Option String → Prop
  | none => amount = basePrice
  | some promoCode => ∃ promoId promotion,
    s.firstPromotion tierId promoCode = some (promoId, promotion) ∧ promotion.Usable now ∧
      amount = promotion.priceFor basePrice

/-- Subscriptions with a tier and changes of tier are sold from the catalogue, the first ones at its
    price or a promotion's.  A plain subscription has no tier, and costs what its user says. -/
def SoldFrom (c : Catalogue) (ev : Ev me) : Prop :=
  ev.inp.ok ev.pre = true → match ev.inp.call with
    | .createSubscriptionWithTier id _ _ tierId cycle promoCode =>
      ∃ tier subscription, c.Offers tierId tier ∧
        ev.post.state.get (.subscription id) = some subscription ∧ subscription.tierId = tierId ∧
        PricedAs ev.pre.state ev.inp.env.now tierId (tier.priceOf cycle) subscription.amount promoCode
    | .requestTierChange _ _ newTierId => ∃ tier, c.Offers newTierId tier
    | _ => True

theorem Step.soldFrom (h : Step w i w') (hc : Catalogued w.state c) : SoldFrom c ⟨w, i, w'⟩ := by
  intro hok
  dsimp only
  cases hcall : i.call with
  | createSubscriptionWithTier id user paymentToken tierId cycle promoCode =>
    obtain ⟨s₁, tier, price, expiresAt, hcr, hp⟩ :=
      createSubscriptionWithTier_returns.1 ((h.ok_iff_returns (by rw [hcall]; rfl)).1 hok)
    obtain ⟨hstored, hactive⟩ := hcr.onSale
    obtain ⟨hmem, hid⟩ := hc.tier_iff.1 hstored
    refine ⟨tier, newSubscription i.env id user paymentToken price expiresAt tierId cycle,
      ⟨hmem, hid, hactive⟩, ?_, rfl, ?_⟩
    · rw [hp, logged_get (by simp) (by simp), State.subscribed, get_put_ne (by simp), get_put_self]
    · have hpriced := hcr.priced
      cases promoCode with
      | none => exact (returns_pure.1 hpriced).1
      | some promoCode =>
        obtain ⟨promoId, promotion, hfirst, hredeem⟩ := applyPromotion_returns.1 hpriced
        obtain ⟨⟨husable, -, -⟩, hprice, -⟩ := redeemPromotion_returns.1 hredeem
        exact ⟨promoId, promotion, hfirst, husable, hprice⟩
  | requestTierChange user subscriptionId newTierId =>
    have hr := (h.ok_iff_returns (x := ignore (requestTierChange i.env user subscriptionId
      newTierId)) (by rw [hcall]; rfl)).1 hok
    obtain ⟨_, hr⟩ := returns_ignore.1 hr
    obtain ⟨_, _, tier, _, hreq, -⟩ := requestTierChange_returns.1 hr
    obtain ⟨hstored, hactive⟩ := hreq.joins
    obtain ⟨hmem, hid⟩ := hc.tier_iff.1 hstored
    exact ⟨tier, hmem, hid, hactive⟩
  | _ => trivial

end

/-! ## Runs -/

section
variable {w₀ w : World} {tr : List (Ev me)}

theorem catalogue_snoc {ev : Ev me} : catalogue (tr ++ [ev]) =
    if ev.inp.ok ev.pre = true then (catalogue tr).after ev.inp.env.now ev.inp.call
    else catalogue tr := by
  rw [catalogue, List.foldl_append]
  rfl

theorem catalogued_of_run (h : Run Step w₀ tr w) (h₀ : w₀.state = ∅) :
    Catalogued w.state (catalogue tr) := by
  refine h.history (P := fun tr w => Catalogued w.state (catalogue tr)) (fun tr w i w' hc hs => ?_) ?_
  · rw [catalogue_snoc]
    exact hs.catalogued hc
  · rw [h₀]
    exact ⟨.nil fun _ => rfl, .nil fun _ => rfl⟩

/-- **The lists of tiers show the catalogue that the calls have made, without trapping; no id is in
    it twice; and what is sold is on sale in it at the time of the call.** -/
theorem catalogue_shown (h : Run Step w₀ tr w) (h₀ : w₀.state = ∅) :
    Returns getAllTiers w.state (catalogue tr).tiers w.state ∧
      Returns getActiveTiers w.state ((catalogue tr).tiers.filter (·.isActive)) w.state ∧
      Returns getStakingTiers w.state (catalogue tr).stakingTiers w.state ∧
      ((catalogue tr).tiers.map (·.id) ++ (catalogue tr).stakingTiers.map (·.id)).Nodup ∧
      (∀ id tier, Returns (getTier id) w.state tier w.state ↔
        tier ∈ (catalogue tr).tiers ∧ tier.id = id) ∧
      Along (fun tr ev => SoldFrom (catalogue tr) ev) tr := by
  have hc := catalogued_of_run h h₀
  refine ⟨getAllTiers_returns hc, getActiveTiers_returns hc, getStakingTiers_returns hc, hc.nodup,
    fun id tier => ?_, ?_⟩
  · rw [getTier_returns, and_iff_left rfl, hc.tier_iff]
  · induction h with
    | nil => exact along_nil _
    | snoc hr hs ih =>
      have hc := catalogued_of_run hr h₀
      exact along_snoc.2 ⟨ih hc, hs.soldFrom hc⟩

end

/-- Two tiers, of which the first is not sold any more, and a staking tier that is rejected as its id
    is taken. -/
def catalogueCalls : List (Input ⟨0⟩) :=
  [hubCall 1 (.setAdmin ⟨1⟩),
    hubCall 2 (.createTier ⟨1⟩ ⟨"basic", "Basic", .basic, 100, 1000, [], 1, 1⟩),
    hubCall 3 (.createTier ⟨1⟩ ⟨"pro", "Pro", .pro, 300, 3000, [], 1, 1⟩),
    hubCall 4 (.deactivateTier ⟨1⟩ "basic"),
    hubCall 5 (.createStakingTier ⟨1⟩ ⟨"pro", "Pro", 1, 1, 10000, 100⟩)]

/-- One tier is sold in the end, and nothing is staked for. -/
theorem catalogue_shown_deactivated :
    Returns getActiveTiers (catalogueCalls.foldl next start).state
      [⟨"pro", "Pro", .pro, 300, 3000, [], 1, 1, true, 3, 3⟩]
      (catalogueCalls.foldl next start).state := by
  have h : Run Step start _ _ := run_calls catalogueCalls (by decide)
  exact (catalogue_shown h rfl).2.1

end ManageHub
