/-
  The accounts of tiers: what their analytics add up, over whole runs.

  The revenue of a tier is what its subscriptions have been charged when they were created with it or
  renewed; what a change of tier costs is nobody's revenue. An upgrade is counted for the tier of the
  request, and a downgrade for the tier that the subscription leaves.
-/
import NovaLabs.ManageHub.SubscriptionChanges
import NovaLabs.ManageHub.Subscribers

namespace ManageHub

open Lib Soroban

variable {me : Address}

/-! ## Totals -/

/-- The revenue of a tier, the upgrades to it and the downgrades from it. -/
abbrev TierTotals := ℤ × ℕ × ℕ

def TierAnalytics.totals (analytics : TierAnalytics) : TierTotals :=
  (analytics.totalRevenue, analytics.upgradesCount, analytics.downgradesCount)

/-- The totals in the analytics of a tier, 0 if there are none. -/
def State.tierTotals (s : State) (tierId : String) : TierTotals :=
  (s.get (.tierAnalytics tierId)).elim 0 TierAnalytics.totals

/-- Tiers with analytics are stored. -/
def Analyzed (s : State) : Prop :=
  ∀ tierId, (s.get (.tierAnalytics tierId)).isSome → (s.get (.tier tierId)).isSome

/-! ## Events -/

/-- The subscription that a call charges for: it creates it with a tier, or renews it. -/
def Call.bills : Call → Option String
  | .createSubscriptionWithTier id .. | .renewSubscription id .. => some id
  | _ => none

/-- The request for a change of tier that a call processes, and the subscription that it moves. -/
def Call.moves : Call → Option (String × String)
  | .processTierChange _ changeRequestId subscriptionId _ => some (changeRequestId, subscriptionId)
  | _ => none

/-- The subscription that has been charged for, as the call leaves it. -/
def billed (ev : Ev me) : Option Subscription :=
  if ev.inp.ok ev.pre = true then
    ev.inp.call.bills.bind fun id => ev.post.state.get (.subscription id)
  else none

/-- The subscription that has moved, as it was before, and the request for it. -/
def moved (ev : Ev me) : Option (Subscription × TierChangeRequest) :=
  if ev.inp.ok ev.pre = true then
    ev.inp.call.moves.bind fun k => (ev.pre.state.get (.subscription k.2)).bind fun subscription =>
      (ev.pre.state.get (.tierChangeRequest k.1)).map fun request => (subscription, request)
  else none

/-- What an event charges for a subscription of the tier. -/
def revenueFrom (tierId : String) (ev : Ev me) : ℤ :=
  (billed ev).elim 0 fun subscription =>
    if subscription.tierId = tierId then subscription.amount else 0

def upgradesTo (tierId : String) (ev : Ev me) : Bool :=
  (moved ev).any fun m => m.2.toTier = tierId ∧ m.2.changeType = .upgrade

def downgradesFrom (tierId : String) (ev : Ev me) : Bool :=
  (moved ev).any fun m => m.1.tierId = tierId ∧ m.2.changeType = .downgrade

/-- What an event adds to the totals of the tier. -/
def totalsFrom (tierId : String) (ev : Ev me) : TierTotals :=
  (revenueFrom tierId ev, (upgradesTo tierId ev).toNat, (downgradesFrom tierId ev).toNat)

/-! ## Writes -/

section
variable {env : HubEnv me} {s s' : State} {u : Unit} {tierId t fromTier toTier : String} {amount : ℤ}
  {now : ℕ} {k : DataKey} {v : Val k} {log : AttendanceLog} {changeType : TierChangeType}

theorem tierTotals_congr (h : s'.get (.tierAnalytics t) = s.get (.tierAnalytics t)) :
    s'.tierTotals t = s.tierTotals t := by
  rw [State.tierTotals, h, State.tierTotals]

theorem tierTotals_put_ne (h : k.kind ≠ .tierAnalytics) :
    (s.put k v).tierTotals t = s.tierTotals t :=
  tierTotals_congr (get_put_ne fun he => h (he ▸ rfl))

@[simp] theorem tierTotals_logged : (s.logged log).tierTotals t = s.tierTotals t :=
  tierTotals_congr (logged_get (by simp) (by simp))

theorem tierTotals_subscribed : (s.subscribed tierId amount now).tierTotals t =
    s.tierTotals t + if tierId = t then (amount, 0, 0) else 0 := by
  unfold State.subscribed
  split_ifs with he
  · subst he
    rw [State.tierTotals, get_put_self, State.tierTotals, State.analyticsOf]
    cases s.get (.tierAnalytics tierId) with
    | none => simp [TierAnalytics.totals]
    | some analytics => simp [TierAnalytics.totals]
  · rw [add_zero]
    exact tierTotals_congr (get_put_ne (by simpa using Ne.symm he))

theorem tierTotals_renewed (ht : t ≠ "") : (s.renewed tierId amount now).tierTotals t =
    s.tierTotals t + if tierId = t then (amount, 0, 0) else 0 := by
  unfold State.renewed
  split_ifs with he he'
  · exact absurd (he'.symm.trans he) ht
  · rw [add_zero]
  · rw [tierTotals_subscribed, if_pos ‹_›]
  · rw [tierTotals_subscribed, if_neg ‹_›]

/-- Analytics that exist are changed by what `f` adds to the totals. -/
theorem tierTotals_modifyAnalytics {f : TierAnalytics → TierAnalytics} {d : TierTotals}
    (hf : ∀ analytics, (f analytics).totals = analytics.totals + d)
    (h : tierId = t → (s.get (.tierAnalytics tierId)).isSome) :
    (s.modifyAnalytics tierId f).tierTotals t = s.tierTotals t + if tierId = t then d else 0 := by
  rw [State.tierTotals, modifyAnalytics_get_analytics, State.tierTotals]
  by_cases he : t = tierId
  · subst he
    obtain ⟨analytics, hs⟩ := Option.isSome_iff_exists.1 (h rfl)
    rw [if_pos rfl, if_pos rfl, hs]
    exact hf analytics
  · rw [if_neg he, if_neg (Ne.symm he), add_zero]

theorem tierTotals_changedTier (h : fromTier = t → (s.get (.tierAnalytics fromTier)).isSome)
    (h' : toTier = t → (s.get (.tierAnalytics toTier)).isSome) :
    (s.changedTier fromTier toTier changeType now).tierTotals t = s.tierTotals t +
      (0, (decide (toTier = t ∧ changeType = .upgrade)).toNat,
        (decide (fromTier = t ∧ changeType = .downgrade)).toNat) := by
  rw [State.changedTier,
    tierTotals_modifyAnalytics (d := (0, if changeType = .upgrade then 1 else 0, 0))
      (fun _ => by simp [TierAnalytics.joined, TierAnalytics.totals]) fun he => ?_,
    tierTotals_modifyAnalytics (d := (0, 0, if changeType = .downgrade then 1 else 0))
      (fun _ => by simp [TierAnalytics.left, TierAnalytics.totals]) h, add_assoc]
  · congr 1
    by_cases hf : fromTier = t <;> by_cases ht : toTier = t <;> cases changeType <;>
      simp [hf, ht, Prod.ext_iff]
  · rw [modifyAnalytics_get_analytics]
    split_ifs with hs
    · rw [Option.isSome_map]
      exact hs ▸ h' he
    · exact h' he

/-- A new tier starts from 0. -/
theorem createTier_tierTotals {admin : Address} {params : CreateTierParams}
    (h : Returns (createTier env admin params) s u s') :
    s'.tierTotals t = if params.id = t then 0 else s.tierTotals t := by
  simp only [createTier, returns_requireAuth_bind, returns_failIf_bind, returns_load_bind,
    returns_store_bind, returns_store] at h
  obtain ⟨-, -, -, -, rfl⟩ := h
  split_ifs with he
  · subst he
    rw [State.tierTotals, get_put_self]
    rfl
  · rw [tierTotals_congr (get_put_ne (by simpa using Ne.symm he)), tierTotals_put_ne (by simp),
      tierTotals_put_ne (by simp)]

end

/-! ## Tiers with analytics -/

section
variable {s s' : State} {id tierId : String} {log : AttendanceLog}

theorem Analyzed.of_frame (h : Analyzed s)
    (ha : ∀ id, s'.get (.tierAnalytics id) = s.get (.tierAnalytics id))
    (ht : ∀ id, s'.get (.tier id) = s.get (.tier id)) : Analyzed s' := by
  intro tierId hs
  rw [ha] at hs
  rw [ht]
  exact h tierId hs

theorem Analyzed.logged (h : Analyzed s) : Analyzed (s.logged log) :=
  h.of_frame (fun _ => logged_get (by simp) (by simp)) fun _ => logged_get (by simp) (by simp)

theorem Analyzed.put_subscription (h : Analyzed s) (id : String) (subscription : Subscription) :
    Analyzed (s.put (.subscription id) subscription) :=
  h.of_frame (fun _ => get_put_ne (by simp)) fun _ => get_put_ne (by simp)

theorem Analyzed.put_tier (h : Analyzed s) (id : String) (record : TierRecord) :
    Analyzed (s.put (.tier id) record) := by
  intro tierId hs
  rw [get_put_ne (by simp)] at hs
  by_cases he : tierId = id
  · rw [he, get_put_self]
    rfl
  · rw [get_put_ne (by simpa using he)]
    exact h tierId hs

theorem Analyzed.put_analytics {analytics : TierAnalytics} (h : Analyzed s)
    (ht : (s.get (.tier tierId)).isSome) : Analyzed (s.put (.tierAnalytics tierId) analytics) := by
  intro tierId' hs
  rw [get_put_ne (by simp)]
  by_cases he : tierId' = tierId
  · rwa [he]
  · rw [get_put_ne (by simpa using he)] at hs
    exact h tierId' hs

theorem Analyzed.modifyAnalytics {f : TierAnalytics → TierAnalytics} (h : Analyzed s) :
    Analyzed (s.modifyAnalytics tierId f) := by
  unfold State.modifyAnalytics
  cases hs : s.get (.tierAnalytics tierId) with
  | none => exact h
  | some analytics =>
    refine h.put_analytics (h tierId ?_)
    rw [hs]
    rfl

end

/-! ## Steps -/

section
variable {w w' : World} {i : Input me} {id tierId : String} {subscription : Subscription}
  {request : TierChangeRequest}

theorem totalsFrom_quiet (hb : i.call.bills = none) (hm : i.call.moves = none) :
    totalsFrom tierId ⟨w, i, w'⟩ = 0 := by
  have hbilled : billed ⟨w, i, w'⟩ = none := by
    rw [billed, hb, Option.bind_none, ite_self]
  have hmoved : moved ⟨w, i, w'⟩ = none := by
    rw [moved, hm, Option.bind_none, ite_self]
  rw [totalsFrom, revenueFrom, upgradesTo, downgradesFrom, hbilled, hmoved]
  rfl

theorem totalsFrom_billed (subscription : Subscription) (hok : i.ok w = true)
    (hb : i.call.bills = some id) (hm : i.call.moves = none) (hs : w'.state.get (.subscription id) = some subscription) :
    totalsFrom tierId ⟨w, i, w'⟩ =
      if subscription.tierId = tierId then (subscription.amount, 0, 0) else 0 := by
  have hbilled : billed ⟨w, i, w'⟩ = some subscription := by
    rw [billed, if_pos hok, hb, Option.bind_some, hs]
  have hmoved : moved ⟨w, i, w'⟩ = none := by
    rw [moved, hm, Option.bind_none, ite_self]
  rw [totalsFrom, revenueFrom, upgradesTo, downgradesFrom, hbilled, hmoved, Option.elim_some]
  split_ifs <;> rfl

theorem totalsFrom_moved {changeRequestId : String} (hok : i.ok w = true)
    (hb : i.call.bills = none) (hm : i.call.moves = some (changeRequestId, id))
    (hs : w.state.get (.subscription id) = some subscription)
    (hr : w.state.get (.tierChangeRequest changeRequestId) = some request) :
    totalsFrom tierId ⟨w, i, w'⟩ =
      (0, (decide (request.toTier = tierId ∧ request.changeType = .upgrade)).toNat,
        (decide (subscription.tierId = tierId ∧ request.changeType = .downgrade)).toNat) := by
  have hbilled : billed ⟨w, i, w'⟩ = none := by
    rw [billed, hb, Option.bind_none, ite_self]
  have hmoved : moved ⟨w, i, w'⟩ = some (subscription, request) := by
    rw [moved, if_pos hok, hm, Option.bind_some, hs, Option.bind_some, hr, Option.map_some]
  rw [totalsFrom, revenueFrom, upgradesTo, downgradesFrom, hbilled, hmoved]
  rfl

/-- The analytics of a tier that has none start with the tier. -/
theorem Step.analyzed (h : Step w i w') (ht : TiersCounted w.state) (ha : Analyzed w.state) :
    Analyzed w'.state := by
  by_cases hok : i.ok w = true
  swap
  · rwa [h.state_eq_of_not_ok hok]
  cases hc : i.call with
  | createTier =>
    obtain ⟨-, tier, tierList, analytics, -, hp⟩ :=
      createTier_writes ((h.ok_iff_returns (by rw [hc]; rfl)).1 hok)
    rw [hp]
    exact ((ha.put_tier _ _).of_frame (fun _ => get_put_ne (by simp)) fun _ =>
      get_put_ne (by simp)).put_analytics (by
        rw [get_put_ne (by simp), get_put_self]
        rfl)
  | updateTier =>
    obtain ⟨tier, tier', -, hp⟩ := updateTier_writes ((h.ok_iff_returns (by rw [hc]; rfl)).1 hok)
    rw [hp]
    exact ha.put_tier _ _
  | deactivateTier =>
    obtain ⟨tier, tier', -, hp⟩ :=
      deactivateTier_writes ((h.ok_iff_returns (by rw [hc]; rfl)).1 hok)
    rw [hp]
    exact ha.put_tier _ _
  | createStakingTier =>
    obtain ⟨-, tierList, hp⟩ :=
      createStakingTier_writes ((h.ok_iff_returns (by rw [hc]; rfl)).1 hok)
    rw [hp]
    exact (ha.put_tier _ _).of_frame (fun _ => get_put_ne (by simp)) fun _ => get_put_ne (by simp)
  | createSubscription =>
    obtain ⟨_, -, hp⟩ := createSubscription_returns.1 ((h.ok_iff_returns (by rw [hc]; rfl)).1 hok)
    rw [hp]
    exact (ha.put_subscription _ _).logged
  | createSubscriptionWithTier id user paymentToken tierId =>
    obtain ⟨s₁, tier, price, _, hcr, hp⟩ :=
      createSubscriptionWithTier_returns.1 ((h.ok_iff_returns (by rw [hc]; rfl)).1 hok)
    have hoff : SameOff [Kind.tierPromotion] w.state s₁ := Only.returns hcr.priced
    rw [hp]
    refine Analyzed.logged (Analyzed.put_analytics (ha.of_frame (fun _ => ?_) fun _ => ?_) ?_)
    · rw [get_put_ne (by simp)]
      exact hoff _ (by simp)
    · rw [get_put_ne (by simp)]
      exact hoff _ (by simp)
    · have htier : s₁.get (.tier tierId) = w.state.get (.tier tierId) := hoff _ (by simp)
      rw [get_put_ne (by simp), htier, hcr.onSale.1]
      rfl
  | renewSubscription =>
    obtain ⟨subscription, _, hren, hp⟩ :=
      renewSubscription_returns.1 ((h.ok_iff_returns (by rw [hc]; rfl)).1 hok)
    rw [hp, State.renewed]
    split_ifs with hne
    · exact (ha.put_subscription _ _).logged
    · refine ((ha.put_subscription _ _).put_analytics ?_).logged
      rw [get_put_ne (by simp)]
      have hcount := ht.subscriptions _ _ hren.stored hne
      rw [State.countOf, Option.isSome_map] at hcount
      exact ha _ hcount
  | processTierChange =>
    obtain ⟨_, _, tier, hpr, hp⟩ :=
      processTierChange_returns.1 ((h.ok_iff_returns (by rw [hc]; rfl)).1 hok)
    rw [hp]
    refine (Analyzed.modifyAnalytics (ha.of_frame (fun _ => ?_) fun _ => ?_)).modifyAnalytics
    · rw [get_put_ne (by simp), get_put_ne (by simp)]
    · rw [get_put_ne (by simp), get_put_ne (by simp)]
  | _ =>
    exact ha.of_frame (fun _ => h.frame (by rw [hc]; simp)) fun _ => h.frame (by rw [hc]; simp)

/-- The step lemma: what a call adds to the totals of a tier. -/
theorem Step.tierTotals (h : Step w i w') (ht : TiersCounted w.state) (ha : Analyzed w.state)
    (hne : tierId ≠ "") :
    w'.state.tierTotals tierId = w.state.tierTotals tierId + totalsFrom tierId ⟨w, i, w'⟩ := by
  by_cases hok : i.ok w = true
  swap
  · have hz : totalsFrom tierId ⟨w, i, w'⟩ = 0 := by
      rw [totalsFrom, revenueFrom, upgradesTo, downgradesFrom, billed, moved, if_neg hok, if_neg hok]
      rfl
    rw [h.state_eq_of_not_ok hok, hz, add_zero]
  cases hc : i.call with
  | createTier =>
    have hr := (h.ok_iff_returns (by rw [hc]; rfl)).1 hok
    rw [totalsFrom_quiet (by rw [hc]; rfl) (by rw [hc]; rfl), add_zero,
      createTier_tierTotals hr]
    split_ifs with he
    · -- the tier has not been stored, so nothing has been counted
      obtain ⟨hnone, -⟩ := createTier_writes hr
      rw [State.tierTotals]
      cases hs : w.state.get (.tierAnalytics tierId) with
      | none => rfl
      | some analytics =>
        have hstored := ha tierId (by rw [hs]; rfl)
        rw [← he, hnone] at hstored
        cases hstored
    · rfl
  | createSubscriptionWithTier id =>
    obtain ⟨s₁, tier, price, _, hcr, hp⟩ :=
      createSubscriptionWithTier_returns.1 ((h.ok_iff_returns (by rw [hc]; rfl)).1 hok)
    have hoff : SameOff [Kind.tierPromotion] w.state s₁ := Only.returns hcr.priced
    rw [totalsFrom_billed (newSubscription _ _ _ _ _ _ _ _) hok (by rw [hc]; rfl)
      (by rw [hc]; rfl) (by
        rw [hp, logged_get (by simp) (by simp), State.subscribed, get_put_ne (by simp),
          get_put_self]), hp, tierTotals_logged, tierTotals_subscribed, tierTotals_put_ne (by simp),
      tierTotals_congr (hoff _ (by simp))]
    rfl
  | renewSubscription id paymentToken amount duration =>
    obtain ⟨subscription, expiresAt, hren, hp⟩ :=
      renewSubscription_returns.1 ((h.ok_iff_returns (by rw [hc]; rfl)).1 hok)
    have hget : w'.state.get (.subscription id) =
        some { subscription with expiresAt, status := .active, amount } := by
      rw [hp, logged_get (by simp) (by simp), renewed_get (by simp), get_put_self]
    rw [totalsFrom_billed _ hok (by rw [hc]; rfl) (by rw [hc]; rfl) hget, hp, tierTotals_logged,
      tierTotals_renewed hne, tierTotals_put_ne (by simp)]
  | processTierChange =>
    obtain ⟨_, _, tier, hpr, hp⟩ :=
      processTierChange_returns.1 ((h.ok_iff_returns (by rw [hc]; rfl)).1 hok)
    rw [totalsFrom_moved hok (by rw [hc]; rfl) (by rw [hc]; rfl) hpr.stored hpr.request, hp,
      tierTotals_changedTier, tierTotals_put_ne (by simp), tierTotals_put_ne (by simp)]
    · rintro rfl
      rw [get_put_ne (by simp), get_put_ne (by simp)]
      have hcount := ht.subscriptions _ _ hpr.stored hne
      rwa [State.countOf, Option.isSome_map] at hcount
    · rintro rfl
      rw [get_put_ne (by simp), get_put_ne (by simp)]
      have hcount := ht.tiers _ tier hpr.joins
      rwa [State.countOf, Option.isSome_map] at hcount
  | createSubscription =>
    obtain ⟨_, -, hp⟩ := createSubscription_returns.1 ((h.ok_iff_returns (by rw [hc]; rfl)).1 hok)
    rw [hp, totalsFrom_quiet (by rw [hc]; rfl) (by rw [hc]; rfl), tierTotals_logged,
      tierTotals_put_ne (by simp), add_zero]
  | _ =>
    rw [tierTotals_congr (h.frame (by rw [hc]; simp)),
      totalsFrom_quiet (by rw [hc]; rfl) (by rw [hc]; rfl), add_zero]

/-- Who is charged has authorised it, and the amount is positive. -/
theorem Step.billed_authorised (h : Step w i w') (hb : billed ⟨w, i, w'⟩ = some subscription) :
    0 < subscription.amount ∧ subscription.user ∈ i.env.auths := by
  unfold billed at hb
  dsimp only at hb
  split_ifs at hb with hok
  cases hc : i.call with
  | createSubscriptionWithTier id user paymentToken tierId =>
    obtain ⟨s₁, tier, price, expiresAt, hcr, hp⟩ :=
      createSubscriptionWithTier_returns.1 ((h.ok_iff_returns (by rw [hc]; rfl)).1 hok)
    rw [hc, Call.bills, Option.bind_some, hp, logged_get (by simp) (by simp), State.subscribed,
      get_put_ne (by simp), get_put_self] at hb
    cases hb
    exact ⟨hcr.payment.1, hcr.authorised⟩
  | renewSubscription id paymentToken amount duration =>
    obtain ⟨subscription, expiresAt, hren, hp⟩ :=
      renewSubscription_returns.1 ((h.ok_iff_returns (by rw [hc]; rfl)).1 hok)
    rw [hc, Call.bills, Option.bind_some, hp, logged_get (by simp) (by simp),
      renewed_get (by simp), get_put_self] at hb
    cases hb
    exact ⟨hren.payment.1, hren.authorised⟩
  | _ =>
    rw [hc] at hb
    cases hb

end

/-! ## Runs -/

section
variable {w₀ w : World} {tr : List (Ev me)} {tierId : String}

theorem totals_of_run (h : Run Step w₀ tr w) (h₀ : w₀.state = ∅) (hne : tierId ≠ "") :
    (TiersCounted w.state ∧ Analyzed w.state) ∧
      w.state.tierTotals tierId = (tr.map (totalsFrom tierId)).sum := by
  refine h.history (P := fun tr w => (TiersCounted w.state ∧ Analyzed w.state) ∧
    w.state.tierTotals tierId = (tr.map (totalsFrom tierId)).sum) ?_
    ⟨⟨@tiersCounted_of_run me _ _ _ .nil h₀, fun tierId hs => ?_⟩, ?_⟩
  · rintro tr w i w' ⟨⟨ht, ha⟩, hsum⟩ hs
    refine ⟨⟨hs.tiersCounted ht, hs.analyzed ht ha⟩, ?_⟩
    rw [hs.tierTotals ht ha hne, hsum, List.map_append, List.sum_append, List.map_singleton,
      List.sum_singleton]
  · rw [h₀] at hs
    cases hs
  · rw [h₀]
    rfl

theorem sum_totalsFrom : (tr.map (totalsFrom tierId)).sum = ((tr.map (revenueFrom tierId)).sum,
    tr.countP (upgradesTo tierId), tr.countP (downgradesFrom tierId)) := by
  induction tr with
  | nil => rfl
  | cons ev tr ih =>
    rw [List.map_cons, List.sum_cons, ih, List.map_cons, List.sum_cons, List.countP_cons,
      List.countP_cons, totalsFrom]
    refine Prod.ext rfl (Prod.ext ?_ ?_)
    · cases upgradesTo tierId ev <;> simp [Nat.add_comm]
    · cases downgradesFrom tierId ev <;> simp [Nat.add_comm]

/-- **The revenue of a tier is what its subscriptions have been charged, by calls that their users
    authorised; its upgrades and downgrades are the changes to it and from it.** -/
theorem tier_accounts (h : Run Step w₀ tr w) (h₀ : w₀.state = ∅) (hne : tierId ≠ "") :
    w.state.tierTotals tierId = ((tr.map (revenueFrom tierId)).sum,
      tr.countP (upgradesTo tierId), tr.countP (downgradesFrom tierId)) ∧
    ∀ ev ∈ tr, ∀ subscription, billed ev = some subscription →
      0 < subscription.amount ∧ subscription.user ∈ ev.inp.env.auths :=
  ⟨(totals_of_run h h₀ hne).2.trans sum_totalsFrom, fun _ hev _ hb =>
    (h.step_of_mem hev).billed_authorised hb⟩

end

/-- Two subscribe to the basic tier; one of them renews, and changes to the better one. -/
def changeCalls : List (Input ⟨0⟩) :=
  requestCalls ++ [hubCall 7 (.renewSubscription "a" ⟨9⟩ 150 100),
    hubCall 8 (.processTierChange ⟨2⟩ "CHG_00000006" "a" ⟨9⟩)]

theorem tier_accounts_changed :
    (changeCalls.foldl next start).state.tierTotals "basic" = (350, 0, 0) ∧
      (changeCalls.foldl next start).state.tierTotals "pro" = (0, 1, 0) := by
  have h : Run Step start _ _ := run_calls changeCalls (by decide)
  rw [(tier_accounts h rfl (by decide)).1, (tier_accounts h rfl (by decide)).1]
  exact ⟨by decide, by decide⟩

end ManageHub
