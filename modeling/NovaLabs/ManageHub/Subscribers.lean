/-
  The counts of active subscribers in the analytics of tiers, over whole runs.

  They are counted up where a subscription of a tier is created, and moved where its tier is changed.
  A cancellation does not lower them, and a renewal raises them whether or not the subscription has
  been cancelled.
-/
import NovaLabs.ManageHub.TierRequests

namespace ManageHub

open Lib Soroban

variable {me : Address}

/-! ## Counts -/

/-- 1 for a subscription of the tier that is not cancelled. -/
def Subscription.counts (subscription : Subscription) (tierId : String) : ℕ :=
  if subscription.tierId = tierId ∧ subscription.status ≠ .inactive then 1 else 0

/-- What an entry counts for a tier. -/
def subscribes (tierId : String) : ∀ k, Val k → ℕ
  | .subscription _, subscription => Subscription.counts subscription tierId
  | _, _ => 0

/-- The stored subscriptions of a tier that are not cancelled. -/
def State.subscribers (s : State) (tierId : String) : ℕ := Storage.total s (subscribes tierId)

/-- The count in the analytics of a tier. -/
def State.countOf (s : State) (tierId : String) : Option ℕ :=
  (s.get (.tierAnalytics tierId)).map TierAnalytics.activeSubscribers

/-- All analytics count the active subscribers of their tier. -/
def Counted (s : State) : Prop := ∀ tierId n, s.countOf tierId = some n → n = s.subscribers tierId

section
variable {s s' : State} {id tierId tierId' fromTier toTier : String} {amount : ℤ} {now : ℕ}
  {subscription subscription' : Subscription} {k : DataKey} {v : Val k} {log : AttendanceLog}

theorem subscribers_congr (h : ∀ id, s'.get (.subscription id) = s.get (.subscription id)) :
    s'.subscribers tierId = s.subscribers tierId := by
  refine Storage.total_congr fun k => ?_
  change (s'.get k).elim 0 _ = (s.get k).elim 0 _
  cases k with
  | subscription id => rw [h]
  | _ =>
    unfold subscribes
    cases s'.get _ <;> cases s.get _ <;> rfl

theorem subscribers_put_new (h : s.get (.subscription id) = none) :
    (s.put (.subscription id) subscription').subscribers tierId =
      s.subscribers tierId + subscription'.counts tierId := by
  have ht := Storage.total_insert s (.subscription id) subscription' (subscribes tierId)
  rwa [show Finmap.lookup (DataKey.subscription id) s = none from h, Option.elim_none, add_zero] at ht

theorem subscribers_put_old (subscription' : Subscription) (tierId : String)
    (h : s.get (.subscription id) = some subscription) :
    (s.put (.subscription id) subscription').subscribers tierId + subscription.counts tierId =
      s.subscribers tierId + subscription'.counts tierId := by
  have ht := Storage.total_insert s (.subscription id) subscription' (subscribes tierId)
  rwa [show Finmap.lookup (DataKey.subscription id) s = some subscription from h,
    Option.elim_some] at ht

theorem subscribers_put_ne (h : k.kind ≠ .subscription) :
    (s.put k v).subscribers tierId = s.subscribers tierId :=
  subscribers_congr fun _ => get_put_ne fun he => h (he ▸ rfl)

theorem countOf_put_ne (h : k.kind ≠ .tierAnalytics) :
    (s.put k v).countOf tierId = s.countOf tierId := by
  have hne : DataKey.tierAnalytics tierId ≠ k := fun he => h (he ▸ rfl)
  rw [State.countOf, get_put_ne hne, State.countOf]

@[simp] theorem subscribers_logged : (s.logged log).subscribers tierId = s.subscribers tierId :=
  subscribers_congr fun _ => logged_get (by simp) (by simp)

@[simp] theorem countOf_logged : (s.logged log).countOf tierId = s.countOf tierId := by
  rw [State.countOf, logged_get (by simp) (by simp), State.countOf]

@[simp] theorem subscribers_subscribed :
    (s.subscribed tierId amount now).subscribers tierId' = s.subscribers tierId' :=
  subscribers_put_ne (by simp)

theorem countOf_subscribed :
    (s.subscribed tierId amount now).countOf tierId' =
      if tierId' = tierId then some ((s.countOf tierId).getD 0 + 1) else s.countOf tierId' := by
  unfold State.subscribed State.countOf State.analyticsOf
  split_ifs with he
  · subst he
    rw [get_put_self, Option.map_some]
    cases s.get (.tierAnalytics tierId') with
    | none => rfl
    | some analytics => rfl
  · rw [get_put_ne (by simpa using he)]

@[simp] theorem subscribers_renewed :
    (s.renewed tierId amount now).subscribers tierId' = s.subscribers tierId' := by
  unfold State.renewed
  split_ifs
  · rfl
  · exact subscribers_subscribed

theorem countOf_renewed :
    (s.renewed tierId amount now).countOf tierId' =
      if tierId ≠ "" ∧ tierId' = tierId then some ((s.countOf tierId).getD 0 + 1)
      else s.countOf tierId' := by
  unfold State.renewed
  by_cases he : tierId = ""
  · rw [if_pos he, if_neg fun h => h.1 he]
  · rw [if_neg he, countOf_subscribed]
    simp [he]

@[simp] theorem subscribers_changedTier {changeType : TierChangeType} :
    (s.changedTier fromTier toTier changeType now).subscribers tierId = s.subscribers tierId :=
  subscribers_congr fun _ => changedTier_get (by simp)

theorem countOf_modifyAnalytics {f : TierAnalytics → TierAnalytics} {g : ℕ → ℕ}
    (h : ∀ analytics, (f analytics).activeSubscribers = g analytics.activeSubscribers) :
    (s.modifyAnalytics tierId f).countOf tierId' =
      if tierId' = tierId then (s.countOf tierId').map g else s.countOf tierId' := by
  unfold State.countOf
  rw [modifyAnalytics_get_analytics]
  split_ifs with he
  · rw [he, Option.map_map, Option.map_map]
    exact congrArg (Option.map · _) (funext h)
  · rfl

/-- A change takes one off the count of the one tier, and then adds one to that of the other. -/
theorem countOf_changedTier {changeType : TierChangeType} :
    (s.changedTier fromTier toTier changeType now).countOf tierId =
      (if tierId = fromTier then (s.countOf tierId).map (· - 1) else s.countOf tierId).map
        fun n => if tierId = toTier then n + 1 else n := by
  rw [State.changedTier, countOf_modifyAnalytics (g := (· + 1)) fun _ => rfl,
    countOf_modifyAnalytics (g := (· - 1)) fun _ => rfl]
  split_ifs <;> simp [Function.comp_def]

/-- Where the count and the subscribers of one tier only are changed, these decide. -/
theorem counted_iff_at (h : Counted s) (tierId : String)
    (hc : ∀ t ≠ tierId, s'.countOf t = s.countOf t)
    (hs : ∀ t ≠ tierId, s'.subscribers t = s.subscribers t) :
    Counted s' ↔ ∀ n, s'.countOf tierId = some n → n = s'.subscribers tierId := by
  refine ⟨fun h' => h' tierId, fun h' t n hn => ?_⟩
  by_cases he : t = tierId
  · subst he
    exact h' n hn
  · rw [hs t he]
    exact h t n (hc t he ▸ hn)

theorem countOf_eq_none_iff (h : Counted s) {m : ℕ} (hm : m ≠ s.subscribers tierId) :
    (∀ n, s.countOf tierId = some n → n = m) ↔ s.countOf tierId = none := by
  constructor
  · intro hn
    refine Option.eq_none_iff_forall_not_mem.2 fun n hs => hm ?_
    rw [← hn n hs, h tierId n hs]
  · intro hs n hn
    rw [hs] at hn
    cases hn

theorem counted_congr (hc : ∀ t, s'.countOf t = s.countOf t)
    (hs : ∀ t, s'.subscribers t = s.subscribers t) : Counted s' ↔ Counted s := by
  simp only [Counted, hc, hs]

end

/-! ## The law -/

/-- The tiers of subscriptions, and those on sale, have analytics. -/
structure TiersCounted (s : State) : Prop where
  subscriptions : ∀ id subscription, s.get (.subscription id) = some subscription →
    subscription.tierId ≠ "" → (s.countOf subscription.tierId).isSome
  tiers : ∀ id tier, s.get (.tier id) = some (.subscription tier) → (s.countOf id).isSome

/-- The calls that keep the counts of the storage `s`: no call counts a subscription without a tier,
    a cancellation does not lower a count, a renewal of a subscription with a tier raises it, and a
    change moves one to another tier. -/
def Call.KeepsCounts (s : State) : Call → Prop
  | .createTier _ params => s.subscribers params.id = 0
  | .createSubscription .. => s.countOf "" = none
  | .cancelSubscription id => ∀ subscription, s.get (.subscription id) = some subscription →
    subscription.status = .inactive ∨ s.countOf subscription.tierId = none
  | .renewSubscription id .. => ∀ subscription, s.get (.subscription id) = some subscription →
    (subscription.status = .inactive ↔ subscription.tierId ≠ "") ∨
      subscription.tierId = "" ∧ s.countOf "" = none
  | .processTierChange _ requestId id _ => ∀ request subscription,
    s.get (.tierChangeRequest requestId) = some request →
    s.get (.subscription id) = some subscription →
    subscription.status ≠ .inactive ∨
      subscription.tierId = request.toTier ∧ s.countOf subscription.tierId ≠ some 0
  | _ => True

/-- A call that goes through keeps the counts. -/
def KeepsCounts (ev : Ev me) : Prop := ev.inp.ok ev.pre = true → ev.inp.call.KeepsCounts ev.pre.state

/-! ## Calls -/

section
variable {env : HubEnv me} {s s' : State} {u : Unit} {id tierId : String} {user paymentToken : Address}
  {amount : ℤ} {duration : ℕ} {subscription : Subscription} {isAdmin : Bool}

theorem createTier_counted {params : CreateTierParams} (hc : Counted s)
    (h : Returns (createTier env user params) s u s') :
    Counted s' ↔ s.subscribers params.id = 0 := by
  obtain ⟨-, tier, tierList, analytics, h₀, rfl⟩ := createTier_writes h
  have hsub (t : String) : (((s.put (.tier params.id) (.subscription tier)).put .tierList
      tierList).put (.tierAnalytics params.id) analytics).subscribers t = s.subscribers t := by
    rw [subscribers_put_ne (by simp), subscribers_put_ne (by simp), subscribers_put_ne (by simp)]
  have hcount (t : String) (ht : t ≠ params.id) :
      (((s.put (.tier params.id) (.subscription tier)).put .tierList tierList).put
        (.tierAnalytics params.id) analytics).countOf t = s.countOf t := by
    rw [State.countOf, get_put_ne (by simpa using ht), get_put_ne (by simp), get_put_ne (by simp),
      State.countOf]
  rw [counted_iff_at hc params.id hcount fun t _ => hsub t, hsub, State.countOf, get_put_self,
    Option.map_some, h₀]
  constructor
  · intro hn
    exact (hn 0 rfl).symm
  · rintro hs n ⟨⟩
    exact hs.symm

theorem createSubscription_counted (hc : Counted s)
    (h : Returns (createSubscription env id user paymentToken amount duration) s u s') :
    Counted s' ↔ s.countOf "" = none := by
  obtain ⟨expiresAt, hcr, hp⟩ := createSubscription_returns.1 h
  have hcount (t : String) : s'.countOf t = s.countOf t := by
    rw [hp, countOf_logged, countOf_put_ne (by simp)]
  have hsub (t : String) : s'.subscribers t = s.subscribers t + if "" = t then 1 else 0 := by
    rw [hp, subscribers_logged, subscribers_put_new hcr.fresh]
    simp [Subscription.counts, newSubscription]
  rw [counted_iff_at hc "" (fun t _ => hcount t) fun t ht => by rw [hsub, if_neg (Ne.symm ht),
    add_zero], hcount, hsub, if_pos rfl, countOf_eq_none_iff hc (by omega)]

theorem createSubscriptionWithTier_counted {cycle : BillingCycle} {promoCode : Option String}
    (hc : Counted s) (ht : TiersCounted s)
    (h : Returns (createSubscriptionWithTier env id user paymentToken tierId cycle promoCode)
      s u s') : Counted s' := by
  obtain ⟨s₁, tier, price, expiresAt, hcr, hp⟩ := createSubscriptionWithTier_returns.1 h
  have hoff : SameOff [Kind.tierPromotion] s s₁ := Only.returns hcr.priced
  have hget (id : String) : s₁.get (.subscription id) = s.get (.subscription id) := hoff _ (by simp)
  have hcount₁ (t : String) : s₁.countOf t = s.countOf t := by
    rw [State.countOf, State.get, hoff _ (by simp), State.countOf, State.get]
  have hcount (t : String) : s'.countOf t =
      if t = tierId then some ((s.countOf tierId).getD 0 + 1) else s.countOf t := by
    rw [hp, countOf_logged, countOf_subscribed, countOf_put_ne (by simp), countOf_put_ne (by simp),
      hcount₁, hcount₁]
  have hsub (t : String) : s'.subscribers t = s.subscribers t + if tierId = t then 1 else 0 := by
    rw [hp, subscribers_logged, subscribers_subscribed,
      subscribers_put_new ((hget id).trans hcr.fresh), subscribers_congr hget]
    simp [Subscription.counts, newSubscription]
  obtain ⟨n, hn⟩ := Option.isSome_iff_exists.1 (ht.tiers tierId tier hcr.onSale.1)
  rw [counted_iff_at hc tierId (fun t hne => by rw [hcount, if_neg hne]) fun t hne => by
    rw [hsub, if_neg (Ne.symm hne), add_zero], hcount, if_pos rfl, hsub, if_pos rfl, hn,
    hc tierId n hn]
  rintro _ ⟨⟩
  rfl

theorem cancelSubscription_counted (hc : Counted s)
    (h : Returns (cancelSubscription env id) s u s')
    (hs : s.get (.subscription id) = some subscription) :
    Counted s' ↔ subscription.status = .inactive ∨ s.countOf subscription.tierId = none := by
  obtain ⟨_, ⟨hs', -⟩, hp⟩ := cancelSubscription_returns.1 h
  obtain rfl := Option.some.inj (hs.symm.trans hs')
  have hcount (t : String) : s'.countOf t = s.countOf t := by rw [hp, countOf_put_ne (by simp)]
  have hsub (t : String) : s'.subscribers t + subscription.counts t = s.subscribers t := by
    rw [hp, subscribers_put_old _ _ hs]
    simp [Subscription.counts]
  rw [counted_iff_at hc subscription.tierId (fun t _ => hcount t) fun t hne => by
    rw [← hsub, Subscription.counts, if_neg fun h => hne h.1.symm, add_zero], hcount]
  have h₁ := hsub subscription.tierId
  by_cases hi : subscription.status = .inactive
  · rw [Subscription.counts, if_neg fun h => h.2 hi, add_zero] at h₁
    rw [h₁]
    exact iff_of_true (hc _) (Or.inl hi)
  · rw [Subscription.counts, if_pos ⟨rfl, hi⟩] at h₁
    rw [countOf_eq_none_iff hc (by omega), or_iff_right hi]

theorem renewSubscription_counted (hc : Counted s) (ht : TiersCounted s)
    (h : Returns (renewSubscription env id paymentToken amount duration) s u s')
    (hs : s.get (.subscription id) = some subscription) :
    Counted s' ↔ (subscription.status = .inactive ↔ subscription.tierId ≠ "") ∨
      subscription.tierId = "" ∧ s.countOf "" = none := by
  obtain ⟨_, expiresAt, hren, hp⟩ := renewSubscription_returns.1 h
  obtain rfl := Option.some.inj (hs.symm.trans hren.stored)
  have hsub (t : String) : s'.subscribers t + subscription.counts t =
      s.subscribers t + if subscription.tierId = t then 1 else 0 := by
    rw [hp, subscribers_logged, subscribers_renewed, subscribers_put_old _ _ hs]
    simp [Subscription.counts]
  have hother (t : String) (hne : t ≠ subscription.tierId) :
      s'.subscribers t = s.subscribers t := by
    have h₁ := hsub t
    rwa [Subscription.counts, if_neg fun h => hne h.1.symm, if_neg hne.symm] at h₁
  have hown := hsub subscription.tierId
  rw [if_pos rfl] at hown
  have hcount (t : String) : s'.countOf t =
      if subscription.tierId ≠ "" ∧ t = subscription.tierId then
        some ((s.countOf subscription.tierId).getD 0 + 1)
      else s.countOf t := by
    rw [hp, countOf_logged, countOf_renewed, countOf_put_ne (by simp), countOf_put_ne (by simp)]
  rw [counted_iff_at hc subscription.tierId (fun t hne => by rw [hcount, if_neg fun h => hne h.2])
    hother, hcount]
  by_cases hi : subscription.status = .inactive
  · rw [Subscription.counts, if_neg fun h => h.2 hi, add_zero] at hown
    by_cases he : subscription.tierId = ""
    · rw [if_neg fun h => h.1 he, hown, countOf_eq_none_iff hc (by omega)]
      simp [hi, he]
    · obtain ⟨n, hn⟩ := Option.isSome_iff_exists.1 (ht.subscriptions id subscription hs he)
      rw [if_pos ⟨he, rfl⟩, hown, hn, hc _ n hn]
      simp [hi, he]
  · rw [Subscription.counts, if_pos ⟨rfl, hi⟩] at hown
    have hsame : s'.subscribers subscription.tierId = s.subscribers subscription.tierId := by omega
    by_cases he : subscription.tierId = ""
    · rw [if_neg fun h => h.1 he, hsame]
      exact iff_of_true (hc _) (Or.inl (iff_of_false hi fun h => h he))
    · obtain ⟨n, hn⟩ := Option.isSome_iff_exists.1 (ht.subscriptions id subscription hs he)
      rw [if_pos ⟨he, rfl⟩, hsame, hn, hc _ n hn]
      simp [hi, he]

/-- A subscription that is paused or resumed stays one of its tier. -/
theorem counted_put_logged {subscription' : Subscription} {log : AttendanceLog} (hc : Counted s)
    (hs : s.get (.subscription id) = some subscription)
    (ht : subscription'.tierId = subscription.tierId)
    (h : subscription.status ≠ .inactive) (h' : subscription'.status ≠ .inactive) :
    Counted ((s.put (.subscription id) subscription').logged log) := by
  have heq (t : String) : subscription'.counts t = subscription.counts t := by
    simp [Subscription.counts, ht, h, h']
  refine (counted_congr (fun t => ?_) fun t => ?_).2 hc
  · rw [countOf_logged, countOf_put_ne (by simp)]
  · rw [subscribers_logged]
    have hput := subscribers_put_old subscription' t hs
    rw [heq] at hput
    exact Nat.add_right_cancel hput

theorem processTierChange_counted {request : TierChangeRequest} {requestId : String}
    (hc : Counted s) (ht : TiersCounted s)
    (h : Returns (processTierChange env user requestId id paymentToken) s u s')
    (hr : s.get (.tierChangeRequest requestId) = some request)
    (hs : s.get (.subscription id) = some subscription) :
    Counted s' ↔ subscription.status ≠ .inactive ∨
      subscription.tierId = request.toTier ∧ s.countOf subscription.tierId ≠ some 0 := by
  obtain ⟨_, _, tier, hpr, hp⟩ := processTierChange_returns.1 h
  obtain rfl := Option.some.inj (hr.symm.trans hpr.request)
  obtain rfl := Option.some.inj (hs.symm.trans hpr.stored)
  have hsub (t : String) : s'.subscribers t + subscription.counts t = s.subscribers t +
      if request.toTier = t ∧ subscription.status ≠ .inactive then 1 else 0 := by
    rw [hp, subscribers_changedTier, subscribers_put_ne (by simp), subscribers_put_old _ _ hs]
    rfl
  have hcount (t : String) : s'.countOf t =
      (if t = subscription.tierId then (s.countOf t).map (· - 1) else s.countOf t).map
        fun n => if t = request.toTier then n + 1 else n := by
    rw [hp, countOf_changedTier, countOf_put_ne (by simp), countOf_put_ne (by simp)]
  obtain ⟨n, hn⟩ := Option.isSome_iff_exists.1 (ht.tiers request.toTier tier hpr.joins)
  by_cases hi : subscription.status = .inactive
  · have hsame (t : String) : s'.subscribers t = s.subscribers t := by
      have h₁ := hsub t
      rwa [Subscription.counts, if_neg fun h => h.2 hi, if_neg fun h => h.2 hi] at h₁
    by_cases he : subscription.tierId = request.toTier
    · rw [counted_iff_at hc request.toTier (fun t hne => ?_) fun t _ => hsame t, hcount, he,
        if_pos rfl, hsame, hn, hc _ n hn]
      · simp [hi]
        omega
      · rw [hcount, he, if_neg hne]
        simp [hne]
    · refine iff_of_false (fun hc' => ?_) fun hor => hor.elim (fun h => h hi) fun h => he h.1
      have h₁ := hc' request.toTier (n + 1) (by
        rw [hcount, if_neg (Ne.symm he), hn, Option.map_some, if_pos rfl])
      rw [hsame, ← hc _ n hn] at h₁
      omega
  · refine iff_of_true (fun t m hm => ?_) (Or.inl hi)
    -- the subscription itself is counted at its tier
    have hpos : subscription.counts t ≤ s.subscribers t := by
      have hput := subscribers_put_old { subscription with status := .inactive } t hs
      have hnone : ({ subscription with status := .inactive } : Subscription).counts t = 0 :=
        if_neg fun h => h.2 rfl
      omega
    have h₁ := hsub t
    simp only [Subscription.counts, ne_eq, hi, not_false_eq_true, and_true,
      eq_comm (b := t)] at h₁ hpos
    rw [hcount] at hm
    cases hct : s.countOf t with
    | none =>
      rw [hct] at hm
      simp at hm
    | some m₀ =>
      have h₀ := hc t m₀ hct
      rw [hct] at hm
      by_cases ha : t = subscription.tierId
      · rw [if_pos ha, Option.map_some, Option.map_some, Option.some.injEq] at hm
        rw [if_pos ha] at h₁ hpos
        split_ifs at hm h₁ <;> omega
      · rw [if_neg ha, Option.map_some, Option.some.injEq] at hm
        rw [if_neg ha] at h₁
        split_ifs at hm h₁ <;> omega

end

/-! ## Steps -/

section
variable {s s' : State} {id tierId : String} {subscription : Subscription} {w w' : World}
  {i : Input me}

/-- No analytics are removed. -/
def CountsStay (s s' : State) : Prop := ∀ tierId, (s.countOf tierId).isSome → (s'.countOf tierId).isSome

theorem countsStay_of_eq (h : ∀ tierId, s'.countOf tierId = s.countOf tierId) : CountsStay s s' :=
  fun tierId hs => (h tierId).symm ▸ hs

theorem TiersCounted.of_frame (h : TiersCounted s)
    (hs : ∀ id, s'.get (.subscription id) = s.get (.subscription id))
    (ht : ∀ id, s'.get (.tier id) = s.get (.tier id)) (hc : CountsStay s s') : TiersCounted s' where
  subscriptions id subscription hg hne := hc _ (h.subscriptions id subscription (hs id ▸ hg) hne)
  tiers id tier hg := hc _ (h.tiers id tier (ht id ▸ hg))

theorem TiersCounted.put_subscription (h : TiersCounted s)
    (hc : subscription.tierId ≠ "" → (s.countOf subscription.tierId).isSome) :
    TiersCounted (s.put (.subscription id) subscription) where
  subscriptions id' subscription' hg hne := by
    rw [countOf_put_ne (by simp)]
    by_cases he : id' = id
    · subst he
      rw [get_put_self, Option.some.injEq] at hg
      subst hg
      exact hc hne
    · rw [get_put_ne (by simpa using he)] at hg
      exact h.subscriptions id' subscription' hg hne
  tiers id' tier hg := by
    rw [countOf_put_ne (by simp)]
    rw [get_put_ne (by simp)] at hg
    exact h.tiers id' tier hg

/-- A subscription is written again with its tier. -/
theorem TiersCounted.put_again {subscription' : Subscription} (h : TiersCounted s)
    (hs : s.get (.subscription id) = some subscription)
    (ht : subscription'.tierId = subscription.tierId) :
    TiersCounted (s.put (.subscription id) subscription') := by
  refine h.put_subscription fun hne => ?_
  rw [ht] at hne ⊢
  exact h.subscriptions id subscription hs hne

theorem TiersCounted.put_tier (h : TiersCounted s) {record : TierRecord}
    (hc : ∀ tier, record = .subscription tier → (s.countOf id).isSome) :
    TiersCounted (s.put (.tier id) record) where
  subscriptions id' subscription hg hne := by
    rw [countOf_put_ne (by simp)]
    rw [get_put_ne (by simp)] at hg
    exact h.subscriptions id' subscription hg hne
  tiers id' tier hg := by
    rw [countOf_put_ne (by simp)]
    by_cases he : id' = id
    · subst he
      rw [get_put_self, Option.some.injEq] at hg
      exact hc tier hg
    · rw [get_put_ne (by simpa using he)] at hg
      exact h.tiers id' tier hg

theorem TiersCounted.logged {log : AttendanceLog} (h : TiersCounted s) :
    TiersCounted (s.logged log) :=
  h.of_frame (fun _ => logged_get (by simp) (by simp)) (fun _ => logged_get (by simp) (by simp))
    (countsStay_of_eq fun _ => countOf_logged)

theorem TiersCounted.put_analytics {analytics : TierAnalytics} (h : TiersCounted s) :
    TiersCounted (s.put (.tierAnalytics tierId) analytics) := by
  refine h.of_frame (fun _ => get_put_ne (by simp)) (fun _ => get_put_ne (by simp)) fun t ht => ?_
  by_cases he : t = tierId
  · rw [he, State.countOf, get_put_self]
    rfl
  · rwa [State.countOf, get_put_ne (by simpa using he)]

theorem TiersCounted.renewed {amount : ℤ} {now : ℕ} (h : TiersCounted s) :
    TiersCounted (s.renewed tierId amount now) := by
  unfold State.renewed
  split_ifs
  · exact h
  · exact h.put_analytics

theorem TiersCounted.modifyAnalytics {f : TierAnalytics → TierAnalytics} (h : TiersCounted s) :
    TiersCounted (s.modifyAnalytics tierId f) := by
  unfold State.modifyAnalytics
  cases s.get (.tierAnalytics tierId) with
  | none => exact h
  | some analytics => exact h.put_analytics

theorem createTier_tiersCounted {env : HubEnv me} {admin : Address} {params : CreateTierParams}
    {u : Unit} (h : TiersCounted s) (hr : Returns (createTier env admin params) s u s') :
    TiersCounted s' := by
  obtain ⟨-, tier, tierList, analytics, -, rfl⟩ := createTier_writes hr
  have hput : TiersCounted ((s.put (.tierAnalytics params.id) analytics).put (.tier params.id)
      (.subscription tier)) := by
    refine h.put_analytics.put_tier fun _ _ => ?_
    rw [State.countOf, get_put_self]
    rfl
  refine hput.of_frame (fun id => ?_) (fun id => ?_) fun t ht => ?_
  · rw [get_put_ne (by simp), get_put_ne (by simp), get_put_ne (by simp), get_put_ne (by simp),
      get_put_ne (by simp)]
  · rw [get_put_ne (by simp), get_put_ne (by simp)]
    by_cases he : id = params.id
    · rw [he, get_put_self, get_put_self]
    · rw [get_put_ne (by simpa using he), get_put_ne (by simpa using he), get_put_ne (by simp)]
  · rw [countOf_put_ne (by simp)] at ht
    by_cases he : t = params.id
    · rw [he, State.countOf, get_put_self]
      rfl
    · rw [State.countOf, get_put_ne (by simpa using he)] at ht
      rwa [State.countOf, get_put_ne (by simpa using he), get_put_ne (by simp),
        get_put_ne (by simp)]

theorem Step.tiersCounted (h : Step w i w') (ht : TiersCounted w.state) :
    TiersCounted w'.state := by
  by_cases hok : i.ok w = true
  swap
  · rwa [h.state_eq_of_not_ok hok]
  cases hc : i.call with
  | createTier =>
    exact createTier_tiersCounted ht ((h.ok_iff_returns (by rw [hc]; rfl)).1 hok)
  | updateTier =>
    obtain ⟨tier, tier', hs, hp⟩ := updateTier_writes ((h.ok_iff_returns (by rw [hc]; rfl)).1 hok)
    rw [hp]
    exact ht.put_tier fun _ _ => ht.tiers _ tier hs
  | deactivateTier =>
    obtain ⟨tier, tier', hs, hp⟩ :=
      deactivateTier_writes ((h.ok_iff_returns (by rw [hc]; rfl)).1 hok)
    rw [hp]
    exact ht.put_tier fun _ _ => ht.tiers _ tier hs
  | createStakingTier =>
    obtain ⟨-, tierList, hp⟩ :=
      createStakingTier_writes ((h.ok_iff_returns (by rw [hc]; rfl)).1 hok)
    rw [hp]
    refine TiersCounted.of_frame (ht.put_tier ?_) (fun _ => get_put_ne (by simp))
      (fun _ => get_put_ne (by simp)) (countsStay_of_eq fun _ => countOf_put_ne (by simp))
    intro tier he
    cases he
  | createSubscription =>
    obtain ⟨_, -, hp⟩ := createSubscription_returns.1 ((h.ok_iff_returns (by rw [hc]; rfl)).1 hok)
    rw [hp]
    exact (ht.put_subscription fun hne => absurd rfl hne).logged
  | createSubscriptionWithTier =>
    obtain ⟨s₁, tier, price, _, hcr, hp⟩ :=
      createSubscriptionWithTier_returns.1 ((h.ok_iff_returns (by rw [hc]; rfl)).1 hok)
    have hoff : SameOff [Kind.tierPromotion] w.state s₁ := Only.returns hcr.priced
    have hcount (t : String) : s₁.countOf t = w.state.countOf t := by
      rw [State.countOf, State.get, hoff _ (by simp), State.countOf, State.get]
    have hs₁ : TiersCounted s₁ := ht.of_frame (fun _ => hoff _ (by simp)) (fun _ => hoff _ (by simp))
      (countsStay_of_eq hcount)
    rw [hp]
    refine TiersCounted.logged (TiersCounted.put_analytics (hs₁.put_subscription fun _ => ?_))
    exact (hcount _).symm ▸ ht.tiers _ tier hcr.onSale.1
  | cancelSubscription =>
    obtain ⟨_, ⟨hs, -⟩, hp⟩ :=
      cancelSubscription_returns.1 ((h.ok_iff_returns (by rw [hc]; rfl)).1 hok)
    rw [hp]
    refine ht.put_again hs ?_
    rfl
  | renewSubscription =>
    obtain ⟨subscription, _, hren, hp⟩ :=
      renewSubscription_returns.1 ((h.ok_iff_returns (by rw [hc]; rfl)).1 hok)
    rw [hp]
    refine (ht.put_again hren.stored ?_).renewed.logged
    rfl
  | pauseSubscription | pauseSubscriptionAdmin | resumeSubscription | resumeSubscriptionAdmin =>
    obtain ⟨_, _, hsus⟩ := h.suspends hok (by rw [hc]; rfl)
    rw [hsus.post]
    exact (ht.put_again hsus.stored hsus.tier).logged
  | processTierChange =>
    obtain ⟨_, _, tier, hpr, hp⟩ :=
      processTierChange_returns.1 ((h.ok_iff_returns (by rw [hc]; rfl)).1 hok)
    rw [hp]
    refine TiersCounted.modifyAnalytics (TiersCounted.modifyAnalytics (TiersCounted.of_frame
      (ht.put_subscription fun _ => ht.tiers _ tier hpr.joins) (fun _ => get_put_ne (by simp))
      (fun _ => get_put_ne (by simp)) (countsStay_of_eq fun _ => countOf_put_ne (by simp))))
  | _ =>
    refine ht.of_frame (fun _ => h.frame (by rw [hc]; simp)) (fun _ => h.frame (by rw [hc]; simp))
      (countsStay_of_eq fun _ => ?_)
    rw [State.countOf, h.frame (by rw [hc]; simp), State.countOf]

/-- The step lemma: the counts are right after a call exactly if it keeps them. -/
theorem Step.counted (h : Step w i w') (ht : TiersCounted w.state) (hc : Counted w.state) :
    Counted w'.state ↔ KeepsCounts ⟨w, i, w'⟩ := by
  by_cases hok : i.ok w = true
  swap
  · rw [h.state_eq_of_not_ok hok]
    exact iff_of_true hc fun hok' => absurd hok' hok
  rw [show KeepsCounts ⟨w, i, w'⟩ ↔ i.call.KeepsCounts w.state from
    ⟨fun hk => hk hok, fun hk _ => hk⟩]
  cases hcall : i.call with
  | createTier =>
    exact createTier_counted hc ((h.ok_iff_returns (by rw [hcall]; rfl)).1 hok)
  | createSubscription =>
    exact createSubscription_counted hc ((h.ok_iff_returns (by rw [hcall]; rfl)).1 hok)
  | createSubscriptionWithTier =>
    exact iff_of_true (createSubscriptionWithTier_counted hc ht
      ((h.ok_iff_returns (by rw [hcall]; rfl)).1 hok)) trivial
  | cancelSubscription id =>
    have hr := (h.ok_iff_returns (x := cancelSubscription i.env id) (by rw [hcall]; rfl)).1 hok
    obtain ⟨subscription, ⟨hs, -⟩, -⟩ := cancelSubscription_returns.1 hr
    rw [cancelSubscription_counted hc hr hs]
    constructor
    · intro hor subscription' hs'
      rwa [← Option.some.inj (hs.symm.trans hs')]
    · intro hall
      exact hall subscription hs
  | renewSubscription id paymentToken amount duration =>
    have hr := (h.ok_iff_returns (x := renewSubscription i.env id paymentToken amount duration)
      (by rw [hcall]; rfl)).1 hok
    obtain ⟨subscription, _, hren, -⟩ := renewSubscription_returns.1 hr
    rw [renewSubscription_counted hc ht hr hren.stored]
    constructor
    · intro hor subscription' hs'
      rwa [← Option.some.inj (hren.stored.symm.trans hs')]
    · intro hall
      exact hall subscription hren.stored
  | pauseSubscription | pauseSubscriptionAdmin | resumeSubscription | resumeSubscriptionAdmin =>
    obtain ⟨_, _, hsus⟩ := h.suspends hok (by rw [hcall]; rfl)
    rw [hsus.post]
    exact iff_of_true
      (counted_put_logged hc hsus.stored hsus.tier hsus.status.1 hsus.status.2) trivial
  | processTierChange caller requestId id paymentToken =>
    have hr := (h.ok_iff_returns (x := processTierChange i.env caller requestId id paymentToken)
      (by rw [hcall]; rfl)).1 hok
    obtain ⟨request, subscription, _, hpr, -⟩ := processTierChange_returns.1 hr
    rw [processTierChange_counted hc ht hr hpr.request hpr.stored]
    constructor
    · intro hor request' subscription' hr' hs'
      rwa [← Option.some.inj (hpr.request.symm.trans hr'),
        ← Option.some.inj (hpr.stored.symm.trans hs')]
    · intro hall
      exact hall request subscription hpr.request hpr.stored
  | _ =>
    refine iff_of_true ((counted_congr (fun _ => ?_) fun _ => ?_).2 hc) trivial
    · rw [State.countOf, h.frame (by rw [hcall]; simp), State.countOf]
    · exact subscribers_congr fun _ => h.frame (by rw [hcall]; simp)

end

/-! ## Runs -/

theorem tiersCounted_of_run {w₀ w : World} {tr : List (Ev me)} (h : Run Step w₀ tr w)
    (h₀ : w₀.state = ∅) : TiersCounted w.state := by
  refine h.invariant' (P := fun w => TiersCounted w.state) (fun _ _ _ ht hs => hs.tiersCounted ht)
    ⟨fun id subscription hs => ?_, fun id tier hs => ?_⟩
  all_goals
    rw [h₀] at hs
    cases hs

/-- **All analytics count the active subscribers of their tier throughout a run exactly if all its
    calls keep the counts.** -/
theorem subscribers_counted_iff {w₀ w : World} {tr : List (Ev me)} (h₀ : w₀.state = ∅)
    (h : Run Step w₀ tr w) :
    (Counted w.state ∧ Along (fun _ ev => Counted ev.pre.state) tr) ↔ ∀ ev ∈ tr, KeepsCounts ev := by
  rw [← along_iff_forall]
  refine Run.always_iff (P := fun _ w => Counted w.state) (fun tr ev hr hs hc =>
    hs.counted (tiersCounted_of_run hr h₀) hc) h fun t n hn => ?_
  rw [h₀] at hn
  cases hn

/-- The counts after `⟨2⟩` has changed to the better tier. -/
theorem subscribers_counted_iff_changed :
    Counted ((requestCalls ++ [hubCall 7 (.processTierChange ⟨2⟩ "CHG_00000006" "a" ⟨9⟩)]).foldl
      next start).state := by
  refine ((subscribers_counted_iff rfl (run_calls _ (by decide))).2 ?_).1
  rw [eventsFrom_append]
  refine List.forall_mem_append.2 ⟨?_, List.forall_mem_singleton.2 fun _ request subscription _ hs =>
    Or.inl ?_⟩
  · refine List.forall_mem_cons.2 ⟨fun _ => trivial, List.forall_mem_cons.2 ⟨fun _ => ?_,
      List.forall_mem_cons.2 ⟨fun _ => ?_, List.forall_mem_cons.2 ⟨fun _ => trivial,
        List.forall_mem_cons.2 ⟨fun _ => trivial, List.forall_mem_singleton.2 fun _ => trivial⟩⟩⟩⟩⟩
    · show State.subscribers _ "basic" = 0
      decide
    · show State.subscribers _ "pro" = 0
      decide
  · have hstatus : (((requestCalls.foldl next start).state.get (.subscription "a")).map
        Subscription.status) = some .active := by decide
    rw [show State.get _ _ = _ from hs, Option.map_some, Option.some.injEq] at hstatus
    rw [hstatus]
    decide

/-- The count of the basic tier is 2 after `⟨2⟩` has cancelled. -/
theorem subscribers_miscounted : ¬ ∀ (tr : List (Ev ⟨0⟩)) (w : World), Run Step start tr w →
    Counted w.state := by
  intro h
  have hc := h _ _ (run_calls (tierCalls ++ [hubCall 6 (.cancelSubscription "a")]) (by decide))
  exact absurd (hc "basic" 2 (by decide)) (by decide)

end ManageHub
