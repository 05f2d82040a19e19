/-
  The changes of tiers that are processed, over whole runs.

  The call names a request and a subscription, which need not be the one the request was made for.
  It does not look at the tier that the subscription has, either, nor at the type of the change.
-/
import NovaLabs.ManageHub.TierRequests

namespace ManageHub

open Lib Soroban

variable {me : Address}

/-! ## The owners of subscriptions -/

/-- No subscription is removed or given to another user. -/
def OwnersKept (s s' : State) : Prop :=
  ∀ id subscription, s.get (.subscription id) = some subscription →
    ∃ subscription', s'.get (.subscription id) = some subscription' ∧
      subscription'.user = subscription.user

section
variable {env : HubEnv me} {s s' s'' : State} {id : String} {u : Unit}
  {subscription subscription' : Subscription} {w w' : World} {i : Input me}

theorem OwnersKept.trans (h : OwnersKept s s') (h' : OwnersKept s' s'') : OwnersKept s s'' := by
  intro id subscription hs
  obtain ⟨subscription', hs', hu⟩ := h id subscription hs
  obtain ⟨subscription'', hs'', hu'⟩ := h' id subscription' hs'
  exact ⟨subscription'', hs'', hu'.trans hu⟩

theorem ownersKept_of_get
    (h : ∀ id, s'.get (.subscription id) = s.get (.subscription id)) : OwnersKept s s' :=
  fun id subscription hs => ⟨subscription, (h id).trans hs, rfl⟩

theorem ownersKept_put
    (h : ∀ subscription, s.get (.subscription id) = some subscription →
      subscription'.user = subscription.user) :
    OwnersKept s (s.put (.subscription id) subscription') := by
  intro id' subscription hs
  by_cases he : id' = id
  · subst he
    exact ⟨subscription', get_put_self, h subscription hs⟩
  · exact ⟨subscription, (get_put_ne (by simpa using he)).trans hs, rfl⟩

theorem ownersKept_logged {log : AttendanceLog} : OwnersKept s (s.logged log) :=
  ownersKept_of_get fun _ => logged_get (by simp) (by simp)

theorem ownersKept_put_ne {k : DataKey} {v : Val k} (h : k.kind ≠ .subscription) :
    OwnersKept s (s.put k v) :=
  ownersKept_of_get fun _ => get_put_ne fun he => h (he ▸ rfl)

theorem ownersKept_subscribed {tierId : String} {amount : ℤ} {now : ℕ} :
    OwnersKept s (s.subscribed tierId amount now) := ownersKept_put_ne (by simp)

theorem ownersKept_changedTier {fromTier toTier : String} {changeType : TierChangeType} {now : ℕ} :
    OwnersKept s (s.changedTier fromTier toTier changeType now) :=
  ownersKept_of_get fun _ => changedTier_get (by simp)

theorem ownersKept_renewed {tierId : String} {amount : ℤ} {now : ℕ} :
    OwnersKept s (s.renewed tierId amount now) := by
  unfold State.renewed
  split_ifs
  · exact ownersKept_of_get fun _ => rfl
  · exact ownersKept_subscribed

/-- A subscription that is written has been stored, with the same user. -/
theorem ownersKept_put_of_get (hs : s.get (.subscription id) = some subscription)
    (hu : subscription'.user = subscription.user) :
    OwnersKept s (s.put (.subscription id) subscription') := by
  refine ownersKept_put fun subscription₁ hs₁ => ?_
  rwa [← Option.some.inj (hs.symm.trans hs₁)]

theorem Step.ownersKept (h : Step w i w') : OwnersKept w.state w'.state := by
  by_cases hok : i.ok w = true
  swap
  · exact ownersKept_of_get fun _ => by rw [h.state_eq_of_not_ok hok]
  cases hc : i.call with
  | createSubscription =>
    obtain ⟨_, hcr, hp⟩ :=
      createSubscription_returns.1 ((h.ok_iff_returns (by rw [hc]; rfl)).1 hok)
    rw [hp]
    refine (ownersKept_put fun subscription hs => ?_).trans ownersKept_logged
    rw [hcr.fresh] at hs
    cases hs
  | createSubscriptionWithTier =>
    obtain ⟨s₁, _, _, _, hcr, hp⟩ :=
      createSubscriptionWithTier_returns.1 ((h.ok_iff_returns (by rw [hc]; rfl)).1 hok)
    have hoff : SameOff [Kind.tierPromotion] w.state s₁ := Only.returns hcr.priced
    have hsame (id : String) : s₁.get (.subscription id) = w.state.get (.subscription id) :=
      hoff _ (by simp)
    rw [hp]
    refine (((ownersKept_of_get hsame).trans (ownersKept_put fun subscription hs => ?_)).trans
      ownersKept_subscribed).trans ownersKept_logged
    rw [hsame, hcr.fresh] at hs
    cases hs
  | cancelSubscription =>
    obtain ⟨_, ⟨hs, -⟩, hp⟩ :=
      cancelSubscription_returns.1 ((h.ok_iff_returns (by rw [hc]; rfl)).1 hok)
    rw [hp]
    refine ownersKept_put_of_get hs ?_
    rfl
  | renewSubscription =>
    obtain ⟨subscription, _, hren, hp⟩ :=
      renewSubscription_returns.1 ((h.ok_iff_returns (by rw [hc]; rfl)).1 hok)
    rw [hp]
    refine ((ownersKept_put_of_get hren.stored ?_).trans ownersKept_renewed).trans ownersKept_logged
    rfl
  | pauseSubscription | pauseSubscriptionAdmin | resumeSubscription | resumeSubscriptionAdmin =>
    obtain ⟨_, _, hsus⟩ := h.suspends hok (by rw [hc]; rfl)
    rw [hsus.post]
    exact (ownersKept_put_of_get hsus.stored hsus.user).trans ownersKept_logged
  | processTierChange =>
    obtain ⟨_, _, _, hpr, hp⟩ :=
      processTierChange_returns.1 ((h.ok_iff_returns (by rw [hc]; rfl)).1 hok)
    rw [hp]
    refine ((ownersKept_put_of_get hpr.stored ?_).trans (ownersKept_put_ne (by simp))).trans
      ownersKept_changedTier
    rfl
  | _ => exact ownersKept_of_get fun _ => h.frame (by rw [hc]; simp)

end

/-! ## The law -/

/-- The last request under the id was made for the subscription. -/
def MadeFor (id subscriptionId : String) (tr : List (Ev me)) : Prop :=
  Since (fun ev => ∃ r, Requests id subscriptionId r ev)
    (fun ev => ∀ subscriptionId' r, ¬ Requests id subscriptionId' r ev) tr

/-- The call has processed the request on the subscription that the request was made for, which is
    its user's and at the tier that the request is from; the admin has made a downgrade. -/
structure ChangesAsRequested (tr : List (Ev me)) (ev : Ev me) (caller : Address)
    (id subscriptionId : String) (request : TierChangeRequest) (subscription : Subscription) :
    Prop where
  pending : ev.pre.state.get (.tierChangeRequest id) = some request
  stored : ev.pre.state.get (.subscription subscriptionId) = some subscription
  modified : (ev.post.state.get (.subscription subscriptionId)).map Subscription.tierId =
    some request.toTier
  others : ∀ id', id' ≠ subscriptionId →
    ev.post.state.get (.subscription id') = ev.pre.state.get (.subscription id')
  owned : subscription.user = request.user
  named : MadeFor id subscriptionId tr
  leaves : subscription.tierId = request.fromTier
  admin : request.changeType = .downgrade → ev.pre.state.get .admin = some caller

/-- A change that is processed is the one that was requested. -/
def AsRequested (tr : List (Ev me)) (ev : Ev me) : Prop :=
  ∀ caller id subscriptionId paymentToken,
    ev.inp.call = .processTierChange caller id subscriptionId paymentToken →
    ev.inp.ok ev.pre = true →
    ∃ request subscription,
      ChangesAsRequested tr ev caller id subscriptionId request subscription

/-- A request that may be processed is passed with the subscription that it was made for, at the
    tier that it is from, and a downgrade by the admin. -/
def PassedAsRequested (tr : List (Ev me)) (ev : Ev me) : Prop :=
  ∀ caller id subscriptionId paymentToken request subscription tier,
    ev.inp.call = .processTierChange caller id subscriptionId paymentToken →
    Processable ev.inp.env ev.pre.state caller id subscriptionId paymentToken request subscription
      tier →
    MadeFor id subscriptionId tr ∧ subscription.tierId = request.fromTier ∧
      (request.changeType = .downgrade → ev.pre.state.get .admin = some caller)

/-- Requests are stored with the user of the subscription that they were made for. -/
def RequestsOwned (tr : List (Ev me)) (w : World) : Prop :=
  ∀ id subscriptionId, MadeFor id subscriptionId tr →
    ∃ request subscription, w.state.get (.tierChangeRequest id) = some request ∧
      w.state.get (.subscription subscriptionId) = some subscription ∧
      subscription.user = request.user

/-! ## Steps -/

section
variable {w w' : World} {i : Input me} {id subscriptionId : String} {tr : List (Ev me)}

/-- A request that is not made anew stays its user's. -/
theorem Step.requestUser (h : Step w i w')
    (hr : ∀ subscriptionId r, ¬ Requests id subscriptionId r ⟨w, i, w'⟩)
    {request : TierChangeRequest} (hs : w.state.get (.tierChangeRequest id) = some request) :
    ∃ request', w'.state.get (.tierChangeRequest id) = some request' ∧
      request'.user = request.user := by
  by_cases hset : Settles id ⟨w, i, w'⟩
  swap
  · exact ⟨request, (h.changeRequest_eq hset hr).trans hs, rfl⟩
  rcases hset with ⟨hok, ⟨caller, subscriptionId, paymentToken, hc⟩ | ⟨user, hc⟩⟩
  · obtain ⟨request', _, _, hpr, hp⟩ :=
      processTierChange_returns.1 ((h.ok_iff_returns (by rw [show i.call = _ from hc]; rfl)).1 hok)
    obtain rfl := Option.some.inj (hs.symm.trans hpr.request)
    rw [hp, changedTier_get (by simp), get_put_self]
    exact ⟨_, rfl, rfl⟩
  · obtain ⟨request', hcan, hp⟩ :=
      cancelTierChange_returns.1 ((h.ok_iff_returns (by rw [show i.call = _ from hc]; rfl)).1 hok)
    obtain rfl := Option.some.inj (hs.symm.trans hcan.request)
    rw [hp, get_put_self]
    exact ⟨_, rfl, rfl⟩

theorem Step.requestsOwned (h : Step w i w') (ho : RequestsOwned tr w) :
    RequestsOwned (tr ++ [⟨w, i, w'⟩]) w' := by
  intro id subscriptionId hsince
  rcases since_snoc.1 hsince with ⟨r, hr⟩ | ⟨hsince, hnot⟩
  · obtain ⟨user, newTierId, subscription, currentTier, newTier, amount, -, hreq, rfl⟩ :=
      hr.requestable
    obtain ⟨_, _, _, _, hg⟩ := hr
    obtain ⟨subscription', hs', hu⟩ := h.ownersKept subscriptionId subscription hreq.stored
    exact ⟨_, subscription', hg, hs', hu.trans hreq.owned⟩
  · obtain ⟨request, subscription, hreq, hsub, hu⟩ := ho id subscriptionId hsince
    obtain ⟨request', hreq', hu₁⟩ := h.requestUser hnot hreq
    obtain ⟨subscription', hsub', hu₂⟩ := h.ownersKept subscriptionId subscription hsub
    exact ⟨request', subscription', hreq', hsub', by rw [hu₂, hu, hu₁]⟩

/-- The step lemma: a change is as requested exactly if it is passed so. -/
theorem Step.asRequested (h : Step w i w') (ho : RequestsOwned tr w) :
    AsRequested tr ⟨w, i, w'⟩ ↔ PassedAsRequested tr ⟨w, i, w'⟩ := by
  constructor
  · intro hlaw caller id subscriptionId paymentToken request subscription tier hc hpr
    have hr := (processTierChange_returns (u := ())).2 ⟨request, subscription, tier, hpr, rfl⟩
    have hok := (h.of_code (by rw [show i.call = _ from hc]; rfl) hr).1
    obtain ⟨request', subscription', has⟩ := hlaw caller id subscriptionId paymentToken hc hok
    obtain rfl := Option.some.inj (hpr.request.symm.trans has.pending)
    obtain rfl := Option.some.inj (hpr.stored.symm.trans has.stored)
    exact ⟨has.named, has.leaves, has.admin⟩
  · intro hpass caller id subscriptionId paymentToken hc hok
    obtain ⟨request, subscription, tier, hpr, hp⟩ :=
      processTierChange_returns.1 ((h.ok_iff_returns (by rw [show i.call = _ from hc]; rfl)).1 hok)
    obtain ⟨hmade, hleaves, hadmin⟩ := hpass _ _ _ _ _ _ _ hc hpr
    obtain ⟨request', subscription', hreq, hsub, hu⟩ := ho id subscriptionId hmade
    obtain rfl := Option.some.inj (hpr.request.symm.trans hreq)
    obtain rfl := Option.some.inj (hpr.stored.symm.trans hsub)
    refine ⟨request, subscription, hpr.request, hpr.stored, ?_, fun id' hne => ?_, hu, hmade,
      hleaves, hadmin⟩
    · rw [hp, changedTier_get (by simp), get_put_ne (by simp), get_put_self, Option.map_some]
    · rw [hp, changedTier_get (by simp), get_put_ne (by simp), get_put_ne (by simpa using hne)]

end

/-! ## Runs -/

theorem requestsOwned_of_run {w₀ w : World} {tr : List (Ev me)} (h : Run Step w₀ tr w) :
    RequestsOwned tr w :=
  h.history (P := RequestsOwned) (fun _ _ _ _ ho hs => hs.requestsOwned ho)
    fun _ _ hsince => absurd hsince not_since_nil

/-- **The changes that are processed in a run are those that were requested exactly if each request
    is passed with the subscription that it was made for, at the tier that it is from, and a downgrade
    by the admin.** -/
theorem changes_as_requested_iff {w₀ w : World} {tr : List (Ev me)} (h : Run Step w₀ tr w) :
    Along AsRequested tr ↔ Along PassedAsRequested tr := by
  constructor
  · rintro hall tr₁ ev tr₂ rfl
    exact (h.split.2.1.asRequested (requestsOwned_of_run h.split.1)).1 (hall tr₁ ev tr₂ rfl)
  · rintro hall tr₁ ev tr₂ rfl
    exact (h.split.2.1.asRequested (requestsOwned_of_run h.split.1)).2 (hall tr₁ ev tr₂ rfl)

theorem along_passedAsRequested_of_calls {is : List (Input me)} {w : World}
    (h : ∀ i ∈ is, ∀ caller id subscriptionId paymentToken,
      i.call ≠ .processTierChange caller id subscriptionId paymentToken) :
    Along PassedAsRequested (eventsFrom next w is) := by
  intro tr₁ ev tr₂ he caller id subscriptionId paymentToken _ _ _ hc
  have hev : ev ∈ eventsFrom next w is := by simp [he]
  exact absurd hc (h ev.inp (inp_mem_of_eventsFrom hev) _ _ _ _)

/-- The request of `⟨2⟩` is processed on the subscription that it was made for. -/
theorem changes_as_requested_iff_own :
    Along AsRequested (eventsFrom next start
      (requestCalls ++ [hubCall 7 (.processTierChange ⟨2⟩ "CHG_00000006" "a" ⟨9⟩)])) := by
  refine (changes_as_requested_iff (run_calls _ (by decide))).2 ?_
  rw [eventsFrom_append]
  refine along_snoc.2 ⟨along_passedAsRequested_of_calls
    (by simp [requestCalls, tierCalls, hubCall]), fun caller id subscriptionId paymentToken request
      subscription tier hc hpr => ?_⟩
  cases hc
  have htier : (((requestCalls.foldl next start).state.get (.subscription "a")).map
      Subscription.tierId) = some "basic" := by decide
  have hrequest : (((requestCalls.foldl next start).state.get
      (.tierChangeRequest "CHG_00000006")).map fun r => (r.fromTier, r.changeType)) =
        some ("basic", .upgrade) := by decide
  rw [show State.get _ _ = _ from hpr.stored, Option.map_some, Option.some.injEq] at htier
  rw [show State.get _ _ = _ from hpr.request, Option.map_some, Option.some.injEq,
    Prod.mk.injEq] at hrequest
  obtain ⟨r, hr⟩ := Step.requests_of_ok (w := tierCalls.foldl next start)
    (i := hubCall 6 (.requestTierChange ⟨2⟩ "a" "pro")) (step_next (by decide)) rfl (by decide)
  rw [show generateChangeRequestId _ = "CHG_00000006" by decide] at hr
  refine ⟨?_, htier.trans hrequest.1.symm, fun hd => ?_⟩
  · rw [requestCalls, eventsFrom_append]
    exact since_snoc.2 (Or.inl ⟨r, hr⟩)
  · rw [hrequest.2] at hd
    cases hd

/-- The request of `⟨2⟩` is processed on the subscription of `⟨3⟩`. -/
theorem changes_other_subscription : ¬ ∀ (tr : List (Ev ⟨0⟩)) (w : World), Run Step start tr w →
    Along AsRequested tr := by
  intro h
  have hall := h _ _ (run_calls
    (requestCalls ++ [hubCall 7 (.processTierChange ⟨2⟩ "CHG_00000006" "b" ⟨9⟩)]) (by decide))
  rw [eventsFrom_append] at hall
  obtain ⟨request, subscription, hlaw⟩ :=
    (along_snoc.1 hall).2 ⟨2⟩ "CHG_00000006" "b" ⟨9⟩ rfl (by decide)
  have howner : (((requestCalls.foldl next start).state.get (.subscription "b")).map
      Subscription.user) = some ⟨3⟩ := by decide
  have huser : (((requestCalls.foldl next start).state.get
      (.tierChangeRequest "CHG_00000006")).map TierChangeRequest.user) = some ⟨2⟩ := by decide
  rw [show State.get _ _ = _ from hlaw.stored, Option.map_some, Option.some.injEq] at howner
  rw [show State.get _ _ = _ from hlaw.pending, Option.map_some, Option.some.injEq] at huser
  have hne := hlaw.owned
  rw [howner, huser] at hne
  exact absurd hne (by decide)

end ManageHub
