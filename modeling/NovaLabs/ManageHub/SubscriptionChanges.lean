/-
  What becomes of a subscription in a call, and the run of calls since its expiry was set.
-/
import NovaLabs.ManageHub.TierChangeCalls

namespace ManageHub

open Lib Soroban

variable {me : Address}

/-- The subscription whose expiry the call sets, by a creation or a renewal. -/
def Call.setsExpiry : Call → Option String
  | .createSubscription id .. | .createSubscriptionWithTier id .. | .renewSubscription id .. => some id
  | _ => none

/-- The call goes through, and sets the expiry of the subscription. -/
def SetsExpiry (id : String) (ev : Ev me) : Prop :=
  ev.inp.ok ev.pre = true ∧ ev.inp.call.setsExpiry = some id

/-- What becomes of the subscription `id` in a call, that sets its expiry if `sets`. -/
inductive SubscriptionChange (env : HubEnv me) (s : State) (id : String) (sets : Prop) :
    Option Subscription → Option Subscription → Prop
  | same {o} : ¬ sets → SubscriptionChange env s id sets o o
  | create {user paymentToken amount expiresAt tierId cycle} : sets →
    SubscriptionChange env s id sets none
      (some (newSubscription env id user paymentToken amount expiresAt tierId cycle))
  | renew {subscription} (expiresAt : ℕ) (amount : ℤ) : sets → subscription.status ≠ .paused →
    SubscriptionChange env s id sets (some subscription)
      (some { subscription with
        expiresAt
        status := .active
        amount })
  | cancel {subscription} : ¬ sets → SubscriptionChange env s id sets (some subscription)
      (some { subscription with
        status := .inactive
        pausedAt := none })
  | pause {subscription isAdmin} (actor : Address) (reason : Option String) : ¬ sets →
    Pausable s subscription env.now isAdmin →
    SubscriptionChange env s id sets (some subscription)
      (some (subscription.pausedBy env.now actor isAdmin reason))
  | resume {subscription isAdmin duration extension expiresAt total} (actor : Address) : ¬ sets →
    Resumable s subscription env.now isAdmin duration extension expiresAt total →
    SubscriptionChange env s id sets (some subscription)
      (some (subscription.resumedBy env.now actor isAdmin expiresAt total duration extension))
  | changeTier {subscription} (tierId : String) (amount : ℤ) : ¬ sets →
    SubscriptionChange env s id sets (some subscription)
      (some { subscription with
        tierId
        amount })

section
variable {env : HubEnv me} {s s' : State} {u : Unit} {id id' : String} {sets : Prop} {w w' : World}
  {i : Input me} {actor : Address} {reason : Option String} {isAdmin : Bool}
  {subscription : Subscription}

theorem get_put_subscription :
    (s.put (.subscription id) subscription).get (.subscription id') =
      if id' = id then some subscription else s.get (.subscription id') := by
  split_ifs with he
  · rw [he, get_put_self]
  · exact get_put_ne (by simpa using he)

theorem renewed_get {tierId : String} {amount : ℤ} {now : ℕ} {k : DataKey}
    (h : k ≠ .tierAnalytics tierId) : (s.renewed tierId amount now).get k = s.get k := by
  unfold State.renewed
  split_ifs
  · rfl
  · exact get_put_ne h

/-- One subscription is written. -/
theorem SubscriptionChange.put (id' : String) (subscription' : Subscription)
    (h : s'.get (.subscription id') =
      if id' = id then some subscription' else s.get (.subscription id'))
    (hsets : sets → id' = id)
    (hc : id' = id → SubscriptionChange env s id' sets (s.get (.subscription id))
      (some subscription')) :
    SubscriptionChange env s id' sets (s.get (.subscription id')) (s'.get (.subscription id')) := by
  rw [h]
  split_ifs with he
  · rw [he] at hc ⊢
    exact hc rfl
  · exact .same fun hs => he (hsets hs)

theorem pauseSubscriptionInternal_change (hn : ¬ sets)
    (hs : s.get (.subscription id) = some subscription)
    (h : Returns (pauseSubscriptionInternal env id subscription actor isAdmin reason) s u s') :
    SubscriptionChange env s id' sets (s.get (.subscription id')) (s'.get (.subscription id')) := by
  obtain ⟨hp, rfl⟩ := pauseSubscriptionInternal_returns.1 h
  refine .put id' (subscription.pausedBy env.now actor isAdmin reason)
    (by rw [logged_get (by simp) (by simp), get_put_subscription]) (fun hset => absurd hset hn)
    fun _ => ?_
  rw [hs]
  exact .pause actor reason hn hp

theorem resumeSubscriptionInternal_change (hn : ¬ sets)
    (hs : s.get (.subscription id) = some subscription)
    (h : Returns (resumeSubscriptionInternal env id subscription actor isAdmin) s u s') :
    SubscriptionChange env s id' sets (s.get (.subscription id')) (s'.get (.subscription id')) := by
  obtain ⟨duration, extension, expiresAt, total, hr, rfl⟩ :=
    resumeSubscriptionInternal_returns.1 h
  refine .put id' (subscription.resumedBy env.now actor isAdmin expiresAt total duration extension)
    (by rw [logged_get (by simp) (by simp), get_put_subscription]) (fun hset => absurd hset hn)
    fun _ => ?_
  rw [hs]
  exact .resume actor hn hr

/-- The step lemma: what a call does to the subscription `id`. -/
theorem Step.subscriptionChange (h : Step w i w') (id : String) :
    SubscriptionChange i.env w.state id (SetsExpiry id ⟨w, i, w'⟩)
      (w.state.get (.subscription id)) (w'.state.get (.subscription id)) := by
  by_cases hok : i.ok w = true
  swap
  · rw [h.state_eq_of_not_ok hok]
    exact .same fun hsets => hok hsets.1
  have hsets (id' : String) (hs : i.call.setsExpiry = some id') :
      SetsExpiry id ⟨w, i, w'⟩ ↔ id = id' := by
    rw [SetsExpiry, hs]
    exact ⟨fun hid => (Option.some.inj hid.2).symm, fun hid => ⟨hok, congrArg some hid.symm⟩⟩
  have hnot (hs : i.call.setsExpiry = none) : ¬ SetsExpiry id ⟨w, i, w'⟩ := by
    rintro ⟨-, hid⟩
    rw [hs] at hid
    cases hid
  cases hc : i.call with
  | createSubscription id' user paymentToken amount =>
    obtain ⟨expiresAt, hcr, hp⟩ :=
      createSubscription_returns.1 ((h.ok_iff_returns (by rw [hc]; rfl)).1 hok)
    have hid := hsets id' (by rw [hc]; rfl)
    refine .put id (newSubscription i.env id' user paymentToken amount expiresAt "" .monthly)
      (by rw [hp, logged_get (by simp) (by simp), get_put_subscription]) hid.1 fun he => ?_
    rw [hcr.fresh, he]
    exact .create (he ▸ hid.2 he)
  | createSubscriptionWithTier id' user paymentToken tierId cycle =>
    obtain ⟨s₁, _, price, expiresAt, hcr, hp⟩ :=
      createSubscriptionWithTier_returns.1 ((h.ok_iff_returns (by rw [hc]; rfl)).1 hok)
    have hoff : SameOff [Kind.tierPromotion] w.state s₁ := Only.returns hcr.priced
    have hsame : s₁.get (.subscription id) = w.state.get (.subscription id) := hoff _ (by simp)
    have hid := hsets id' (by rw [hc]; rfl)
    refine .put id (newSubscription i.env id' user paymentToken price expiresAt tierId cycle)
      (by rw [hp, logged_get (by simp) (by simp), State.subscribed, get_put_ne (by simp),
        get_put_subscription, hsame]) hid.1 fun he => ?_
    rw [hcr.fresh, he]
    exact .create (he ▸ hid.2 he)
  | cancelSubscription id' =>
    obtain ⟨subscription, ⟨hs, -⟩, hp⟩ :=
      cancelSubscription_returns.1 ((h.ok_iff_returns (by rw [hc]; rfl)).1 hok)
    have hn := hnot (by rw [hc]; rfl)
    refine .put id { subscription with status := .inactive, pausedAt := none }
      (by rw [hp, get_put_subscription]) (fun hset => absurd hset hn) fun _ => ?_
    rw [hs]
    exact .cancel hn
  | renewSubscription id' paymentToken amount =>
    obtain ⟨subscription, expiresAt, hren, hp⟩ :=
      renewSubscription_returns.1 ((h.ok_iff_returns (by rw [hc]; rfl)).1 hok)
    have hid := hsets id' (by rw [hc]; rfl)
    refine .put id { subscription with expiresAt, status := .active, amount }
      (by rw [hp, logged_get (by simp) (by simp), renewed_get (by simp), get_put_subscription])
      hid.1 fun he => ?_
    rw [hren.stored]
    exact .renew _ _ (hid.2 he) hren.running
  | pauseSubscription =>
    obtain ⟨_, ⟨hs, -⟩, hr⟩ :=
      pauseSubscription_returns.1 ((h.ok_iff_returns (by rw [hc]; rfl)).1 hok)
    exact pauseSubscriptionInternal_change (hnot (by rw [hc]; rfl)) hs hr
  | pauseSubscriptionAdmin =>
    obtain ⟨-, _, hs, hr⟩ :=
      pauseSubscriptionAdmin_returns.1 ((h.ok_iff_returns (by rw [hc]; rfl)).1 hok)
    exact pauseSubscriptionInternal_change (hnot (by rw [hc]; rfl)) hs hr
  | resumeSubscription =>
    obtain ⟨_, ⟨hs, -⟩, hr⟩ :=
      resumeSubscription_returns.1 ((h.ok_iff_returns (by rw [hc]; rfl)).1 hok)
    exact resumeSubscriptionInternal_change (hnot (by rw [hc]; rfl)) hs hr
  | resumeSubscriptionAdmin =>
    obtain ⟨-, _, hs, hr⟩ :=
      resumeSubscriptionAdmin_returns.1 ((h.ok_iff_returns (by rw [hc]; rfl)).1 hok)
    exact resumeSubscriptionInternal_change (hnot (by rw [hc]; rfl)) hs hr
  | processTierChange _ _ id' =>
    obtain ⟨request, subscription, tier, hpr, hp⟩ :=
      processTierChange_returns.1 ((h.ok_iff_returns (by rw [hc]; rfl)).1 hok)
    have hn := hnot (by rw [hc]; rfl)
    refine .put id { subscription with tierId := request.toTier, amount := tier.price }
      (by rw [hp, changedTier_get (by simp), get_put_ne (by simp), get_put_subscription])
      (fun hset => absurd hset hn) fun _ => ?_
    rw [hpr.stored]
    exact .changeTier _ _ hn
  | _ =>
    rw [h.frame (by rw [hc]; simp)]
    exact .same (hnot (by rw [hc]; rfl))

end

end ManageHub
