/-
  The requests for changes of tiers over whole runs.

  The id of a request is the last 8 digits of the time, so that two requests of one second, or of
  times that lie a multiple of 10^8 seconds apart, share their id: the second replaces the first.
-/
import NovaLabs.ManageHub.TierChangeCalls

namespace ManageHub

open Lib Soroban

variable {me : Address}

/-! ## Ids -/

/-- The digits of a number, padded by zeros, are those of no other number. -/
theorem ofDigitChars_leftpad (n k : ℕ) :
    Nat.ofDigitChars 10 ((Nat.toDigits 10 n).leftpad k '0') 0 = n := by
  rw [List.leftpad, Nat.ofDigitChars_append, Nat.ofDigitChars_replicate_zero, Nat.mul_zero,
    Nat.ofDigitChars_ten_toDigits]

theorem generateChangeRequestId_eq_iff {t t' : ℕ} :
    generateChangeRequestId t = generateChangeRequestId t' ↔
      t % 100000000 = t' % 100000000 := by
  constructor
  · intro h
    have hl := String.ofList_injective ((String.append_right_inj _).1 h)
    rw [← ofDigitChars_leftpad (t % 100000000) 8, hl, ofDigitChars_leftpad]
  · intro h
    rw [generateChangeRequestId, h, generateChangeRequestId]

/-! ## The law -/

/-- The event is a call that stores the request, for a change of the subscription, under the id
    that it returns. -/
def Requests (id subscriptionId : String) (r : TierChangeRequest) (ev : Ev me) : Prop :=
  ∃ user newTierId, ev.inp.call = .requestTierChange user subscriptionId newTierId ∧
    Returns (requestTierChange ev.inp.env user subscriptionId newTierId) ev.pre.state id
      ev.post.state ∧
    ev.post.state.get (.tierChangeRequest id) = some r

/-- The event processes or cancels the request. -/
def Settles (id : String) (ev : Ev me) : Prop :=
  ev.inp.ok ev.pre = true ∧
    ((∃ caller subscriptionId paymentToken,
      ev.inp.call = .processTierChange caller id subscriptionId paymentToken) ∨
        ∃ user, ev.inp.call = .cancelTierChange user id)

/-- Each request has an id of its own, and is stored as it was made until it is processed or
    cancelled. -/
structure RequestsKept (tr : List (Ev me)) (w : World) : Prop where
  distinct : Along (fun tr ev => ∀ id subscriptionId r, Requests id subscriptionId r ev →
    ∀ ev' ∈ tr, ∀ subscriptionId' r', ¬ Requests id subscriptionId' r' ev') tr
  stored : ∀ id subscriptionId r,
    Since (Requests id subscriptionId r) (fun ev => ¬ Settles id ev) tr →
    w.state.get (.tierChangeRequest id) = some r

/-- A change may be requested at a time only if no request has been made at one with the same last
    8 digits. -/
def OwnTime (tr : List (Ev me)) (ev : Ev me) : Prop :=
  ∀ user subscriptionId newTierId subscription currentTier newTier amount,
    ev.inp.call = .requestTierChange user subscriptionId newTierId →
    Requestable ev.inp.env ev.pre.state user subscriptionId newTierId subscription currentTier
      newTier amount →
    ∀ ev' ∈ tr, ∀ id subscriptionId' r, Requests id subscriptionId' r ev' →
      ev'.inp.env.now % 100000000 ≠ ev.inp.env.now % 100000000

/-! ## Steps -/

section
variable {w w' : World} {i : Input me} {id subscriptionId : String} {r : TierChangeRequest}
  {ev : Ev me}

theorem Requests.requestable (h : Requests id subscriptionId r ev) :
    ∃ user newTierId subscription currentTier newTier amount,
      ev.inp.call = .requestTierChange user subscriptionId newTierId ∧
      Requestable ev.inp.env ev.pre.state user subscriptionId newTierId subscription currentTier
        newTier amount ∧
      r = newChangeRequest ev.inp.env user newTierId subscription currentTier newTier amount := by
  obtain ⟨user, newTierId, hc, hr, hg⟩ := h
  obtain ⟨subscription, currentTier, newTier, amount, hok, rfl, hp⟩ :=
    requestTierChange_returns.1 hr
  refine ⟨user, newTierId, subscription, currentTier, newTier, amount, hc, hok, ?_⟩
  rw [hp, get_put_ne (by simp), get_put_self] at hg
  exact (Option.some.inj hg).symm

theorem Requests.id_eq (h : Requests id subscriptionId r ev) :
    id = generateChangeRequestId ev.inp.env.now := by
  obtain ⟨user, newTierId, -, hr, -⟩ := h
  obtain ⟨-, -, -, -, -, hid, -⟩ := requestTierChange_returns.1 hr
  exact hid

/-- A change that may be requested is. -/
theorem Step.requests (h : Step w i w') {user : Address} {newTierId : String}
    {subscription : Subscription} {currentTier newTier : SubscriptionTier} {amount : ℤ}
    (hc : i.call = .requestTierChange user subscriptionId newTierId)
    (hok : Requestable i.env w.state user subscriptionId newTierId subscription currentTier newTier
      amount) :
    Requests (generateChangeRequestId i.env.now) subscriptionId
      (newChangeRequest i.env user newTierId subscription currentTier newTier amount)
      ⟨w, i, w'⟩ := by
  have hr := requestTierChange_returns.2
    ⟨subscription, currentTier, newTier, amount, hok, rfl, rfl⟩
  obtain ⟨-, he⟩ := h.of_code (x := ignore (requestTierChange i.env user subscriptionId newTierId))
    (by rw [hc]; rfl) (returns_ignore.2 ⟨_, hr⟩)
  refine ⟨user, newTierId, hc, ?_, ?_⟩
  · rw [← he] at hr
    exact hr
  · rw [he, get_put_ne (by simp), get_put_self]

theorem Step.requests_of_ok (h : Step w i w') {user : Address} {newTierId : String}
    (hc : i.call = .requestTierChange user subscriptionId newTierId) (hok : i.ok w = true) :
    ∃ r, Requests (generateChangeRequestId i.env.now) subscriptionId r ⟨w, i, w'⟩ := by
  obtain ⟨id, hret⟩ := returns_ignore.1 ((h.ok_iff_returns (by rw [hc]; rfl)).1 hok)
  obtain ⟨subscription, currentTier, newTier, amount, hreq, -⟩ := requestTierChange_returns.1 hret
  exact ⟨_, h.requests hc hreq⟩

/-- A request is changed only where it is made, processed or cancelled. -/
theorem Step.changeRequest_eq (h : Step w i w') (hs : ¬ Settles id ⟨w, i, w'⟩)
    (hr : ∀ subscriptionId r, ¬ Requests id subscriptionId r ⟨w, i, w'⟩) :
    w'.state.get (.tierChangeRequest id) = w.state.get (.tierChangeRequest id) := by
  by_cases hok : i.ok w = true
  swap
  · rw [h.state_eq_of_not_ok hok]
  cases hc : i.call with
  | requestTierChange user subscriptionId newTierId =>
    obtain ⟨r, hreq⟩ := h.requests_of_ok hc hok
    obtain ⟨_, hret⟩ := returns_ignore.1 ((h.ok_iff_returns (by rw [hc]; rfl)).1 hok)
    obtain ⟨subscription, currentTier, newTier, amount, -, rfl, hp⟩ :=
      requestTierChange_returns.1 hret
    have hne : id ≠ generateChangeRequestId i.env.now := by
      rintro rfl
      exact hr _ _ hreq
    rw [hp, get_put_ne (by simp), get_put_ne (by simpa using hne)]
  | processTierChange caller id' subscriptionId paymentToken =>
    have hne : id ≠ id' := by
      rintro rfl
      exact hs ⟨hok, Or.inl ⟨caller, subscriptionId, paymentToken, hc⟩⟩
    obtain ⟨changeRequest, subscription, tier, -, hp⟩ :=
      processTierChange_returns.1 ((h.ok_iff_returns (by rw [hc]; rfl)).1 hok)
    rw [hp, changedTier_get (by simp), get_put_ne (by simpa using hne), get_put_ne (by simp)]
  | cancelTierChange user id' =>
    have hne : id ≠ id' := by
      rintro rfl
      exact hs ⟨hok, Or.inr ⟨user, hc⟩⟩
    obtain ⟨changeRequest, -, hp⟩ :=
      cancelTierChange_returns.1 ((h.ok_iff_returns (by rw [hc]; rfl)).1 hok)
    rw [hp, get_put_ne (by simpa using hne)]
  | _ => exact h.frame (by rw [hc]; simp)

/-- The step lemma: the requests are kept exactly if a request is made at a time of its own. -/
theorem Step.requestsKept {tr : List (Ev me)} (h : Step w i w') (hk : RequestsKept tr w) :
    RequestsKept (tr ++ [⟨w, i, w'⟩]) w' ↔ OwnTime tr ⟨w, i, w'⟩ := by
  constructor
  · intro hk' user subscriptionId newTierId subscription currentTier newTier amount hc hreq ev' hev
      id subscriptionId' r hr' hmod
    have hid : id = generateChangeRequestId i.env.now := by
      rw [hr'.id_eq, generateChangeRequestId_eq_iff, hmod]
    exact (along_snoc.1 hk'.distinct).2 _ _ _ (h.requests hc hreq) ev' hev subscriptionId' r
      (hid ▸ hr')
  · intro hown
    have hfresh : ∀ id subscriptionId r, Requests id subscriptionId r ⟨w, i, w'⟩ →
        ∀ ev' ∈ tr, ∀ subscriptionId' r', ¬ Requests id subscriptionId' r' ev' := by
      intro id subscriptionId r hr ev' hev subscriptionId' r' hr'
      obtain ⟨user, newTierId, subscription, currentTier, newTier, amount, hc, hreq, -⟩ :=
        hr.requestable
      refine hown _ _ _ _ _ _ _ hc hreq ev' hev id subscriptionId' r' hr' ?_
      rw [← generateChangeRequestId_eq_iff, ← hr'.id_eq, ← hr.id_eq]
    refine ⟨along_snoc.2 ⟨hk.distinct, hfresh⟩, fun id subscriptionId r hsince => ?_⟩
    rcases since_snoc.1 hsince with ⟨user, newTierId, -, -, hg⟩ | ⟨hsince, hset⟩
    · exact hg
    · have hnot (subscriptionId' : String) (r' : TierChangeRequest) :
          ¬ Requests id subscriptionId' r' ⟨w, i, w'⟩ := by
        intro hr
        obtain ⟨tr₁, ev, tr₂, rfl, hev, -⟩ := hsince
        exact hfresh _ _ _ hr ev (by simp) _ _ hev
      rw [h.changeRequest_eq hset hnot]
      exact hk.stored id subscriptionId r hsince

end

/-! ## Runs -/

/-- **The requests of a run are kept throughout exactly if no two of them are made at times with the
    same last 8 digits.** -/
theorem requests_kept_iff {w₀ w : World} {tr : List (Ev me)} (h : Run Step w₀ tr w) :
    (RequestsKept tr w ∧ Along (fun tr ev => RequestsKept tr ev.pre) tr) ↔ Along OwnTime tr :=
  Run.always_iff (fun _ _ _ hs hk => hs.requestsKept hk) h
    ⟨along_nil _, fun _ _ _ hsince => absurd hsince not_since_nil⟩

/-- The last 8 digits of the time of a call for a request. -/
def Input.requestDigits (i : Input me) : Option ℕ :=
  match i.call with
  | .requestTierChange .. => some (i.env.now % 100000000)
  | _ => none

theorem along_ownTime_of_calls {is : List (Input me)} {w : World}
    (h : is.Pairwise fun i i' => i.requestDigits = none ∨ i.requestDigits ≠ i'.requestDigits) :
    Along OwnTime (eventsFrom next w is) := by
  rw [← map_inp_eventsFrom next is w, List.pairwise_map] at h
  refine (along_of_pairwise h).mono fun tr ev hall => ?_
  intro user subscriptionId newTierId _ _ _ _ hc _ ev' hev id subscriptionId' r hr hmod
  obtain ⟨user', newTierId', hc', -⟩ := hr
  have hd := hall ev' hev
  simp only [Input.requestDigits, hc, hc', hmod] at hd
  simp at hd

/-- `⟨2⟩` and `⟨3⟩` subscribe to the basic tier, next to which there is a better one. -/
def tierCalls : List (Input ⟨0⟩) :=
  [hubCall 1 (.setUsdcContract ⟨1⟩ ⟨9⟩),
    hubCall 2 (.createTier ⟨1⟩ ⟨"basic", "Basic", .basic, 100, 1000, [], 1, 1⟩),
    hubCall 3 (.createTier ⟨1⟩ ⟨"pro", "Pro", .pro, 300, 3000, [], 1, 1⟩),
    hubCall 4 (.createSubscriptionWithTier "a" ⟨2⟩ ⟨9⟩ "basic" .monthly none),
    hubCall 5 (.createSubscriptionWithTier "b" ⟨3⟩ ⟨9⟩ "basic" .monthly none)]

/-- `⟨2⟩` requests a better tier. -/
def requestCalls : List (Input ⟨0⟩) :=
  tierCalls ++ [hubCall 6 (.requestTierChange ⟨2⟩ "a" "pro")]

/-- Requests at the times 6 and 7 are kept. -/
theorem requests_kept_iff_apart :
    RequestsKept
      (eventsFrom next start (tierCalls ++ [hubCall 6 (.requestTierChange ⟨2⟩ "a" "pro"),
        hubCall 7 (.requestTierChange ⟨3⟩ "b" "pro")]))
      ((tierCalls ++ [hubCall 6 (.requestTierChange ⟨2⟩ "a" "pro"),
        hubCall 7 (.requestTierChange ⟨3⟩ "b" "pro")]).foldl next start) :=
  ((requests_kept_iff (run_calls _ (by decide))).2 (along_ownTime_of_calls (by decide))).1

/-- The request of `⟨3⟩` at the time 6 has the id that `⟨2⟩` has been given for one. -/
theorem requests_collide : ¬ ∀ (tr : List (Ev ⟨0⟩)) (w : World), Run Step start tr w →
    RequestsKept tr w := by
  intro h
  have hk := h _ _ (run_calls (tierCalls ++ [hubCall 6 (.requestTierChange ⟨2⟩ "a" "pro")] ++
    [hubCall 6 (.requestTierChange ⟨3⟩ "b" "pro")]) (by decide))
  rw [eventsFrom_append, eventsFrom_append] at hk
  obtain ⟨r, hr⟩ := Step.requests_of_ok (w := tierCalls.foldl next start)
    (i := hubCall 6 (.requestTierChange ⟨2⟩ "a" "pro")) (step_next (by decide)) rfl (by decide)
  obtain ⟨r', hr'⟩ := Step.requests_of_ok
    (w := (tierCalls ++ [hubCall 6 (.requestTierChange ⟨2⟩ "a" "pro")]).foldl next start)
    (i := hubCall 6 (.requestTierChange ⟨3⟩ "b" "pro")) (step_next (by decide)) rfl (by decide)
  exact (along_snoc.1 hk.distinct).2 _ _ _ hr' _ (List.mem_append_right _ (.head _)) _ _ hr

end ManageHub
