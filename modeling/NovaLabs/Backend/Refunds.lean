/-
  Refunds.

  A refund checks the payment, asks Paystack, and updates the payment where it is SUCCESS still.
  Between the check and the update Paystack may accept another refund.
-/
import NovaLabs.Backend.Effects

namespace Backend

open Lib

/-- Any number of refunds of one payment. -/
def refunds (paymentId : Uuid) :
    System Answer DbServer (Uuid × UserRole) World HttpError (Option (Uuid × Payment)) where
  program caller := refundPayment paymentId caller.1 caller.2
  exec := exec

abbrev Refunds := Pool Answer DbServer HttpError (Option (Uuid × Payment))

abbrev RefundEv := Event Refunds (Turn (Uuid × UserRole) World)

/-- Paystack is asked for a refund, and accepts. -/
def Query.refundAccepted (w : World) : Query → Bool
  | .initiateRefund _ => w.refunded
  | _ => false

def refundAccepted (e : RefundEv) : Bool :=
  match e.inp with
  | .call _ _ => false
  | .step t w => (e.pre.asked t).any (·.refundAccepted w)

/-- The stored status of a payment. -/
def statusOf (s : DbServer) (id : Uuid) : Option PaymentStatus := (s.db.payment id).map (·.status)

/-- Where Paystack accepts, the payment is SUCCESS, and no other refund is about to update it. -/
def AcceptsAlone (id : Uuid) (e : RefundEv) : Prop :=
  refundAccepted e → statusOf e.pre.shared id = some .success ∧
    ∀ t, ¬ e.pre.Asks t (.updatePayments (.byId id) .success .refunded)

/-! ## The protocol -/

/-- How far a refund is: before its first read; before, and after, Paystack has accepted; after the
    update; at the end.  It goes astray where its last read does not show a refund. -/
inductive RefundStage where
  | reading
  | asking
  | accepted
  | updated
  | returned
  | failed
  | astray

namespace RefundStage

def permits (id : Uuid) : RefundStage → Query → Prop
  | reading, op | updated, op => op = .findPayment (.byId id)
  | asking, op => ∃ reference, op = .initiateRefund reference
  | accepted, op => op = .updatePayments (.byId id) .success .refunded
  | _, _ => False

def after : RefundStage → (op : Query) → Answer op → RefundStage
  | reading, .findPayment _, some (_, payment) =>
    if payment.status = .success then asking else failed
  | asking, .initiateRefund _, true => accepted
  | accepted, .updatePayments _ _ _, _ => updated
  | updated, .findPayment _, some (_, payment) =>
    if payment.status = .refunded then returned else astray
  | updated, .findPayment _, none => astray
  | _, _, _ => failed

/-- How a refund ends. -/
def Ends : RefundStage → Except HttpError (Option (Uuid × Payment)) → Prop
  | asking, r | failed, r => ∃ e, r = .error e
  | returned, r => ∃ a, r = .ok a
  | astray, _ => True
  | _, _ => False

/-- What a stage says of the status of the payment. -/
def Fits (status : Option PaymentStatus) : RefundStage → Prop
  | reading | failed => True
  | asking | accepted => status = some .success ∨ status = some .refunded
  | updated | returned => status = some .refunded
  | astray => False

end RefundStage

def refundProtocol (id : Uuid) : Protocol Answer RefundStage where
  permits := RefundStage.permits id
  after := RefundStage.after

theorem refundPayment_refunds (id userId : Uuid) (userRole : UserRole) :
    Meets (refundProtocol id) .reading (refundPayment id userId userRole) RefundStage.Ends := by
  refine Meets.query rfl fun found => Meets.okOr (fun hnone => ?_) fun ⟨id', payment⟩ hfound => ?_
  · cases hnone
    exact ⟨_, rfl⟩
  cases hfound
  have hfailed (e : HttpError) : RefundStage.Ends
      ((refundProtocol id).after .reading (.findPayment (.byId id)) (some (id', payment)))
      (.error e) := by
    change RefundStage.Ends (if payment.status = .success then _ else _) _
    split_ifs <;> exact ⟨e, rfl⟩
  refine Meets.failIf (fun _ => hfailed _) fun _ =>
    Meets.failIf (fun _ => hfailed _) fun hsuccess => ?_
  have hasking : (refundProtocol id).after .reading (.findPayment (.byId id)) (some (id', payment)) =
      .asking := if_pos (not_not.1 hsuccess)
  rw [hasking]
  refine Meets.query ⟨_, rfl⟩ fun accepted => Meets.failIf (fun hno => ?_) fun hyes => ?_
  · rw [eq_false_of_ne_true hno]
    exact ⟨_, rfl⟩
  rw [not_not.1 hyes]
  refine Meets.query rfl fun affected => Meets.query rfl fun current => ?_
  cases current with
  | none => exact Meets.ite (fun _ => trivial) fun _ => trivial
  | some current =>
    obtain ⟨id'', current⟩ := current
    change Meets _ (if current.status = .refunded then RefundStage.returned else .astray) _ _
    by_cases hrefunded : current.status = .refunded
    · rw [if_pos hrefunded]
      refine Meets.ite (fun _ => ?_) fun _ => ⟨_, rfl⟩
      exact Meets.failIf (fun hno => absurd hrefunded hno) fun _ => ⟨_, rfl⟩
    · rw [if_neg hrefunded]
      refine Meets.ite (fun _ => ?_) fun _ => trivial
      exact Meets.failIf (fun _ => trivial) fun _ => trivial

/-! ## What holds in each state -/

/-- What the history, the store and the stages of the sessions have in common. -/
structure RefundsSafe (id : Uuid) (tr : List RefundEv) (s : DbServer)
    (qs : ℕ → Option RefundStage) : Prop where
  active : s.active = ∅
  fits : ∀ t q, qs t = some q → q.Fits (statusOf s id)
  refunded : statusOf s id = some .refunded → ∃ t, qs t = some .updated ∨ qs t = some .returned
  early : tr.countP refundAccepted = 0 →
    statusOf s id ≠ some .refunded ∧ ∀ t, qs t ≠ some .accepted
  late : tr.countP refundAccepted ≠ 0 →
    statusOf s id = some .refunded ∨ ∃ t, qs t = some .accepted

section
variable {id : Uuid} {s s' : DbServer} {t : ℕ} {w : World} {op : Query} {a : Answer op}
  {q : RefundStage} {qs : ℕ → Option RefundStage} {tr : List RefundEv} {e : RefundEv}
  {status : Option PaymentStatus}

/-- A refund leaves no stage that fits the payment. -/
theorem RefundStage.Fits.refund (h : q.Fits status) (hs : status = some .success) :
    q.Fits (some .refunded) := by
  subst hs
  cases q with
  | reading | failed => trivial
  | asking | accepted => exact Or.inr rfl
  | updated | returned => cases h
  | astray => exact h

theorem refundAccepted_call {t : ℕ} {caller : Uuid × UserRole} (h : e.inp = .call t caller) :
    refundAccepted e = false := by
  rw [refundAccepted, h]

theorem refundAccepted_step {query : Query} (h : e.inp = .step t w) (ha : e.pre.Asks t query) :
    refundAccepted e = query.refundAccepted w := by
  obtain ⟨next, hp⟩ := ha
  rw [refundAccepted, h]
  simp only [Pool.asked, hp, Option.any_some]

theorem asks_of_accepted (h : refundAccepted e) :
    ∃ t reference, e.pre.Asks t (.initiateRefund reference) := by
  unfold refundAccepted at h
  split at h
  · cases h
  · next t w _ =>
    obtain ⟨op, hop, haccepted⟩ := (Option.any_eq_true _ _).1 h
    cases op with
    | initiateRefund reference => exact ⟨t, reference, Pool.asks_of_asked hop⟩
    | _ => cases haccepted

theorem statusOf_update (hs : s.active = ∅) {n : ℕ}
    (h : exec t w s (.updatePayments (.byId id) .success .refunded) = some (n, s')) :
    s'.active = ∅ ∧ statusOf s' id =
      if statusOf s id = some .success then some .refunded else statusOf s id := by
  obtain ⟨-, -, rfl⟩ := update_eq_some.1 h
  have hx : s.active.lookup t = none := by rw [hs, Finmap.lookup_empty]
  have hcell (o : Option Payment) : Option.map (·.status)
      ((o.bind (paymentUpdate (.byId id) .success .refunded (.payment id))).or o) =
        if o.map (·.status) = some .success then some .refunded else o.map (·.status) := by
    cases o with
    | none => rfl
    | some payment =>
      by_cases hsuccess : payment.status = .success <;>
        simp [paymentUpdate, PaymentWhere.selects, hsuccess]
  rw [Server.put_none hx]
  refine ⟨hs, ?_⟩
  simp only [statusOf, Database.payment, DbServer.db, DbServer.view, Server.view_none hx,
    Storage.lookup_union, Storage.lookup_changes]
  exact hcell _

/-- A read of the payment. -/
theorem findPayment_status (hs : s.active = ∅) {found : Option (Uuid × Payment)}
    (h : exec t w s (.findPayment (.byId id)) = some (found, s')) :
    s' = s ∧ found.map (·.2.status) = statusOf s id := by
  have hview : s.view t = s.db := Server.view_none (by rw [hs, Finmap.lookup_empty])
  have hsame : s' = s := by
    obtain ⟨_, -, heq⟩ := Option.map_eq_some_iff.1 h
    exact (Prod.mk.inj heq).2.symm
  refine ⟨hsame, ?_⟩
  cases found with
  | some found =>
    obtain ⟨hfound, hselects⟩ := findPayment_some h
    rw [hview, of_decide_eq_true hselects] at hfound
    rw [statusOf, hfound]
    rfl
  | none =>
    cases hp : s.db.payment id with
    | none => rw [statusOf, hp]; rfl
    | some payment => exact absurd (decide_eq_true rfl) (findPayment_none h (hview ▸ hp))

theorem countP_snoc : (tr ++ [e]).countP refundAccepted =
    tr.countP refundAccepted + if refundAccepted e then 1 else 0 := by
  rw [List.countP_append, List.countP_singleton]

/-- A session goes on, and the payment stays as it is. -/
theorem RefundsSafe.goesOn (h : RefundsSafe id tr s qs)
    (haccepted : refundAccepted e = true ↔ q = .accepted) (hfits : q.Fits (statusOf s id))
    (hbefore : qs t ≠ some .accepted)
    (hdone : qs t = some .updated ∨ qs t = some .returned → q = .returned) :
    RefundsSafe id (tr ++ [e]) s (Function.update qs t (some q)) where
  active := h.active
  fits t' q' hq' := by
    rcases update_stage hq' with ⟨-, rfl⟩ | ⟨-, hq'⟩
    · exact hfits
    · exact h.fits t' q' hq'
  refunded hrefunded := by
    obtain ⟨t', ht'⟩ := h.refunded hrefunded
    by_cases ht : t' = t
    · subst ht
      exact ⟨t', Or.inr (by rw [Function.update_self, hdone ht'])⟩
    · exact ⟨t', by rwa [Function.update_of_ne ht]⟩
  early hcount := by
    rw [countP_snoc, Nat.add_eq_zero_iff] at hcount
    obtain ⟨hstatus, hnone⟩ := h.early hcount.1
    refine ⟨hstatus, fun t' ht' => ?_⟩
    rcases update_stage ht' with ⟨-, hq⟩ | ⟨-, ht'⟩
    · rw [if_pos (haccepted.2 hq.symm)] at hcount
      cases hcount.2
    · exact hnone t' ht'
  late hcount := by
    by_cases hq : q = .accepted
    · exact Or.inr ⟨t, by rw [Function.update_self, hq]⟩
    · rw [countP_snoc, if_neg (fun he => hq (haccepted.1 he)), add_zero] at hcount
      refine (h.late hcount).imp_right fun ⟨t', ht'⟩ => ⟨t', ?_⟩
      rwa [Function.update_of_ne]
      rintro rfl
      exact hbefore ht'

theorem RefundsSafe.call (h : RefundsSafe id tr s qs) {caller : Uuid × UserRole}
    (he : e.inp = .call t caller) (ht : qs t = none) :
    RefundsSafe id (tr ++ [e]) s (Function.update qs t (some .reading)) := by
  refine h.goesOn ?_ trivial (by rw [ht]; nofun) ?_
  · rw [refundAccepted_call he]
    exact iff_of_false Bool.noConfusion RefundStage.noConfusion
  · rw [ht]
    rintro (hq | hq) <;> cases hq

/-- The UPDATE makes the payment REFUNDED. -/
theorem RefundsSafe.update (h : RefundsSafe id tr s qs) (ht : qs t = some .accepted)
    (he : refundAccepted e = false) {n : ℕ}
    (hexec : exec t w s (.updatePayments (.byId id) .success .refunded) = some (n, s')) :
    RefundsSafe id (tr ++ [e]) s' (Function.update qs t (some .updated)) := by
  obtain ⟨hactive, hstatus⟩ := statusOf_update h.active hexec
  have hrefunded : statusOf s' id = some .refunded := by
    rw [hstatus]
    split_ifs with hsuccess
    · rfl
    · exact (h.fits t _ ht).resolve_left hsuccess
  refine ⟨hactive, fun t' q' hq' => ?_, fun _ => ⟨t, Or.inl (Function.update_self ..)⟩,
    fun hcount => ?_, fun _ => Or.inl hrefunded⟩
  · rcases update_stage hq' with ⟨-, rfl⟩ | ⟨-, hq'⟩
    · exact hrefunded
    · have hfits := h.fits t' q' hq'
      rw [hstatus]
      split_ifs with hsuccess
      · exact hfits.refund hsuccess
      · exact hfits
  · rw [countP_snoc, he] at hcount
    exact absurd ht ((h.early hcount).2 t)

theorem RefundsSafe.step (h : RefundsSafe id tr e.pre.shared qs)
    (hans : System.Answered (refunds id) (refundProtocol id) RefundStage.Ends e qs t w q op a) :
    RefundsSafe id (tr ++ [e]) e.post.shared
      (Function.update qs t (some (RefundStage.after q op a))) := by
  have haccepted := refundAccepted_step hans.inp hans.asks
  have hexec : exec t w e.pre.shared op = some (a, e.post.shared) := hans.exec
  have hstage := hans.stage
  have hfits := h.fits t q hstage
  have hpermits : q.permits id op := hans.permits
  cases q with
  | reading =>
    cases hpermits
    obtain ⟨hsame, hfound⟩ := findPayment_status h.active hexec
    rw [hsame]
    have hstage' : RefundStage.after .reading (.findPayment (.byId id)) a = .failed ∨
        RefundStage.after .reading (.findPayment (.byId id)) a = .asking ∧
          statusOf e.pre.shared id = some .success := by
      cases a with
      | none => exact Or.inl rfl
      | some found =>
        by_cases hsuccess : found.2.status = .success
        · exact Or.inr ⟨if_pos hsuccess, by rw [← hfound, Option.map_some, hsuccess]⟩
        · exact Or.inl (if_neg hsuccess)
    refine h.goesOn ?_ ?_ (by rw [hstage]; nofun) (by rw [hstage]; rintro (hq | hq) <;> cases hq)
    · rw [haccepted]
      rcases hstage' with hq | ⟨hq, -⟩ <;>
        exact iff_of_false Bool.noConfusion (by rw [hq]; exact RefundStage.noConfusion)
    · rcases hstage' with hq | ⟨hq, hsuccess⟩
      · rw [hq]
        trivial
      · rw [hq]
        exact Or.inl hsuccess
  | asking =>
    obtain ⟨reference, rfl⟩ := hpermits
    obtain ⟨rfl, hsame⟩ := Prod.mk.inj (Option.some.inj hexec)
    rw [← hsame]
    refine h.goesOn ?_ ?_ (by rw [hstage]; nofun) (by rw [hstage]; rintro (hq | hq) <;> cases hq)
    · rw [haccepted]
      change w.refunded = true ↔ RefundStage.after _ (.initiateRefund reference) w.refunded = _
      cases w.refunded
      · exact iff_of_false Bool.noConfusion RefundStage.noConfusion
      · exact iff_of_true rfl rfl
    · cases w.refunded
      · trivial
      · exact hfits
  | accepted =>
    cases hpermits
    exact h.update hstage haccepted hexec
  | updated =>
    cases hpermits
    obtain ⟨hsame, hfound⟩ := findPayment_status h.active hexec
    rw [hsame]
    have hreturned : RefundStage.after .updated (.findPayment (.byId id)) a = .returned := by
      rw [show statusOf e.pre.shared id = some .refunded from hfits] at hfound
      obtain ⟨found, rfl, hrefunded⟩ := Option.map_eq_some_iff.1 hfound
      exact if_pos hrefunded
    rw [hreturned]
    exact h.goesOn (by rw [haccepted]; exact iff_of_false Bool.noConfusion RefundStage.noConfusion)
      hfits (by rw [hstage]; nofun) fun _ => rfl
  | returned | failed | astray => exact hpermits.elim

theorem refundsSafe_of_run {db : Database} {p : Refunds}
    (h : Run (refunds id).Steps { shared := { stored := db } } tr p)
    (hdb : ∀ payment ∈ db.payment id, payment.status ≠ .refunded) :
    ∃ qs, Tracks (refundProtocol id) RefundStage.Ends p qs ∧ RefundsSafe id tr p.shared qs := by
  refine System.invariant (J := RefundsSafe id) (C := fun _ _ => True)
    (fun caller => refundPayment_refunds id caller.1 caller.2)
    (fun tr e t caller qs he ht hshared _ hJ => ?_) (fun tr e qs t w q op a hans _ hJ => hJ.step hans)
    h .idle ?_ fun _ _ _ _ => trivial
  · rw [hshared]
    exact hJ.call he ht
  · have hnot : statusOf { stored := db } id ≠ some .refunded := by
      intro hrefunded
      obtain ⟨payment, hpayment, hstatus⟩ := Option.map_eq_some_iff.1 hrefunded
      exact hdb payment hpayment hstatus
    exact ⟨rfl, nofun, fun hrefunded => absurd hrefunded hnot, fun _ => ⟨hnot, nofun⟩,
      fun hcount => absurd rfl hcount⟩

/-! ## At most one refund -/

/-- Paystack accepts alone exactly if it accepts for the first time. -/
theorem RefundsSafe.acceptsAlone_iff (h : RefundsSafe id tr e.pre.shared qs)
    (htracks : Tracks (refundProtocol id) RefundStage.Ends e.pre qs) :
    AcceptsAlone id e ↔ (refundAccepted e → tr.countP refundAccepted = 0) := by
  refine forall_congr' fun haccepted => ⟨fun ⟨hsuccess, hnone⟩ => ?_, fun hcount => ?_⟩
  · by_contra hcount
    rcases h.late hcount with hrefunded | ⟨t, ht⟩
    · cases hsuccess.symm.trans hrefunded
    · rcases htracks.ended_or_asks ht with ⟨r, -, hend⟩ | ⟨op, hasks, rfl⟩
      · exact hend
      · exact hnone t hasks
  · obtain ⟨hstatus, hnone⟩ := h.early hcount
    refine ⟨?_, fun t hasks => ?_⟩
    · obtain ⟨t, reference, hasks⟩ := asks_of_accepted haccepted
      obtain ⟨q, hq, hp⟩ := htracks.asks hasks
      cases q with
      | asking => exact (h.fits t _ hq).resolve_right hstatus
      | reading | accepted | updated => cases hp
      | returned | failed | astray => exact hp.elim
    · obtain ⟨q, hq, hp⟩ := htracks.asks hasks
      cases q with
      | accepted => exact hnone t hq
      | reading | updated => cases hp
      | asking => cases hp.choose_spec
      | returned | failed | astray => exact hp

theorem accepted_once {db : Database} {p : Refunds}
    (h : Run (refunds id).Steps { shared := { stored := db } } tr p)
    (hdb : ∀ payment ∈ db.payment id, payment.status ≠ .refunded) :
    tr.countP refundAccepted ≤ 1 ↔ ∀ e ∈ tr, AcceptsAlone id e := by
  induction h with
  | nil => exact iff_of_true (Nat.zero_le 1) nofun
  | @snoc tr p i p' hrun hs ih =>
    obtain ⟨qs, htracks, hJ⟩ := refundsSafe_of_run hrun hdb
    have hlast := hJ.acceptsAlone_iff (e := ⟨p, i, p'⟩) htracks
    rw [countP_snoc, List.forall_mem_append, List.forall_mem_singleton, ← ih, hlast]
    split_ifs with haccepted
    · simp only [haccepted, forall_const]
      omega
    · simp only [haccepted, Bool.false_eq_true, false_imp_iff, and_true, add_zero]

/-- Once all refunds have ended, the payment is REFUNDED exactly if one of them has returned. -/
theorem refunded_iff_returned {db : Database} {p : Refunds}
    (h : Run (refunds id).Steps { shared := { stored := db } } tr p)
    (hdb : ∀ payment ∈ db.payment id, payment.status ≠ .refunded)
    (hended : ∀ t op, ¬ p.Asks t op) :
    statusOf p.shared id = some .refunded ↔ ∃ t a, p.Ended t (.ok a) := by
  obtain ⟨qs, htracks, hJ⟩ := refundsSafe_of_run h hdb
  constructor
  · intro hrefunded
    obtain ⟨t, ht⟩ := hJ.refunded hrefunded
    rcases ht with ht | ht
    · rcases htracks.ended_or_asks ht with ⟨r, -, hend⟩ | ⟨op, hasks, -⟩
      · exact hend.elim
      · exact absurd hasks (hended t op)
    · obtain ⟨r, hr, a, rfl⟩ := htracks.ended_of_stuck ht fun _ hp => hp
      exact ⟨t, a, hr⟩
  · rintro ⟨t, a, ht⟩
    obtain ⟨q, hq, hend⟩ := htracks.ended ht
    have hfits := hJ.fits t q hq
    cases q with
    | returned => exact hfits
    | asking | failed => cases hend.choose_spec
    | reading | accepted | updated => exact hend.elim
    | astray => exact hfits.elim

/-- **Paystack accepts one refund at most, and the payment is REFUNDED exactly if a refund has
    returned, exactly if Paystack never accepts between another's acceptance and the end of its
    UPDATE, nor after.** -/
theorem one_refund {db : Database} {p : Refunds}
    (h : Run (refunds id).Steps { shared := { stored := db } } tr p)
    (hdb : ∀ payment ∈ db.payment id, payment.status ≠ .refunded) :
    (tr.countP refundAccepted ≤ 1 ∧ ((∀ t op, ¬ p.Asks t op) →
      (statusOf p.shared id = some .refunded ↔ ∃ t a, p.Ended t (.ok a)))) ↔
      ∀ e ∈ tr, AcceptsAlone id e := by
  rw [← accepted_once h hdb]
  exact and_iff_left (refunded_iff_returned h hdb)

end

/-! ## Examples -/

/-- A payment that "u" has paid. -/
def refundable : Database :=
  Finmap.insert (.payment "p")
    { bookingId := "b", userId := some "u", amount := 4000, provider := .paystack, status := .success,
      providerReference := some "p" } ∅

/-- "u" asks for a refund, and asks again afterwards. -/
theorem one_refund_twice : ∃ tr p,
    Run (refunds "p").Steps { shared := { stored := refundable } } tr p ∧
      tr.countP refundAccepted = 1 ∧ ∀ e ∈ tr, AcceptsAlone "p" e := by
  have hplay : ((refunds "p").play { shared := { stored := refundable } }
      [.call 0 ("u", .user), .step 0 { row := some "p" }, .step 0 {}, .step 0 {},
        .step 0 { row := some "p" }, .call 1 ("u", .user), .step 1 { row := some "p" }]).any fun x =>
      x.1.countP refundAccepted = 1 ∧ statusOf x.2.shared "p" = some .refunded ∧
        (x.2.returned 0).isSome := by decide
  obtain ⟨⟨tr, p⟩, hplay, hfacts⟩ := (Option.any_eq_true _ _).1 hplay
  obtain ⟨hcount, hrefunded, hreturned⟩ := of_decide_eq_true hfacts
  obtain ⟨a, ha⟩ := Option.isSome_iff_exists.1 hreturned
  refine ⟨tr, p, System.run_play hplay, hcount, ?_⟩
  refine (one_refund (System.run_play hplay) fun payment hp => ?_).1 ⟨hcount.le, fun _ => ?_⟩
  · cases hp
    exact PaymentStatus.noConfusion
  · exact iff_of_true hrefunded ⟨0, a, Pool.returned_eq_some.1 ha⟩

/-- Two refunds check the payment, and Paystack accepts both. -/
theorem refunded_twice : ¬ ∀ (id : Uuid) (db : Database) (tr : List RefundEv) (p : Refunds),
    (∀ payment ∈ db.payment id, payment.status ≠ .refunded) →
      Run (refunds id).Steps { shared := { stored := db } } tr p →
        tr.countP refundAccepted ≤ 1 ∧ ((∀ t op, ¬ p.Asks t op) →
          (statusOf p.shared id = some .refunded ↔ ∃ t a, p.Ended t (.ok a))) := by
  intro hclaim
  have hplay : ((refunds "p").play { shared := { stored := refundable } }
      [.call 0 ("u", .user), .step 0 { row := some "p" }, .call 1 ("a", .admin),
        .step 1 { row := some "p" }, .step 0 {}, .step 1 {}, .step 0 {}, .step 1 {},
        .step 0 { row := some "p" }, .step 1 { row := some "p" }]).any fun x =>
      x.1.countP refundAccepted = 2 := by decide
  obtain ⟨⟨tr, p⟩, hplay, hcount⟩ := (Option.any_eq_true _ _).1 hplay
  have hone := (hclaim "p" refundable tr p (fun payment hp => by
    cases hp
    exact PaymentStatus.noConfusion) (System.run_play hplay)).1
  rw [of_decide_eq_true hcount] at hone
  exact absurd hone (by decide)

end Backend
