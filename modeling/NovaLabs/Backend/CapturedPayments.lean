/-
  Whether a captured payment is honoured: one delivery of its `charge.success`, with sweeps before,
  during and after it.

  A sweep expires the booking and fails the payment at once, when it commits.  The delivery updates
  the payment first, and later the booking.  A booking that is EXPIRED when the delivery reads it is
  reactivated; one that becomes so afterwards is not, and neither is a payment that is FAILED.
-/
import NovaLabs.Backend.DeliveryResolution
import NovaLabs.Backend.PaymentProtocol

namespace Backend

open Lib

/-! ## Runs -/

/-- The delivery's query, if the turn answers one, finds its row. -/
abbrev FindsRows (t : ℕ) (id bookingId : Uuid) (e : Ev) : Prop :=
  OnQuery (fun t' _ op => t' = t → op.finds id bookingId e.pre.shared.db) e

/-- Neither the payment nor the booking is changed. -/
def SparesRows (id bookingId : Uuid) (e : Ev) : Prop :=
  e.post.shared.db.payment id = e.pre.shared.db.payment id ∧
    e.post.shared.db.booking bookingId = e.pre.shared.db.booking bookingId

/-- A reference has been given out for the payment.  Then a charge is delivered under it, which is
    accepted and handled to its end; but for sweeps, nobody else changes the payment or its booking;
    and the seats of the booking stay free. -/
structure Capture (cfg : Config) (t : ℕ) (id bookingId : Uuid) (reference : String)
    (tr₀ tr : List Ev) (p₀ p : Sessions) : Prop where
  before : ∃ db, Run (backend cfg).Steps (idle db) tr₀ p₀
  run : Run (backend cfg).Steps p₀ tr p
  issued : ∃ t₀ response, p₀.Ended t₀ (.ok response) ∧ response.issued = some (id, reference)
  payment : PaymentIs id (Payment.Awaited bookingId) p₀.shared
  booking : BookingIs bookingId (fun v => v.status.awaits) p₀.shared
  delivered : ∃ d, cfg.parseBody d.rawBody = .event "charge.success" (some reference) ∧
    Called tr t (.handleWebhook d)
  accepted : Starts Query.looksUp tr t
  ended : ∃ r, p.Ended t r
  others : Along (fun tr e => ∀ t' w, e.inp = .step t' w → t' = t ∨
    Called (tr₀ ++ tr) t' .expireStalePendingBookings ∨ SparesRows id bookingId e) tr
  seats : ∀ e ∈ tr, SeatsFree e.pre.shared.db bookingId
  unique : ∀ e ∈ tr, ∀ id' v, e.pre.shared.db.payment id' = some v →
    v.providerReference = some reference → id' = id

/-- The store, with what the delivery has done. -/
def watch (t : ℕ) (id bookingId : Uuid) (tr : List Ev) (s : DbServer) : Watched where
  server := s
  looked := Starts Query.looksUp tr t
  finds := ∀ e ∈ tr, FindsRows t id bookingId e

section
variable {cfg : Config} {t : ℕ} {id bookingId : Uuid} {reference : String} {tr₀ tr : List Ev}
  {p₀ p : Sessions} {e : Ev}

/-- A turn that is not the delivery's, and that sweeps or spares the rows. -/
theorem undisturbed_of_change (hsound : e.pre.shared.Sound Discipline.free)
    (hstep : (backend cfg).Steps e.pre e.inp e.post) (hother : ∀ w, e.inp ≠ .step t w)
    (hrows : ∀ t' w, e.inp = .step t' w →
      Swept e.pre.shared.db e.post.shared.db ∨ SparesRows id bookingId e) :
    Undisturbed t id bookingId (watch t id bookingId tr e.pre.shared)
      (watch t id bookingId (tr ++ [e]) e.post.shared) := by
  have hlooked : Starts Query.looksUp (tr ++ [e]) t ↔ Starts Query.looksUp tr t :=
    starts_snoc.trans (or_iff_left fun ⟨w, _, hinp, _⟩ => hother w hinp)
  have hfinds : (∀ e' ∈ tr ++ [e], FindsRows t id bookingId e') ↔
      ∀ e' ∈ tr, FindsRows t id bookingId e' := by
    rw [List.forall_mem_append, List.forall_mem_singleton]
    refine and_iff_left fun t' w op hinp _ ht => ?_
    exact absurd (ht ▸ hinp) (hother w)
  rcases hstep.cases with ⟨t', r, hinp, -, hshared, -⟩ |
    ⟨t', w, op, next, a, hinp, -, hexec, -⟩
  · refine ⟨?_, fun x k _ _ => ?_, fun v hv => Or.inl ?_, fun v hv => Or.inl ?_, hlooked, hfinds⟩
    · exact congrArg (·.active.lookup t) hshared
    · exact congrArg (·.db.lookup k) hshared
    · exact (congrArg (·.db.payment id) hshared).trans hv
    · exact (congrArg (·.db.booking bookingId) hshared).trans hv
  · have ht : t ≠ t' := fun ht => hother w (ht ▸ hinp)
    have hchange := exec_free hexec
    refine ⟨hchange.active ht, fun x k hx hk => hchange.kept hsound ht hx hk, fun v hv => ?_,
      fun v hv => ?_, hlooked, hfinds⟩
    · rcases hrows t' w hinp with hswept | ⟨hpayment, -⟩
      · exact hswept.payment id v hv
      · exact Or.inl (hpayment.trans hv)
    · rcases hrows t' w hinp with hswept | ⟨-, hbooking⟩
      · exact hswept.booking bookingId v hv
      · exact Or.inl (hbooking.trans hv)

/-- **In a run in which a charge is captured, and only sweeps interfere, the payment ends SUCCESS
    and the booking CONFIRMED exactly if the delivery finds its rows: the payment under its
    reference, PENDING when it is marked, and the booking not EXPIRED when it is confirmed.** -/
theorem captured_honoured_iff (h : Capture cfg t id bookingId reference tr₀ tr p₀ p) :
    Honoured id bookingId p.shared.db ↔ ∀ e ∈ tr, FindsRows t id bookingId e := by
  obtain ⟨db, hbefore⟩ := h.before
  obtain ⟨d, hbody, hcalled⟩ := h.delivered
  have hsweeps := (sweeps_soundly (hbefore.append h.run)).1
  have hx := (sweeps_soundly hbefore).2 t (System.started_of_called h.run hcalled).1
  have hothers : Along (fun tr e => (∀ w, e.inp ≠ .step t w) →
      Undisturbed t id bookingId (watch t id bookingId tr e.pre.shared)
        (watch t id bookingId (tr ++ [e]) e.post.shared)) tr := by
    rintro tr₁ e tr₂ rfl hother
    obtain ⟨hsound, hswept⟩ := hsweeps (tr₀ ++ tr₁) e tr₂ (List.append_assoc ..).symm
    refine undisturbed_of_change hsound h.run.split.2.1 hother fun t' w hinp => ?_
    rcases h.others tr₁ e tr₂ rfl t' w hinp with rfl | hcalled | hspares
    · exact absurd hinp (hother w)
    · exact Or.inl (hswept t' w hinp hcalled)
    · exact Or.inr hspares
  have hown : Along (fun tr e => ∀ w op a, e.inp = .step t w → e.pre.Asks t op →
      exec t w e.pre.shared op = some (a, e.post.shared) →
        Makes t id bookingId reference op (watch t id bookingId tr e.pre.shared) a
          (watch t id bookingId (tr ++ [e]) e.post.shared)) tr := by
    rintro tr₁ e tr₂ rfl w op a hinp hasks hexec
    have he : e ∈ tr₁ ++ e :: tr₂ := List.mem_append_right _ (.head _)
    refine ⟨⟨w, hexec⟩, h.seats e he, h.unique e he, starts_snoc.trans (or_congr_right ?_), ?_⟩
    · constructor
      · rintro ⟨w', op', -, hasks', hop⟩
        exact hasks'.unique hasks ▸ hop
      · exact fun hop => ⟨w, op, hinp, hasks, hop⟩
    · refine List.forall_mem_append.trans (and_congr_right fun _ => ?_)
      rw [List.forall_mem_singleton]
      constructor
      · exact fun hfinds => hfinds t w op hinp hasks rfl
      · rintro hfinds t' w' op' hinp' hasks' rfl
        exact hasks.unique hasks' ▸ hfinds
  have h₀ : Ready t id bookingId (watch t id bookingId [] p₀.shared) :=
    ⟨fun ⟨_, he, _⟩ => absurd he List.not_mem_nil, fun _ he => absurd he List.not_mem_nil, hx,
      h.payment, h.booking⟩
  have hprogram (w : Watched) (hw : Ready t id bookingId w) :
      Ensures (capture t id bookingId reference) (fun _ w => w.looked → Resolved t id bookingId w)
        ((backend cfg).program (.handleWebhook d)) w :=
    (handleWebhook_resolves hbody hw).seq (fun _ w hw => Ensures.stop stable_once_looked hw
      fun _ h => h) fun _ _ h => h
  obtain ⟨x, hp, hens⟩ := System.ensures (G := capture t id bookingId reference) h.run hothers hown
    stable_ready h₀ hcalled hprogram
  obtain ⟨r, hended⟩ := h.ended
  obtain rfl := Option.some.inj (hp.symm.trans hended)
  obtain ⟨-, -, ⟨hfinds, hpaid, hconfirmed⟩ | ⟨hno, hmissed⟩⟩ := hens _ (Rely.refl _ _) h.accepted
  · exact iff_of_true ⟨hpaid, hconfirmed⟩ hfinds
  · refine iff_of_false ?_ hno
    rintro ⟨⟨v, hv, hsuccess⟩, b, hb, hconfirmed⟩
    rcases hmissed with ⟨v', hv', hne⟩ | ⟨b', hb', hexpired⟩
    · obtain rfl := Option.some.inj (hv'.symm.trans hv)
      exact hne hsuccess
    · obtain rfl := Option.some.inj (hb'.symm.trans hb)
      cases hconfirmed.symm.trans hexpired

end

/-! ## Examples -/

/-- The booking's payment is initialized, and a sweep starts. -/
def issuance : List (Turn Request World) :=
  [.call 0 (.initializePayment "b" "u"), .step 0 {}, .step 0 {}, .step 0 {}, .step 0 { id := "p" },
    .step 0 { checkout := some ⟨"url", "p"⟩ }, .step 0 { row := some "p" }, .step 0 {},
    .call 2 .expireStalePendingBookings]

def delivery : Delivery := ⟨"p", "p", none⟩

/-- The turn starts the delivery, or is the delivery's or the sweep's. -/
def isCaptureTurn : Turn Request World → Bool
  | .call t _ => t = 1
  | .step t _ => t = 1 ∨ t = 2

/-- The payment "p" is initialized, its charge is looked up and handled, and the seat stays free. -/
def CapturedAt (x₀ x : List Ev × Sessions) : Prop :=
  (x₀.2.returned 0).any (·.issued = some ("p", "p")) ∧
  (x₀.2.shared.db.payment "p").any (fun v => v.bookingId = "b" ∧ v.status = .pending) ∧
  (x₀.2.shared.db.booking "b").any (·.status = .pending) ∧
  (x.1.any fun e => match e.inp with
    | .step t _ => t = 1 ∧ (e.pre.asked 1).any Query.looksUp
    | _ => false) ∧
  (x.2.returned 1).isSome ∧
  ∀ e ∈ x.1, SeatsFree e.pre.shared.db "b" ∧ e.pre.shared.db.All fun row v => match row, v with
    | .payment id, v => Payment.providerReference v = some "p" → id = "p"
    | _, _ => true

instance (x₀ x : List Ev × Sessions) : Decidable (CapturedAt x₀ x) :=
  inferInstanceAs (Decidable (_ ∧ _ ∧ _ ∧ _ ∧ _ ∧ _))

theorem capture_of_turns {turns : List (Turn Request World)} {x₀ x : List Ev × Sessions}
    (h₀ : (backend plainConfig).play (idle payable) issuance = some x₀)
    (h : (backend plainConfig).play x₀.2 turns = some x)
    (hcall : .call 1 (.handleWebhook delivery) ∈ turns) (hturns : turns.all isCaptureTurn)
    (hx : CapturedAt x₀ x) : Capture plainConfig 1 "p" "b" "p" x₀.1 x.1 x₀.2 x.2 := by
  obtain ⟨hissued, hpayment, hbooking, hlooks, hended, halways⟩ := hx
  obtain ⟨response, hreturned, hissued⟩ := (Option.any_eq_true _ _).1 hissued
  obtain ⟨v, hv, hawaited⟩ := (Option.any_eq_true _ _).1 hpayment
  obtain ⟨hb, hpending⟩ := of_decide_eq_true hawaited
  obtain ⟨b, hb', hpending'⟩ := (Option.any_eq_true _ _).1 hbooking
  obtain ⟨e, he, hlooks⟩ := List.any_eq_true.1 hlooks
  obtain ⟨r, hr⟩ := Option.isSome_iff_exists.1 hended
  have hsweep : Called x₀.1 2 .expireStalePendingBookings :=
    (System.called_play h₀).2 (by simp [issuance])
  have hlooked : Starts Query.looksUp x.1 1 := by
    split at hlooks
    · next t w hinp =>
      obtain ⟨rfl, hasked⟩ := of_decide_eq_true hlooks
      obtain ⟨op, hop, hlooks⟩ := (Option.any_eq_true _ _).1 hasked
      exact ⟨e, he, w, op, hinp, Pool.asks_of_asked hop, hlooks⟩
    · cases hlooks
  refine ⟨⟨payable, System.run_play h₀⟩, System.run_play h,
    ⟨0, response, Pool.returned_eq_some.1 hreturned, of_decide_eq_true hissued⟩,
    ⟨v, hv, hb, Or.inl hpending⟩, ⟨b, hb', Or.inl (of_decide_eq_true hpending')⟩,
    ⟨delivery, rfl, (System.called_play h).2 hcall⟩, hlooked, ⟨_, Pool.returned_eq_some.1 hr⟩, ?_,
    fun e he => (halways e he).1, fun e he id' v hv href => ?_⟩
  · intro tr₁ e tr₂ htr t w hinp
    have hturn := System.forall_inp h (P := fun i => isCaptureTurn i) (List.all_eq_true.1 hturns) e
      (by rw [htr]; simp)
    rw [hinp] at hturn
    rcases of_decide_eq_true hturn with rfl | rfl
    · exact Or.inl rfl
    · obtain ⟨e', he', hinp'⟩ := hsweep
      exact Or.inr (Or.inl ⟨e', List.mem_append_left _ he', hinp'⟩)
  · exact of_decide_eq_true (Database.all_iff.1 (halways e he).2 (.payment id') v hv) href

/-- The sweep expires the booking after the delivery has marked the payment, and the delivery
    reactivates it. -/
theorem captured_honoured_reactivated : ∃ tr₀ tr p₀ p,
    Capture plainConfig 1 "p" "b" "p" tr₀ tr p₀ p ∧
      (∃ e ∈ tr, (e.pre.shared.db.booking "b").any (·.status = .expired)) ∧
      Honoured "p" "b" p.shared.db := by
  have hplay : ((backend plainConfig).play (idle payable) issuance).any fun x₀ =>
      ((backend plainConfig).play x₀.2
        [.call 1 (.handleWebhook delivery), .step 1 { row := some "p" }, .step 1 {},
          .step 2 { now := 200 }, .step 2 { rows := ["b"] }, .step 2 {}, .step 2 {}, .step 2 {},
          .step 2 {}, .step 1 {}, .step 1 {}, .step 1 {}, .step 1 {}, .step 1 {}, .step 1 {},
          .step 1 {}, .step 1 {}, .step 1 {}, .step 1 {}, .step 1 {}, .step 1 {}, .step 1 {},
          .step 1 {}, .step 1 {}]).any fun x =>
        CapturedAt x₀ x ∧ (∀ e ∈ x.1, FindsRows 1 "p" "b" e) ∧
          ∃ e ∈ x.1, (e.pre.shared.db.booking "b").any (·.status = .expired) := by decide
  obtain ⟨x₀, hplay₀, hplay⟩ := (Option.any_eq_true _ _).1 hplay
  obtain ⟨x, hplay, hfacts⟩ := (Option.any_eq_true _ _).1 hplay
  obtain ⟨hcaptured, hfinds, hexpired⟩ := of_decide_eq_true hfacts
  have h := capture_of_turns hplay₀ hplay (.head _) (by decide) hcaptured
  exact ⟨x₀.1, x.1, x₀.2, x.2, h, hexpired, (captured_honoured_iff h).2 hfinds⟩

/-- The sweep is done before the charge is delivered: the payment is FAILED, and stays so. -/
theorem captured_dishonoured : ¬ ∀ cfg t id bookingId reference tr₀ tr p₀ p,
    Capture cfg t id bookingId reference tr₀ tr p₀ p → Honoured id bookingId p.shared.db := by
  intro hclaim
  have hplay : ((backend plainConfig).play (idle payable) issuance).any fun x₀ =>
      ((backend plainConfig).play x₀.2
        [.step 2 { now := 200 }, .step 2 { rows := ["b"] }, .step 2 {}, .step 2 {}, .step 2 {},
          .step 2 {}, .call 1 (.handleWebhook delivery), .step 1 { row := some "p" }, .step 1 {},
          .step 1 { row := some "p" }]).any fun x =>
        CapturedAt x₀ x ∧ (x.2.shared.db.payment "p").all (·.status = .failed) := by decide
  obtain ⟨x₀, hplay₀, hplay⟩ := (Option.any_eq_true _ _).1 hplay
  obtain ⟨x, hplay, hfacts⟩ := (Option.any_eq_true _ _).1 hplay
  obtain ⟨hcaptured, hfailed⟩ := of_decide_eq_true hfacts
  have h := capture_of_turns hplay₀ hplay (by simp) (by decide) hcaptured
  obtain ⟨⟨v, hv, hsuccess⟩, -⟩ := hclaim _ _ _ _ _ _ _ _ _ h
  rw [hv, Option.all_some, decide_eq_true_eq] at hfailed
  cases hfailed.symm.trans hsuccess

end Backend
