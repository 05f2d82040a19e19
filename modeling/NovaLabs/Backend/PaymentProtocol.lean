/-
  How the operations of the backend handle payments, and the bookings that these are for.

  A payment is inserted PENDING and without a reference, which is saved when Paystack has answered.
  Other writes of payments are conditional updates of the status; the expiry sweep makes its own in
  one transaction with that of the bookings.
-/
import NovaLabs.Backend.Effects

namespace Backend

open Lib

/-- The status changes that conditional updates make. -/
inductive PaymentStatus.Next : PaymentStatus → PaymentStatus → Prop
  | success : Next .pending .success
  | failed : Next .pending .failed
  | refunded : Next .success .refunded

theorem PaymentStatus.not_next_pending {status : PaymentStatus} : ¬ status.Next .pending := nofun

theorem PaymentStatus.Next.of_success {status : PaymentStatus} (h : Next .success status) :
    status = .refunded := by
  cases h
  rfl

/-- The payment, with the reference under which Paystack knows it. -/
def Payment.referring (payment : Payment) (reference : String) : Payment :=
  { payment with providerReference := some reference }

/-- What a session has written in its transaction: nothing yet; a new booking; a booking, by a save;
    the bookings that it has expired; and their payments as well. -/
inductive TxStage where
  | outside
  | opened
  | booked (bookingId : Uuid)
  | resaved
  | expired (bookingIds : List Uuid)
  | released

/-- How far a session is with a payment: inserted; with Paystack's answer; read again, with columns
    to save; with its reference saved.  A session may also find a payment, and reuse it. -/
inductive SaveStage where
  | idle
  | inserted (id : Uuid) (held : Payment)
  | answered (id : Uuid) (held : Payment) (reference : String)
  | reread (id : Uuid) (held : Payment) (reference : String) (stored : Payment)
  | saved (id : Uuid) (reference : String)
  | missing
  | existing (id : Uuid)
  | reused (id : Uuid) (reference : String)

def TxStage.isReleased : TxStage → Bool
  | released => true
  | _ => false

def TxStage.after (q : TxStage) : (op : Query) → Answer op → TxStage
  | .begin, _ => opened
  | .commit, _ | .rollback, _ => outside
  | .insertBooking _, (id, _) => booked id
  | .updateBookings ids _ _, _ => match q with
    | opened => expired ids
    | q => q
  | .updateBooking _ _, _ => match q with
    | opened => resaved
    | q => q
  | .updatePayments _ _ _, _ => match q with
    | expired _ => released
    | q => q
  | _, _ => q

namespace SaveStage

def isReused : SaveStage → Bool
  | reused _ _ => true
  | _ => false

/-- What the second read of a payment shows. -/
def read (id : Uuid) (held : Payment) (reference : String) : Option (Uuid × Payment) → SaveStage
  | none => missing
  | some (_, stored) =>
    if (held.referring reference).changes stored = {} then saved id reference
    else reread id held reference stored

def after (q : SaveStage) : (op : Query) → Answer op → SaveStage
  | .rollback, _ => idle
  | .insertPayment _, (id, held) => inserted id held
  | .initializeTransaction _ _ _, some checkout => match q with
    | inserted id held => answered id held checkout.reference
    | existing id => reused id checkout.reference
    | q => q
  | .findPayment (.pendingOf _), some (id, _) => match q with
    | idle => existing id
    | q => q
  | .findPayment (.byId id'), found => match q with
    | answered id held reference => if id' = id then read id held reference found else q
    | q => q
  | .updatePayment _ _, _ => match q with
    | reread id _ reference _ => saved id reference
    | q => q
  | _, _ => q

end SaveStage

structure PaymentStage where
  tx : TxStage := .outside
  save : SaveStage := .idle

namespace PaymentStage

/-- What the stage requires of the query. -/
def allows (q : PaymentStage) : Query → Prop
  | .begin => q.tx = .outside ∧ q.save = .idle
  | .commit => q.tx ≠ .outside ∧ ∀ ids, q.tx ≠ .expired ids
  | .rollback => q.tx ≠ .outside
  | .insertBooking booking => q.tx = .opened ∧ booking.status = .pending
  | .findPayment (.byReference _) => q.tx = .outside
  | .updateBookings _ source target => source = .pending ∧
      (q.tx = .outside ∧ target = .confirmed ∨ q.tx = .opened ∧ target = .expired)
  | .updateBooking _ c => (q.tx = .outside ∨ q.tx = .opened) ∧ c.status ≠ some .expired
  | .insertPayment payment => q.save = .idle ∧
      (q.tx = .outside ∨ q.tx = .booked payment.bookingId) ∧ payment.status = .pending ∧
      payment.providerReference = none
  | .updatePayments which source target => q.tx = .outside ∧ source.Next target ∨
      ∃ ids, q.tx = .expired ids ∧ which = .ofBookings ids ∧ source = .pending ∧ target = .failed
  | .updatePayment id c => ∃ held reference stored, q.save = .reread id held reference stored ∧
      c = (held.referring reference).changes stored
  | .initializeTransaction _ _ reference => (∃ held, q.save = .inserted reference held) ∨
      q.save = .existing reference
  | _ => True

/-- A sweep that has released its payments commits, and nothing follows the reuse of a payment. -/
def permits (q : PaymentStage) (op : Query) : Prop :=
  (q.tx.isReleased → op = .commit) ∧ q.save.isReused = false ∧ q.allows op

def after (q : PaymentStage) (op : Query) (a : Answer op) : PaymentStage where
  tx := q.tx.after op a
  save := q.save.after op a

end PaymentStage

def paymentProtocol : Protocol Answer PaymentStage where
  permits := PaymentStage.permits
  after := PaymentStage.after

@[simp] theorem paymentProtocol_permits (q : PaymentStage) (op : Query) :
    paymentProtocol.permits q op = q.permits op := rfl

@[simp] theorem paymentProtocol_after (q : PaymentStage) (op : Query) (a : Answer op) :
    paymentProtocol.after q op a = q.after op a := rfl

/-- The payment and the reference that a response gives out. -/
def Response.issued : Response → Option (Uuid × String)
  | .initialized r => some (r.paymentId, r.reference)
  | .dayPass r => some (r.paymentId, r.reference)
  | _ => none

/-- A reference is given out where it is saved, or for a payment that was found. -/
def PaymentStage.Gives (q : PaymentStage) (id : Uuid) (reference : String) : Prop :=
  q.tx = .outside ∧
    (q.save = .saved id reference ∨ q.save = .reused id reference ∨ q.save = .missing)

/-- How programs end: a reference is given out as it was saved or reused. -/
structure PaymentStage.Ends (q : PaymentStage) (r : Except HttpError Response) : Prop where
  outside : q.tx = .outside
  issued : ∀ response id reference, r = .ok response → response.issued = some (id, reference) →
    q.Gives id reference
  reused : q.save.isReused → ∃ response, r = .ok response

theorem PaymentStage.Ends.error {q : PaymentStage} (hq : q.tx = .outside)
    (hsave : q.save.isReused = false) (e : HttpError) : q.Ends (.error e) where
  outside := hq
  issued response id reference hr := by cases hr
  reused hreused := by cases hsave.symm.trans hreused

theorem paymentProtocol_quiet {q : PaymentStage} (hq : q.tx.isReleased = false)
    (hsave : q.save.isReused = false) : Quiet paymentProtocol q := by
  intro op hop
  have hrel (hr : q.tx.isReleased = true) : op = .commit := by cases hq.symm.trans hr
  cases op <;> first | exact ⟨⟨hrel, hsave, trivial⟩, fun _ => rfl⟩ | cases hop

/-! ## Parts of the operations -/

/-- Outside a transaction, and with no payment in hand. -/
def PaymentStage.start : PaymentStage where

theorem start_quiet : Quiet paymentProtocol .start := paymentProtocol_quiet rfl rfl

section
variable {q : PaymentStage} {id : Uuid}

/-- A query that a stage other than the last of a sweep allows. -/
theorem allowed {tx : TxStage} {save : SaveStage} {op : Query} (hq : tx.isReleased = false)
    (hsave : save.isReused = false) (h : PaymentStage.allows ⟨tx, save⟩ op) :
    paymentProtocol.permits ⟨tx, save⟩ op :=
  ⟨fun hr => Bool.noConfusion (hq.symm.trans hr), hsave, h⟩

theorem transaction_payments {β : Type} {x : Proc β}
    {post : PaymentStage → Except HttpError β → Prop}
    (h : Meets paymentProtocol ⟨.opened, .idle⟩ x fun q r => match r with
      | .ok a => q.tx ≠ .outside ∧ (∀ ids, q.tx ≠ .expired ids) ∧ q.save.isReused = false ∧
          post ⟨.outside, q.save⟩ (.ok a)
      | .error _ => q.tx ≠ .outside ∧ q.tx.isReleased = false ∧ q.save.isReused = false)
    (herror : ∀ e, post .start (.error e)) : Meets paymentProtocol .start (transaction x) post := by
  refine Meets.transaction (allowed rfl rfl ⟨rfl, rfl⟩) h (fun q a hq => ?_) fun q e hq => ?_
  · exact ⟨⟨fun _ => rfl, hq.2.2.1, hq.1, hq.2.1⟩, hq.2.2.2⟩
  · exact ⟨⟨fun hr => Bool.noConfusion (hq.2.1.symm.trans hr), hq.2.2, hq.1⟩, herror e⟩

theorem lockActiveWorkspace_payments :
    Meets paymentProtocol ⟨.opened, .idle⟩ (lockActiveWorkspace id)
      fun q _ => q = ⟨.opened, .idle⟩ := by
  refine Meets.query (allowed rfl rfl trivial) fun workspace =>
    Meets.okOr (fun _ => rfl) fun workspace _ => ?_
  exact Meets.failIf (fun _ => rfl) fun _ => rfl

theorem saveWorkspace_payments (held : Workspace) :
    Meets paymentProtocol .start (saveWorkspace id held) fun q _ => q = .start := by
  refine Meets.query (allowed rfl rfl trivial) fun stored => ?_
  cases stored with
  | none => rfl
  | some stored =>
    exact Meets.ite (fun _ => Meets.query (allowed rfl rfl trivial) fun _ => rfl) fun _ => rfl

/-- No save expires a booking. -/
theorem saveBooking_payments {tx : TxStage} (htx : tx = .outside ∨ tx = .opened) {held : Booking}
    (h : held.status ≠ .expired) :
    Meets paymentProtocol ⟨tx, .idle⟩ (saveBooking id held)
      fun q _ => q = ⟨tx, .idle⟩ ∨ q = ⟨.resaved, .idle⟩ ∧ tx = .opened := by
  have hne : tx.isReleased = false := by rcases htx with rfl | rfl <;> rfl
  refine Meets.query (allowed hne rfl trivial) fun stored => ?_
  cases stored with
  | none => exact Or.inl rfl
  | some stored =>
    refine Meets.ite (fun _ => Meets.query (allowed hne rfl ⟨htx, fun hc => ?_⟩) fun _ => ?_) fun _ =>
      Or.inl rfl
    · exact h (differing_eq_some.1 hc).2.symm
    · rcases htx with rfl | rfl
      · exact Or.inl rfl
      · exact Or.inr ⟨rfl, rfl⟩

end

/-! ## The operations -/

theorem createBooking_payments (cfg : Config) (dto : CreateBookingDto) (userId : Uuid) :
    Meets paymentProtocol .start (createBooking cfg dto userId) fun q _ => q = .start := by
  refine Meets.failIf (fun _ => rfl) fun _ => transaction_payments ?_ fun _ => rfl
  refine Meets.seq lockActiveWorkspace_payments (fun q workspace hq => ?_) fun q e hq => ?_
  · obtain rfl : q = ⟨.opened, .idle⟩ := hq
    refine Meets.query (allowed rfl rfl trivial) fun alreadyBooked => ?_
    refine Meets.failIf (fun _ => ⟨TxStage.noConfusion, rfl, rfl⟩) fun _ => ?_
    refine Meets.query (allowed rfl rfl trivial) fun now =>
      Meets.query (allowed rfl rfl ⟨rfl, rfl⟩) fun saved => ?_
    exact Meets.query (allowed rfl rfl trivial) fun _ =>
      ⟨TxStage.noConfusion, fun _ => TxStage.noConfusion, rfl, rfl⟩
  · obtain rfl : q = ⟨.opened, .idle⟩ := hq
    exact ⟨TxStage.noConfusion, rfl, rfl⟩

/-- After its second read, a save ends with the reference stored, or finds no row. -/
theorem savePayment_payments {tx : TxStage} (htx : tx.isReleased = false) {id : Uuid} {held : Payment}
    {reference : String} :
    Meets paymentProtocol ⟨tx, .answered id held reference⟩
      (savePayment id (held.referring reference))
      fun q r => q.tx = tx ∧ r = .ok () ∧ (q.save = .saved id reference ∨ q.save = .missing) := by
  refine Meets.query (allowed htx rfl trivial) fun found => ?_
  have hstage : paymentProtocol.after ⟨tx, .answered id held reference⟩ (.findPayment (.byId id))
      found = ⟨tx, .read id held reference found⟩ := congrArg (PaymentStage.mk tx) (if_pos rfl)
  rw [hstage]
  cases found with
  | none => exact ⟨rfl, rfl, Or.inr rfl⟩
  | some found =>
    obtain ⟨_, stored⟩ := found
    refine Meets.ite (fun hc => ?_) fun hc => ?_
    · rw [SaveStage.read, if_neg hc]
      exact Meets.query (allowed htx rfl ⟨held, reference, stored, rfl, rfl⟩) fun _ =>
        ⟨rfl, rfl, Or.inl rfl⟩
    · rw [SaveStage.read, if_pos (not_not.1 hc)]
      exact ⟨rfl, rfl, Or.inl rfl⟩

theorem confirmBooking_payments (id : Uuid) :
    Meets paymentProtocol .start (confirmBooking id) fun q _ => q = .start := by
  refine Meets.query (allowed rfl rfl ⟨rfl, Or.inl ⟨rfl, rfl⟩⟩) fun affected =>
    Meets.ite (fun _ => ?_) fun _ => ?_
  · refine Meets.query (allowed rfl rfl trivial) fun current =>
      Meets.okOr (fun _ => rfl) fun current _ => ?_
    exact Meets.failIf (fun _ => rfl) fun _ => rfl
  · refine Meets.query (allowed rfl rfl trivial) fun booking =>
      Meets.okOr (fun _ => rfl) fun booking _ => ?_
    exact Meets.seq (activateMembershipIfNeeded_quiet start_quiet.personal _) (fun _ _ hq => hq)
      fun _ _ hq => hq

theorem reactivateExpired_payments (id : Uuid) :
    Meets paymentProtocol .start (reactivateExpired id) fun q _ => q = .start := by
  refine transaction_payments (Meets.query (allowed rfl rfl trivial) fun found => ?_) fun _ => rfl
  refine Meets.okOr (fun _ => ⟨TxStage.noConfusion, rfl, rfl⟩) fun booking _ => ?_
  refine Meets.ite (fun _ => ?_) fun _ => ?_
  · refine Meets.failIf (fun _ => ⟨TxStage.noConfusion, rfl, rfl⟩) fun _ => ?_
    exact ⟨TxStage.noConfusion, fun _ => TxStage.noConfusion, rfl, rfl⟩
  refine Meets.query (allowed rfl rfl trivial) fun workspace => ?_
  refine Meets.okOr (fun _ => ⟨TxStage.noConfusion, rfl, rfl⟩) fun workspace _ => ?_
  refine Meets.query (allowed rfl rfl trivial) fun alreadyBooked =>
    Meets.ite (fun _ => ?_) fun _ => ?_
  · exact ⟨TxStage.noConfusion, fun _ => TxStage.noConfusion, rfl, rfl⟩
  have hopen {q : PaymentStage} (hq : q = ⟨.opened, .idle⟩ ∨ q = ⟨.resaved, .idle⟩) :
      q.tx ≠ .outside ∧ (∀ ids, q.tx ≠ .expired ids) ∧ q.tx.isReleased = false ∧ q.save = .idle := by
    rcases hq with rfl | rfl
    · exact ⟨TxStage.noConfusion, fun _ => TxStage.noConfusion, rfl, rfl⟩
    · exact ⟨TxStage.noConfusion, fun _ => TxStage.noConfusion, rfl, rfl⟩
  refine Meets.seq (saveBooking_payments (Or.inr rfl) BookingStatus.noConfusion) (fun q _ hq => ?_)
    fun q e hq => ?_
  · obtain ⟨hout, hexp, hrel, hsave⟩ := hopen (hq.imp_right And.left)
    have hidle : q.save.isReused = false := congrArg SaveStage.isReused hsave
    refine Meets.seq (activateMembershipIfNeeded_quiet (paymentProtocol_quiet hrel hidle).personal _)
      (fun q' _ hq' => ?_) fun q' e hq' => ?_
    · obtain rfl := hq'
      exact ⟨hout, hexp, hidle, congrArg (PaymentStage.mk .outside) hsave⟩
    · obtain rfl := hq'
      exact ⟨hout, hrel, hidle⟩
  · obtain ⟨hout, -, hrel, hsave⟩ := hopen (hq.imp_right And.left)
    exact ⟨hout, hrel, congrArg SaveStage.isReused hsave⟩

theorem cancelBooking_payments (bookingId userId : Uuid) (userRole : UserRole) :
    Meets paymentProtocol .start (cancelBooking bookingId userId userRole)
      fun q _ => q = .start := by
  refine Meets.query (allowed rfl rfl trivial) fun found =>
    Meets.okOr (fun _ => rfl) fun booking _ => ?_
  refine Meets.failIf (fun _ => rfl) fun _ => Meets.failIf (fun _ => rfl) fun _ => ?_
  refine Meets.seq (saveBooking_payments (Or.inl rfl) BookingStatus.noConfusion) (fun q _ hq => ?_)
    fun q _ hq => ?_
  · obtain rfl : q = .start := hq.resolve_right fun h => TxStage.noConfusion h.2
    exact Meets.query (allowed rfl rfl trivial) fun _ => rfl
  · exact hq.resolve_right fun h => TxStage.noConfusion h.2

theorem completeBooking_payments (bookingId : Uuid) :
    Meets paymentProtocol .start (completeBooking bookingId) fun q _ => q = .start := by
  refine Meets.query (allowed rfl rfl trivial) fun found =>
    Meets.okOr (fun _ => rfl) fun booking _ => ?_
  refine Meets.failIf (fun _ => rfl) fun _ => ?_
  exact Meets.seq (saveBooking_payments (Or.inl rfl) BookingStatus.noConfusion)
    (fun _ _ hq => hq.resolve_right fun h => TxStage.noConfusion h.2)
    fun _ _ hq => hq.resolve_right fun h => TxStage.noConfusion h.2

/-- The sweep expires the bookings first, then releases their payments. -/
theorem expireBookings_payments (ids : List Uuid) :
    Meets paymentProtocol .start (expireBookings ids) fun q _ => q = .start := by
  refine transaction_payments ?_ fun _ => rfl
  refine Meets.query (allowed rfl rfl ⟨rfl, Or.inr ⟨rfl, rfl⟩⟩) fun expiredBookings => ?_
  refine Meets.query (allowed rfl rfl (Or.inr ⟨ids, rfl, rfl, rfl, rfl⟩)) fun releasedPayments => ?_
  exact ⟨TxStage.noConfusion, fun _ => TxStage.noConfusion, rfl, rfl⟩

theorem expirePlan_payments (cfg : Config) (now : Time) (result : ExpirySweepResult)
    (planType : PlanType) :
    Meets paymentProtocol .start (expirePlan cfg now result planType) fun q _ => q = .start := by
  refine Meets.query (allowed rfl rfl trivial) fun pendingBookings =>
    Meets.ite (fun _ => rfl) fun _ => ?_
  exact Meets.seq (expireBookings_payments _) (fun _ _ hq => hq) fun _ _ hq => hq

theorem expireStalePendingBookings_payments (cfg : Config) :
    Meets paymentProtocol .start (expireStalePendingBookings cfg) fun q _ => q = .start := by
  refine Meets.query (allowed rfl rfl trivial) fun now => ?_
  have hround : ∀ q result planType, q = .start →
      Meets paymentProtocol q (expirePlan cfg now result planType) fun q _ => q = .start := by
    rintro q result planType rfl
    exact expirePlan_payments cfg now result planType
  exact Meets.foldlM hround rfl _ _

theorem updateWorkspace_payments (id : Uuid) (dto : WorkspaceChanges) :
    Meets paymentProtocol .start (updateWorkspace id dto) fun q _ => q = .start := by
  refine Meets.query (allowed rfl rfl trivial) fun found =>
    Meets.okOr (fun _ => rfl) fun workspace _ => ?_
  exact Meets.seq (saveWorkspace_payments _) (fun _ _ hq => hq) fun _ _ hq => hq

theorem createDayPass_payments (cfg : Config) (dto : CreatePublicBookingDto) :
    Meets paymentProtocol .start (createDayPass cfg dto) fun q r => match r with
      | .ok dayPass => q.Gives dayPass.paymentId dayPass.reference
      | .error _ => q.tx = .outside ∧ q.save.isReused = false := by
  refine Meets.query (allowed rfl rfl trivial) fun today => ?_
  refine Meets.failIf (fun _ => ⟨rfl, rfl⟩) fun _ => transaction_payments ?_ fun _ => ⟨rfl, rfl⟩
  refine Meets.seq lockActiveWorkspace_payments (fun q workspace hq => ?_) fun q e hq => ?_
  · obtain rfl : q = ⟨.opened, .idle⟩ := hq
    refine Meets.query (allowed rfl rfl trivial) fun alreadyBooked => ?_
    refine Meets.failIf (fun _ => ⟨TxStage.noConfusion, rfl, rfl⟩) fun _ => ?_
    refine Meets.query (allowed rfl rfl trivial) fun now =>
      Meets.query (allowed rfl rfl ⟨rfl, rfl⟩) fun booking => ?_
    refine Meets.query (allowed rfl rfl ⟨rfl, Or.inr rfl, rfl, rfl⟩) fun payment => ?_
    refine Meets.query (allowed rfl rfl (Or.inl ⟨payment.2, rfl⟩)) fun checkout => ?_
    refine Meets.okOr (fun hnone => ?_) fun paystackData hsome => ?_
    · subst hnone
      exact ⟨TxStage.noConfusion, rfl, rfl⟩
    · subst hsome
      refine Meets.seq (savePayment_payments rfl) ?_ ?_
      · rintro ⟨tx, save⟩ _ ⟨rfl, -, hsave⟩
        refine ⟨TxStage.noConfusion, fun _ => TxStage.noConfusion, ?_, rfl, hsave.imp_right Or.inr⟩
        rcases hsave with hsave | hsave <;> exact congrArg SaveStage.isReused hsave
      · rintro q e ⟨-, ⟨⟩, -⟩
  · obtain rfl : q = ⟨.opened, .idle⟩ := hq
    exact ⟨TxStage.noConfusion, rfl, rfl⟩

theorem initializePayment_payments (bookingId userId : Uuid) :
    Meets paymentProtocol .start (initializePayment bookingId userId) fun q r => match r with
      | .ok payment => q.Gives payment.paymentId payment.reference
      | .error _ => q.tx = .outside ∧ q.save.isReused = false := by
  refine Meets.query (allowed rfl rfl trivial) fun found =>
    Meets.okOr (fun _ => ⟨rfl, rfl⟩) fun booking _ => ?_
  refine Meets.failIf (fun _ => ⟨rfl, rfl⟩) fun _ =>
    Meets.query (allowed rfl rfl trivial) fun existing => ?_
  cases existing with
  | some existing =>
    refine Meets.query (allowed rfl rfl trivial) fun user =>
      Meets.okOr (fun _ => ⟨rfl, rfl⟩) fun user _ => ?_
    refine Meets.query (allowed rfl rfl (Or.inr rfl)) fun checkout => ?_
    refine Meets.okOr (fun hnone => ?_) fun paystackData hsome => ?_
    · subst hnone
      exact ⟨rfl, rfl⟩
    · subst hsome
      exact ⟨rfl, Or.inr (Or.inl rfl)⟩
  | none =>
    refine Meets.query (allowed rfl rfl trivial) fun user => ?_
    refine Meets.query (allowed rfl rfl ⟨rfl, Or.inl rfl, rfl, rfl⟩) fun payment => ?_
    refine Meets.okOr (fun _ => ⟨rfl, rfl⟩) fun user _ => ?_
    refine Meets.query (allowed rfl rfl (Or.inl ⟨payment.2, rfl⟩)) fun checkout => ?_
    refine Meets.okOr (fun hnone => ?_) fun paystackData hsome => ?_
    · subst hnone
      exact ⟨rfl, rfl⟩
    · subst hsome
      refine Meets.seq (savePayment_payments rfl) ?_ ?_
      · rintro q _ ⟨htx, -, hsave⟩
        exact ⟨htx, hsave.imp_right Or.inr⟩
      · rintro q e ⟨-, ⟨⟩, -⟩

theorem resolveBookingForSuccessfulPayment_payments (payment : Payment) :
    Meets paymentProtocol .start (resolveBookingForSuccessfulPayment payment)
      fun q _ => q = .start := by
  refine Meets.query (allowed rfl rfl trivial) fun booking => ?_
  cases booking with
  | none => rfl
  | some booking =>
    refine Meets.ite (fun _ => ?_) fun _ => ?_
    · refine Meets.attempt (reactivateExpired_payments _) fun q r hq => ?_
      cases r <;> exact hq
    · refine Meets.attempt (confirmBooking_payments _) fun q r hq => ?_
      cases r <;> exact hq

theorem settleBooking_payments (paymentId : Uuid) (payment : Payment) (booking : Option Booking) :
    Meets paymentProtocol .start (settleBooking paymentId payment booking)
      fun q _ => q = .start := by
  cases booking with
  | none => rfl
  | some booking =>
    refine Meets.ite (fun _ => Meets.query (allowed rfl rfl trivial) fun txHash => ?_) fun _ =>
      Meets.query (allowed rfl rfl trivial) fun _ => rfl
    cases txHash with
    | none => exact Meets.query (allowed rfl rfl trivial) fun _ => rfl
    | some txHash =>
      exact Meets.query (allowed rfl rfl ⟨Or.inl rfl, nofun⟩) fun _ =>
        Meets.query (allowed rfl rfl trivial) fun _ => rfl

theorem handleChargeSuccess_payments (reference : String) :
    Meets paymentProtocol .start (handleChargeSuccess reference) fun q _ => q = .start := by
  refine Meets.query (allowed rfl rfl rfl) fun found => Meets.okOr (fun _ => rfl) fun payment _ => ?_
  refine Meets.query (allowed rfl rfl (Or.inl ⟨rfl, .success⟩)) fun affected => ?_
  refine Meets.ite (fun _ => Meets.query (allowed rfl rfl trivial) fun _ => rfl) fun _ => ?_
  refine Meets.seq (resolveBookingForSuccessfulPayment_payments _) (fun q booking hq => ?_)
    fun _ _ hq => hq
  obtain rfl : q = .start := hq
  refine Meets.seq (settleBooking_payments _ _ _) (fun q _ hq => ?_) fun _ _ hq => hq
  obtain rfl : q = .start := hq
  exact notifyPayer_quiet start_quiet rfl (fun _ => rfl) _

theorem handleChargeFailed_payments (reference : String) :
    Meets paymentProtocol .start (handleChargeFailed reference) fun q _ => q = .start := by
  refine Meets.query (allowed rfl rfl rfl) fun found => ?_
  cases found with
  | none => rfl
  | some payment =>
    refine Meets.query (allowed rfl rfl (Or.inl ⟨rfl, .failed⟩)) fun affected => ?_
    exact Meets.ite (fun _ => Meets.query (allowed rfl rfl trivial) fun _ => rfl) fun _ =>
      notifyPayer_quiet start_quiet rfl (fun _ => rfl) _

theorem handleWebhook_payments (cfg : Config) (d : Delivery) :
    Meets paymentProtocol .start (handleWebhook cfg d) fun q _ => q = .start := by
  refine Meets.failIf (fun _ => rfl) fun _ => ?_
  refine Meets.seq (checkWebhookAge_quiet start_quiet.personal _ _) (fun q _ hq => ?_) fun _ _ hq => hq
  obtain rfl : q = .start := hq
  cases cfg.parseBody d.rawBody with
  | malformed | null => rfl
  | event eventType reference =>
    dsimp only
    split
    · rfl
    · refine Meets.ite (fun _ => handleChargeSuccess_payments _) fun _ => ?_
      exact Meets.ite (fun _ => handleChargeFailed_payments _) fun _ => rfl

theorem refundPayment_payments (paymentId requestingUserId : Uuid)
    (requestingUserRole : UserRole) :
    Meets paymentProtocol .start (refundPayment paymentId requestingUserId requestingUserRole)
      fun q _ => q = .start := by
  refine Meets.query (allowed rfl rfl trivial) fun found =>
    Meets.okOr (fun _ => rfl) fun payment _ => ?_
  refine Meets.failIf (fun _ => rfl) fun _ => Meets.failIf (fun _ => rfl) fun _ => ?_
  refine Meets.query (allowed rfl rfl trivial) fun accepted => Meets.failIf (fun _ => rfl) fun _ => ?_
  refine Meets.query (allowed rfl rfl (Or.inl ⟨rfl, .refunded⟩)) fun affected => ?_
  refine Meets.query (allowed rfl rfl trivial) fun current => Meets.ite (fun _ => ?_) fun _ => rfl
  cases current with
  | none => rfl
  | some current => exact Meets.failIf (fun _ => rfl) fun _ => rfl

/-- **Every operation handles payments as the protocol says.** -/
theorem program_payments (cfg : Config) (request : Request) :
    Meets paymentProtocol .start (request.program cfg) PaymentStage.Ends := by
  have hreturn {α : Type} {x : Proc α} {f : α → Response} (hf : ∀ a, (f a).issued = none)
      (h : Meets paymentProtocol .start x fun q _ => q = .start) :
      Meets paymentProtocol .start (x >>= fun a => pure (f a)) PaymentStage.Ends := by
    refine h.seq (fun q a hq => ?_) fun q e hq => ?_
    · obtain rfl : q = .start := hq
      refine ⟨rfl, fun response id reference hr hissued => ?_, fun _ => ⟨_, rfl⟩⟩
      cases hr
      cases (hf a).symm.trans hissued
    · obtain rfl : q = .start := hq
      exact .error rfl rfl e
  cases request with
  | createDayPass =>
    refine Meets.seq (createDayPass_payments _ _) (fun q a hq => ?_) fun q e hq => .error hq.1 hq.2 e
    refine ⟨hq.1, fun response id reference hr hissued => ?_, fun _ => ⟨_, rfl⟩⟩
    cases hr
    cases hissued
    exact hq
  | initializePayment =>
    refine Meets.seq (initializePayment_payments _ _) (fun q a hq => ?_)
      fun q e hq => .error hq.1 hq.2 e
    refine ⟨hq.1, fun response id reference hr hissued => ?_, fun _ => ⟨_, rfl⟩⟩
    cases hr
    cases hissued
    exact hq
  | createBooking => exact hreturn (fun _ => rfl) (createBooking_payments _ _ _)
  | confirmBooking => exact hreturn (fun _ => rfl) (confirmBooking_payments _)
  | cancelBooking => exact hreturn (fun _ => rfl) (cancelBooking_payments _ _ _)
  | completeBooking => exact hreturn (fun _ => rfl) (completeBooking_payments _)
  | expireStalePendingBookings =>
    exact hreturn (fun _ => rfl) (expireStalePendingBookings_payments _)
  | reactivateExpired => exact hreturn (fun _ => rfl) (reactivateExpired_payments _)
  | updateWorkspace => exact hreturn (fun _ => rfl) (updateWorkspace_payments _ _)
  | handleWebhook => exact hreturn (fun _ => rfl) (handleWebhook_payments _ _)
  | refundPayment => exact hreturn (fun _ => rfl) (refundPayment_payments _ _ _)

/-! ## Open transactions -/

/-- Only sessions inside a transaction have one open. -/
def Aligned (s : DbServer) (qs : ℕ → Option PaymentStage) : Prop :=
  ∀ t, (∀ q, qs t = some q → q.tx = .outside) → s.active.lookup t = none

section
variable {s s' : DbServer} {t : ℕ} {w : World} {op : Query} {a : Answer op} {q : PaymentStage}
  {qs : ℕ → Option PaymentStage}

theorem aligned_idle (db : Database) : Aligned (idle db).shared fun _ => none := fun _ _ => rfl

theorem Aligned.outside (h : Aligned s qs) (hq : qs t = some q) (htx : q.tx = .outside) :
    s.active.lookup t = none := by
  refine h t fun q' hq' => ?_
  obtain rfl : q = q' := Option.some.inj (hq.symm.trans hq')
  exact htx

theorem Aligned.call (h : Aligned s qs) (ht : qs t = none) :
    Aligned s (Function.update qs t (some .start)) := by
  intro t' hout
  refine h t' fun q hq => ?_
  by_cases ht' : t' = t
  · subst ht'
    cases ht.symm.trans hq
  · exact hout q ((Function.update_of_ne ht' _ _).trans hq)

/-- Transactions end by a commit or a rollback. -/
theorem TxStage.eq_outside_of_after {tx : TxStage} (hc : op ≠ .commit) (hr : op ≠ .rollback)
    (h : tx.after op a = .outside) : tx = .outside := by
  cases op with
  | commit => exact absurd rfl hc
  | rollback => exact absurd rfl hr
  | begin => cases h
  | insertBooking booking =>
    obtain ⟨id, saved⟩ := a
    cases h
  | updateBookings | updateBooking | updatePayments =>
    cases tx with
    | outside => rfl
    | opened | booked | resaved | expired | released => cases h
  | now | lockWorkspace | bookedSeats | findWorkspace | updateWorkspace | findBooking
  | findBookings | findPayment | insertPayment | updatePayment | findUser | updateUser
  | initializeTransaction | initiateRefund | createEscrow | start => exact h

theorem Aligned.step (h : Aligned s qs) (hexec : exec t w s op = some (a, s'))
    (hq : qs t = some q) : Aligned s' (Function.update qs t (some (q.after op a))) := by
  intro t' hout
  by_cases ht : t' = t
  · subst ht
    have htx : q.tx.after op a = .outside := hout _ (Function.update_self ..)
    by_cases hc : op = .commit
    · subst hc
      exact commit_active hexec
    by_cases hr : op = .rollback
    · subst hr
      exact rollback_active hexec
    have hx := h.outside hq (TxStage.eq_outside_of_after hc hr htx)
    exact exec_inactive hexec (by rintro rfl; cases htx) hx
  · rw [(exec_free hexec).active ht]
    refine h t' fun q' hq' => hout q' ?_
    rw [Function.update_of_ne ht, hq']

end

end Backend
