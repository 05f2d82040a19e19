/-
  How deliveries of a webhook go: look the payment up, change its status by a conditional update, and
  go on to the effects of the charge if this has changed a row.
-/
import NovaLabs.Backend.Effects

namespace Backend

open Lib

/-! ## What deliveries and sweeps ask -/

/-- Of a successful charge: honouring the booking, which starts by reading it; the escrow; the
    invoice; and the messages to the payer. -/
def Query.isSuccessEffect : Query → Bool
  | .findBooking _ | .lockWorkspace _ | .updateBookings _ .pending .confirmed | .updateBooking _ _
  | .createEscrow _ _ _ _ | .start (.generateInvoice _) | .start (.paymentSuccessEmail _)
  | .start (.paymentSuccessNotification _ _) => true
  | _ => false

/-- Of a failed charge: the messages to the payer. -/
def Query.isFailureEffect : Query → Bool
  | .start (.paymentFailedEmail _) | .start (.paymentFailedNotification _ _) => true
  | _ => false

/-- A session that handles a delivery has the reference; has found the payment; has changed its
    status; or has nothing left to do.  Sweeps and other requests have stages of their own. -/
inductive DeliveryStage where
  | received (reference : String)
  | found (id : Uuid)
  | won (target : PaymentStatus)
  | lost
  | sweeping
  | other

/-- The status that a delivery sets, if it sets one. -/
def PaymentStatus.isCharged : PaymentStatus → Bool
  | .success | .failed => true
  | _ => false

namespace DeliveryStage

/-- A sweep writes bookings and payments by its conditional updates only. -/
def sweeps : Query → Bool
  | .now | .findBookings _ _ | .begin | .commit | .rollback | .updateBookings _ .pending .expired
  | .updatePayments _ .pending .failed => true
  | _ => false

/-- After a successful charge, anything but further writes of payments and messages of failure. -/
def settles : Query → Bool
  | .insertPayment _ | .updatePayments _ _ _ | .updatePayment _ _ => false
  | op => ¬ op.isFailureEffect

def permits : DeliveryStage → Query → Prop
  | received reference, op => op.isPersonal ∨ op = .findPayment (.byReference reference)
  | found id, op => ∃ target, target.isCharged ∧ op = .updatePayments (.byId id) .pending target
  | won .success, op => settles op
  | won _, op => op.isFailureEffect
  | lost, op => op.isPersonal ∨ ∃ id, op = .findPayment (.byId id)
  | sweeping, op => sweeps op
  | other, _ => True

def after : DeliveryStage → (op : Query) → Answer op → DeliveryStage
  | received _, .findPayment _, some (id, _) => found id
  | received _, .findPayment _, none => lost
  | found _, .updatePayments _ _ target, n => if n = 0 then lost else won target
  | q, _, _ => q

/-- The stages in which a session may have a transaction open. -/
def isOpen : DeliveryStage → Bool
  | won _ | sweeping | other => true
  | _ => false

end DeliveryStage

def deliveryProtocol : Protocol Answer DeliveryStage where
  permits := DeliveryStage.permits
  after := DeliveryStage.after

/-- The stage at which a request starts. -/
def DeliveryStage.start (cfg : Config) : Request → DeliveryStage
  | .handleWebhook d => match cfg.parseBody d.rawBody with
    | .event _ (some reference) => .received reference
    | _ => .lost
  | .expireStalePendingBookings => .sweeping
  | _ => .other

section
variable {q : DeliveryStage} {id : Uuid} {α : Type}

theorem received_passes (reference : String) :
    Passes deliveryProtocol (.received reference) Query.isPersonal := by
  intro op hop
  refine ⟨Or.inl hop, fun a => ?_⟩
  cases op <;> first | rfl | cases hop

theorem lost_passes : Passes deliveryProtocol .lost Query.isPersonal :=
  fun _ hop => ⟨Or.inl hop, fun _ => rfl⟩

theorem won_passes : Passes deliveryProtocol (.won .success) DeliveryStage.settles :=
  fun _ hop => ⟨hop, fun _ => rfl⟩

theorem won_personal : Passes deliveryProtocol (.won .success) Query.isPersonal := by
  intro op hop
  refine won_passes op ?_
  cases op <;> first | rfl | cases hop

theorem failed_passes : Passes deliveryProtocol (.won .failed) Query.isFailureEffect :=
  fun _ hop => ⟨hop, fun _ => rfl⟩

theorem sweeping_passes : Passes deliveryProtocol .sweeping DeliveryStage.sweeps :=
  fun _ hop => ⟨hop, fun _ => rfl⟩

/-! ### The operations -/

theorem transaction_passes {queries : Query → Bool} (hq : Passes deliveryProtocol q queries)
    (hbegin : queries .begin) (hcommit : queries .commit) (hrollback : queries .rollback)
    {x : Proc α} (h : Meets deliveryProtocol q x fun q' _ => q' = q) :
    Meets deliveryProtocol q (transaction x) fun q' _ => q' = q := by
  refine Meets.pass hq hbegin fun _ => Meets.attempt h fun q' r hq' => ?_
  obtain rfl := hq'
  cases r with
  | ok a => exact Meets.pass hq hcommit fun _ => rfl
  | error e => exact Meets.pass hq hrollback fun _ => rfl

theorem saveBooking_deliveries (held : Booking) :
    Meets deliveryProtocol (.won .success) (saveBooking id held)
      fun q _ => q = .won .success := by
  refine Meets.pass won_passes rfl fun stored => ?_
  cases stored with
  | none => rfl
  | some stored =>
    exact Meets.ite (fun _ => Meets.pass won_passes rfl fun _ => rfl) fun _ => rfl

theorem confirmBooking_deliveries :
    Meets deliveryProtocol (.won .success) (confirmBooking id) fun q _ => q = .won .success := by
  refine Meets.pass won_passes rfl fun affected => Meets.ite (fun _ => ?_) fun _ => ?_
  · refine Meets.pass won_passes rfl fun current => Meets.okOr (fun _ => rfl) fun current _ => ?_
    exact Meets.failIf (fun _ => rfl) fun _ => rfl
  · refine Meets.pass won_passes rfl fun booking => Meets.okOr (fun _ => rfl) fun booking _ => ?_
    exact Meets.seq (activateMembershipIfNeeded_quiet won_personal _) (fun _ _ hq => hq)
      fun _ _ hq => hq

theorem reactivateExpired_deliveries :
    Meets deliveryProtocol (.won .success) (reactivateExpired id)
      fun q _ => q = .won .success := by
  refine transaction_passes won_passes rfl rfl rfl (Meets.pass won_passes rfl fun found => ?_)
  refine Meets.okOr (fun _ => rfl) fun booking _ => Meets.ite (fun _ => ?_) fun _ => ?_
  · exact Meets.failIf (fun _ => rfl) fun _ => rfl
  refine Meets.pass won_passes rfl fun workspace => Meets.okOr (fun _ => rfl) fun workspace _ => ?_
  refine Meets.pass won_passes rfl fun alreadyBooked => Meets.ite (fun _ => rfl) fun _ => ?_
  refine Meets.seq (saveBooking_deliveries _) (fun q _ hq => ?_) fun _ _ hq => hq
  obtain rfl : q = .won .success := hq
  exact Meets.seq (activateMembershipIfNeeded_quiet won_personal _) (fun _ _ hq => hq)
    fun _ _ hq => hq

theorem resolveBookingForSuccessfulPayment_deliveries (payment : Payment) :
    Meets deliveryProtocol (.won .success) (resolveBookingForSuccessfulPayment payment)
      fun q _ => q = .won .success := by
  refine Meets.pass won_passes rfl fun booking => ?_
  cases booking with
  | none => rfl
  | some booking =>
    refine Meets.ite (fun _ => ?_) fun _ => ?_
    · refine Meets.attempt reactivateExpired_deliveries fun q r hq => ?_
      cases r <;> exact hq
    · refine Meets.attempt confirmBooking_deliveries fun q r hq => ?_
      cases r <;> exact hq

theorem settleBooking_deliveries (payment : Payment) (booking : Option Booking) :
    Meets deliveryProtocol (.won .success) (settleBooking id payment booking)
      fun q _ => q = .won .success := by
  cases booking with
  | none => rfl
  | some booking =>
    refine Meets.ite (fun _ => Meets.pass won_passes rfl fun txHash => ?_) fun _ =>
      Meets.pass won_passes rfl fun _ => rfl
    cases txHash with
    | none => exact Meets.pass won_passes rfl fun _ => rfl
    | some txHash =>
      exact Meets.pass won_passes rfl fun _ => Meets.pass won_passes rfl fun _ => rfl

/-- The second look of a delivery that has changed nothing. -/
theorem lost_reads {f : Option (Uuid × Payment) → Proc α}
    (h : ∀ found, Meets deliveryProtocol .lost (f found) fun _ _ => True) :
    Meets deliveryProtocol .lost (ask (.findPayment (.byId id)) >>= f) fun _ _ => True :=
  Meets.query (Or.inr ⟨id, rfl⟩) h

theorem handleChargeSuccess_deliveries (reference : String) :
    Meets deliveryProtocol (.received reference) (handleChargeSuccess reference)
      fun _ _ => True := by
  refine Meets.query (Or.inr rfl) fun found => ?_
  cases found with
  | none => trivial
  | some found =>
    obtain ⟨id, payment⟩ := found
    refine Meets.query ⟨.success, rfl, rfl⟩ fun affected =>
      Meets.ite (fun hnone => ?_) fun hsome => ?_
    · have hafter : deliveryProtocol.after (.found id)
          (.updatePayments (.byId id) .pending .success) affected = .lost := if_pos hnone
      exact hafter.symm ▸ lost_reads fun _ => trivial
    · have hafter : deliveryProtocol.after (.found id)
          (.updatePayments (.byId id) .pending .success) affected = .won .success := if_neg hsome
      refine hafter.symm ▸ Meets.seq (resolveBookingForSuccessfulPayment_deliveries _)
        (fun q booking hq => ?_) fun _ _ _ => trivial
      obtain rfl : q = .won .success := hq
      refine Meets.seq (settleBooking_deliveries _ _) (fun q _ hq => ?_) fun _ _ _ => trivial
      obtain rfl : q = .won .success := hq
      exact (notifyPayer_quiet won_passes rfl (fun _ => rfl) _).mono fun _ _ _ => trivial

theorem handleChargeFailed_deliveries (reference : String) :
    Meets deliveryProtocol (.received reference) (handleChargeFailed reference)
      fun _ _ => True := by
  refine Meets.query (Or.inr rfl) fun found => ?_
  cases found with
  | none => trivial
  | some found =>
    obtain ⟨id, payment⟩ := found
    refine Meets.query ⟨.failed, rfl, rfl⟩ fun affected => Meets.ite (fun hnone => ?_) fun hsome => ?_
    · have hafter : deliveryProtocol.after (.found id)
          (.updatePayments (.byId id) .pending .failed) affected = .lost := if_pos hnone
      exact hafter.symm ▸ lost_reads fun _ => trivial
    · have hafter : deliveryProtocol.after (.found id)
          (.updatePayments (.byId id) .pending .failed) affected = .won .failed := if_neg hsome
      exact hafter.symm ▸
        (notifyPayer_quiet failed_passes rfl (fun _ => rfl) _).mono fun _ _ _ => trivial

theorem handleWebhook_deliveries (cfg : Config) (d : Delivery) :
    Meets deliveryProtocol (.start cfg (.handleWebhook d)) (handleWebhook cfg d)
      fun _ _ => True := by
  refine Meets.failIf (fun _ => trivial) fun _ => ?_
  simp only [DeliveryStage.start]
  cases cfg.parseBody d.rawBody with
  | malformed | null =>
    exact Meets.seq (checkWebhookAge_quiet lost_passes _ _) (fun _ _ _ => trivial)
      fun _ _ _ => trivial
  | event eventType reference =>
    cases reference with
    | none =>
      exact Meets.seq (checkWebhookAge_quiet lost_passes _ _) (fun _ _ _ => trivial)
        fun _ _ _ => trivial
    | some reference =>
      refine Meets.seq (checkWebhookAge_quiet (received_passes reference) _ _)
        (fun q _ hq => ?_) fun _ _ _ => trivial
      obtain rfl : q = .received reference := hq
      dsimp only
      split
      · trivial
      · next given hgiven =>
        cases (Option.filter_eq_some_iff.1 hgiven).1
        refine Meets.ite (fun _ => handleChargeSuccess_deliveries _) fun _ => ?_
        exact Meets.ite (fun _ => handleChargeFailed_deliveries _) fun _ => trivial

theorem expireStalePendingBookings_deliveries (cfg : Config) :
    Meets deliveryProtocol .sweeping (expireStalePendingBookings cfg) fun _ _ => True := by
  refine Meets.pass sweeping_passes rfl fun now => ?_
  have hround : ∀ q result planType, q = DeliveryStage.sweeping →
      Meets deliveryProtocol q (expirePlan cfg now result planType)
        fun q _ => q = .sweeping := by
    rintro q result planType rfl
    refine Meets.pass sweeping_passes rfl fun pending => Meets.ite (fun _ => rfl) fun _ => ?_
    have hbody : Meets deliveryProtocol .sweeping
        (expireBookings (staleIds cfg now pending)) fun q _ => q = .sweeping :=
      transaction_passes sweeping_passes rfl rfl rfl
        (Meets.pass sweeping_passes rfl fun _ => Meets.pass sweeping_passes rfl fun _ => rfl)
    exact hbody.seq (fun _ _ hq => hq) fun _ _ hq => hq
  exact (Meets.foldlM hround rfl _ _).mono fun _ _ _ => trivial

theorem program_deliveries (cfg : Config) (request : Request) :
    Meets deliveryProtocol (.start cfg request) (request.program cfg) fun _ _ => True := by
  cases request with
  | handleWebhook d =>
    exact (handleWebhook_deliveries cfg d).seq (fun _ _ _ => trivial) fun _ _ _ => trivial
  | expireStalePendingBookings =>
    exact (expireStalePendingBookings_deliveries cfg).seq (fun _ _ _ => trivial)
      fun _ _ _ => trivial
  | createBooking | createDayPass | confirmBooking | cancelBooking | completeBooking
  | reactivateExpired | updateWorkspace | initializePayment | refundPayment =>
    exact Meets.free (fun _ _ => ⟨trivial, fun _ => rfl⟩) _

end

end Backend
