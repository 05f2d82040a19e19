/-
  The on-chain escrow of a long-term booking that is paid for: which invocations of the escrow
  contract the backend builds (SorobanEscrowProvider), out of what its database driver reads.

  The queries of the handler carry the amounts as they are stored.  At run time, the value of a
  `bigint` column is a string: the driver has no parser for it, and the entity none either.
-/
import NovaLabs.Backend.Effects
import NovaLabs.Lib.Transcript

namespace Backend

open Lib

/-! ## Values at run time -/

/-- A value of the runtime: a string, or a finite number. -/
inductive JsValue where
  | string (text : String)
  | number (value : ℚ)
  deriving DecidableEq

/-- The integer of a value with `Number.isSafeInteger`. -/
def JsValue.safeInteger : JsValue → Option ℤ
  | .number value => if value.den = 1 ∧ |value.num| < 2 ^ 53 then some value.num else none
  | .string _ => none

/-- What the driver reads from a `bigint` column. -/
def bigintColumn (n : ℤ) : JsValue := .string (toString n)

/-! ## Invocations -/

/-- The arguments of contract calls: `xdr.ScVal`. -/
inductive ScVal where
  | account (address : String)
  | string (text : String)
  | i128 (hi : ℤ) (lo : ℕ)
  | u64 (n : ℕ)
  deriving DecidableEq

/-- The number that the contract receives for an `i128`. -/
def ScVal.int128 : ScVal → Option ℤ
  | .i128 hi lo => some (hi * 2 ^ 64 + lo)
  | _ => none

structure Invocation where
  contractId : String
  functionName : String
  args : List ScVal
  withAuth : Bool
  deriving DecidableEq

/-- The settings, with the address of the signing key pair. -/
structure EscrowConfig where
  contractId : String
  beneficiary : String
  platformAddress : String

inductive EscrowError where
  | badGateway (message : String)
  /-- A number does not fit into the type of an argument. -/
  | outOfRange
  deriving DecidableEq

def EscrowConfig.buildInvocation (escrow : EscrowConfig) (functionName : String)
    (args : List ScVal) : Invocation :=
  { contractId := escrow.contractId, functionName, args, withAuth := true }

/-- `xdr.Uint64.fromString(String(n))`, of an integer. -/
def uint64 (n : ℤ) : Except EscrowError ℕ :=
  if 0 ≤ n ∧ n < 2 ^ 64 then .ok n.toNat else .error .outOfRange

/-- `createEscrow`, up to the invocation that it submits. -/
def createEscrow (config : Option EscrowConfig) (bookingId : String) (amount : JsValue)
    (description : String) (releaseAfterUnix : ℤ) : Except EscrowError Invocation := do
  let escrow ← config.elim (.error (.badGateway
    "Soroban escrow is not configured (STELLAR_* variables missing).")) .ok
  let kobo ← (amount.safeInteger.filter (0 < ·)).elim (.error (.badGateway
    "Escrow amount must be a positive integer (kobo).")) .ok
  let lo ← uint64 kobo
  let releaseAfter ← uint64 releaseAfterUnix
  return escrow.buildInvocation "create_escrow"
    [.account escrow.platformAddress, .string bookingId, .account escrow.beneficiary, .i128 0 lo,
      .string description, .u64 releaseAfter]

/-- The invocation that a query leads to, if any. -/
def Query.invocation (escrow : EscrowConfig) : Query → Option Invocation
  | .createEscrow bookingId amount description releaseAfterUnix =>
    (Backend.createEscrow (some escrow) bookingId (bigintColumn amount) description
      releaseAfterUnix).toOption
  | _ => none

/-- The invocations that are built in a transcript. -/
def invocations (escrow : EscrowConfig) (tr : List (Σ q, Answer q)) : List Invocation :=
  tr.filterMap (·.1.invocation escrow)

/-- The invocation for a booking: the amount in kobo, and a release one day after its end. -/
def escrowInvocation (escrow : EscrowConfig) (payment : Payment) (booking : Booking) : Invocation :=
  escrow.buildInvocation "create_escrow"
    [.account escrow.platformAddress, .string payment.bookingId, .account escrow.beneficiary,
      .i128 0 payment.amount, .string s!"Booking {payment.bookingId}",
      .u64 (booking.endDate * 86400 + 86400).toNat]

section
variable {escrow : EscrowConfig} {config : Option EscrowConfig} {bookingId description : String}
  {payment : Payment} {booking : Booking} {releaseAfterUnix n : ℤ}

theorem uint64_of_lt (h : 0 ≤ n) (hlt : n < 2 ^ 64) : uint64 n = .ok n.toNat := if_pos ⟨h, hlt⟩

/-- No amount that is read from its column is a safe integer. -/
theorem createEscrow_bigint : createEscrow (some escrow) bookingId (bigintColumn n) description
    releaseAfterUnix = .error (.badGateway "Escrow amount must be a positive integer (kobo).") := rfl

theorem createEscrow_of_safe {amount : JsValue} {kobo : ℤ} {lo releaseAfter : ℕ}
    (hkobo : amount.safeInteger.filter (0 < ·) = some kobo) (hlo : uint64 kobo = .ok lo)
    (hrelease : uint64 releaseAfterUnix = .ok releaseAfter) :
    createEscrow (some escrow) bookingId amount description releaseAfterUnix =
      .ok (escrow.buildInvocation "create_escrow" [.account escrow.platformAddress,
        .string bookingId, .account escrow.beneficiary, .i128 0 lo, .string description,
        .u64 releaseAfter]) := by
  simp only [createEscrow, hkobo, Option.elim_some, bind, Except.bind, hlo, hrelease]
  rfl

theorem safeInteger_natCast {a : ℕ} (hpos : 0 < a) (hlt : a < 2 ^ 53) :
    (JsValue.number a).safeInteger.filter (0 < ·) = some (a : ℤ) := by
  have habs : |(a : ℤ)| < 2 ^ 53 := by
    rw [abs_of_nonneg (Int.natCast_nonneg _)]
    omega
  rw [JsValue.safeInteger, Rat.num_natCast, Rat.den_natCast, if_pos ⟨rfl, habs⟩,
    Option.filter_some_pos (by simpa using hpos)]

/-- An amount that is a number gets the invocation for the booking, with the amount itself. -/
theorem createEscrow_number (hpos : 0 < payment.amount) (hlt : payment.amount < 2 ^ 53)
    (hend : 0 ≤ booking.endDate * 86400 + 86400)
    (hend' : booking.endDate * 86400 + 86400 < 2 ^ 64) :
    createEscrow (some escrow) payment.bookingId (.number payment.amount)
      s!"Booking {payment.bookingId}" (booking.endDate * 86400 + 86400) =
        .ok (escrowInvocation escrow payment booking) ∧
    (ScVal.i128 0 payment.amount).int128 = some (payment.amount : ℤ) := by
  have hlo : uint64 (payment.amount : ℤ) = .ok payment.amount := by
    rw [uint64_of_lt (Int.natCast_nonneg _) (by omega), Int.toNat_natCast]
  exact ⟨createEscrow_of_safe (safeInteger_natCast hpos hlt) hlo (uint64_of_lt hend hend'),
    by simp [ScVal.int128]⟩

theorem Query.invocation_eq_none (q : Query) : q.invocation escrow = none := by
  cases q with
  | createEscrow _ _ _ _ =>
    rw [Query.invocation, createEscrow_bigint]
    rfl
  | _ => rfl

theorem invocations_eq_nil (tr : List (Σ q, Answer q)) : invocations escrow tr = [] :=
  List.filterMap_eq_nil_iff.2 fun e _ => e.1.invocation_eq_none

end

/-! ## What the handler asks for -/

/-- All queries but those for an escrow. -/
def Query.sparesEscrow : Query → Bool
  | .createEscrow _ _ _ _ => false
  | _ => true

/-- The escrows that are asked for in a transcript. -/
def escrowQueries (tr : List (Σ q, Answer q)) : List Query :=
  (tr.map (·.1)).filter fun q => ! q.sparesEscrow

/-- The handler finds the payment for the reference, marks it as paid, and honours its booking. -/
def ConfirmsBooking (reference : String) (paymentId : Uuid) (payment : Payment) (booking : Booking)
    (tr : List (Σ q, Answer q)) : Prop :=
  ∃ (affected : ℕ) (tr₁ tr₂ : List (Σ q, Answer q)), affected ≠ 0 ∧
    Process.Transcript (resolveBookingForSuccessfulPayment payment) tr₁ (.ok (some booking)) ∧
    tr = ⟨.findPayment (.byReference reference), some (paymentId, payment)⟩ ::
      ⟨.updatePayments (.byId paymentId) .pending .success, affected⟩ :: (tr₁ ++ tr₂)

section
variable {α : Type} {queries : Query → Bool} {userId : Option Uuid} {bookingId paymentId : Uuid}
  {payment : Payment} {booking : Booking} {tr : List (Σ q, Answer q)}

theorem sparesEscrow_of_isPersonal (q : Query) (h : q.isPersonal) : q.sparesEscrow := by
  cases q <;> first | rfl | cases h

theorem transaction_only {x : Proc α} (h : x.Only queries) (hbegin : queries .begin)
    (hcommit : queries .commit) (hrollback : queries .rollback) :
    (transaction x).Only queries := by
  refine (Process.Only.query hbegin).bind fun _ => h.attempt.bind fun r => ?_
  cases r with
  | ok a => exact (Process.Only.query hcommit).bind fun _ => trivial
  | error e => exact (Process.Only.query hrollback).bind fun _ => trivial

theorem activateMembership_sparesEscrow (userId : Option Uuid) :
    (activateMembershipIfNeeded userId).Only Query.sparesEscrow :=
  (activateMembershipIfNeeded_only userId).mono sparesEscrow_of_isPersonal

theorem saveBooking_sparesEscrow (held : Booking) :
    (saveBooking bookingId held).Only Query.sparesEscrow := by
  refine (Process.Only.query rfl).bind fun stored => ?_
  cases stored with
  | none => trivial
  | some stored => exact Process.Only.ite ((Process.Only.query rfl).bind fun _ => trivial) trivial

theorem confirmBooking_sparesEscrow : (confirmBooking bookingId).Only Query.sparesEscrow := by
  refine (Process.Only.query rfl).bind fun affected => Process.Only.ite ?_ ?_
  · exact (Process.Only.query rfl).bind fun found => Process.Only.okOr.bind fun current =>
      Process.Only.failIf.bind fun _ => trivial
  · exact (Process.Only.query rfl).bind fun found => Process.Only.okOr.bind fun booking =>
      (activateMembership_sparesEscrow _).bind fun _ => trivial

theorem reactivateExpired_sparesEscrow :
    (reactivateExpired bookingId).Only Query.sparesEscrow := by
  refine transaction_only ?_ rfl rfl rfl
  refine (Process.Only.query rfl).bind fun found => Process.Only.okOr.bind fun booking =>
    Process.Only.ite (Process.Only.failIf.bind fun _ => trivial) ?_
  refine (Process.Only.query rfl).bind fun found => Process.Only.okOr.bind fun workspace =>
    (Process.Only.query rfl).bind fun alreadyBooked => Process.Only.ite trivial ?_
  exact (saveBooking_sparesEscrow _).bind fun _ => (activateMembership_sparesEscrow _).bind fun _ =>
    trivial

theorem resolveBooking_sparesEscrow :
    (resolveBookingForSuccessfulPayment payment).Only Query.sparesEscrow := by
  refine (Process.Only.query rfl).bind fun found => ?_
  cases found with
  | none => trivial
  | some booking =>
    refine Process.Only.ite ?_ ?_
    · refine reactivateExpired_sparesEscrow.attempt.bind fun r => ?_
      cases r <;> trivial
    · refine confirmBooking_sparesEscrow.attempt.bind fun r => ?_
      cases r <;> trivial

theorem escrowQueries_append {tr' : List (Σ q, Answer q)} :
    escrowQueries (tr ++ tr') = escrowQueries tr ++ escrowQueries tr' := by
  rw [escrowQueries, List.map_append, List.filter_append, ← escrowQueries, ← escrowQueries]

/-- Without an escrow in it, a transcript does not count. -/
theorem escrowQueries_of_spares (h : ∀ e ∈ tr, e.1.sparesEscrow) : escrowQueries tr = [] := by
  rw [escrowQueries, List.filter_eq_nil_iff]
  intro q hq
  obtain ⟨e, he, rfl⟩ := List.mem_map.1 hq
  simp [h e he]

/-- After a long-term booking is honoured, the handler asks for one escrow, and for nothing more of
    the kind. -/
theorem settle_escrowQueries {r : Except HttpError Unit}
    (hplan : booking.planType ∈ longTermPlans) (hnone : booking.sorobanEscrowId = none)
    (h : Process.Transcript (settleBooking paymentId payment (some booking) >>= fun _ =>
      notifyPayer (.paymentSuccessEmail paymentId) (.paymentSuccessNotification · paymentId)
        payment) tr r) :
    escrowQueries tr = [.createEscrow payment.bookingId payment.amount
      s!"Booking {payment.bookingId}" (booking.endDate * 86400 + 86400)] := by
  have hcond : booking.planType ∈ longTermPlans ∧ booking.sorobanEscrowId.getD "" = "" :=
    ⟨hplan, by rw [hnone]; rfl⟩
  simp only [settleBooking, if_pos hcond, recordSorobanEscrow, bind_assoc] at h
  obtain ⟨txHash, tr', rfl, h'⟩ := Process.transcript_ask.1 h
  have hnotify : (notifyPayer (.paymentSuccessEmail paymentId)
      (.paymentSuccessNotification · paymentId) payment).Only Query.sparesEscrow :=
    notifyPayer_only rfl (fun _ => rfl) payment
  have hspares : ∀ e ∈ tr', e.1.sparesEscrow := by
    refine h'.only ?_
    cases txHash with
    | none => exact (Process.Only.query rfl).bind fun _ => hnotify
    | some txHash => exact ⟨rfl, fun _ => (Process.Only.query rfl).bind fun _ => hnotify⟩
  exact congrArg (_ :: ·) (escrowQueries_of_spares hspares)

/-- **When a charge pays for a long-term booking, the handler asks once for its escrow, with the
    stored amount; but the amount that it hands over is no number, and no invocation is built.** -/
theorem escrow_never_built {escrow : EscrowConfig} {reference : String} {r : Except HttpError Unit}
    (h : Process.Transcript (handleChargeSuccess reference) tr r)
    (hc : ConfirmsBooking reference paymentId payment booking tr)
    (hplan : booking.planType ∈ longTermPlans) (hnone : booking.sorobanEscrowId = none) :
    escrowQueries tr = [.createEscrow payment.bookingId payment.amount
      s!"Booking {payment.bookingId}" (booking.endDate * 86400 + 86400)] ∧
    invocations escrow tr = [] ∧
    invocations escrow tr ≠ [escrowInvocation escrow payment booking] := by
  obtain ⟨affected, tr₁, tr₂, hne, h₁, rfl⟩ := hc
  obtain ⟨_, _, he, h⟩ := Process.transcript_ask.1 h
  cases he
  obtain ⟨_, _, he, h⟩ := Process.transcript_ask.1 h
  cases he
  change Process.Transcript (if affected = 0 then _ else _) _ _ at h
  rw [if_neg hne] at h
  have hsettle := settle_escrowQueries hplan hnone (h₁.bind_iff.1 h)
  have hresolve := escrowQueries_of_spares (h₁.only resolveBooking_sparesEscrow)
  refine ⟨?_, invocations_eq_nil _, fun hbuilt => ?_⟩
  · change escrowQueries (tr₁ ++ tr₂) = _
    rw [escrowQueries_append, hresolve, hsettle, List.nil_append]
  · rw [invocations_eq_nil] at hbuilt
    cases hbuilt

end

/-- A guest's booking for a month, that is not paid for. -/
def monthlyBooking : Booking :=
  { userId := none, workspaceId := "w", planType := .monthly, startDate := 100, endDate := 130,
    totalAmount := 4000, status := .pending, paymentDeadline := none, seatCount := 1,
    isGuestBooking := true }

/-- The payment for it, of 4000 kobo. -/
def monthlyPayment : Payment :=
  { bookingId := "b", userId := none, amount := 4000, provider := .paystack,
    providerReference := some "r", status := .pending }

/-- The booking is confirmed, in a transcript of its own. -/
def confirmation : List (Σ q, Answer q) :=
  [⟨.findBooking "b", some monthlyBooking⟩, ⟨.updateBookings ["b"] .pending .confirmed, 1⟩,
    ⟨.findBooking "b", some { monthlyBooking with status := .confirmed }⟩]

/-- The escrow is asked for, which fails; the invoice and the email are started. -/
def settlement : List (Σ q, Answer q) :=
  [⟨.createEscrow "b" 4000 "Booking b" 11318400, none⟩, ⟨.start (.generateInvoice "p"), ()⟩,
    ⟨.start (.paymentSuccessEmail "p"), ()⟩]

/-- The charge with the reference "r" is handled. -/
def charged : List (Σ q, Answer q) :=
  ⟨.findPayment (.byReference "r"), some ("p", monthlyPayment)⟩ ::
    ⟨.updatePayments (.byId "p") .pending .success, 1⟩ :: (confirmation ++ settlement)

theorem transcript_charged : Process.Transcript (handleChargeSuccess "r") charged (.ok ()) :=
  .ask _ _ _ (.ask _ _ _ (.ask _ _ _ (.ask _ _ _ (.ask _ _ _ (.ask _ _ _ (.ask _ _ _
    (.ask _ _ _ (.done _))))))))

theorem confirmsBooking_charged : ConfirmsBooking "r" "p" monthlyPayment
    { monthlyBooking with status := .confirmed } charged :=
  ⟨1, confirmation, settlement, by decide, .ask _ _ _ (.ask _ _ _ (.ask _ _ _ (.done _))), rfl⟩

def sampleEscrow : EscrowConfig := ⟨"c", "beneficiary", "platform"⟩

theorem escrow_never_built_charged :
    escrowQueries charged = [.createEscrow "b" 4000 "Booking b" 11318400] ∧
    invocations sampleEscrow charged = [] ∧
    invocations sampleEscrow charged ≠
      [escrowInvocation sampleEscrow monthlyPayment { monthlyBooking with status := .confirmed }] :=
  escrow_never_built transcript_charged confirmsBooking_charged (by decide) rfl

/-- The booking is paid for and confirmed, and there is no invocation for its escrow. -/
theorem escrow_missing :
    Process.Transcript (handleChargeSuccess "r") charged (.ok ()) ∧
    ConfirmsBooking "r" "p" monthlyPayment { monthlyBooking with status := .confirmed } charged ∧
    0 < monthlyPayment.amount ∧ monthlyPayment.amount < 2 ^ 53 ∧
    monthlyBooking.planType ∈ longTermPlans ∧ monthlyBooking.sorobanEscrowId = none ∧
    invocations sampleEscrow charged ≠
      [escrowInvocation sampleEscrow monthlyPayment { monthlyBooking with status := .confirmed }] :=
  ⟨transcript_charged, confirmsBooking_charged, by decide, by decide, by decide, rfl, by decide⟩

end Backend
