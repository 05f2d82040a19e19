/-
  How the operations of the backend handle the seats of a workspace.

  New seats are taken in a transaction that has locked the workspace row and then added up the seats
  held in the window of the booking; every other write frees seats, or leaves them as they are.
-/
import NovaLabs.Backend.Effects

namespace Backend

open Lib

/-- How far a session is: outside a transaction; in one, with the booking that it read; with a
    workspace row locked, of which it read the capacity; with seats added up since. -/
inductive SeatStage where
  | outside
  | opened (found : Option (Uuid × Booking))
  | locked (found : Option (Uuid × Booking)) (workspaceId : Uuid) (totalSeats : ℤ)
  | checked (found : Option (Uuid × Booking)) (workspaceId : Uuid) (totalSeats : ℤ)
      (startDate endDate : Day) (excluded : Option Uuid) (booked : ℕ)

namespace SeatStage

def find (id : Uuid) (booking : Option Booking) : SeatStage → SeatStage
  | opened _ => opened (booking.map (id, ·))
  | stage => stage

def lock (workspaceId : Uuid) (workspace : Option Workspace) : SeatStage → SeatStage
  | opened found => workspace.elim (opened found) fun workspace =>
      locked found workspaceId workspace.totalSeats
  | stage => stage

def check (workspaceId : Uuid) (startDate endDate : Day) (excluded : Option Uuid) (booked : ℕ) :
    SeatStage → SeatStage
  | locked found id totalSeats =>
    if workspaceId = id then
      checked found id totalSeats startDate endDate excluded booked
    else locked found id totalSeats
  | stage => stage

/-- A write uses up the check. -/
def spend : SeatStage → SeatStage
  | checked found workspaceId totalSeats _ _ _ _ => locked found workspaceId totalSeats
  | stage => stage

/-- The check shows room for the booking, apart from the seats that `excluded` may hold. -/
def HasRoom (found : Option (Uuid × Booking)) (excluded : Option Uuid) (booking : Booking)
    (stage : SeatStage) : Prop :=
  ∃ totalSeats booked, stage = checked found booking.workspaceId totalSeats booking.startDate
    booking.endDate excluded booked ∧ (booked : ℤ) + booking.seatCount ≤ totalSeats

def permits (stage : SeatStage) : Query → Prop
  | .begin => stage = outside
  | .commit | .rollback => stage ≠ outside
  | .lockWorkspace _ => ∃ found, stage = opened found
  | .insertBooking booking => ∃ found, stage.HasRoom found none booking
  | .updateBookings _ source target => target.holdsSeats → source.holdsSeats
  | .updateBooking id c => (∀ status ∈ c.status, ¬ status.holdsSeats) ∨
      ∃ booking, stage.HasRoom (some (id, booking)) (some id) booking
  | .updateWorkspace _ _ => stage = outside
  | _ => True

def after (stage : SeatStage) : (q : Query) → Answer q → SeatStage
  | .begin, _ => opened none
  | .commit, _ | .rollback, _ => outside
  | .findBooking id, booking => stage.find id booking
  | .lockWorkspace id, workspace => stage.lock id workspace
  | .bookedSeats workspaceId startDate endDate excluded, booked =>
    stage.check workspaceId startDate endDate excluded booked
  | .insertBooking _, _ | .updateBooking _ _, _ => stage.spend
  | _, _ => stage

end SeatStage

def seatProtocol : Protocol Answer SeatStage where
  permits := SeatStage.permits
  after := SeatStage.after

@[simp] theorem seatProtocol_permits (stage : SeatStage) (q : Query) :
    seatProtocol.permits stage q = stage.permits q := rfl

@[simp] theorem seatProtocol_after (stage : SeatStage) (q : Query) (a : Answer q) :
    seatProtocol.after stage q a = stage.after q a := rfl

theorem seatProtocol_quiet {stage : SeatStage} : Quiet seatProtocol stage := by
  intro op hop
  cases op <;> first | exact ⟨trivial, fun _ => rfl⟩ | cases hop

/-! ## Parts of the operations -/

section
variable {stage : SeatStage} {id : Uuid}

theorem transaction_seats {β : Type} {x : Proc β}
    (h : Meets seatProtocol (.opened none) x fun q _ => q ≠ .outside) :
    Meets seatProtocol .outside (transaction x) fun q _ => q = .outside :=
  Meets.transaction rfl h (fun _ _ hq => ⟨hq, rfl⟩) fun _ _ hq => ⟨hq, rfl⟩

theorem savePayment_seats (held : Payment) :
    Meets seatProtocol stage (savePayment id held) fun q _ => q = stage := by
  refine Meets.query trivial fun stored => ?_
  cases stored with
  | none => rfl
  | some stored => exact Meets.ite (fun _ => Meets.query trivial fun _ => rfl) fun _ => rfl

theorem saveWorkspace_seats (held : Workspace) :
    Meets seatProtocol .outside (saveWorkspace id held) fun q _ => q = .outside := by
  refine Meets.query trivial fun stored => ?_
  cases stored with
  | none => rfl
  | some stored => exact Meets.ite (fun _ => Meets.query rfl fun _ => rfl) fun _ => rfl

/-- A save frees the seats of the booking, or takes them where there is room. -/
theorem saveBooking_seats {held : Booking} (hfind : ∀ booking, stage.find id booking = stage)
    (h : held.status.holdsSeats = false ∨
      ∃ booking, stage.HasRoom (some (id, booking)) (some id) booking) :
    Meets seatProtocol stage (saveBooking id held) fun q _ => q = stage ∨ q = stage.spend := by
  refine Meets.query trivial fun stored => ?_
  simp only [seatProtocol_after, SeatStage.after, hfind]
  cases stored with
  | none => exact Or.inl rfl
  | some stored =>
    have hpermits : stage.permits (.updateBooking id (held.changes stored)) := by
      refine h.imp_left fun hfree status hs => ?_
      obtain ⟨-, rfl⟩ := differing_eq_some.1 hs
      simp [hfree]
    exact Meets.ite (fun _ => Meets.query hpermits fun _ => Or.inr rfl) fun _ => Or.inl rfl

theorem lockActiveWorkspace_seats {found : Option (Uuid × Booking)} :
    Meets seatProtocol (.opened found) (lockActiveWorkspace id) fun q r => match r with
      | .ok workspace => q = .locked found id workspace.totalSeats
      | .error _ => q ≠ .outside := by
  refine Meets.query ⟨found, rfl⟩ fun workspace => ?_
  refine Meets.okOr (fun hnone => ?_) fun workspace hsome => ?_
  · subst hnone
    exact SeatStage.noConfusion
  · subst hsome
    exact Meets.failIf (fun _ => SeatStage.noConfusion) fun _ => rfl

end

/-! ## The operations -/

theorem createBooking_seats (cfg : Config) (dto : CreateBookingDto) (userId : Uuid) :
    Meets seatProtocol .outside (createBooking cfg dto userId) fun q _ => q = .outside := by
  refine Meets.failIf (fun _ => rfl) fun _ => ?_
  refine transaction_seats ?_
  refine Meets.seq lockActiveWorkspace_seats (fun q workspace hq => ?_) fun _ _ hq => hq
  obtain rfl : q = .locked none dto.workspaceId workspace.totalSeats := hq
  refine Meets.query trivial fun alreadyBooked => ?_
  simp only [seatProtocol_after, SeatStage.after, SeatStage.check, if_true]
  refine Meets.failIf (fun _ => SeatStage.noConfusion) fun hroom => ?_
  refine Meets.query trivial fun now => Meets.query ?_ fun saved => ?_
  · exact ⟨none, _, _, rfl, not_lt.1 hroom⟩
  · exact Meets.query trivial fun _ => SeatStage.noConfusion

theorem createDayPass_seats (cfg : Config) (dto : CreatePublicBookingDto) :
    Meets seatProtocol .outside (createDayPass cfg dto) fun q _ => q = .outside := by
  refine Meets.query trivial fun today => Meets.failIf (fun _ => rfl) fun _ => ?_
  refine transaction_seats ?_
  refine Meets.seq lockActiveWorkspace_seats (fun q workspace hq => ?_) fun _ _ hq => hq
  obtain rfl : q = .locked none dto.workspaceId workspace.totalSeats := hq
  refine Meets.query trivial fun alreadyBooked => ?_
  simp only [seatProtocol_after, SeatStage.after, SeatStage.check, if_true]
  refine Meets.failIf (fun _ => SeatStage.noConfusion) fun hroom => ?_
  refine Meets.query trivial fun now => Meets.query ?_ fun booking => ?_
  · exact ⟨none, _, _, rfl, not_lt.1 hroom⟩
  refine Meets.query trivial fun payment => Meets.query trivial fun checkout => ?_
  refine Meets.okOr (fun _ => SeatStage.noConfusion) fun paystackData _ => ?_
  refine Meets.seq (savePayment_seats _) ?_ ?_
  · rintro q _ rfl
    exact SeatStage.noConfusion
  · rintro q _ rfl
    exact SeatStage.noConfusion

theorem confirmBooking_seats (id : Uuid) :
    Meets seatProtocol .outside (confirmBooking id) fun q _ => q = .outside := by
  refine Meets.query (fun _ => rfl) fun affected => Meets.ite (fun _ => ?_) fun _ => ?_
  · refine Meets.query trivial fun current => Meets.okOr (fun _ => rfl) fun current _ => ?_
    exact Meets.failIf (fun _ => rfl) fun _ => rfl
  · refine Meets.query trivial fun booking => Meets.okOr (fun _ => rfl) fun booking _ => ?_
    exact Meets.seq (activateMembershipIfNeeded_quiet seatProtocol_quiet.personal _) (fun _ _ hq => hq)
      fun _ _ hq => hq

theorem reactivateExpired_seats (id : Uuid) :
    Meets seatProtocol .outside (reactivateExpired id) fun q _ => q = .outside := by
  refine transaction_seats (Meets.query trivial fun found => ?_)
  refine Meets.okOr (fun _ => SeatStage.noConfusion) fun booking hfound => ?_
  subst hfound
  refine Meets.ite (fun _ => ?_) fun _ => ?_
  · exact Meets.failIf (fun _ => SeatStage.noConfusion) fun _ => SeatStage.noConfusion
  refine Meets.query ⟨_, rfl⟩ fun workspace => ?_
  refine Meets.okOr (fun hnone => ?_) fun workspace hsome => ?_
  · subst hnone
    exact SeatStage.noConfusion
  subst hsome
  refine Meets.query trivial fun alreadyBooked => ?_
  simp only [seatProtocol_after, SeatStage.after, SeatStage.find, SeatStage.lock, SeatStage.check,
    Option.map_some, Option.elim_some, if_true]
  refine Meets.ite (fun _ => SeatStage.noConfusion) fun hroom => ?_
  refine Meets.seq (saveBooking_seats (fun _ => rfl) (Or.inr ⟨booking, _, _, rfl, not_lt.1 hroom⟩))
    ?_ ?_
  · rintro q _ (rfl | rfl)
    all_goals
      exact Meets.seq (activateMembershipIfNeeded_quiet seatProtocol_quiet.personal _)
        (fun _ _ hq => hq ▸ SeatStage.noConfusion) fun _ _ hq => hq ▸ SeatStage.noConfusion
  · rintro q _ (rfl | rfl) <;> exact SeatStage.noConfusion

theorem cancelBooking_seats (bookingId userId : Uuid) (userRole : UserRole) :
    Meets seatProtocol .outside (cancelBooking bookingId userId userRole) fun q _ => q = .outside := by
  refine Meets.query trivial fun found => Meets.okOr (fun _ => rfl) fun booking _ => ?_
  refine Meets.failIf (fun _ => rfl) fun _ => Meets.failIf (fun _ => rfl) fun _ => ?_
  refine Meets.seq (saveBooking_seats (fun _ => rfl) (Or.inl rfl)) (fun q _ hq => ?_)
    fun q _ hq => ?_
  · obtain rfl : q = .outside := hq.elim id id
    exact Meets.query trivial fun _ => rfl
  · exact hq.elim id id

theorem completeBooking_seats (bookingId : Uuid) :
    Meets seatProtocol .outside (completeBooking bookingId) fun q _ => q = .outside := by
  refine Meets.query trivial fun found => Meets.okOr (fun _ => rfl) fun booking _ => ?_
  refine Meets.failIf (fun _ => rfl) fun _ => ?_
  exact Meets.seq (saveBooking_seats (fun _ => rfl) (Or.inl rfl)) (fun _ _ hq => hq.elim id id)
    fun _ _ hq => hq.elim id id

theorem expirePlan_seats (cfg : Config) (now : Time) (result : ExpirySweepResult)
    (planType : PlanType) :
    Meets seatProtocol .outside (expirePlan cfg now result planType) fun q _ => q = .outside := by
  refine Meets.query trivial fun pendingBookings => Meets.ite (fun _ => rfl) fun _ => ?_
  refine Meets.seq (transaction_seats ?_) (fun _ _ hq => hq) fun _ _ hq => hq
  refine Meets.query (fun hholds => ?_) fun _ => Meets.query trivial fun _ => SeatStage.noConfusion
  cases hholds

theorem expireStalePendingBookings_seats (cfg : Config) :
    Meets seatProtocol .outside (expireStalePendingBookings cfg) fun q _ => q = .outside := by
  refine Meets.query trivial fun now => ?_
  have hround : ∀ q result planType, q = .outside →
      Meets seatProtocol q (expirePlan cfg now result planType) fun q _ => q = .outside := by
    rintro q result planType rfl
    exact expirePlan_seats cfg now result planType
  exact Meets.foldlM hround rfl _ _

theorem updateWorkspace_seats (id : Uuid) (dto : WorkspaceChanges) :
    Meets seatProtocol .outside (updateWorkspace id dto) fun q _ => q = .outside := by
  refine Meets.query trivial fun found => Meets.okOr (fun _ => rfl) fun workspace _ => ?_
  exact Meets.seq (saveWorkspace_seats _) (fun _ _ hq => hq) fun _ _ hq => hq

theorem initializePayment_seats (bookingId userId : Uuid) :
    Meets seatProtocol .outside (initializePayment bookingId userId) fun q _ => q = .outside := by
  refine Meets.query trivial fun found => Meets.okOr (fun _ => rfl) fun booking _ => ?_
  refine Meets.failIf (fun _ => rfl) fun _ => Meets.query trivial fun existing => ?_
  cases existing with
  | some existing =>
    refine Meets.query trivial fun user => Meets.okOr (fun _ => rfl) fun user _ => ?_
    exact Meets.query trivial fun checkout => Meets.okOr (fun _ => rfl) fun paystackData _ => rfl
  | none =>
    refine Meets.query trivial fun user => Meets.query trivial fun payment => ?_
    refine Meets.okOr (fun _ => rfl) fun user _ => Meets.query trivial fun checkout => ?_
    refine Meets.okOr (fun _ => rfl) fun paystackData _ => ?_
    exact Meets.seq (savePayment_seats _) (fun _ _ hq => hq) fun _ _ hq => hq

theorem resolveBookingForSuccessfulPayment_seats (payment : Payment) :
    Meets seatProtocol .outside (resolveBookingForSuccessfulPayment payment)
      fun q _ => q = .outside := by
  refine Meets.query trivial fun booking => ?_
  cases booking with
  | none => rfl
  | some booking =>
    refine Meets.ite (fun _ => ?_) fun _ => ?_
    · refine Meets.attempt (reactivateExpired_seats _) fun q r hq => ?_
      cases r <;> exact hq
    · refine Meets.attempt (confirmBooking_seats _) fun q r hq => ?_
      cases r <;> exact hq

theorem recordSorobanEscrow_seats (payment : Payment) (booking : Booking) :
    Meets seatProtocol .outside (recordSorobanEscrow payment booking) fun q _ => q = .outside := by
  refine Meets.query trivial fun txHash => ?_
  cases txHash with
  | none => rfl
  | some txHash =>
    refine Meets.query (Or.inl fun _ hs => ?_) fun _ => rfl
    cases hs

theorem settleBooking_seats (paymentId : Uuid) (payment : Payment) (booking : Option Booking) :
    Meets seatProtocol .outside (settleBooking paymentId payment booking)
      fun q _ => q = .outside := by
  cases booking with
  | none => rfl
  | some booking =>
    refine Meets.ite (fun _ => ?_) fun _ => Meets.query trivial fun _ => rfl
    refine Meets.seq (recordSorobanEscrow_seats _ _) (fun q _ hq => ?_) fun _ _ hq => hq
    exact Meets.query trivial fun _ => hq

theorem handleChargeSuccess_seats (reference : String) :
    Meets seatProtocol .outside (handleChargeSuccess reference) fun q _ => q = .outside := by
  refine Meets.query trivial fun found => Meets.okOr (fun _ => rfl) fun payment _ => ?_
  refine Meets.query trivial fun affected => Meets.ite (fun _ => Meets.query trivial fun _ => rfl)
    fun _ => ?_
  refine Meets.seq (resolveBookingForSuccessfulPayment_seats _) (fun q booking hq => ?_)
    fun _ _ hq => hq
  obtain rfl : q = .outside := hq
  refine Meets.seq (settleBooking_seats _ _ _) (fun q _ hq => ?_) fun _ _ hq => hq
  obtain rfl : q = .outside := hq
  exact notifyPayer_quiet seatProtocol_quiet rfl (fun _ => rfl) _

theorem handleChargeFailed_seats (reference : String) :
    Meets seatProtocol .outside (handleChargeFailed reference) fun q _ => q = .outside := by
  refine Meets.query trivial fun found => ?_
  cases found with
  | none => rfl
  | some payment =>
    refine Meets.query trivial fun affected => Meets.ite (fun _ => Meets.query trivial fun _ => rfl)
      fun _ => notifyPayer_quiet seatProtocol_quiet rfl (fun _ => rfl) _

theorem handleWebhook_seats (cfg : Config) (d : Delivery) :
    Meets seatProtocol .outside (handleWebhook cfg d) fun q _ => q = .outside := by
  refine Meets.failIf (fun _ => rfl) fun _ => ?_
  refine Meets.seq (checkWebhookAge_quiet seatProtocol_quiet.personal _ _) (fun q _ hq => ?_)
    fun _ _ hq => hq
  obtain rfl : q = .outside := hq
  cases cfg.parseBody d.rawBody with
  | malformed | null => rfl
  | event eventType reference =>
    dsimp only
    split
    · rfl
    · refine Meets.ite (fun _ => handleChargeSuccess_seats _) fun _ => ?_
      exact Meets.ite (fun _ => handleChargeFailed_seats _) fun _ => rfl

theorem refundPayment_seats (paymentId requestingUserId : Uuid) (requestingUserRole : UserRole) :
    Meets seatProtocol .outside (refundPayment paymentId requestingUserId requestingUserRole)
      fun q _ => q = .outside := by
  refine Meets.query trivial fun found => Meets.okOr (fun _ => rfl) fun payment _ => ?_
  refine Meets.failIf (fun _ => rfl) fun _ => Meets.failIf (fun _ => rfl) fun _ => ?_
  refine Meets.query trivial fun accepted => Meets.failIf (fun _ => rfl) fun _ => ?_
  refine Meets.query trivial fun affected => Meets.query trivial fun current => ?_
  refine Meets.ite (fun _ => ?_) fun _ => rfl
  cases current with
  | none => rfl
  | some current => exact Meets.failIf (fun _ => rfl) fun _ => rfl

/-- **Every operation takes seats only after a check under the lock of the workspace.** -/
theorem program_seats (cfg : Config) (request : Request) :
    Meets seatProtocol .outside (request.program cfg) fun q _ => q = .outside := by
  have hreturn {α : Type} {x : Proc α} {f : α → Response}
      (h : Meets seatProtocol .outside x fun q _ => q = .outside) :
      Meets seatProtocol .outside (x >>= fun a => pure (f a)) fun q _ => q = .outside :=
    h.seq (fun _ _ hq => hq) fun _ _ hq => hq
  cases request with
  | createBooking => exact hreturn (createBooking_seats _ _ _)
  | createDayPass => exact hreturn (createDayPass_seats _ _)
  | confirmBooking => exact hreturn (confirmBooking_seats _)
  | cancelBooking => exact hreturn (cancelBooking_seats _ _ _)
  | completeBooking => exact hreturn (completeBooking_seats _)
  | expireStalePendingBookings => exact hreturn (expireStalePendingBookings_seats _)
  | reactivateExpired => exact hreturn (reactivateExpired_seats _)
  | updateWorkspace => exact hreturn (updateWorkspace_seats _ _)
  | initializePayment => exact hreturn (initializePayment_seats _ _)
  | handleWebhook => exact hreturn (handleWebhook_seats _ _)
  | refundPayment => exact hreturn (refundPayment_seats _ _ _)

end Backend
