/-
  What `check_availability` answers, next to what `book_workspace` decides.

  Both start from the seats booked in the slot, a sum cut off at `u32::MAX`
  (`bookedSeatsInSlot_eq`).  The query subtracts it from the capacity; the booking adds the seats
  asked for, cuts off again and compares.  The two agree unless the second cut hides an overflow.
-/
import NovaLabs.WorkspaceBooking.Capacity

namespace WorkspaceBooking

open Lib Soroban

variable {me : Address} {env : Env me} {s s' : State}

/-! ## The query -/

structure AvailabilityResult where
  available : Bool
  remainingSeats : ℕ
  deriving DecidableEq

/-- `check_availability`, which writes nothing. -/
def checkAvailability (s : State) (workspaceId : String) (startTime endTime : ℕ) :
    AvailabilityResult :=
  match s.workspaces.lookup workspaceId with
  | none => { available := false, remainingSeats := 0 }
  | some workspace =>
    if workspace.availability ≠ .available then { available := false, remainingSeats := 0 }
    else
      let bookedSeats := bookedSeatsInSlot s workspaceId startTime endTime
      let remainingSeats := workspace.capacity - bookedSeats
      { available := decide (remainingSeats > 0), remainingSeats }

theorem checkAvailability_open {w : String} {ws : Workspace} (h : s.workspaces.lookup w = some ws)
    (ha : ws.availability = .available) (st en : ℕ) :
    (checkAvailability s w st en).remainingSeats =
      ws.capacity - bookedSeatsInSlot s w st en := by
  simp [checkAvailability, h, ha]

/-- No seats remain of a workspace that is unknown or unavailable. -/
theorem checkAvailability_closed {w : String}
    (h : ∀ ws, s.workspaces.lookup w = some ws → ws.availability ≠ .available) (st en : ℕ) :
    (checkAvailability s w st en).remainingSeats = 0 := by
  unfold checkAvailability
  cases hw : s.workspaces.lookup w with
  | none => rfl
  | some ws => simp [h ws hw]

/-! ## Requests -/

/-- The arguments of `book_workspace`. -/
structure BookingRequest where
  member : Address
  bookingId : String
  workspaceId : String
  startTime : ℕ
  endTime : ℕ
  seatCount : ℕ

def BookingRequest.call (r : BookingRequest) : Call :=
  .bookWorkspace r.member r.bookingId r.workspaceId r.startTime r.endTime r.seatCount

/-- The request is authorised, has a fresh id and a slot that has not ended, and asks for a seat. -/
structure BookingRequest.Sound (env : Env me) (s : State) (r : BookingRequest) : Prop where
  auth : r.member ∈ env.auths
  fresh : s.bookings.lookup r.bookingId = none
  slot : r.startTime < r.endTime
  future : env.now < r.endTime
  seats : 1 ≤ r.seatCount

/-- The seats that `check_availability` reports for the slot of a request. -/
def BookingRequest.remaining (r : BookingRequest) (s : State) : ℕ :=
  (checkAvailability s r.workspaceId r.startTime r.endTime).remainingSeats

/-- The errors of the existence, availability and capacity checks. -/
def seatErrors : List Error := [.workspaceNotFound, .workspaceUnavailable, .insufficientCapacity]

/-- `book_workspace` passes its existence, availability and capacity checks. -/
def BookingRequest.PassesSeatChecks (env : Env me) (s : State) (r : BookingRequest) : Prop :=
  ∀ e ∈ seatErrors, ∀ s', ¬ Refuses (entryPoint env r.call) s (.err e) s'

/-- The workspace is there, is available, and its capacity holds the saturated sum. -/
def BookingRequest.HasSeats (s : State) (r : BookingRequest) : Prop :=
  ∃ ws, s.workspaces.lookup r.workspaceId = some ws ∧ ws.availability = .available ∧
    saturatingAdd 32 (bookedSeatsInSlot s r.workspaceId r.startTime r.endTime) r.seatCount ≤
      ws.capacity

namespace BookingRequest
variable {r : BookingRequest}

/-- How the checks of a sound request stop with an error. -/
theorem Sound.bookChecks_stops (hr : r.Sound env s) {e : Error} :
    Stops (bookChecks env r.member r.bookingId r.workspaceId r.startTime r.endTime r.seatCount) s
        (.err e) s' ↔
      ((s.workspaces.lookup r.workspaceId = none ∧ e = .workspaceNotFound) ∨
        ∃ ws, s.workspaces.lookup r.workspaceId = some ws ∧
          ((ws.availability ≠ .available ∧ e = .workspaceUnavailable) ∨
            (ws.availability = .available ∧ ws.capacity <
              saturatingAdd 32 (bookedSeatsInSlot s r.workspaceId r.startTime r.endTime)
                r.seatCount ∧ e = .insufficientCapacity))) ∧ s' = s := by
  have hslot : ¬ (r.startTime ≥ r.endTime ∨ r.endTime ≤ env.now) := by
    have := hr.slot; have := hr.future; omega
  have hseats : r.seatCount ≠ 0 := Nat.one_le_iff_ne_zero.1 hr.seats
  simp only [bookChecks, stops_requireAuth_bind, stops_get_bind, stops_failIf_bind, hr.auth,
    hr.fresh, Option.isSome_none, Bool.false_eq_true, hslot, hseats, loadWorkspace, bind_assoc,
    stops_okOr_bind, not_true, not_false_iff, false_and, true_and, false_or, ne_eq, not_not,
    Stop.err.injEq, slotCost, stops_checked, reduceCtorEq, and_false, or_false, gt_iff_lt]
  constructor
  · rintro (⟨hw, he, rfl⟩ | ⟨ws, hw, ⟨ha, he, rfl⟩ | ⟨ha, hc, he, rfl⟩⟩)
    · exact ⟨Or.inl ⟨hw, he⟩, rfl⟩
    · exact ⟨Or.inr ⟨ws, hw, Or.inl ⟨ha, he⟩⟩, rfl⟩
    · exact ⟨Or.inr ⟨ws, hw, Or.inr ⟨ha, hc, he⟩⟩, rfl⟩
  · rintro ⟨⟨hw, he⟩ | ⟨ws, hw, ⟨ha, he⟩ | ⟨ha, hc, he⟩⟩, rfl⟩
    · exact Or.inl ⟨hw, he, rfl⟩
    · exact Or.inr ⟨ws, hw, Or.inl ⟨ha, he, rfl⟩⟩
    · exact Or.inr ⟨ws, hw, Or.inr ⟨ha, hc, he, rfl⟩⟩

/-- The three errors come from the checks before the lock. -/
theorem refuses_iff {e : Error} (he : e ∈ seatErrors) :
    Refuses (entryPoint env r.call) s (.err e) s' ↔ Stops (bookChecks env r.member r.bookingId
      r.workspaceId r.startTime r.endTime r.seatCount) s (.err e) s' := by
  have hlock : e ≠ .reentrancyLock := fun h => by rw [h] at he; simp [seatErrors] at he
  have htoken : e ≠ .paymentTokenNotSet := fun h => by rw [h] at he; simp [seatErrors] at he
  simp [call, entryPoint, bookWorkspace, reentrancyProtect, getPaymentToken,
    hlock, htoken, saveBooking, indexBooking, dropGuard]

/-- A sound request passes the three checks if the seats are there. -/
theorem Sound.passes_iff (hr : r.Sound env s) : r.PassesSeatChecks env s ↔ r.HasSeats s := by
  constructor
  · intro h
    have hno {e : Error} (he : e ∈ seatErrors) := fun hs => h e he s ((refuses_iff he).2 hs)
    cases hw : s.workspaces.lookup r.workspaceId with
    | none =>
      exact (hno (by simp [seatErrors]) (hr.bookChecks_stops.2 ⟨Or.inl ⟨hw, rfl⟩, rfl⟩)).elim
    | some ws =>
      by_cases ha : ws.availability = .available
      · refine ⟨ws, hw, ha, Nat.not_lt.1 fun hc => hno (e := .insufficientCapacity)
          (by simp [seatErrors]) (hr.bookChecks_stops.2 ⟨Or.inr ⟨ws, hw, Or.inr ⟨ha, hc, rfl⟩⟩, rfl⟩)⟩
      · exact (hno (by simp [seatErrors])
          (hr.bookChecks_stops.2 ⟨Or.inr ⟨ws, hw, Or.inl ⟨ha, rfl⟩⟩, rfl⟩)).elim
  · rintro ⟨ws, hw, ha, hc⟩ e he s' hs
    rcases (hr.bookChecks_stops.1 ((refuses_iff he).1 hs)).1 with
      ⟨hnone, -⟩ | ⟨ws', hw', ⟨hna, -⟩ | ⟨-, hover, -⟩⟩
    · cases hw.symm.trans hnone
    · cases hw.symm.trans hw'; exact hna ha
    · cases hw.symm.trans hw'; exact Nat.not_lt.2 hc hover

/-- A request that completes had its seats, and writes one active booking of its slot and seats. -/
theorem completes_books {token : Transfer → Ledger → Option Ledger} {l l' : Ledger}
    (h : Completes token (entryPoint env r.call) s l () s' l') :
    r.HasSeats s ∧ ∃ b : Booking, b.workspaceId = r.workspaceId ∧ b.startTime = r.startTime ∧
      b.endTime = r.endTime ∧ b.seatCount = r.seatCount ∧ b.status = .active ∧
      s.bookings.lookup b.id = none ∧ s'.workspaces = s.workspaces ∧
      s'.bookings = s.bookings.insert b.id b := by
  rcases h.cases with ⟨hf, -⟩ | ⟨q, s₁, k, l₁, hc, -, hk⟩
  · simp [call, entryPoint, bookWorkspace] at hf
  · rcases callsOut_cases hc with ⟨b, ws, hb⟩ | ⟨id, b, hb⟩
    · have hcall : r.call = _ := hb.call
      rw [call, Call.bookWorkspace.injEq] at hcall
      obtain ⟨-, -, hw, hst, hen, hn⟩ := hcall
      rw [hb.rest, hb.locked, Act.run] at hk
      cases hk
      refine ⟨⟨ws, hw ▸ hb.stored, hb.available, ?_⟩, b, hw.symm, hst.symm, hen.symm, hn.symm,
        hb.active, hb.fresh, rfl, rfl⟩
      rw [hw, hst, hen, hn]
      exact hb.fits
    · obtain ⟨_, hcall, -⟩ := hb.call
      cases hcall

end BookingRequest

/-! ## The two decisions -/

/-- The capacities fit a `u32`. -/
def CapacityFits (s : State) : Prop :=
  ∀ id ws, s.workspaces.lookup id = some ws → ws.capacity < 2 ^ 32

theorem Steps.capacityFits {w w' : World} {i : Input me} (h : Steps me w i w')
    (hfit : i.call.Fits) (hw : CapacityFits w.1) : CapacityFits w'.1 := by
  obtain ⟨env, c, token⟩ := i
  subst h
  rcases commitIn_cases token (entryPoint env c) w.1 w.2 with
    ⟨-, he⟩ | ⟨_, s', hf, he⟩ | ⟨q, s₁, k, l₁, _, s', l', hc, -, hk, he⟩ <;> rw [next, he]
  · exact hw
  · have hlocal := finishes_cases hf
    cases hlocal with
    | config | complete => exact hw
    | register ws _ _ =>
      intro id ws' hs
      rw [State.putWorkspace, Store.lookup_insert_ite] at hs
      split_ifs at hs
      · obtain rfl := Option.some.inj hs
        exact hfit.1
      · exact hw id ws' hs
    | workspace hs₀ hcap =>
      intro id ws' hs
      rw [State.putWorkspace, Store.lookup_insert_ite] at hs
      split_ifs at hs
      · obtain rfl := Option.some.inj hs
        exact hcap ▸ hw _ _ hs₀
      · exact hw id ws' hs
  · -- a call with a transfer leaves the workspaces alone
    rcases callsOut_cases hc with ⟨b, ws, hb⟩ | ⟨id, b, hb⟩ <;>
    · rw [hb.rest, hb.locked, Act.run] at hk
      cases hk
      exact hw

/-- What the query and the booking of a request say of each other. -/
structure AvailabilityAgrees (env : Env me) (w : World) (r : BookingRequest) : Prop where
  decides : r.PassesSeatChecks env w.1 ↔ r.seatCount ≤ r.remaining w.1
  takes : ∀ token s' l', Completes token (entryPoint env r.call) w.1 w.2 () s' l' →
    r.remaining s' + r.seatCount = r.remaining w.1

/-- An available workspace of the largest capacity has the seats asked for next to those of the
    overlapping bookings. -/
def BookingRequest.Counted (s : State) (r : BookingRequest) : Prop :=
  ∀ ws, s.workspaces.lookup r.workspaceId = some ws → ws.availability = .available →
    ws.capacity < 2 ^ 32 - 1 ∨
      seatsIn s r.workspaceId r.startTime r.endTime + r.seatCount ≤ 2 ^ 32 - 1

/-- Where the index is exact and capacities fit, the seats are there if enough are reported, unless
    the sum of the seats overflows. -/
theorem BookingRequest.hasSeats_iff {r : BookingRequest} (hi : Indexed s) (hfits : CapacityFits s)
    (hn : 1 ≤ r.seatCount) : (r.HasSeats s ↔ r.seatCount ≤ r.remaining s) ↔ r.Counted s := by
  unfold HasSeats remaining Counted
  by_cases hopen : ∃ ws, s.workspaces.lookup r.workspaceId = some ws ∧ ws.availability = .available
  · obtain ⟨ws, hw, ha⟩ := hopen
    have hcap := hfits _ _ hw
    rw [checkAvailability_open hw ha, bookedSeatsInSlot_eq hi]
    simp only [hw, Option.some.injEq, exists_eq_left', forall_eq', ha, true_and, forall_const,
      saturatingAdd_min]
    omega
  · rw [checkAvailability_closed fun ws hw ha => hopen ⟨ws, hw, ha⟩]
    refine iff_of_true (iff_of_false ?_ (by omega)) fun ws hw ha => (hopen ⟨ws, hw, ha⟩).elim
    rintro ⟨ws, hw, ha, -⟩
    exact hopen ⟨ws, hw, ha⟩

/-- The seats booked in its slot grow by those of a completed request. -/
theorem BookingRequest.seatsIn_completed {r : BookingRequest}
    {token : Transfer → Ledger → Option Ledger} {l l' : Ledger} (hslot : r.startTime < r.endTime)
    (h : Completes token (entryPoint env r.call) s l () s' l') :
    s'.workspaces = s.workspaces ∧ seatsIn s' r.workspaceId r.startTime r.endTime =
      seatsIn s r.workspaceId r.startTime r.endTime + r.seatCount := by
  obtain ⟨-, b, hw, hst, hen, hn, ha, hfresh, hws, hb⟩ := completes_books h
  refine ⟨hws, ?_⟩
  have hheld : heldSeats r.workspaceId (·.Overlaps r.startTime r.endTime) b.id b = r.seatCount := by
    rw [heldSeats, if_pos ⟨hw, ha, by rw [Booking.Overlaps, hst, hen]; exact ⟨hslot, hslot⟩⟩, hn]
  rw [seatsIn, hb, Store.total_insert_new hfresh, hheld, Nat.add_comm]
  rfl

theorem indexed_fits_run {l : Ledger} {tr : List (Event World (Input me))} {w : World}
    (h : Run (Steps me) ({}, l) tr w) (hfit : ∀ ev ∈ tr, ev.inp.call.Fits) :
    Indexed w.1 ∧ CapacityFits w.1 :=
  h.invariant (P := fun w => Indexed w.1 ∧ CapacityFits w.1)
    (fun _ ⟨hi, hw⟩ hs hc => ⟨hs.change.indexed hi, hs.capacityFits hc hw⟩)
    ⟨indexed_start, fun _ _ h => by simp at h⟩ hfit

/-- **Availability answers and booking decisions.**  They agree just where no sum of seats
    overflows. -/
theorem availability_agrees {l : Ledger} {tr : List (Event World (Input me))} {w : World}
    (h : Run (Steps me) ({}, l) tr w) (hfit : ∀ ev ∈ tr, ev.inp.call.Fits) {r : BookingRequest}
    (hr : r.Sound env w.1) :
    AvailabilityAgrees env w r ↔ r.Counted w.1 := by
  obtain ⟨hi, hcaps⟩ := indexed_fits_run h hfit
  constructor
  · intro ⟨hdecides, _⟩
    rw [← r.hasSeats_iff hi hcaps hr.seats, ← hr.passes_iff]
    exact hdecides
  · intro hcounted
    have hiff := (r.hasSeats_iff hi hcaps hr.seats).2 hcounted
    refine ⟨hr.passes_iff.trans hiff, fun token s' l' hdone => ?_⟩
    obtain ⟨⟨ws, hw, ha, hsum⟩, -⟩ := BookingRequest.completes_books hdone
    obtain ⟨hws, hseats⟩ := BookingRequest.seatsIn_completed hr.slot hdone
    have hstep : Steps me w ⟨env, r.call, token⟩ (s', l') := hdone.commitIn_eq.symm
    have hi' : Indexed s' := hstep.change.indexed hi
    have hroom := hcounted ws hw ha
    rw [bookedSeatsInSlot_eq hi, saturatingAdd_min] at hsum
    rw [BookingRequest.remaining, checkAvailability_open (hws ▸ hw) ha, bookedSeatsInSlot_eq hi',
      hseats, BookingRequest.remaining, checkAvailability_open hw ha, bookedSeatsInSlot_eq hi]
    omega

/-- The calls that register a room and book some of its seats. -/
def oneBooking (capacity seats : ℕ) : List (Input ⟨0⟩) := (twoBookings capacity seats).take 3

/-- The room after these calls. -/
def partlyBooked (capacity seats : ℕ) : World :=
  (oneBooking capacity seats).foldl next ({}, fun _ _ => 0)

theorem oneBooking_fits {capacity seats : ℕ} (hc : capacity < 2 ^ 32) (hs : seats < 2 ^ 32)
    {ev : Event World (Input ⟨0⟩)} {w : World}
    (h : ev ∈ eventsFrom next w (oneBooking capacity seats)) : ev.inp.call.Fits := by
  have hmem := inp_mem_of_eventsFrom h
  simp only [oneBooking, twoBookings, sampleInputs, List.mapIdx_cons, List.mapIdx_nil,
    List.take_succ_cons, List.take_zero, List.mem_cons, List.not_mem_nil, or_false] at hmem
  rcases hmem with he | he | he <;> rw [he]
  · trivial
  · exact ⟨hc, by simp⟩
  · exact ⟨by simp, by simp, hs⟩

/-- A request for one more seat of the slot. -/
def oneMore : BookingRequest := ⟨⟨4⟩, "second", "room", 10, 20, 1⟩

theorem oneMore_sound {s : State} (h : s.bookings.lookup "second" = none) :
    oneMore.Sound (sampleEnv 3) s := ⟨by decide, h, by decide, by decide, le_rfl⟩

/-- One seat of a room of four is left, is reported, and can be booked. -/
theorem availability_agrees_lastSeat :
    (AvailabilityAgrees (sampleEnv 3) (partlyBooked 4 3) oneMore ↔
      oneMore.Counted (partlyBooked 4 3).1) ∧ oneMore.remaining (partlyBooked 4 3).1 = 1 :=
  ⟨availability_agrees (run_foldl next (oneBooking 4 3) ({}, fun _ _ => 0))
    (fun _ hev => oneBooking_fits (by decide) (by decide) hev) (oneMore_sound (by decide)),
    by decide⟩

/-- **No seat is reported, and one can be booked.** -/
theorem availability_disagrees : ¬ ∀ (me : Address) (l : Ledger)
    (tr : List (Event World (Input me))) (w : World), Run (Steps me) ({}, l) tr w →
      (∀ ev ∈ tr, ev.inp.call.Fits) → ∀ (env : Env me) (r : BookingRequest), r.Sound env w.1 →
        r.call.Fits → AvailabilityAgrees env w r := by
  intro hall
  have h := run_foldl next (oneBooking (2 ^ 32 - 1) (2 ^ 32 - 1)) ({}, fun _ _ => 0)
  have hfit : ∀ ev ∈ eventsFrom next ({}, fun _ _ => 0) (oneBooking (2 ^ 32 - 1) (2 ^ 32 - 1)),
      ev.inp.call.Fits := fun ev => oneBooking_fits (by decide) (by decide)
  have hr := oneMore_sound (s := (partlyBooked (2 ^ 32 - 1) (2 ^ 32 - 1)).1) (by decide)
  have hdecides := (hall ⟨0⟩ _ _ _ h hfit (sampleEnv 3) oneMore hr (by simp [oneMore,
    BookingRequest.call, Call.Fits])).decides
  obtain ⟨hi, hcaps⟩ := indexed_fits_run h hfit
  have hcounted := (oneMore.hasSeats_iff hi hcaps hr.seats).1 (hr.passes_iff.symm.trans hdecides)
  have hover : ((partlyBooked (2 ^ 32 - 1) (2 ^ 32 - 1)).1.workspaces.lookup "room").any fun ws =>
      ws.availability = .available ∧ 2 ^ 32 - 1 ≤ ws.capacity ∧ 2 ^ 32 - 1 <
        seatsIn (partlyBooked (2 ^ 32 - 1) (2 ^ 32 - 1)).1 "room" 10 20 + 1 := by decide
  obtain ⟨ws, hw, hover⟩ := Option.any_eq_true .. |>.1 hover
  obtain ⟨ha, hcap, hlt⟩ := of_decide_eq_true hover
  rcases hcounted ws hw ha with hsmall | hsum
  · exact Nat.not_lt.2 hcap hsmall
  · exact Nat.not_lt.2 hsum hlt

end WorkspaceBooking
