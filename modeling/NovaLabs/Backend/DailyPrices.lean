/-
  What a daily booking costs, next to the days on which its seats count as taken.

  `calculateAmount` charges for the days between the dates, and for one at least; `bookedSeats`
  counts a booking on its first day, on its last, and on all in between.
-/
import NovaLabs.Backend.Availability
import Mathlib.Data.Int.Interval
import Mathlib.Data.Set.Card

namespace Backend

open Lib

/-! ## The days of a booking -/

/-- The seats of the booking count as taken on the day. -/
def Booking.CountedOn (booking : Booking) (day : Day) : Prop :=
  booking.status.holdsSeats ∧ booking.startDate ≤ day ∧ day ≤ booking.endDate

instance (booking : Booking) (day : Day) : Decidable (booking.CountedOn day) :=
  inferInstanceAs (Decidable (_ ∧ _ ∧ _))

/-- The number of days on which the seats of the booking count as taken. -/
noncomputable def daysHeld (booking : Booking) : ℕ := {day | booking.CountedOn day}.ncard

theorem daysHeld_eq {booking : Booking} (hholds : booking.status.holdsSeats) :
    daysHeld booking = (booking.endDate + 1 - booking.startDate).toNat := by
  have hdays : {day | booking.CountedOn day} = Set.Icc booking.startDate booking.endDate :=
    Set.ext fun day => and_iff_right hholds
  rw [daysHeld, hdays, Set.ncard_eq_toFinset_card', Set.toFinset_Icc, Int.card_Icc]

/-! ## Prices -/

/-- A daily booking of a workspace is created, when nothing else runs. -/
inductive CreatesDaily (cfg : Config) (t : ℕ) (s : DbServer) (workspace : Workspace) :
    Booking → Prop
  | booking {dto : CreateBookingDto} {userId id : Uuid} {booking : Booking} {s' : DbServer} :
      dto.planType = .daily → s.db.workspace dto.workspaceId = some workspace →
      Alone (exec t) (fun _ => True) s (createBooking cfg dto userId) (.ok (id, booking)) s' →
      CreatesDaily cfg t s workspace booking
  | dayPass {dto : CreatePublicBookingDto} {pass : DayPass} {booking : Booking} {s' : DbServer} :
      s.db.workspace dto.workspaceId = some workspace →
      Alone (exec t) (fun _ => True) s (createDayPass cfg dto) (.ok pass) s' →
      s'.db.booking pass.bookingId = some booking → CreatesDaily cfg t s workspace booking

section
variable {cfg : Config} {s s' : DbServer} {t : ℕ} {W : World → Prop} {workspace : Workspace}
  {booking : Booking}

/-- Bookings are created of active workspaces. -/
theorem CreatesDaily.active (h : CreatesDaily cfg t s workspace booking) : workspace.isActive := by
  cases h with
  | booking _ hworkspace h =>
    obtain ⟨-, ⟨⟩, -⟩ | ⟨-, h⟩ := h.failIf
    obtain ⟨s₁, s₂, hbegin, hx, -⟩ := alone_transaction h
    obtain ⟨-, _, ⟨⟩⟩ | ⟨hactive, -⟩ :=
      alone_lockActiveWorkspace (view_of_begin hbegin ▸ hworkspace) hx
    exact hactive
  | dayPass hworkspace h _ =>
    obtain ⟨_, _, _, -, hnow, h⟩ := h.query
    cases hnow
    obtain ⟨-, ⟨⟩, -⟩ | ⟨-, h⟩ := h.failIf
    obtain ⟨s₁, s₂, hbegin, hx, -⟩ := alone_transaction h
    obtain ⟨-, _, ⟨⟩⟩ | ⟨hactive, -⟩ :=
      alone_lockActiveWorkspace (view_of_begin hbegin ▸ hworkspace) hx
    exact hactive

/-- A daily booking is charged for the days between its dates, and one at least. -/
theorem CreatesDaily.charged (h : CreatesDaily cfg t s workspace booking) : booking.status.holdsSeats ∧
      booking.startDate ≤ booking.endDate ∧ booking.totalAmount =
        workspace.hourlyRate * 8 * (max 1 (booking.endDate - booking.startDate)).toNat *
          booking.seatCount := by
  have hactive := h.active
  cases h with
  | @booking dto userId id booking s' hplan hworkspace h =>
    have hdates : dto.startDate < dto.endDate := by
      obtain ⟨-, ⟨⟩, -⟩ | ⟨hlt, -⟩ := h.failIf
      exact not_le.1 hlt
    rcases createBooking_alone hworkspace hactive hdates h with ⟨-, _, ⟨⟩⟩ |
      ⟨-, _, ⟨⟩, -, -, -, hstart, hend, hseats, hpending, hamount⟩
    dsimp only at hstart hend hseats hpending hamount
    rw [hpending, hamount, hstart, hend, hseats, hplan]
    exact ⟨rfl, hdates.le, rfl⟩
  | @dayPass dto pass booking s' hworkspace h hbooking =>
    rcases createDayPass_alone hworkspace hactive h nofun with ⟨-, _, ⟨⟩⟩ | ⟨-, -, hok⟩
    obtain ⟨booking', hadds, -, -, hstart, hend, hseats, hpending, hamount⟩ := hok pass rfl
    obtain rfl := Option.some.inj (hadds.added.symm.trans hbooking)
    rw [hpending, hamount, hstart, hend, hseats]
    exact ⟨rfl, le_rfl, rfl⟩

/-- **A daily booking costs its days exactly if it is for a single day, or costs nothing.**  Two
    bookings of one day each cost no more than one of both days only if they cost nothing. -/
theorem daily_price_iff (h : CreatesDaily cfg t s workspace booking) :
    (booking.totalAmount = workspace.hourlyRate * 8 * booking.seatCount * daysHeld booking ↔
      booking.startDate = booking.endDate ∨ workspace.hourlyRate = 0 ∨ booking.seatCount = 0) ∧
    ∀ {t₁ t₂ : ℕ} {s₁ s₂ : DbServer} {first second : Booking},
      CreatesDaily cfg t₁ s₁ workspace first → CreatesDaily cfg t₂ s₂ workspace second →
      first.startDate = booking.startDate → first.endDate = booking.startDate →
      second.startDate = booking.endDate → second.endDate = booking.endDate →
      first.seatCount = booking.seatCount → second.seatCount = booking.seatCount →
      booking.endDate = booking.startDate + 1 →
      (first.totalAmount + second.totalAmount ≤ booking.totalAmount ↔
        workspace.hourlyRate = 0 ∨ booking.seatCount = 0) := by
  obtain ⟨hholds, hdates, hamount⟩ := h.charged
  refine ⟨?_, fun hfirst hsecond hstart₁ hend₁ hstart₂ hend₂ hseats₁ hseats₂ hnext => ?_⟩
  · rw [hamount, daysHeld_eq hholds, mul_right_comm _ _ booking.seatCount]
    rcases hdates.eq_or_lt with heq | hlt
    · rw [heq, sub_self, add_sub_cancel_left]
      exact iff_of_true rfl (Or.inl rfl)
    · have hdays (a b : ℤ) (h : a < b) : (b + 1 - a).toNat = (max 1 (b - a)).toNat + 1 := by omega
      rw [hdays _ _ hlt, mul_add_one, left_eq_add, mul_eq_zero, mul_eq_zero]
      simp [hlt.ne]
  · rw [hfirst.charged.2.2, hsecond.charged.2.2, hamount, hstart₁, hend₁, hstart₂, hend₂, hseats₁,
      hseats₂, hnext, sub_self, sub_self, add_sub_cancel_left]
    have hnat : (max 1 0 : ℤ).toNat = 1 ∧ (max 1 1 : ℤ).toNat = 1 := by decide
    rw [hnat.1, hnat.2, mul_one, add_le_iff_nonpos_left, nonpos_iff_eq_zero, mul_eq_zero, mul_eq_zero]
    simp

end

/-- A guest books the day 11 of "w", and pays for it. -/
theorem daily_price_iff_dayPass : ∃ booking,
    CreatesDaily plainConfig 0 roomy ⟨2, 500, true⟩ booking ∧
    booking.totalAmount = 500 * 8 * booking.seatCount * daysHeld booking := by
  have hplay : (aloneIn (exec 0) (createDayPass plainConfig ⟨"g", "g@x", "1", "w", 11⟩)
      [{}, {}, {}, {}, {}, { id := "c" }, { id := "p" }, { checkout := some ⟨"url", "p"⟩ },
        { row := some "p" }, {}, {}] roomy).any fun x => x.1.toOption.any fun pass =>
          (x.2.db.booking pass.bookingId).any fun b => b.startDate = b.endDate := by decide
  obtain ⟨⟨r, s'⟩, halone, hpass⟩ := (Option.any_eq_true _ _).1 hplay
  cases r with
  | error e => cases hpass
  | ok pass =>
    obtain ⟨_, ⟨⟩, hpass⟩ := (Option.any_eq_true _ _).1 hpass
    obtain ⟨booking, hbooking, hday⟩ := (Option.any_eq_true _ _).1 hpass
    have h : CreatesDaily plainConfig 0 roomy ⟨2, 500, true⟩ booking :=
      .dayPass (show roomy.db.workspace "w" = _ by decide)
        (alone_of_aloneIn halone fun _ _ => trivial) hbooking
    exact ⟨booking, h, (daily_price_iff h).1.2 (Or.inl (of_decide_eq_true hday))⟩

/-- From day 11 to day 12 one pays for a day, and takes a seat on both. -/
theorem daily_price_too_low : ¬ ∀ (cfg : Config) (t : ℕ) (s : DbServer) (workspace : Workspace)
    (booking : Booking), CreatesDaily cfg t s workspace booking →
      booking.totalAmount = workspace.hourlyRate * 8 * booking.seatCount * daysHeld booking := by
  intro hclaim
  have hplay : (aloneIn (exec 0) (createBooking plainConfig ⟨"w", .daily, 11, 12, 1⟩ "u")
      [{}, {}, {}, {}, { id := "c" }, {}, {}] roomy).any fun x => x.1.toOption.any fun saved =>
        saved.2.totalAmount = 4000 ∧ saved.2.seatCount = 1 ∧ saved.2.status = .pending ∧
          saved.2.startDate = 11 ∧ saved.2.endDate = 12 := by decide
  obtain ⟨⟨r, s'⟩, halone, hsaved⟩ := (Option.any_eq_true _ _).1 hplay
  cases r with
  | error e => cases hsaved
  | ok saved =>
    obtain ⟨hamount, hseats, hpending, hstart, hend⟩ := of_decide_eq_true hsaved
    have hprice := hclaim _ _ _ _ _ (.booking rfl (show roomy.db.workspace "w" = _ by decide)
      (alone_of_aloneIn halone fun _ _ => trivial) :
        CreatesDaily plainConfig 0 roomy ⟨2, 500, true⟩ saved.2)
    rw [hamount, hseats, daysHeld_eq (by rw [hpending]; rfl), hstart, hend] at hprice
    cases hprice

end Backend
