/-
  What `CheckWorkspaceAvailabilityProvider.check` reports, next to what the creation of a booking
  decides (backend/src/workspaces/providers, backend/src/bookings/providers).

  All of them start from the seats that pending and confirmed bookings hold in the window.  The
  report takes them from the seats of the workspace, down to zero at most; a creation adds the seats
  asked for, and compares.
-/
import NovaLabs.Backend.Effects
import NovaLabs.Lib.Alone

namespace Backend

open Lib Process

/-! ## The report -/

structure AvailabilityResult where
  available : Bool
  availableSeats : ℤ
  totalSeats : ℤ
  message : Option String := none
  deriving DecidableEq

/-- An inclusive window; dates may be left out. -/
structure AvailabilityWindow where
  startDate : Option Day := none
  endDate : Option Day := none

/-- `SeatAvailabilityProvider.availableSeats`. -/
def availableSeats (workspaceId : Uuid) (totalSeats : ℤ) (startDate endDate : Day) : Proc ℤ := do
  let booked ← ask (.bookedSeats workspaceId startDate endDate none)
  return max 0 (totalSeats - booked)

def today : Proc Day := do
  let now : Time ← ask .now
  return now / 86400000

/-- The window of today, unless the caller says otherwise. -/
def resolveWindow (window : AvailabilityWindow) : Proc (Day × Day) := do
  let startDate ← match window.startDate with
    | some startDate => pure startDate
    | none => today
  let endDate := window.endDate.getD startDate
  failIf (startDate > endDate) (.badRequest "startDate must not be after endDate")
  return (startDate, endDate)

/-- `CheckWorkspaceAvailabilityProvider.check`. -/
def checkAvailability (workspaceId : Uuid) (requestedSeats : ℤ) (window : AvailabilityWindow) :
    Proc AvailabilityResult := do
  failIf (requestedSeats < 1) (.badRequest "requestedSeats must be a positive integer")
  let (startDate, endDate) ← resolveWindow window
  let workspace ← okOr (← ask (.findWorkspace workspaceId))
    (.notFound s!"Workspace with id \"{workspaceId}\" not found")
  if ¬ workspace.isActive then
    return { available := false, availableSeats := 0, totalSeats := workspace.totalSeats,
             message := some "Workspace is not active" }
  else
    let availableSeats ← availableSeats workspaceId workspace.totalSeats startDate endDate
    let available := decide (availableSeats ≥ requestedSeats)
    return { available, availableSeats, totalSeats := workspace.totalSeats,
             message := if available then none else some s!"Only {availableSeats} seats available" }

/-- The seats that are taken in a window. -/
def takenSeats (db : Database) (workspaceId : Uuid) (startDate endDate : Day) : ℕ :=
  Storage.total db (seatsHeld workspaceId startDate endDate none)

/-- Asked in session `t` for a window, when nothing else runs, the check answers `result`. -/
def Reports (t : ℕ) (s : DbServer) (workspaceId : Uuid) (requestedSeats : ℤ)
    (startDate endDate : Day) (result : AvailabilityResult) : Prop :=
  ∃ s', Alone (exec t) (fun _ => True) s
    (checkAvailability workspaceId requestedSeats ⟨some startDate, some endDate⟩) (.ok result) s'

/-- What is reported of an active workspace. -/
def report (db : Database) (workspaceId : Uuid) (totalSeats seats : ℤ) (startDate endDate : Day) :
    AvailabilityResult :=
  let availableSeats := max 0 (totalSeats - takenSeats db workspaceId startDate endDate)
  let available := decide (availableSeats ≥ seats)
  { available, availableSeats, totalSeats,
    message := if available then none else some s!"Only {availableSeats} seats available" }

section
variable {s : DbServer} {t : ℕ} {workspace : Workspace} {workspaceId : Uuid}
  {startDate endDate : Day} {seats : ℤ} {result : AvailabilityResult}

theorem reports_iff (hidle : s.active.lookup t = none)
    (hworkspace : s.db.workspace workspaceId = some workspace) (hactive : workspace.isActive) :
    Reports t s workspaceId seats startDate endDate result ↔ 1 ≤ seats ∧ startDate ≤ endDate ∧
      result = report s.db workspaceId workspace.totalSeats seats startDate endDate := by
  have hview : s.view t = s.db := Server.view_none hidle
  constructor
  · rintro ⟨s', h⟩
    obtain ⟨-, ⟨⟩, -⟩ | ⟨hseats, h⟩ := h.failIf
    obtain ⟨_, s₁, hwindow, h⟩ := h.seq_ok
    obtain ⟨-, ⟨⟩, -⟩ | ⟨hdates, hwindow⟩ := hwindow.failIf
    obtain ⟨hpair, rfl⟩ := hwindow.value
    cases hpair
    obtain ⟨_, _, _, -, hfind, h⟩ := h.query
    cases hfind
    obtain ⟨-, ⟨⟩, -⟩ | ⟨_, hfound, h⟩ := h.okOr
    rw [hview, hworkspace] at hfound
    cases hfound
    rw [if_neg (not_not.2 hactive)] at h
    obtain ⟨_, _, havailable, h⟩ := h.seq_ok
    obtain ⟨_, _, _, -, hbooked, havailable⟩ := havailable.query
    cases hbooked
    obtain ⟨havailable, rfl⟩ := havailable.value
    cases havailable
    obtain ⟨hr, -⟩ := h.value
    rw [hview] at hr
    exact ⟨not_lt.1 hseats, not_lt.1 hdates, Except.ok.inj hr⟩
  · rintro ⟨hseats, hdates, rfl⟩
    have hwindow : Alone (exec t) (fun _ => True) s
        (resolveWindow ⟨some startDate, some endDate⟩) (.ok (startDate, endDate)) s :=
      .of_failIf (not_lt.2 hdates) .done
    have havailable : Alone (exec t) (fun _ => True) s
        (availableSeats workspaceId workspace.totalSeats startDate endDate)
        (.ok (max 0 (workspace.totalSeats - takenSeats (s.view t) workspaceId startDate endDate))) s :=
      .of_query (w := {}) trivial rfl .done
    refine ⟨s, .of_failIf (not_lt.2 hseats) (.then_ok hwindow ?_)⟩
    refine .of_query (w := {}) trivial rfl (.of_okOr (a := workspace) (hview ▸ hworkspace) ?_)
    rw [if_neg (not_not.2 hactive)]
    rw [hview] at havailable
    exact .then_ok havailable .done

end

/-! ## Creations -/

section
variable {s s' s₁ s₂ : DbServer} {t : ℕ} {W : World → Prop}

/-- A transaction, when nothing else runs. -/
theorem alone_transaction {α : Type} {x : Proc α} {r : Except HttpError α}
    (h : Alone (exec t) W s (transaction x) r s') : ∃ s₁ s₂, s.begin t = some s₁ ∧
      Alone (exec t) W s₁ x r s₂ ∧ ((∃ a, r = .ok a) ∧ s₂.commit t = some s' ∨
        (∃ e, r = .error e) ∧ s₂.rollback t = some s') := by
  obtain ⟨_, _, s₁, -, hbegin, h⟩ := h.query
  obtain ⟨_, hb, heq⟩ := Option.map_eq_some_iff.1 hbegin
  cases heq
  obtain ⟨r₁, s₂, hx, h⟩ := Alone.attempt_iff.1 h
  cases r₁ with
  | ok a =>
    obtain ⟨_, _, _, -, hcommit, h⟩ := h.query
    obtain ⟨rfl, rfl⟩ := h.value
    obtain ⟨_, hc, heq⟩ := Option.map_eq_some_iff.1 hcommit
    cases heq
    exact ⟨_, s₂, hb, hx, Or.inl ⟨⟨a, rfl⟩, hc⟩⟩
  | error e =>
    obtain ⟨_, _, _, -, hrollback, h⟩ := h.query
    obtain ⟨rfl, rfl⟩ := h.error
    obtain ⟨_, hr, heq⟩ := Option.map_eq_some_iff.1 hrollback
    cases heq
    exact ⟨_, s₂, hb, hx, Or.inr ⟨⟨e, rfl⟩, hr⟩⟩

/-- A transaction starts from the committed rows. -/
theorem view_of_begin (h : s.begin t = some s₁) : DbServer.view s₁ t = s.db := by
  obtain ⟨hnone, rfl⟩ := Server.begin_eq_some.1 h
  exact (Server.view_begin hnone).trans (Server.view_none hnone)

/-- An inactive workspace is refused; the row of an active one is locked, and the session sees what
    it saw. -/
theorem alone_lockActiveWorkspace {workspaceId : Uuid} {workspace : Workspace} {β : Type}
    {f : Workspace → Proc β} {r : Except HttpError β}
    (hworkspace : (s.view t).workspace workspaceId = some workspace)
    (h : Alone (exec t) W s (lockActiveWorkspace workspaceId >>= f) r s') :
    (¬ workspace.isActive ∧ ∃ m, r = .error (.badRequest m)) ∨
    workspace.isActive ∧ ∃ s₁, DbServer.view s₁ t = s.view t ∧
      Alone (exec t) W s₁ (f workspace) r s' := by
  simp only [lockActiveWorkspace, bind_assoc] at h
  obtain ⟨w, found, s₁, -, hlock, h⟩ := h.query
  have hview : DbServer.view s₁ t = s.view t := by
    refine Finmap.ext_lookup fun k => ?_
    rw [exec_view hlock nofun]
    rfl
  have hfound : found = some workspace := by
    simp only [exec, hworkspace] at hlock
    obtain ⟨_, -, heq⟩ := Option.map_eq_some_iff.1 hlock
    cases heq
    rfl
  obtain ⟨hnone, -⟩ | ⟨_, hsome, h⟩ := h.okOr
  · cases hfound.symm.trans hnone
  cases hfound.symm.trans hsome
  obtain ⟨hinactive, rfl, -⟩ | ⟨hactive, h⟩ := h.failIf
  · exact Or.inl ⟨hinactive, _, rfl⟩
  · exact Or.inr ⟨not_not.1 hactive, s₁, hview, h⟩

/-- A creation, when nothing else runs, has added the booking; it may have added a payment. -/
structure Adds (t : ℕ) (s s' : DbServer) (id : Uuid) (booking : Booking) : Prop where
  idle : s'.active.lookup t = none
  fresh : s.db.booking id = none
  added : s'.db.booking id = some booking
  others : ∀ id' ≠ id, s'.db.booking id' = s.db.booking id'
  workspace : ∀ id', s'.db.workspace id' = s.db.workspace id'

/-- The queries of a creation after its booking. -/
def Query.completes : Query → Bool
  | .insertPayment _ | .updatePayment _ _ | .findPayment _ | .initializeTransaction _ _ _
  | .start _ => true
  | _ => false

theorem completes_rows {w : World} {q : Query} {db : Database} (hq : q.completes) :
    (∀ id, (q.rows w db).lookup (.booking id) = none) ∧
      ∀ id, (q.rows w db).lookup (.workspace id) = none := by
  cases q with
  | insertPayment payment =>
    exact ⟨fun id => lookup_single_of_ne Row.noConfusion, fun id => lookup_single_of_ne Row.noConfusion⟩
  | updatePayment id' c =>
    refine ⟨fun id => ?_, fun id => ?_⟩
    all_goals
      rw [Query.rows, Storage.lookup_changes]
      exact Option.bind_eq_none_iff.2 fun _ _ => rfl
  | findPayment | initializeTransaction | start => exact ⟨fun _ => rfl, fun _ => rfl⟩
  | _ => cases hq

/-- Such queries leave the bookings and workspaces that the session sees. -/
theorem alone_completes {α : Type} {x : Proc α} {r : Except HttpError α}
    (h : Alone (exec t) W s x r s') (hx : x.Only Query.completes) :
    (∀ id, (s'.view t).booking id = (s.view t).booking id) ∧
      ∀ id, (s'.view t).workspace id = (s.view t).workspace id := by
  induction h with
  | done => exact ⟨fun _ => rfl, fun _ => rfl⟩
  | @ask s s₁ s' op next w a r hw hexec hnext ih =>
    obtain ⟨hbookings, hworkspaces⟩ := ih (hx.2 a)
    obtain ⟨hb, hw⟩ := @completes_rows w _ (s.view t) hx.1
    have hop : op ≠ .rollback := by
      rintro rfl
      cases hx.1
    refine ⟨fun id => (hbookings id).trans ?_, fun id => (hworkspaces id).trans ?_⟩
    · exact (exec_view hexec hop _).trans (by rw [hb, Option.none_or]; rfl)
    · exact (exec_view hexec hop _).trans (by rw [hw, Option.none_or]; rfl)

/-- A booking is inserted, the creation completed, and its transaction committed. -/
theorem adds_of_insert {s₃ : DbServer} {w : World} {booking : Booking} {saved : Uuid × Booking}
    {α : Type} {x : Proc α} {a : α} (hview : DbServer.view s₁ t = s.db)
    (hinsert : exec t w s₁ (.insertBooking booking) = some (saved, s₂))
    (hx : Alone (exec t) W s₂ x (.ok a) s₃) (honly : x.Only Query.completes)
    (hcommit : s₃.commit t = some s') :
    Adds t s s' saved.1 { booking with createdAt := w.now } ∧
      saved.2 = { booking with createdAt := w.now } := by
  have hfresh := (insertBooking_fresh hinsert).1
  have hsees := exec_view hinsert nofun
  obtain ⟨hbookings, hworkspaces⟩ := alone_completes hx honly
  obtain ⟨x, hactive, rfl⟩ := Server.commit_eq_some.1 hcommit
  have hidle : ({ stored := x.written ∪ s₃.stored, active := s₃.active.erase t } :
      DbServer).active.lookup t = none := Finmap.lookup_erase _ _
  have hdb (k : Row) : (x.written ∪ s₃.stored).lookup k = (s₃.view t).lookup k :=
    (Server.lookup_view hactive k ▸ Storage.lookup_union _ _ k)
  obtain ⟨_, hi, heq⟩ := Option.map_eq_some_iff.1 hinsert
  cases heq
  rw [hview] at hsees hfresh
  refine ⟨⟨hidle, Finmap.lookup_eq_none.2 hfresh, ?_, fun id' hid => ?_, fun id' => ?_⟩, rfl⟩
  · exact (hdb _).trans ((hbookings w.id).trans
      ((hsees _).trans (by rw [Query.rows, Finmap.lookup_insert, Option.some_or])))
  · refine (hdb _).trans ((hbookings id').trans ((hsees _).trans ?_))
    rw [Query.rows, lookup_single_of_ne fun h => hid (Row.booking.inj h), Option.none_or]
    rfl
  · refine (hdb _).trans ((hworkspaces id').trans ((hsees _).trans ?_))
    rw [Query.rows, lookup_single_of_ne Row.noConfusion, Option.none_or]
    rfl

variable {cfg : Config} {workspace : Workspace}

/-- How `create` ends for an active workspace. -/
theorem createBooking_alone {dto : CreateBookingDto} {userId : Uuid}
    {r : Except HttpError (Uuid × Booking)}
    (hworkspace : s.db.workspace dto.workspaceId = some workspace) (hactive : workspace.isActive)
    (hdates : dto.startDate < dto.endDate)
    (h : Alone (exec t) W s (createBooking cfg dto userId) r s') :
    let taken := takenSeats s.db dto.workspaceId dto.startDate dto.endDate
    ((taken : ℤ) + dto.seatCount > workspace.totalSeats ∧ ∃ m, r = .error (.conflict m)) ∨
    ((taken : ℤ) + dto.seatCount ≤ workspace.totalSeats ∧ ∃ saved, r = .ok saved ∧
      Adds t s s' saved.1 saved.2 ∧ saved.2.workspaceId = dto.workspaceId ∧
      saved.2.planType = dto.planType ∧
      saved.2.startDate = dto.startDate ∧ saved.2.endDate = dto.endDate ∧
      saved.2.seatCount = dto.seatCount ∧ saved.2.status = .pending ∧
      saved.2.totalAmount = calculateAmount cfg workspace.hourlyRate dto.planType dto.seatCount
        dto.startDate dto.endDate) := by
  obtain ⟨hle, -⟩ | ⟨-, h⟩ := h.failIf
  · exact absurd hle (not_le.2 hdates)
  obtain ⟨s₁, s₂, hbegin, hx, hend⟩ := alone_transaction h
  have hview₁ := view_of_begin hbegin
  obtain ⟨hinactive, -⟩ | ⟨-, s₃, hview₃, hx⟩ :=
    alone_lockActiveWorkspace (hview₁ ▸ hworkspace) hx
  · exact absurd hactive hinactive
  rw [hview₁] at hview₃
  obtain ⟨_, _, _, -, hbooked, hx⟩ := hx.query
  cases hbooked
  rw [hview₃] at hx
  obtain ⟨hgt, rfl, rfl⟩ | ⟨hle, hx⟩ := hx.failIf
  · exact Or.inl ⟨hgt, _, rfl⟩
  refine Or.inr ⟨not_lt.1 hle, ?_⟩
  obtain ⟨_, _, _, -, hnow, hx⟩ := hx.query
  cases hnow
  obtain ⟨_, saved, s₄, -, hinsert, hx⟩ := hx.query
  obtain ⟨_, _, _, -, hstart, hr⟩ := hx.query
  obtain ⟨rfl, -⟩ := hr.value
  obtain ⟨-, hcommit⟩ | ⟨⟨_, ⟨⟩⟩, -⟩ := hend
  obtain ⟨hadds, hsaved⟩ := adds_of_insert hview₃ hinsert hx ⟨rfl, fun _ => trivial⟩ hcommit
  rw [← hsaved] at hadds
  exact ⟨saved, rfl, hadds, by rw [hsaved], by rw [hsaved], by rw [hsaved], by rw [hsaved],
    by rw [hsaved], by rw [hsaved], by rw [hsaved]⟩

theorem savePayment_completes (id : Uuid) (held : Payment) :
    (savePayment id held).Only Query.completes := by
  refine (Process.Only.query rfl).bind fun stored => ?_
  cases stored with
  | none => trivial
  | some stored => exact Process.Only.ite ((Process.Only.query rfl).bind fun _ => trivial) trivial

theorem savePayment_ends {id : Uuid} {held : Payment} {r : Except HttpError Unit}
    (h : Alone (exec t) W s (savePayment id held) r s') : r = .ok () := by
  obtain ⟨_, stored, _, -, -, h⟩ := h.query
  cases stored with
  | none => exact h.value.1
  | some stored =>
    dsimp only at h
    split_ifs at h
    · obtain ⟨_, _, _, -, -, h⟩ := h.query
      exact h.value.1
    · exact h.value.1

/-- The message for a date that is over. -/
def dateOver : HttpError := .badRequest "date must be today or a future date"

/-- How the creation of a day pass ends for an active workspace. -/
theorem createDayPass_alone {dto : CreatePublicBookingDto} {r : Except HttpError DayPass}
    (hworkspace : s.db.workspace dto.workspaceId = some workspace) (hactive : workspace.isActive)
    (h : Alone (exec t) W s (createDayPass cfg dto) r s') (hdate : r ≠ .error dateOver) :
    let taken := takenSeats s.db dto.workspaceId dto.date dto.date
    ((taken : ℤ) + 1 > workspace.totalSeats ∧ ∃ m, r = .error (.conflict m)) ∨
    ((taken : ℤ) + 1 ≤ workspace.totalSeats ∧ (∀ m, r ≠ .error (.conflict m)) ∧
      ∀ pass, r = .ok pass → ∃ booking, Adds t s s' pass.bookingId booking ∧
        booking.workspaceId = dto.workspaceId ∧ booking.planType = .daily ∧
        booking.startDate = dto.date ∧ booking.endDate = dto.date ∧ booking.seatCount = 1 ∧
        booking.status = .pending ∧ booking.totalAmount =
          calculateAmount cfg workspace.hourlyRate .daily 1 dto.date dto.date) := by
  obtain ⟨_, _, _, -, hnow, h⟩ := h.query
  cases hnow
  obtain ⟨-, rfl, -⟩ | ⟨-, h⟩ := h.failIf
  · exact absurd rfl hdate
  obtain ⟨s₁, s₂, hbegin, hx, hend⟩ := alone_transaction h
  have hview₁ := view_of_begin hbegin
  obtain ⟨hinactive, -⟩ | ⟨-, s₃, hview₃, hx⟩ :=
    alone_lockActiveWorkspace (hview₁ ▸ hworkspace) hx
  · exact absurd hactive hinactive
  rw [hview₁] at hview₃
  obtain ⟨_, _, _, -, hbooked, hx⟩ := hx.query
  cases hbooked
  rw [hview₃] at hx
  obtain ⟨hgt, rfl, rfl⟩ | ⟨hle, hx⟩ := hx.failIf
  · exact Or.inl ⟨hgt, _, rfl⟩
  refine Or.inr ⟨not_lt.1 hle, ?_⟩
  obtain ⟨_, _, _, -, hnow, hx⟩ := hx.query
  cases hnow
  obtain ⟨_, saved, s₄, -, hinsert, hx⟩ := hx.query
  obtain ⟨_, payment, s₅, -, hpayment, hx₅⟩ := hx.query
  obtain ⟨_, checkout, s₆, -, hcheckout, hx₆⟩ := hx₅.query
  obtain ⟨-, rfl, rfl⟩ | ⟨paystackData, rfl, hx₇⟩ := hx₆.okOr
  · exact ⟨nofun, nofun⟩
  obtain ⟨_, hsave, rfl⟩ := hx₇.map
  obtain rfl := savePayment_ends hsave
  refine ⟨nofun, ?_⟩
  rintro _ ⟨⟩
  obtain ⟨-, hcommit⟩ | ⟨⟨_, ⟨⟩⟩, -⟩ := hend
  obtain ⟨hadds, -⟩ := adds_of_insert hview₃ hinsert hx ⟨rfl, fun _ => ⟨rfl, fun _ =>
    Process.Only.okOr.bind fun _ => (savePayment_completes _ _).bind fun _ => trivial⟩⟩ hcommit
  exact ⟨_, hadds, rfl, rfl, rfl, rfl, rfl, rfl, rfl⟩

end

/-! ## Agreement -/

/-- A creation by one of the two providers, when nothing else runs: of a window of several days, or
    of a day that is not over. -/
inductive Creation (cfg : Config) (t : ℕ) (s : DbServer) :
    Uuid → Day → Day → ℕ → Except HttpError Uuid → DbServer → Prop
  | booking {dto : CreateBookingDto} {userId : Uuid} {r : Except HttpError (Uuid × Booking)}
      {s' : DbServer} : dto.startDate < dto.endDate →
      Alone (exec t) (fun _ => True) s (createBooking cfg dto userId) r s' →
      Creation cfg t s dto.workspaceId dto.startDate dto.endDate dto.seatCount (r.map Prod.fst) s'
  | dayPass {dto : CreatePublicBookingDto} {r : Except HttpError DayPass} {s' : DbServer} :
      Alone (exec t) (fun _ => True) s (createDayPass cfg dto) r s' → r ≠ .error dateOver →
      Creation cfg t s dto.workspaceId dto.date dto.date 1 (r.map DayPass.bookingId) s'

/-- The creation passes its capacity check: it does not end with a conflict. -/
def HasCapacity (r : Except HttpError Uuid) : Prop := ∀ m, r ≠ .error (.conflict m)

section
variable {cfg : Config} {s s' : DbServer} {t seatCount : ℕ} {id workspaceId : Uuid}
  {workspace : Workspace} {booking : Booking} {startDate endDate : Day} {r : Except HttpError Uuid}

theorem Creation.dates (h : Creation cfg t s workspaceId startDate endDate seatCount r s') :
    startDate ≤ endDate := by
  cases h with
  | booking hdates _ => exact hdates.le
  | dayPass => exact le_rfl

/-- A creation passes its check exactly if the seats are there, and where it succeeds it adds a
    pending booking of them. -/
theorem Creation.capacity (h : Creation cfg t s workspaceId startDate endDate seatCount r s')
    (hworkspace : s.db.workspace workspaceId = some workspace) (hactive : workspace.isActive) :
    (HasCapacity r ↔
      (takenSeats s.db workspaceId startDate endDate : ℤ) + seatCount ≤ workspace.totalSeats) ∧
    ∀ id, r = .ok id → ∃ booking, Adds t s s' id booking ∧ booking.workspaceId = workspaceId ∧
      booking.startDate = startDate ∧ booking.endDate = endDate ∧
      booking.seatCount = seatCount ∧ booking.status = .pending := by
  cases h with
  | @booking dto userId r s' hdates h =>
    rcases createBooking_alone hworkspace hactive hdates h with ⟨hgt, m, rfl⟩ |
      ⟨hle, saved, rfl, hadds, hw, -, hstart, hend, hseats, hpending, -⟩
    · exact ⟨iff_of_false (fun hc => hc m rfl) (not_le.2 hgt), nofun⟩
    · refine ⟨iff_of_true nofun hle, ?_⟩
      rintro _ ⟨⟩
      exact ⟨saved.2, hadds, hw, hstart, hend, hseats, hpending⟩
  | @dayPass dto r s' h hdate =>
    rcases createDayPass_alone hworkspace hactive h hdate with ⟨hgt, m, rfl⟩ |
      ⟨hle, hc, hok⟩
    · exact ⟨iff_of_false (fun hc => hc m rfl) (not_le.2 (by exact_mod_cast hgt)), nofun⟩
    · cases r with
      | error e =>
        refine ⟨iff_of_true ?_ (by exact_mod_cast hle), nofun⟩
        rintro m ⟨⟩
        exact hc m rfl
      | ok pass =>
        refine ⟨iff_of_true nofun (by exact_mod_cast hle), ?_⟩
        rintro _ ⟨⟩
        obtain ⟨booking, hadds, hw, -, hstart, hend, hseats, hpending, -⟩ := hok pass rfl
        exact ⟨booking, hadds, hw, hstart, hend, hseats, hpending⟩

/-- The seats of the new booking are taken, besides those that were. -/
theorem Adds.taken (h : Adds t s s' id booking) (workspaceId : Uuid) (startDate endDate : Day) :
    takenSeats s'.db workspaceId startDate endDate = takenSeats s.db workspaceId startDate endDate +
      seatsHeld workspaceId startDate endDate none (.booking id) booking := by
  have hnone : s.db.lookup (.booking id) = none := h.fresh
  have hsome : s'.db.lookup (.booking id) = some booking := h.added
  have htotal := Storage.total_update s.db s'.db (seatsHeld workspaceId startDate endDate none)
    (seatsHeld workspaceId startDate endDate none) (.booking id) fun k hk => by
      cases k with
      | booking id' =>
        have hother := h.others id' fun heq => hk (congrArg _ heq)
        exact congrArg (fun o : Option Booking => o.elim 0 _) hother
      | workspace | payment | user =>
        have hzero {α : Type} (o : Option α) : o.elim 0 (fun _ => 0) = 0 := by cases o <;> rfl
        exact (hzero _).trans (hzero _).symm
  rw [hnone, hsome, Option.elim_none, Option.elim_some, add_zero] at htotal
  exact htotal

/-- **For an active workspace the check reports a window available exactly if a creation passes its
    capacity check there; after a creation that succeeds it reports as many seats less for the same
    window as were booked, and as many as before for windows that do not overlap it.** -/
theorem available_seats_agree {result : AvailabilityResult}
    (hidle : s.active.lookup t = none) (hworkspace : s.db.workspace workspaceId = some workspace)
    (hactive : workspace.isActive) (hseats : 1 ≤ seatCount)
    (hreport : Reports t s workspaceId seatCount startDate endDate result)
    (hcreate : Creation cfg t s workspaceId startDate endDate seatCount r s') :
    (result.available ↔ HasCapacity r) ∧
    ∀ id, r = .ok id → ∀ (seats : ℤ) (start stop : Day) (before after : AvailabilityResult),
      Reports t s workspaceId seats start stop before →
      Reports t s' workspaceId seats start stop after →
        (start = startDate → stop = endDate →
          after.availableSeats = before.availableSeats - seatCount) ∧
        (stop < startDate ∨ endDate < start →
          after.availableSeats = before.availableSeats) := by
  obtain ⟨hcapacity, hadded⟩ := hcreate.capacity hworkspace hactive
  obtain ⟨-, -, rfl⟩ := (reports_iff hidle hworkspace hactive).1 hreport
  refine ⟨?_, fun id hr seats start stop before after hbefore hafter => ?_⟩
  · rw [hcapacity, report, decide_eq_true_iff, ge_iff_le, le_max_iff]
    omega
  · obtain ⟨booking, hadds, rfl, rfl, rfl, rfl, hpending⟩ := hadded id hr
    have hroom := hcapacity.1 (hr ▸ nofun)
    have hstill := (hadds.workspace booking.workspaceId).trans hworkspace
    obtain ⟨-, hdates, rfl⟩ := (reports_iff hidle hworkspace hactive).1 hbefore
    obtain ⟨-, -, rfl⟩ := (reports_iff hadds.idle hstill hactive).1 hafter
    simp only [report, hadds.taken]
    constructor
    · rintro rfl rfl
      have hheld : seatsHeld booking.workspaceId booking.startDate booking.endDate none
          (.booking id) booking = booking.seatCount :=
        if_pos ⟨rfl, nofun, by rw [hpending]; rfl, hdates, hdates⟩
      rw [hheld]
      omega
    · intro hapart
      have hheld : seatsHeld booking.workspaceId start stop none (.booking id) booking = 0 := by
        refine if_neg ?_
        rintro ⟨-, -, -, hstart, hstop⟩
        exact hapart.elim (not_lt.2 hstart) (not_lt.2 hstop)
      rw [hheld, add_zero]

end

/-- A workspace for examples, with two seats, of which one is booked from day 10 to day 11. -/
def roomy : DbServer where
  stored := Finmap.insert (.workspace "w") { totalSeats := 2, hourlyRate := 500, isActive := true }
    (Finmap.insert (.booking "b")
      { userId := some "u", workspaceId := "w", planType := .daily, startDate := 10, endDate := 11,
        totalAmount := 4000, status := .confirmed, paymentDeadline := none, seatCount := 1 } ∅)

/-- The other seat is booked from day 11 to day 12: the window was reported available, with a seat,
    and has none left then. -/
theorem available_seats_agree_booked : ∃ s',
    Creation plainConfig 0 roomy "w" 11 12 1 (.ok "c") s' ∧
    (report roomy.db "w" 2 1 11 12).available ∧
    ∀ after, Reports 0 s' "w" 1 11 12 after → after.availableSeats = 0 := by
  have hplay : (aloneIn (exec 0) (createBooking plainConfig ⟨"w", .daily, 11, 12, 1⟩ "u")
      [{}, {}, {}, {}, { id := "c" }, {}, {}] roomy).any fun x =>
        x.1.toOption.any fun saved => saved.1 = "c" := by decide
  obtain ⟨⟨r, s'⟩, halone, hsaved⟩ := (Option.any_eq_true _ _).1 hplay
  cases r with
  | error e => cases hsaved
  | ok saved =>
    obtain ⟨id, booking⟩ := saved
    obtain rfl : id = "c" := of_decide_eq_true hsaved
    have hidle : roomy.active.lookup 0 = none := rfl
    have hworkspace : roomy.db.workspace "w" =
        some { totalSeats := 2, hourlyRate := 500, isActive := true } := by decide
    have hcreate : Creation plainConfig 0 roomy "w" 11 12 1 (.ok "c") s' :=
      .booking (by decide) (alone_of_aloneIn halone fun _ _ => trivial)
    have hreport := (reports_iff hidle hworkspace rfl).2
      ⟨show (1 : ℤ) ≤ 1 by decide, show (11 : Day) ≤ 12 by decide, rfl⟩
    obtain ⟨-, hafter⟩ := available_seats_agree hidle hworkspace rfl le_rfl hreport hcreate
    refine ⟨s', hcreate, by decide, fun after h => ?_⟩
    exact ((hafter _ rfl _ _ _ _ _ hreport h).1 rfl rfl).trans (by decide)

end Backend
