/-
  The seats held of a workspace never exceed its capacity.

  Sessions that have not locked the workspace row only free its seats, so what a session has added
  up under the lock stays a bound until it takes the seats itself.
-/
import NovaLabs.Backend.SeatProtocol

namespace Backend

open Lib

/-- What a booking takes: the seats of a workspace, in a window. -/
def Booking.terms (booking : Booking) : Uuid × Day × Day × ℕ :=
  (booking.workspaceId, booking.startDate, booking.endDate, booking.seatCount)

/-- Workspaces keep their seats.  Bookings keep their terms, and come to hold seats only under the
    lock of their workspace. -/
def SeatsAllow (locked : Finset Row) : ∀ row, Option (Record row) → Record row → Prop
  | .workspace _, old, new => ∃ v, old = some v ∧ v.totalSeats ≤ new.totalSeats
  | .booking _, old, new => (∀ v, old = some v → v.terms = new.terms) ∧
      (new.status.holdsSeats → (∃ v, old = some v ∧ v.status.holdsSeats) ∨
        .workspace new.workspaceId ∈ locked)
  | .payment _, _, _ | .user _, _, _ => True

theorem SeatsAllow.mono {l l' : Finset Row} {row : Row} {old : Option (Record row)}
    {new : Record row} (hl : l ⊆ l') (h : SeatsAllow l row old new) : SeatsAllow l' row old new := by
  cases row with
  | workspace => exact h
  | booking => exact ⟨h.1, fun hholds => (h.2 hholds).imp_right fun hlock => hl hlock⟩
  | payment | user => trivial

theorem SeatsAllow.trans {l : Finset Row} {row : Row} {old : Option (Record row)}
    {v new : Record row} (h : SeatsAllow l row old v) (h' : SeatsAllow l row (some v) new) :
    SeatsAllow l row old new := by
  cases row with
  | workspace =>
    obtain ⟨u, hu, hle⟩ := h
    obtain ⟨_, ⟨⟩, hle'⟩ := h'
    exact ⟨u, hu, hle.trans hle'⟩
  | booking =>
    have hterms : v.terms = new.terms := h'.1 v rfl
    refine ⟨fun u hu => (h.1 u hu).trans hterms, fun hholds => ?_⟩
    rcases h'.2 hholds with ⟨_, ⟨⟩, hv⟩ | hlock
    · have hid : v.workspaceId = new.workspaceId := congrArg Prod.fst hterms
      rw [← hid]
      exact h.2 hv
    · exact Or.inr hlock
  | payment | user => trivial

def seatDiscipline : Discipline Record where
  allows := SeatsAllow
  mono := SeatsAllow.mono
  trans := SeatsAllow.trans

/-- The rows may have changed from `db` to `db'`, by sessions with these locks. -/
abbrev SeatMoves (locked : Finset Row) (db db' : Database) : Prop :=
  ∀ row, seatDiscipline.Moves locked row (db.lookup row) (db'.lookup row)

/-- The seats held of the workspace fit its capacity, on every day. -/
def WithinCapacity (db : Database) (workspaceId : Uuid) : Prop :=
  ∀ workspace, db.workspace workspaceId = some workspace → ∀ day,
    (Storage.total db (seatsHeld workspaceId day day none) : ℕ) ≤ workspace.totalSeats

/-! ## Sessions without the lock -/

section
variable {locked : Finset Row} {db db' : Database} {workspaceId : Uuid}

/-- Without the lock, seats are only freed. -/
theorem SeatMoves.total_le (h : SeatMoves locked db db') (hlock : .workspace workspaceId ∉ locked)
    (startDate endDate : Day) (excluded : Option Uuid) :
    Storage.total db' (seatsHeld workspaceId startDate endDate excluded) ≤
      Storage.total db (seatsHeld workspaceId startDate endDate excluded) := by
  refine Storage.total_le_total fun row => ?_
  rcases h row with hsame | ⟨new, hnew, hallows⟩
  · rw [hsame]
  rw [hnew, Option.elim_some]
  cases row with
  | workspace | payment | user => exact Nat.zero_le _
  | booking id =>
    obtain ⟨hterms, hholds⟩ := hallows
    simp only [seatsHeld]
    split_ifs with hseats
    · obtain ⟨rfl, hne, hnew, hstart, hend⟩ := hseats
      obtain ⟨old, hold, hheld⟩ := (hholds hnew).resolve_right hlock
      have hold' := hterms old hold
      simp only [Booking.terms, Prod.mk.injEq] at hold'
      obtain ⟨hid, hs, he, hcount⟩ := hold'
      rw [hold, Option.elim_some, seatsHeld,
        if_pos ⟨hid, hne, hheld, hs ▸ hstart, he ▸ hend⟩, hcount]
    · exact Nat.zero_le _

theorem SeatMoves.workspace (h : SeatMoves locked db db') {new : Workspace}
    (hnew : db'.workspace workspaceId = some new) :
    ∃ old, db.workspace workspaceId = some old ∧ old.totalSeats ≤ new.totalSeats := by
  rcases h (.workspace workspaceId) with hsame | ⟨v, hv, hallows⟩
  · exact ⟨new, hsame.symm.trans hnew, le_rfl⟩
  · obtain rfl : v = new := Option.some.inj (hv.symm.trans hnew)
    exact hallows

theorem WithinCapacity.moves (hw : WithinCapacity db workspaceId) (h : SeatMoves locked db db')
    (hlock : .workspace workspaceId ∉ locked) : WithinCapacity db' workspaceId := by
  intro new hnew day
  obtain ⟨old, hold, hle⟩ := h.workspace hnew
  have htotal := h.total_le hlock day day none
  have hcap := hw old hold day
  omega

end

/-! ## Taking seats -/

section
variable {db db' : Database} {id workspaceId : Uuid} {new : Booking} {excluded : Option Uuid}
  {booked : ℕ} {totalSeats : ℤ}

/-- On a day of its window, a new booking adds its seats to those that its check has added up. -/
theorem total_take_le (hothers : ∀ row ≠ .booking id, db'.lookup row = db.lookup row)
    (hnew : db'.lookup (.booking id) = some new) (hexcluded : excluded = none ∨ excluded = some id)
    {day : Day} (hstart : new.startDate ≤ day) (hend : day ≤ new.endDate) :
    Storage.total db' (seatsHeld workspaceId day day none) ≤
      Storage.total db (seatsHeld workspaceId new.startDate new.endDate excluded) +
        new.seatCount := by
  refine Storage.total_le_total_add (.booking id) _ fun row => ?_
  by_cases hrow : row = .booking id
  · subst hrow
    rw [hnew, if_pos rfl, Option.elim_some, seatsHeld]
    split_ifs <;> omega
  rw [hothers row hrow, if_neg hrow, add_zero]
  cases hdb : db.lookup row with
  | none => exact le_rfl
  | some v =>
    rw [Option.elim_some, Option.elim_some]
    cases row with
    | workspace | payment | user => exact le_rfl
    | booking id' =>
      have hne : excluded ≠ some id' := by
        rcases hexcluded with rfl | rfl
        · exact nofun
        · rintro ⟨⟩
          exact hrow rfl
      simp only [seatsHeld]
      split_ifs with hday hwindow
      · exact le_rfl
      · exact absurd ⟨hday.1, hne, hday.2.2.1, hday.2.2.2.1.trans hend,
          hstart.trans hday.2.2.2.2⟩ hwindow
      · exact Nat.zero_le _
      · exact le_rfl

/-- On other days, and for other workspaces, a new booking takes no seats. -/
theorem total_spare_le (hothers : ∀ row ≠ .booking id, db'.lookup row = db.lookup row)
    (hnew : db'.lookup (.booking id) = some new) {day : Day}
    (hday : ¬ (new.workspaceId = workspaceId ∧ new.startDate ≤ day ∧ day ≤ new.endDate)) :
    Storage.total db' (seatsHeld workspaceId day day none) ≤
      Storage.total db (seatsHeld workspaceId day day none) := by
  refine Storage.total_le_total fun row => ?_
  by_cases hrow : row = .booking id
  · subst hrow
    rw [hnew, Option.elim_some, seatsHeld, if_neg fun h => hday ⟨h.1, h.2.2.2⟩]
    exact Nat.zero_le _
  · rw [hothers row hrow]

/-- A booking for which there is room keeps its workspace within capacity. -/
theorem WithinCapacity.take (hw : WithinCapacity db workspaceId)
    (hothers : ∀ row ≠ .booking id, db'.lookup row = db.lookup row)
    (hnew : db'.lookup (.booking id) = some new) (hexcluded : excluded = none ∨ excluded = some id)
    (hsum : Storage.total db (seatsHeld new.workspaceId new.startDate new.endDate excluded) ≤
      booked)
    (hcap : ∃ workspace, db.workspace new.workspaceId = some workspace ∧
      totalSeats ≤ workspace.totalSeats)
    (hroom : (booked : ℤ) + new.seatCount ≤ totalSeats) : WithinCapacity db' workspaceId := by
  intro workspace hworkspace day
  have hdb : db.workspace workspaceId = some workspace :=
    (hothers (.workspace workspaceId) Row.noConfusion).symm.trans hworkspace
  by_cases hday : new.workspaceId = workspaceId ∧ new.startDate ≤ day ∧ day ≤ new.endDate
  · obtain ⟨rfl, hstart, hend⟩ := hday
    obtain ⟨workspace', hworkspace', hle⟩ := hcap
    obtain rfl : workspace' = workspace := Option.some.inj (hworkspace'.symm.trans hdb)
    have htotal : Storage.total db' (seatsHeld new.workspaceId day day none) ≤
        Storage.total db (seatsHeld new.workspaceId new.startDate new.endDate excluded) +
          new.seatCount := total_take_le hothers hnew hexcluded hstart hend
    omega
  · have htotal := total_spare_le hothers hnew hday
    have hcap' := hw workspace hdb day
    omega

end

/-! ## What sessions know -/

/-- The booking that a session has read, on the terms of the row that it sees. -/
def Recalls (db : Database) (found : Option (Uuid × Booking)) : Prop :=
  ∀ id booking, found = some (id, booking) →
    ∃ v, db.booking id = some v ∧ v.terms = booking.terms

/-- The session has locked the workspace row, and read its capacity. -/
structure HoldsLock (s : DbServer) (t : ℕ) (workspaceId : Uuid) (totalSeats : ℤ) : Prop where
  lock : .workspace workspaceId ∈ s.locks t
  capacity : ∃ workspace, (s.view t).workspace workspaceId = some workspace ∧
    totalSeats ≤ workspace.totalSeats

/-- What a stage says about the store. -/
def SeatStage.Holds (s : DbServer) (t : ℕ) : SeatStage → Prop
  | outside => s.active.lookup t = none
  | opened found => Recalls (s.view t) found
  | locked found workspaceId totalSeats =>
    Recalls (s.view t) found ∧ HoldsLock s t workspaceId totalSeats
  | checked found workspaceId totalSeats startDate endDate excluded booked =>
    Recalls (s.view t) found ∧ HoldsLock s t workspaceId totalSeats ∧
      Storage.total (s.view t) (seatsHeld workspaceId startDate endDate excluded) ≤ booked

section
variable {s s' : DbServer} {t : ℕ} {locked : Finset Row}

theorem Recalls.moves {db db' : Database} {found : Option (Uuid × Booking)} (h : Recalls db found)
    (hm : SeatMoves locked db db') : Recalls db' found := by
  intro id booking hfound
  obtain ⟨v, hv, hterms⟩ := h id booking hfound
  rcases hm (.booking id) with hsame | ⟨v', hv', hallows⟩
  · exact ⟨v, hsame.trans hv, hterms⟩
  · exact ⟨v', hv', (hallows.1 v hv).symm.trans hterms⟩

theorem HoldsLock.moves {workspaceId : Uuid} {totalSeats : ℤ}
    (h : HoldsLock s t workspaceId totalSeats) (hm : SeatMoves locked (s.view t) (s'.view t))
    (hlocks : s'.locks t = s.locks t) : HoldsLock s' t workspaceId totalSeats where
  lock := hlocks ▸ h.lock
  capacity := by
    obtain ⟨old, hold, hle⟩ := h.capacity
    rcases hm (.workspace workspaceId) with hsame | ⟨v, hv, u, hu, hle'⟩
    · exact ⟨old, hsame.trans hold, hle⟩
    · obtain rfl : u = old := Option.some.inj (hu.symm.trans hold)
      exact ⟨v, hv, hle.trans hle'⟩

/-- What a session knows stays true while others, without its locks, change the rows. -/
theorem SeatStage.Holds.moves {stage : SeatStage} (h : stage.Holds s t)
    (hm : SeatMoves locked (s.view t) (s'.view t))
    (hactive : s.active.lookup t = none → s'.active.lookup t = none)
    (hlocks : s'.locks t = s.locks t)
    (hapart : ∀ row, row ∈ s.locks t → row ∉ locked) : stage.Holds s' t := by
  cases stage with
  | outside => exact hactive h
  | opened found => exact Recalls.moves h hm
  | locked found workspaceId totalSeats => exact ⟨h.1.moves hm, h.2.moves hm hlocks⟩
  | checked found workspaceId totalSeats startDate endDate excluded booked =>
    exact ⟨h.1.moves hm, h.2.1.moves hm hlocks,
      (hm.total_le (hapart _ h.2.1.lock) _ _ _).trans h.2.2⟩

end

/-! ## One query -/

/-- The rows of a query are one booking, for which the session has found room. -/
structure Takes (db : Database) (stage stage' : SeatStage) (rows : Database) (id : Uuid)
    (new : Booking) (found : Option (Uuid × Booking)) (excluded : Option Uuid) : Prop where
  spends : stage' = stage.spend
  room : stage.HasRoom found excluded new
  excluded : excluded = none ∨ excluded = some id
  terms : ∀ old, db.booking id = some old → old.terms = new.terms
  booking : rows.lookup (.booking id) = some new
  others : ∀ row ≠ .booking id, rows.lookup row = none

/-- The totals of the committed workspaces are not lowered. -/
def SeatsKept (db db' : Database) : Prop :=
  ∀ id v v', db.workspace id = some v → db'.workspace id = some v' → v.totalSeats ≤ v'.totalSeats

/-- The row is no workspace whose seats `db'` lowers. -/
def keepsSeats (db' : Database) : ∀ row, Record row → Bool
  | .workspace id, v => (db'.workspace id).all fun v' => v.totalSeats ≤ v'.totalSeats
  | _, _ => true

theorem seatsKept_iff {db db' : Database} : SeatsKept db db' ↔ db.All (keepsSeats db') := by
  rw [Database.all_iff]
  constructor
  · intro h row v hv
    cases row with
    | workspace id =>
      exact (Option.all_eq_true _ _).2 fun v' hv' => decide_eq_true (h id v v' hv hv')
    | booking | payment | user => rfl
  · intro h id v v' hv hv'
    exact of_decide_eq_true ((Option.all_eq_true _ _).1 (h (.workspace id) v hv) v' hv')

instance (db db' : Database) : Decidable (SeatsKept db db') := decidable_of_iff _ seatsKept_iff.symm

theorem SeatStage.HasRoom.congr {stage : SeatStage} {found : Option (Uuid × Booking)}
    {excluded : Option Uuid} {booking booking' : Booking} (h : stage.HasRoom found excluded booking)
    (hterms : booking.terms = booking'.terms) : stage.HasRoom found excluded booking' := by
  simp only [Booking.terms, Prod.mk.injEq] at hterms
  obtain ⟨hid, hstart, hend, hcount⟩ := hterms
  rwa [HasRoom, ← hid, ← hstart, ← hend, ← hcount]

section
variable {s s' : DbServer} {t : ℕ} {w : World} {q : Query} {a : Answer q} {stage : SeatStage}

/-- A query frees seats, or leaves them as they are, or takes the seats of one booking. -/
theorem rows_allowed_or_takes (h : exec t w s q = some (a, s')) (hp : stage.permits q)
    (hs : stage.Holds s t) (hkept : SeatsKept s.stored s'.stored) :
    (∀ row v, (q.rows w (s.view t)).lookup row = some v →
      SeatsAllow ∅ row ((s.view t).lookup row) v) ∨
    ∃ id new found excluded,
      Takes (s.view t) stage (stage.after q a) (q.rows w (s.view t)) id new found excluded := by
  cases q with
  | insertBooking booking =>
    obtain ⟨found, hroom⟩ := hp
    obtain ⟨_, hi, heq⟩ := Option.map_eq_some_iff.1 h
    obtain ⟨⟨hfresh, -⟩, -⟩ := insert_eq_some.1 hi
    refine Or.inr ⟨w.id, { booking with createdAt := w.now }, found, none, rfl, hroom,
      Or.inl rfl, fun old hold => ?_, Finmap.lookup_insert _, fun row hrow => ?_⟩
    · exact absurd (Finmap.mem_of_lookup_eq_some hold) hfresh
    · exact lookup_single_of_ne hrow
  | updateBooking id c =>
    rcases hp with hfree | ⟨booking, hroom⟩
    · refine Or.inl fun row v hv => ?_
      rw [Query.rows, Storage.lookup_changes, Option.bind_eq_some_iff] at hv
      obtain ⟨old, hold, hv⟩ := hv
      cases row with
      | workspace | payment | user => trivial
      | booking id' =>
        simp only [bookingSave, Option.ite_none_right_eq_some, Option.some.injEq] at hv
        obtain ⟨rfl, rfl⟩ := hv
        refine ⟨fun v hv => ?_, fun hholds => Or.inl ⟨old, hold, ?_⟩⟩
        · obtain rfl : v = old := Option.some.inj (hv.symm.trans hold)
          rfl
        · cases hc : c.status with
          | none => rwa [Booking.set, hc, Option.getD_none] at hholds
          | some status =>
            rw [Booking.set, hc, Option.getD_some] at hholds
            exact absurd hholds (hfree status hc)
    · obtain ⟨v, hv, hterms⟩ : ∃ v, (s.view t).booking id = some v ∧ v.terms = booking.terms := by
        obtain ⟨totalSeats, booked, rfl, -⟩ := hroom
        exact hs.1 id booking rfl
      refine Or.inr ⟨id, v.set c, some (id, booking), some id, rfl, hroom.congr hterms.symm,
        Or.inr rfl, fun old hold => ?_, ?_, fun row hrow => ?_⟩
      · obtain rfl : old = v := Option.some.inj (hold.symm.trans hv)
        rfl
      · rw [Query.rows, Storage.lookup_changes, Option.bind_eq_some_iff]
        exact ⟨v, hv, if_pos rfl⟩
      · rw [Query.rows, Storage.lookup_changes, Option.bind_eq_none_iff]
        intro old _
        cases row with
        | workspace | payment | user => rfl
        | booking id' => exact if_neg fun hid => hrow (congrArg Row.booking hid)
  | updateBookings ids source target =>
    refine Or.inl fun row v hv => ?_
    rw [Query.rows, Storage.lookup_changes, Option.bind_eq_some_iff] at hv
    obtain ⟨old, hold, hv⟩ := hv
    cases row with
    | workspace | payment | user => trivial
    | booking id' =>
      simp only [bookingUpdate, Option.ite_none_right_eq_some, Option.some.injEq] at hv
      obtain ⟨⟨-, hsource⟩, rfl⟩ := hv
      refine ⟨fun v hv => ?_, fun hholds => Or.inl ⟨old, hold, hsource ▸ hp hholds⟩⟩
      obtain rfl : v = old := Option.some.inj (hv.symm.trans hold)
      rfl
  | updateWorkspace id c =>
    obtain rfl : stage = .outside := hp
    obtain ⟨-, -, rfl⟩ := update_eq_some.1 h
    have hview : s.view t = s.stored := Server.view_none hs
    refine Or.inl fun row v hv => ?_
    have hold := hv
    rw [Query.rows, Storage.lookup_changes, Option.bind_eq_some_iff] at hold
    obtain ⟨old, hold, hsave⟩ := hold
    cases row with
    | booking | payment | user => cases hsave
    | workspace id' =>
      refine ⟨old, hold, hkept id' old v (hview ▸ hold) ?_⟩
      rw [Server.put_none hs, Database.workspace, Storage.lookup_union]
      exact (congrArg (Option.or · _) hv).trans (Option.some_or)
  | insertPayment =>
    refine Or.inl fun row v hv => ?_
    obtain rfl : row = .payment w.id := by
      by_contra hne
      cases (lookup_single_of_ne hne).symm.trans hv
    trivial
  | updatePayments | updatePayment | updateUser =>
    refine Or.inl fun row v hv => ?_
    rw [Query.rows, Storage.lookup_changes, Option.bind_eq_some_iff] at hv
    obtain ⟨old, -, hv⟩ := hv
    cases row with
    | workspace | booking => cases hv
    | payment | user => trivial
  | begin | commit | rollback | lockWorkspace | findBookings | findPayment | now | bookedSeats
  | findWorkspace | findBooking | findUser | initializeTransaction | initiateRefund | createEscrow
  | start => exact Or.inl fun row v hv => by cases hv

/-- Seats are taken under the lock of the workspace. -/
theorem rows_allowed (h : exec t w s q = some (a, s')) (hp : stage.permits q)
    (hs : stage.Holds s t) (hkept : SeatsKept s.stored s'.stored) (row : Row) (v : Record row)
    (hv : (q.rows w (s.view t)).lookup row = some v) :
    SeatsAllow (s.locks t) row ((s.view t).lookup row) v := by
  rcases rows_allowed_or_takes h hp hs hkept with hrows | ⟨id, new, found, excluded, htakes⟩
  · exact (hrows row v hv).mono (Finset.empty_subset _)
  by_cases hrow : row = .booking id
  · subst hrow
    obtain rfl : new = v := Option.some.inj (htakes.booking.symm.trans hv)
    obtain ⟨totalSeats, booked, rfl, -⟩ := htakes.room
    exact ⟨htakes.terms, fun _ => Or.inr hs.2.1.lock⟩
  · cases (htakes.others row hrow).symm.trans hv

end

/-! ## Runs -/

/-- The seats are within capacity: of every workspace in the committed rows, and of the workspaces
    that a session has locked in the rows that it sees. -/
structure SeatsSafe (s : DbServer) (qs : ℕ → Option SeatStage) : Prop where
  sound : s.Sound seatDiscipline
  stored : ∀ workspaceId, WithinCapacity s.stored workspaceId
  locked : ∀ t workspaceId, .workspace workspaceId ∈ s.locks t →
    WithinCapacity (s.view t) workspaceId
  stages : ∀ t stage, qs t = some stage → stage.Holds s t
  fresh : ∀ t, qs t = none → s.active.lookup t = none

section
variable {s s' : DbServer} {t : ℕ} {w : World} {q : Query} {a : Answer q} {stage : SeatStage}
  {qs : ℕ → Option SeatStage}

theorem SeatsSafe.locked_own (hJ : SeatsSafe s qs) (h : exec t w s q = some (a, s'))
    (hp : stage.permits q) (hs : stage.Holds s t) (hkept : SeatsKept s.stored s'.stored)
    {workspaceId : Uuid} (hlock : .workspace workspaceId ∈ s'.locks t) :
    WithinCapacity (s'.view t) workspaceId := by
  by_cases hq : q = .rollback
  · subst hq
    rw [rollback_view h]
    exact hJ.stored workspaceId
  rcases exec_locks h with hnone | hsame | ⟨id, rfl, hinsert⟩
  · rw [hnone] at hlock
    exact absurd hlock (Finset.notMem_empty _)
  · have hw := hJ.locked t workspaceId (hsame ▸ hlock)
    rcases rows_allowed_or_takes h hp hs hkept with hrows | ⟨id, new, found, excluded, htakes⟩
    · have hm : SeatMoves ∅ (s.view t) (s'.view t) := view_moves h hq hrows
      exact hw.moves hm (Finset.notMem_empty _)
    · obtain ⟨totalSeats, booked, rfl, hroom⟩ := htakes.room
      refine hw.take (fun row hrow => ?_) ?_ htakes.excluded hs.2.2 hs.2.1.capacity hroom
      · rw [exec_view h hq, htakes.others row hrow, Option.none_or]
      · rw [exec_view h hq, htakes.booking, Option.some_or]
  · have hview : SeatMoves ∅ (s.view t) (s'.view t) := by
      refine view_moves h hq fun row v hv => ?_
      cases hv
    refine WithinCapacity.moves ?_ hview (Finset.notMem_empty _)
    by_cases hold : .workspace workspaceId ∈ s.locks t
    · exact hJ.locked t workspaceId hold
    · exact (hJ.stored workspaceId).moves (hJ.sound.moves_view t) hold

/-- What is left of a check after a write. -/
theorem SeatStage.Holds.spend {locked : Finset Row} (h : stage.Holds s t)
    (hm : SeatMoves locked (s.view t) (s'.view t))
    (hactive : s.active.lookup t = none → s'.active.lookup t = none)
    (hlocks : s'.locks t = s.locks t) : stage.spend.Holds s' t := by
  cases stage with
  | outside => exact hactive h
  | opened found => exact Recalls.moves h hm
  | locked found workspaceId totalSeats => exact ⟨h.1.moves hm, h.2.moves hm hlocks⟩
  | checked found workspaceId totalSeats startDate endDate excluded booked =>
    exact ⟨h.1.moves hm, h.2.1.moves hm hlocks⟩

/-- What a plain query leaves of what its session knows. -/
theorem plain_holds (h : exec t w s q = some (a, s')) (hq : q.isPlain) (hp : stage.permits q)
    (hs : stage.Holds s t) (hkept : SeatsKept s.stored s'.stored) :
    stage.spend.Holds s' t ∧ (stage.after q a ≠ stage.spend → stage.Holds s' t) := by
  have hne : q ≠ .rollback := fun hr => by subst hr; cases hq
  have hm : SeatMoves (s.locks t) (s.view t) (s'.view t) :=
    view_moves h hne (rows_allowed h hp hs hkept)
  have hput := exec_plain h hq
  have hlocks : s'.locks t = s.locks t := hput ▸ Server.locks_put s t _
  have hactive (hx : s.active.lookup t = none) : s'.active.lookup t = none := by
    rw [hput, Server.put_none hx]
    exact hx
  refine ⟨hs.spend hm hactive hlocks, fun hafter => ?_⟩
  rcases rows_allowed_or_takes h hp hs hkept with hrows | ⟨id, new, found, excluded, htakes⟩
  · have hm : SeatMoves ∅ (s.view t) (s'.view t) := view_moves h hne hrows
    exact hs.moves hm hactive hlocks fun _ _ => Finset.notMem_empty _
  · exact absurd htakes.spends hafter

/-- What a session knows after its own query. -/
theorem SeatStage.Holds.after (h : exec t w s q = some (a, s')) (hp : stage.permits q)
    (hs : stage.Holds s t) (hkept : SeatsKept s.stored s'.stored) :
    (stage.after q a).Holds s' t := by
  cases q with
  | begin => exact fun id booking hfound => by cases hfound
  | commit => exact commit_active h
  | rollback => exact rollback_active h
  | lockWorkspace id =>
    obtain ⟨found, rfl⟩ := hp
    simp only [exec] at h
    split at h
    · next workspace hworkspace =>
      obtain ⟨_, hl, heq⟩ := Option.map_eq_some_iff.1 h
      cases heq
      obtain ⟨-, x, hx, rfl⟩ := Server.lock_eq_some.1 hl
      refine ⟨?_, ?_, workspace, ?_, le_rfl⟩
      · rw [DbServer.view, Server.view_lock hx]
        exact hs
      · rw [Server.locks, Finmap.lookup_insert, Option.elim_some]
        exact Finset.mem_insert_self _ _
      · rw [DbServer.view, Server.view_lock hx]
        exact hworkspace
    · cases h
      exact hs
  | findBooking id =>
    cases h
    cases stage with
    | opened found =>
      intro id' booking hfound
      obtain ⟨booking', hbooking, heq⟩ := Option.map_eq_some_iff.1 hfound
      cases heq
      exact ⟨booking, hbooking, rfl⟩
    | outside | locked | checked => exact hs
  | bookedSeats workspaceId startDate endDate excluded =>
    cases h
    cases stage with
    | locked found id totalSeats =>
      simp only [SeatStage.after, check]
      split_ifs with hid
      · subst hid
        exact ⟨hs.1, hs.2, le_rfl⟩
      · exact hs
    | outside | opened | checked => exact hs
  | insertBooking | updateBooking => exact (plain_holds h rfl hp hs hkept).1
  | now | findWorkspace | updateWorkspace | findBookings | updateBookings | findPayment
  | insertPayment | updatePayments | updatePayment | findUser | updateUser | initializeTransaction
  | initiateRefund | createEscrow | start =>
    by_cases hspend : stage = stage.spend
    · have hspent := (plain_holds h rfl hp hs hkept).1
      rw [← hspend] at hspent
      exact hspent
    · exact (plain_holds h rfl hp hs hkept).2 hspend

/-- A request starts outside a transaction. -/
theorem SeatsSafe.call (hJ : SeatsSafe s qs) (ht : qs t = none) :
    SeatsSafe s (Function.update qs t (some .outside)) where
  sound := hJ.sound
  stored := hJ.stored
  locked := hJ.locked
  stages t' stage hstage := by
    rcases update_stage hstage with ⟨rfl, rfl⟩ | ⟨-, hstage⟩
    · exact hJ.fresh t' ht
    · exact hJ.stages t' stage hstage
  fresh t' hnone := by
    by_cases ht' : t' = t
    · exact ht' ▸ hJ.fresh t ht
    · rw [Function.update_of_ne ht'] at hnone
      exact hJ.fresh t' hnone

/-- **A permitted query keeps the seats within capacity.** -/
theorem SeatsSafe.step (hJ : SeatsSafe s qs) (h : exec t w s q = some (a, s'))
    (hstage : qs t = some stage) (hp : stage.permits q) (hkept : SeatsKept s.stored s'.stored) :
    SeatsSafe s' (Function.update qs t (some (stage.after q a))) := by
  have hs := hJ.stages t stage hstage
  have hchange : s.Change seatDiscipline t s' := exec_change h (rows_allowed h hp hs hkept)
  refine ⟨hchange.sound hJ.sound, fun id => ?_, fun t' id hlock => ?_, fun t' stage' hstage' => ?_,
    fun t' hnone => ?_⟩
  · by_cases hlock : .workspace id ∈ s.locks t
    · obtain ⟨x, hx, -⟩ := Server.mem_locks.1 hlock
      rcases hchange.stored_eq hx with hstored | hstored
      · exact hstored ▸ hJ.stored id
      · exact hstored ▸ hJ.locked t id hlock
    · exact (hJ.stored id).moves (fun row => hchange.stored hJ.sound row) hlock
  · by_cases ht : t' = t
    · subst ht
      exact hJ.locked_own h hp hs hkept hlock
    · rw [hchange.locks ht] at hlock
      exact (hJ.locked t' id hlock).moves (fun row => hchange.view hJ.sound ht row)
        (hJ.sound.locks_apart ht hlock)
  · rcases update_stage hstage' with ⟨rfl, rfl⟩ | ⟨ht, hstage'⟩
    · exact hs.after h hp hkept
    · refine (hJ.stages t' stage' hstage').moves (fun row => hchange.view hJ.sound ht row)
        (fun hx => (hchange.active ht).trans hx) (hchange.locks ht) fun row hrow => ?_
      exact hJ.sound.locks_apart ht hrow
  · by_cases ht : t' = t
    · subst ht
      rw [Function.update_self] at hnone
      cases hnone
    · rw [Function.update_of_ne ht] at hnone
      exact (hchange.active ht).trans (hJ.fresh t' hnone)

end

/-- **However the operations are interleaved, the PENDING and CONFIRMED bookings of a workspace take
    at most its seats, on every day**, unless its seats are cut. -/
theorem seats_within_capacity {cfg : Config} {db : Database} {tr : List Ev} {p : Sessions}
    (h : Run (backend cfg).Steps (idle db) tr p) (hdb : ∀ id, WithinCapacity db id)
    (hkept : ∀ e ∈ tr, SeatsKept e.pre.shared.db e.post.shared.db) (workspaceId : Uuid) :
    WithinCapacity p.shared.db workspaceId := by
  have hC : Along (fun _ e => SeatsKept e.pre.shared.db e.post.shared.db) tr :=
    along_iff_forall.2 hkept
  have hstart : SeatsSafe (idle db).shared fun _ => none :=
    ⟨Server.sound_idle db, hdb, fun t id hlock => absurd hlock (Finset.notMem_empty _),
      fun t stage hstage => (nomatch hstage), fun t _ => rfl⟩
  obtain ⟨qs, -, hJ⟩ := System.invariant (J := fun _ => SeatsSafe) (program_seats cfg)
    (fun tr e t r qs _ hqs hshared _ hJ => hshared ▸ hJ.call hqs)
    (fun tr e qs t w q op a hans hkept hJ => hJ.step hans.exec hans.stage hans.permits hkept)
    h .idle hstart hC
  exact hJ.stored workspaceId

/-- Two bookings of the last seat at once. -/
theorem seats_within_capacity_last_seat : ∃ tr p,
    Run (backend plainConfig).Steps (idle (Finmap.insert (.workspace "w") ⟨1, 500, true⟩ ∅)) tr p ∧
      (p.shared.db.booking "b").isSome ∧ ∀ workspaceId, WithinCapacity p.shared.db workspaceId := by
  let dto : CreateBookingDto := ⟨"w", .daily, 10, 11, 1⟩
  have hplay : ((backend plainConfig).play (idle (Finmap.insert (.workspace "w") ⟨1, 500, true⟩ ∅))
      [.call 0 (.createBooking dto "u"), .call 1 (.createBooking dto "u'"), .step 0 {}, .step 1 {},
        .step 0 {}, .step 0 {}, .step 0 {}, .step 0 { id := "b" }, .step 0 {}, .step 0 {},
        .step 1 {}, .step 1 {}, .step 1 {}]).any fun x =>
      (∀ e ∈ x.1, SeatsKept e.pre.shared.db e.post.shared.db) ∧
        (x.2.shared.db.booking "b").isSome := by decide
  obtain ⟨⟨tr, p⟩, hplay, hfacts⟩ := (Option.any_eq_true _ _).1 hplay
  obtain ⟨hkept, hbooked⟩ := of_decide_eq_true hfacts
  refine ⟨tr, p, System.run_play hplay, hbooked,
    seats_within_capacity (System.run_play hplay) (fun id workspace hworkspace day => ?_) hkept⟩
  have htotal := Storage.total_insert ∅ (.workspace "w") ⟨1, 500, true⟩ (seatsHeld id day day none)
  simp only [Finmap.lookup_empty, Option.elim_none, Storage.total_empty, seatsHeld, add_zero]
    at htotal
  rw [htotal]
  by_cases hid : Row.workspace id = .workspace "w"
  · cases hid
    obtain rfl := Option.some.inj ((Finmap.lookup_insert _).symm.trans hworkspace)
    decide
  · cases (lookup_single_of_ne hid).symm.trans hworkspace

end Backend
