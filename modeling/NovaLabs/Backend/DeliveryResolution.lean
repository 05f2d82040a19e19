/-
  How a delivery of `charge.success` ends among sweeps.

  From its look at the payment on, either the payment is marked and the booking confirmed, or a
  query has not found its row; the second is not put right later.
-/
import NovaLabs.Backend.CaptureSteps

namespace Backend

open Lib

/-! ## The programs of the delivery -/

section
variable {σ α β : Type} {G : Rely Answer σ} {e : HttpError} {post : Except HttpError β → σ → Prop}
  {s : σ} {A : σ → Prop}

theorem Ensures.transaction {x : Proc β} {M : Except HttpError β → σ → Prop} (hA : G.Stable A)
    (h : A s) (hbody : ∀ s u s', A s → G.own .begin s u s' → Ensures G M x s')
    (hok : ∀ a s, M (.ok a) s → Ensures G post (Backend.ask .commit >>= fun _ => pure a) s)
    (herr : ∀ e s, M (.error e) s → Ensures G post (Backend.ask .rollback >>= fun _ => throw e) s) :
    Ensures G post (Backend.transaction x) s :=
  Ensures.query hA h fun s u s' hs ho => (hbody s u s' hs ho).attempt fun r s hr => match r with
    | .ok a => hok a s hr
    | .error e => herr e s hr

/-- An activation goes through, and keeps what all its queries keep. -/
theorem activateMembership_ensures (userId : Option Uuid) (hA : G.Stable A)
    (hkeep : ∀ op s a s', op.isPersonal → A s → G.own op s a s' → A s') (h : A s) :
    Ensures G (fun r s => (∃ u, r = .ok u) ∧ A s) (activateMembershipIfNeeded userId) s := by
  have hstop (u : Unit) {s : σ} (h : A s) :
      Ensures G (fun r s => (∃ u, r = .ok u) ∧ A s) (.done (.ok u) : Proc Unit) s :=
    Ensures.stop hA h fun _ h => ⟨⟨u, rfl⟩, h⟩
  cases userId with
  | none => exact hstop () h
  | some userId =>
    refine Ensures.query hA h fun s found s' hs ho => ?_
    have h₁ := hkeep _ s found s' rfl hs ho
    cases found with
    | none => exact hstop () h₁
    | some user =>
      dsimp only
      split_ifs
      · refine Ensures.query hA h₁ fun s now s' hs ho => ?_
        refine Ensures.query hA (hkeep _ s now s' rfl hs ho) fun s stored s' hs ho => ?_
        have h₂ := hkeep _ s stored s' rfl hs ho
        cases stored with
        | none => exact hstop () h₂
        | some stored =>
          dsimp only
          split_ifs
          · exact Ensures.query hA h₂ fun s n s' hs ho => hstop () (hkeep _ s n s' rfl hs ho)
          · exact hstop () h₂
      · exact hstop () h₁

end

section
variable {t : ℕ} {id bookingId : Uuid} {reference : String} {w : Watched} {payment : Payment}

/-- As the operations and sweeps leave a booking that is to be paid. -/
def BookingStatus.awaits (status : BookingStatus) : Prop := status = .pending ∨ status = .expired

/-- The payment is marked; what is left is the booking. -/
def Paid (id : Uuid) (B : DbServer → Prop) (w : Watched) : Prop :=
  w.looked ∧ w.finds ∧ PaymentIs id (·.status = .success) w.server ∧ B w.server

theorem stable_paid {B : DbServer → Prop}
    (hB : (capture t id bookingId reference).Stable fun w => B w.server) :
    (capture t id bookingId reference).Stable (Paid id B) :=
  stable_looked.and (stable_finds.and ((stable_status PaymentStatus.noConfusion).and hB))

theorem stable_awaits : (capture t id bookingId reference).Stable fun w =>
    BookingIs bookingId (fun v => v.status.awaits) w.server :=
  stable_booking fun _ _ _ => Or.inr rfl

theorem personal_leaves (op : Query) (h : op.isPersonal) : op.leavesStatus := by
  cases op <;> first | rfl | cases h

/-- **A booking that was not EXPIRED is confirmed, if it is so still.** -/
theorem confirmBooking_resolves (hw : Paid id (fun s => Outside t s ∧
      BookingIs bookingId (fun v => v.status.awaits) s) w) :
    Ensures (capture t id bookingId reference) (fun _ => Resolved t id bookingId)
      (confirmBooking bookingId) w := by
  refine Ensures.query (stable_paid (stable_outside.and stable_awaits)) hw fun w n w' hw ho => ?_
  obtain ⟨hl, ht, ⟨p, hp, hs⟩, hx, v, hv, hstatus⟩ := hw
  obtain ⟨hx', world, hexec, hrows⟩ := ho.commits rfl hx
  have hpayment : PaymentIs id (·.status = .success) w'.server := by
    refine ⟨p, ?_, hs⟩
    rw [Database.payment, hrows, Query.rows, Storage.lookup_changes,
      show w.server.db.lookup (.payment id) = some p from hp]
    rfl
  have hresolved : Resolved t id bookingId w' := by
    refine ⟨hx', ho.looked.2 (Or.inl hl), ?_⟩
    rcases hstatus with hpending | hexpired
    · refine Or.inl ⟨ho.finds.2 ⟨ht, fun v' hv' hexpired => ?_⟩, hpayment, ?_⟩
      · obtain rfl := Option.some.inj (hv'.symm.trans hv)
        cases hpending.symm.trans hexpired
      · refine ⟨{ v with status := .confirmed }, ?_, rfl⟩
        rw [Database.booking, hrows, Query.rows, Storage.lookup_changes,
          show w.server.db.lookup (.booking bookingId) = some v from hv, Option.bind_some,
          bookingUpdate, if_pos ⟨List.mem_singleton.2 rfl, hpending⟩, Option.some_or]
    · refine Or.inr ⟨fun h => (ho.finds.1 h).2 v hv hexpired, Or.inr ⟨v, ?_, hexpired⟩⟩
      have hno : ¬ (bookingId ∈ [bookingId] ∧ v.status = .pending) := fun h => by
        cases hexpired.symm.trans h.2
      rw [Database.booking, hrows, Query.rows, Storage.lookup_changes,
        show w.server.db.lookup (.booking bookingId) = some v from hv, Option.bind_some,
        bookingUpdate, if_neg hno, Option.none_or]
  refine resolved_only (Process.Only.ite ?_ ?_) hresolved
  · exact (Process.Only.query rfl).bind fun current => Process.Only.okOr.bind fun current =>
      Process.Only.failIf.bind fun _ => trivial
  · exact (Process.Only.query rfl).bind fun found => Process.Only.okOr.bind fun booking =>
      ((activateMembershipIfNeeded_only _).mono personal_leaves).bind fun _ => trivial

/-! ### Reactivation -/

/-- What the session sees before it has written anything. -/
theorem view_unwritten {s : DbServer} (h : Inside t (fun x => x.written = ∅) s) :
    s.view t = s.db := by
  obtain ⟨x, hx, hempty⟩ := h
  rw [DbServer.view, Server.view, hx]
  change x.written ∪ s.stored = s.stored
  rw [hempty, Finmap.empty_union]

/-- A transaction is open that has written nothing yet, and the booking is stored so. -/
def Opened (t : ℕ) (bookingId : Uuid) (booking : Booking) (s : DbServer) : Prop :=
  Inside t (fun x => x.written = ∅) s ∧ BookingIs bookingId (· = booking) s

/-- The transaction has locked the workspace. -/
def Locked (t : ℕ) (workspaceId : Uuid) (workspace : Workspace) (s : DbServer) : Prop :=
  Inside t (fun x => .workspace workspaceId ∈ x.locked) s ∧
    s.db.workspace workspaceId = some workspace

/-- The transaction has confirmed the booking, and has not written the payment. -/
def Revived (t : ℕ) (id bookingId : Uuid) : DbServer → Prop :=
  Inside t fun x => (∃ v, x.written.lookup (.booking bookingId) = some v ∧
    Booking.status v = .confirmed) ∧ x.written.lookup (.payment id) = none

theorem stable_booking_eq {booking : Booking} (h : booking.status = .expired) :
    (capture t id bookingId reference).Stable fun w =>
      BookingIs bookingId (· = booking) w.server :=
  stable_booking fun v hv hpending => by
    subst hv
    cases h.symm.trans hpending

theorem stable_locked {workspaceId : Uuid} {workspace : Workspace} :
    (capture t id bookingId reference).Stable fun w =>
      Locked t workspaceId workspace w.server := by
  rintro w w' h ⟨⟨x, hx, hlocked⟩, hworkspace⟩
  exact ⟨⟨x, h.active.trans hx, hlocked⟩, (h.kept x _ hx (Or.inr hlocked)).trans hworkspace⟩

theorem stable_opened {booking : Booking} (h : booking.status = .expired) :
    (capture t id bookingId reference).Stable (Paid id (Opened t bookingId booking)) :=
  stable_paid (stable_inside.and (stable_booking_eq h))

theorem Paid.step {B B' : DbServer → Prop} {w' : Watched} {op : Query} {a : Answer op}
    (hw : Paid id B w) (h : Makes t id bookingId reference op w a w')
    (htime : op.finds id bookingId w.server.db)
    (hpayment : w'.server.db.payment id = w.server.db.payment id) (hB : B' w'.server) :
    Paid id B' w' := by
  obtain ⟨hl, ht, ⟨v, hv, hs⟩, -⟩ := hw
  exact ⟨h.looked.2 (Or.inl hl), h.finds.2 ⟨ht, htime⟩, ⟨v, hpayment.trans hv, hs⟩, hB⟩

theorem Makes.found {found : Option Booking} {w' : Watched}
    (h : Makes t id bookingId reference (.findBooking bookingId) w found w') :
    found = (w.server.view t).booking bookingId ∧ w'.server = w.server := by
  obtain ⟨world, hexec⟩ := h.exec
  obtain ⟨hfound, hserver⟩ := Prod.mk.inj (Option.some.inj hexec)
  exact ⟨hfound.symm, hserver.symm⟩

theorem lockWorkspace_some {s s' : DbServer} {world : World} {workspaceId : Uuid}
    {found : Option Workspace} {workspace : Workspace}
    (h : exec t world s (.lockWorkspace workspaceId) = some (found, s'))
    (hv : (s.view t).workspace workspaceId = some workspace) :
    found = some workspace ∧ s.lock t (.workspace workspaceId) = some s' := by
  simp only [exec] at h
  rw [hv] at h
  obtain ⟨_, hlock, heq⟩ := Option.map_eq_some_iff.1 h
  cases heq
  exact ⟨rfl, hlock⟩

/-- Inside a transaction, rows are written. -/
theorem Makes.writes {w' : Watched} {op : Query} {a : Answer op} {x : Transaction Record}
    (h : Makes t id bookingId reference op w a w') (hop : op.isPlain)
    (hx : w.server.active.lookup t = some x) :
    w'.server.db = w.server.db ∧ ∃ world, w'.server.active.lookup t =
      some { x with written := op.rows world (w.server.view t) ∪ x.written } := by
  obtain ⟨world, hexec⟩ := h.exec
  have hs := exec_plain hexec hop
  rw [Server.put_active hx] at hs
  exact ⟨by rw [hs], world, by rw [hs]; exact Finmap.lookup_insert _⟩

theorem Makes.begins {booking : Booking} {w' : Watched} {u : Unit}
    (h : Makes t id bookingId reference .begin w u w')
    (hw : Paid id (fun s => Outside t s ∧ BookingIs bookingId (· = booking) s) w) :
    Paid id (Opened t bookingId booking) w' := by
  obtain ⟨world, hexec⟩ := h.exec
  obtain ⟨_, hb, heq⟩ := Option.map_eq_some_iff.1 hexec
  obtain rfl : _ = w'.server := (Prod.mk.inj heq).2
  obtain ⟨-, hs⟩ := Server.begin_eq_some.1 hb
  obtain ⟨v, hv, hbooking⟩ := hw.2.2.2.2
  refine hw.step h trivial (by rw [hs]) ⟨⟨{}, ?_, rfl⟩, v, ?_, hbooking⟩
  · rw [hs]
    exact Finmap.lookup_insert _
  · rw [hs]
    exact hv

/-- A commit makes the booking CONFIRMED. -/
theorem Makes.revives {w' : Watched} {u : Unit} (h : Makes t id bookingId reference .commit w u w')
    (hw : Paid id (Revived t id bookingId) w) : Resolved t id bookingId w' := by
  obtain ⟨hl, ht, ⟨p, hp, hs⟩, x, hx, ⟨v, hv, hconfirmed⟩, hno⟩ := hw
  obtain ⟨world, hexec⟩ := h.exec
  obtain ⟨y, hy, hserver⟩ := Server.commit_eq_some.1 (commit_eq hexec)
  obtain rfl := Option.some.inj (hy.symm.trans hx)
  refine ⟨commit_active hexec, h.looked.2 (Or.inl hl),
    Or.inl ⟨h.finds.2 ⟨ht, trivial⟩, ⟨p, ?_, hs⟩, v, ?_, hconfirmed⟩⟩
  · rw [hserver, Database.payment, Storage.lookup_union, hno, Option.none_or]
    exact hp
  · rw [hserver, Database.booking, Storage.lookup_union, hv, Option.some_or]

theorem Revived.personal {w' : Watched} {op : Query} {a : Answer op} (hop : op.isPersonal)
    (hw : Paid id (Revived t id bookingId) w) (h : Makes t id bookingId reference op w a w') :
    Paid id (Revived t id bookingId) w' := by
  obtain ⟨hplain, -, htime⟩ := leavesStatus_plain (personal_leaves op hop) id bookingId w.server.db
  obtain ⟨x, hx, ⟨v, hv, hconfirmed⟩, hno⟩ := hw.2.2.2
  obtain ⟨hdb, world, hx'⟩ := h.writes hplain hx
  refine hw.step h htime (by rw [hdb]) ⟨_, hx', ⟨v, ?_, hconfirmed⟩, ?_⟩
  · have hrow : (op.rows world (w.server.view t)).lookup (.booking bookingId) = none := by
      refine Option.eq_none_iff_forall_not_mem.2 fun new hnew => ?_
      rcases booking_row hnew with ⟨booking, rfl, -⟩ | ⟨old, -, ⟨ids, source, target, rfl, -⟩ |
        ⟨c, rfl, -⟩⟩
      all_goals cases hop
    rw [Storage.lookup_union, hrow, Option.none_or, hv]
  · rw [Storage.lookup_union, leavesStatus_payment (personal_leaves op hop), Option.none_or, hno]

/-- The seats are free for a booking that is read in the transaction. -/
theorem Makes.free {booking : Booking} {w' : Watched} {op : Query} {a : Answer op}
    (h : Makes t id bookingId reference op w a w')
    (hb : BookingIs bookingId (· = booking) w.server) :
    ∃ workspace, w.server.db.workspace booking.workspaceId = some workspace ∧
      ((Storage.total w.server.db (seatsHeld booking.workspaceId booking.startDate booking.endDate
        (some bookingId)) : ℕ) : ℤ) + booking.seatCount ≤ workspace.totalSeats := by
  obtain ⟨v, hv, rfl⟩ := hb
  obtain ⟨booking, workspace, hbooking, hworkspace, hle⟩ := h.seats
  obtain rfl := Option.some.inj (hbooking.symm.trans hv)
  exact ⟨workspace, hworkspace, hle⟩

theorem changes_confirmed {booking : Booking} (h : booking.status = .expired) :
    ({ booking with status := .confirmed } : Booking).changes booking =
      { status := some .confirmed } := by
  have hstatus : differing .confirmed booking.status = some .confirmed := by rw [h]; rfl
  have hescrow : differing booking.sorobanEscrowId booking.sorobanEscrowId = none :=
    differing_eq_none.2 rfl
  simp only [Booking.changes, hstatus, hescrow]

/-- A query that writes nothing changes nothing that is paid. -/
theorem Paid.read {B : DbServer → Prop} {w' : Watched} {op : Query} {a : Answer op}
    (hw : Paid id B w) (h : Makes t id bookingId reference op w a w')
    (htime : op.finds id bookingId w.server.db) (hserver : w'.server = w.server) :
    Paid id B w' :=
  hw.step h htime (by rw [hserver]) (hserver ▸ hw.2.2.2)

/-- The transaction saves the booking as CONFIRMED. -/
theorem saveBooking_revives {booking : Booking} (hexpired : booking.status = .expired)
    (hw : Paid id (Opened t bookingId booking) w) :
    Ensures (capture t id bookingId reference)
      (fun r w => (∃ u, r = .ok u) ∧ Paid id (Revived t id bookingId) w)
      (saveBooking bookingId { booking with status := .confirmed }) w := by
  refine Ensures.query (stable_opened hexpired) hw fun w found w₁ hw ho => ?_
  obtain ⟨hfound, hserver⟩ := ho.found
  have h₁ := hw.read ho trivial hserver
  obtain ⟨-, -, -, hx, v, hv, rfl⟩ := hw
  rw [view_unwritten hx, hv] at hfound
  subst hfound
  dsimp only
  rw [changes_confirmed hexpired, if_pos (by decide)]
  refine Ensures.query (stable_opened hexpired) h₁ fun w n w₂ hw hsave => ?_
  have hopened := hw.2.2.2
  obtain ⟨⟨x, hx, hempty⟩, v', hv', rfl⟩ := hopened
  have hview : w.server.view t = w.server.db := view_unwritten ⟨x, hx, hempty⟩
  obtain ⟨hdb, world, hx'⟩ := hsave.writes rfl hx
  have hrevived : Revived t id bookingId w₂.server := by
    refine ⟨_, hx', ⟨{ v' with status := .confirmed }, ?_, rfl⟩, ?_⟩
    · rw [Storage.lookup_union, Query.rows, Storage.lookup_changes, hview,
        show w.server.db.lookup (.booking bookingId) = some v' from hv', Option.bind_some,
        bookingSave, if_pos rfl]
      rfl
    · rw [Storage.lookup_union, Query.rows, Storage.lookup_changes, hempty]
      cases (w.server.view t).lookup (.payment id) <;> rfl
  exact Ensures.stop (stable_paid stable_inside)
    (hw.step hsave trivial (by rw [hdb]) hrevived) fun _ h => ⟨⟨_, rfl⟩, h⟩

theorem booking_eq {s : DbServer} {booking : Booking} (h : BookingIs bookingId (· = booking) s) :
    s.db.booking bookingId = some booking := by
  obtain ⟨v, hv, rfl⟩ := h
  exact hv

theorem Paid.imp {B B' : DbServer → Prop} (hw : Paid id B w) (h : B w.server → B' w.server) :
    Paid id B' w := ⟨hw.1, hw.2.1, hw.2.2.1, h hw.2.2.2⟩

/-- The workspace is there, and gets locked. -/
theorem Makes.locks {booking : Booking} {found : Option Workspace} {w' : Watched}
    (h : Makes t id bookingId reference (.lockWorkspace booking.workspaceId) w found w')
    (hw : Paid id (Opened t bookingId booking) w) : ∃ workspace, found = some workspace ∧
      Paid id (fun s => Opened t bookingId booking s ∧
        Locked t booking.workspaceId workspace s) w' := by
  obtain ⟨⟨x, hx, hempty⟩, hb⟩ := hw.2.2.2
  obtain ⟨workspace, hworkspace, -⟩ := h.free hb
  obtain ⟨world, hexec⟩ := h.exec
  have hview : w.server.view t = w.server.db := view_unwritten ⟨x, hx, hempty⟩
  obtain ⟨rfl, hlock⟩ := lockWorkspace_some hexec (by rw [hview]; exact hworkspace)
  obtain ⟨-, y, hy, hserver⟩ := Server.lock_eq_some.1 hlock
  obtain rfl := Option.some.inj (hy.symm.trans hx)
  have hx' : w'.server.active.lookup t = some { y with
      locked := insert (.workspace booking.workspaceId) y.locked } := by
    rw [hserver]
    exact Finmap.lookup_insert _
  refine ⟨workspace, rfl, hw.step h trivial (by rw [hserver]) ⟨⟨⟨_, hx', hempty⟩, ?_⟩,
    ⟨_, hx', Finset.mem_insert_self _ _⟩, ?_⟩⟩
  · rw [hserver]
    exact hb
  · rw [hserver]
    exact hworkspace

/-- The locked workspace has the seats. -/
theorem Makes.counts {booking : Booking} {workspace : Workspace} {booked : ℕ} {w' : Watched}
    (h : Makes t id bookingId reference (.bookedSeats booking.workspaceId booking.startDate
      booking.endDate (some bookingId)) w booked w')
    (hw : Paid id (fun s => Opened t bookingId booking s ∧
      Locked t booking.workspaceId workspace s) w) :
    (booked : ℤ) + booking.seatCount ≤ workspace.totalSeats ∧ w'.server = w.server := by
  obtain ⟨⟨hx, hb⟩, -, hworkspace⟩ := hw.2.2.2
  obtain ⟨workspace', hworkspace', hle⟩ := h.free hb
  obtain rfl := Option.some.inj (hworkspace'.symm.trans hworkspace)
  obtain ⟨world, hexec⟩ := h.exec
  obtain ⟨rfl, hserver⟩ := Prod.mk.inj (Option.some.inj hexec)
  rw [view_unwritten hx]
  exact ⟨hle, hserver.symm⟩

/-- **An EXPIRED booking is reactivated: it stays EXPIRED until the transaction has it, and its
    seats are free.** -/
theorem reactivateExpired_resolves {booking : Booking} (hexpired : booking.status = .expired)
    (hw : Paid id (fun s => Outside t s ∧ BookingIs bookingId (· = booking) s) w) :
    Ensures (capture t id bookingId reference) (fun _ => Resolved t id bookingId)
      (reactivateExpired bookingId) w := by
  refine Ensures.transaction (M := fun r w => (∃ b, r = .ok b) ∧ Paid id (Revived t id bookingId) w)
    (stable_paid (stable_outside.and (stable_booking_eq hexpired))) hw (fun w u w₁ hw ho => ?_)
    (fun b w hw => ?_) fun e w hw => nomatch hw.1.choose_spec
  · refine Ensures.query (stable_opened hexpired) (ho.begins hw) fun w found w₂ hw ho => ?_
    obtain ⟨hfound, hserver⟩ := ho.found
    have h₂ := hw.read ho trivial hserver
    rw [view_unwritten hw.2.2.2.1, booking_eq hw.2.2.2.2] at hfound
    subst hfound
    refine Ensures.ite (fun hne => absurd hexpired hne) fun _ => ?_
    refine Ensures.query (stable_opened hexpired) h₂ fun w found w₃ hw ho => ?_
    obtain ⟨workspace, rfl, h₃⟩ := ho.locks hw
    refine Ensures.query (stable_paid ((stable_inside.and (stable_booking_eq hexpired)).and
      stable_locked)) h₃ fun w booked w₄ hw ho => ?_
    obtain ⟨hle, hserver⟩ := ho.counts hw
    refine Ensures.ite (fun hgt => absurd hgt (not_lt.2 hle)) fun _ => ?_
    have h₄ := hw.read ho trivial hserver
    refine (saveBooking_revives hexpired (h₄.imp And.left)).seq (fun u w hw => ?_)
      fun e w hw => nomatch hw.1.choose_spec
    refine (activateMembership_ensures _ (stable_paid stable_inside)
      (fun _ _ _ _ hop hw ho => Revived.personal hop hw ho) hw.2).seq (fun u w hw => ?_)
      fun e w hw => nomatch hw.1.choose_spec
    exact Ensures.stop (stable_paid stable_inside) hw.2 fun _ h => ⟨⟨_, rfl⟩, h⟩
  · exact Ensures.query (stable_paid stable_inside) hw.2 fun w u w' hw ho =>
      Ensures.stop stable_resolved (ho.revives hw) fun _ h => h

/-! ### The whole delivery -/

theorem resolveBooking_resolves (hb : payment.bookingId = bookingId)
    (hw : Paid id (fun s => Outside t s ∧ BookingIs bookingId (fun v => v.status.awaits) s) w) :
    Ensures (capture t id bookingId reference) (fun _ => Resolved t id bookingId)
      (resolveBookingForSuccessfulPayment payment) w := by
  subst hb
  have hend {b : Option Booking} {w : Watched} (h : Resolved t id payment.bookingId w) :
      Ensures (capture t id payment.bookingId reference) (fun _ => Resolved t id payment.bookingId)
        (.done (.ok b) : Proc (Option Booking)) w := Ensures.stop stable_resolved h fun _ h => h
  refine Ensures.query (stable_paid (stable_outside.and stable_awaits)) hw fun w found w' hw ho => ?_
  obtain ⟨hfound, hserver⟩ := ho.found
  have h₁ := hw.read ho trivial hserver
  obtain ⟨hx, v, hv, -⟩ := hw.2.2.2
  rw [DbServer.view, Server.view_none hx, hv] at hfound
  subst hfound
  refine Ensures.ite (fun hexpired => ?_) fun hne => ?_
  · have h₂ : Paid id (fun s => Outside t s ∧ BookingIs payment.bookingId (· = v) s) w' :=
      h₁.imp fun h => ⟨h.1, v, by rw [hserver]; exact hv, rfl⟩
    refine (reactivateExpired_resolves hexpired h₂).attempt fun r w hw => ?_
    cases r <;> exact hend hw
  · refine (confirmBooking_resolves h₁).attempt fun r w hw => ?_
    cases r <;> exact hend hw

theorem settleBooking_leaves (paymentId : Uuid) (booking : Option Booking) :
    (settleBooking paymentId payment booking).Only Query.leavesStatus := by
  cases booking with
  | none => trivial
  | some booking =>
    refine Process.Only.ite ((Process.Only.query rfl).bind fun txHash => ?_)
      (Process.Only.query rfl)
    cases txHash with
    | none => exact Process.Only.query rfl
    | some txHash => exact (Process.Only.query rfl).bind fun _ => Process.Only.query rfl

/-- The delivery has looked the payment up, which is to be marked. -/
def Looked (t : ℕ) (id bookingId : Uuid) (w : Watched) : Prop :=
  w.looked ∧ w.finds ∧ Outside t w.server ∧
    PaymentIs id (Payment.Awaited bookingId) w.server ∧
    BookingIs bookingId (fun v => v.status.awaits) w.server

theorem stable_awaited : (capture t id bookingId reference).Stable fun w =>
    PaymentIs id (Payment.Awaited bookingId) w.server :=
  stable_payment fun _ hv _ => ⟨hv.booking, Or.inr rfl⟩

theorem stable_looked_up :
    (capture t id bookingId reference).Stable (Looked t id bookingId) :=
  stable_looked.and (stable_finds.and (stable_outside.and (stable_awaited.and stable_awaits)))

/-- The update marks the payment if it is PENDING still; else a sweep has failed it. -/
theorem Makes.marks {n : ℕ} {w' : Watched}
    (h : Makes t id bookingId reference (.updatePayments (.byId id) .pending .success) w n w')
    (hw : Looked t id bookingId w) :
    (n = 0 ∧ Resolved t id bookingId w') ∨ (n ≠ 0 ∧ Paid id (fun s => Outside t s ∧
      BookingIs bookingId (fun v => v.status.awaits) s) w') := by
  obtain ⟨hl, hin, hx, ⟨v, hv, hawaited⟩, b, hb, hstatus⟩ := hw
  obtain ⟨hx', world, hexec, hrows⟩ := h.commits rfl hx
  have hn : n ≠ 0 ↔ ∃ v, w.server.db.payment id = some v ∧ v.status = .pending := by
    have haffected := updatePayments_affected hexec
    rwa [DbServer.view, Server.view_none hx] at haffected
  have hpayment : w'.server.db.payment id =
      ((paymentUpdate (.byId id) .pending .success (.payment id) v).or (some v)) := by
    rw [Database.payment, hrows, Query.rows, Storage.lookup_changes,
      show w.server.db.lookup (.payment id) = some v from hv, Option.bind_some]
  rcases hawaited.status with hpending | hfailed
  · refine Or.inr ⟨hn.2 ⟨v, hv, hpending⟩, h.looked.2 (Or.inl hl),
      h.finds.2 ⟨hin, v, hv, hpending⟩, ⟨{ v with status := .success }, ?_, rfl⟩, hx', b, ?_,
      hstatus⟩
    · rw [hpayment, paymentUpdate, if_pos ⟨decide_eq_true rfl, hpending⟩, Option.some_or]
    · rw [Database.booking, hrows, Query.rows, Storage.lookup_changes,
        show w.server.db.lookup (.booking bookingId) = some b from hb]
      rfl
  · have hno : ¬ ∃ v, w.server.db.payment id = some v ∧ v.status = .pending := by
      rintro ⟨v', hv', hpending⟩
      obtain rfl := Option.some.inj (hv'.symm.trans hv)
      cases hpending.symm.trans hfailed
    refine Or.inl ⟨not_not.1 (hn.not.2 hno), hx', h.looked.2 (Or.inl hl),
      Or.inr ⟨fun hin' => hno (h.finds.1 hin').2, Or.inl ⟨v, ?_, ?_⟩⟩⟩
    swap
    · exact hawaited.unmarked
    rw [hpayment, paymentUpdate, if_neg fun h => hno ⟨v, hv, h.2⟩, Option.none_or]

/-- **The delivery finds the payment, marks it if it is PENDING still, and resolves the
    booking.** -/
theorem handleChargeSuccess_resolves (hin : w.finds) (hx : Outside t w.server)
    (hp : PaymentIs id (Payment.Awaited bookingId) w.server)
    (hb : BookingIs bookingId (fun v => v.status.awaits) w.server) :
    Ensures (capture t id bookingId reference) (fun _ => Resolved t id bookingId)
      (handleChargeSuccess reference) w := by
  refine Ensures.query (stable_finds.and (stable_outside.and (stable_awaited.and stable_awaits)))
    ⟨hin, hx, hp, hb⟩ fun w found w₁ hw ho => ?_
  obtain ⟨hin, hx, hp, hb⟩ := hw
  obtain ⟨world, hexec⟩ := ho.exec
  have hview : w.server.view t = w.server.db := Server.view_none hx
  have hserver := ho.reads rfl fun _ _ => rfl
  obtain ⟨v, hv, hawaited⟩ := hp
  cases found with
  | none =>
    have hno : ¬ w₁.finds := fun h => by
      obtain ⟨-, v', hv', href⟩ := ho.finds.1 h
      exact findPayment_none hexec (by rw [hview]; exact hv') (decide_eq_true href)
    have h₁ : Resolved t id bookingId w₁ := by
      refine ⟨hserver ▸ hx, ho.looked.2 (Or.inr rfl), Or.inr ⟨hno, Or.inl ?_⟩⟩
      rw [hserver]
      exact ⟨v, hv, hawaited.unmarked⟩
    exact Ensures.stop stable_resolved h₁ fun _ h => h
  | some found =>
    obtain ⟨id', v'⟩ := found
    obtain ⟨hfound, hselects⟩ := findPayment_some hexec
    rw [hview] at hfound
    have href := of_decide_eq_true hselects
    obtain rfl := ho.unique id' v' hfound href
    obtain rfl := Option.some.inj (hfound.symm.trans hv)
    have h₁ : Looked t id' bookingId w₁ := by
      refine ⟨ho.looked.2 (Or.inr rfl), ho.finds.2 ⟨hin, v', hfound, href⟩, ?_⟩
      rw [hserver]
      exact ⟨hx, ⟨v', hv, hawaited⟩, hb⟩
    refine Ensures.query stable_looked_up h₁ fun w n w₂ hw ho => ?_
    rcases ho.marks hw with ⟨hn, h₂⟩ | ⟨hn, h₂⟩
    · refine Ensures.ite (fun _ => ?_) fun hne => absurd hn hne
      exact resolved_only ((Process.Only.query rfl).bind fun _ => trivial) h₂
    · refine Ensures.ite (fun h => absurd h hn) fun _ => ?_
      refine (resolveBooking_resolves hawaited.booking h₂).seq (fun booking w hw => ?_)
        fun _ _ hw => hw
      refine resolved_only ((settleBooking_leaves _ _).bind fun _ => ?_) hw
      exact notifyPayer_only rfl (fun _ => rfl) _

/-- The delivery has not looked the payment up yet. -/
def Ready (t : ℕ) (id bookingId : Uuid) (w : Watched) : Prop :=
  ¬ w.looked ∧ w.finds ∧ Outside t w.server ∧
    PaymentIs id (Payment.Awaited bookingId) w.server ∧
    BookingIs bookingId (fun v => v.status.awaits) w.server

theorem stable_ready : (capture t id bookingId reference).Stable (Ready t id bookingId) :=
  stable_not_looked.and (stable_finds.and (stable_outside.and (stable_awaited.and stable_awaits)))

theorem Ready.personal {w' : Watched} {op : Query} {a : Answer op} (hop : op.isPersonal)
    (hw : Ready t id bookingId w) (h : Makes t id bookingId reference op w a w') :
    Ready t id bookingId w' := by
  obtain ⟨hl, hin, hx, hp, hb⟩ := hw
  obtain ⟨hx', hlooked, hfinds, hpayment, hbooking⟩ := h.leaves (personal_leaves op hop) hx
  exact ⟨hl ∘ hlooked.1, hfinds.2 hin, hx', hpayment _ hp, hbooking _ hb⟩

theorem stable_once_looked : (capture t id bookingId reference).Stable fun w =>
    w.looked → Resolved t id bookingId w :=
  fun _ _ hs hw hl => stable_resolved _ _ hs (hw (hs.looked.1 hl))

/-- If the delivery gets to look the payment up, what follows is resolved. -/
theorem handleWebhook_resolves {cfg : Config} {d : Delivery}
    (hbody : cfg.parseBody d.rawBody = .event "charge.success" (some reference))
    (hw : Ready t id bookingId w) :
    Ensures (capture t id bookingId reference) (fun _ w => w.looked → Resolved t id bookingId w)
      (handleWebhook cfg d) w := by
  have hstop {r : Except HttpError Unit} {w : Watched} (hw : Ready t id bookingId w) :
      Ensures (capture t id bookingId reference) (fun _ w => w.looked → Resolved t id bookingId w)
        (.done r : Proc Unit) w :=
    Ensures.stop stable_not_looked hw.1 fun _ hno hl => absurd hl hno
  refine Ensures.failIf (fun _ => hstop hw) fun _ => ?_
  refine (Ensures.only (checkWebhookAge_only cfg d.requestTime) stable_ready
    (fun _ _ _ _ hop hw ho => Ready.personal hop hw ho) hw).seq (fun _ w hw => ?_)
    fun _ _ hw hl => absurd hl hw.1
  rw [hbody]
  dsimp only
  split
  · exact hstop hw
  · next given hgiven =>
    cases (Option.filter_eq_some_iff.1 hgiven).1
    rw [if_pos rfl]
    obtain ⟨-, hin, hx, hp, hb⟩ := hw
    exact (handleChargeSuccess_resolves hin hx hp hb).mono fun _ _ h _ => h

end

end Backend
