/-
  The state machine of bookings.

  Confirmation and the sweep update the status conditionally.  Cancellation, completion and
  reactivation read the status, and save another one later: they follow the state machine where the
  booking still has a status that the operation accepts.
-/
import NovaLabs.Backend.PaymentProtocol

namespace Backend

open Lib

/-- The changes of a booking's status. -/
inductive BookingStatus.Next : BookingStatus → BookingStatus → Prop
  | confirmed : Next .pending .confirmed
  | cancelled : Next .pending .cancelled
  | expired : Next .pending .expired
  | withdrawn : Next .confirmed .cancelled
  | completed : Next .confirmed .completed
  | reactivated : Next .expired .confirmed

/-- CANCELLED and COMPLETED are final. -/
def BookingStatus.isFinal : BookingStatus → Bool
  | .cancelled | .completed => true
  | _ => false

theorem BookingStatus.Next.not_final {status target : BookingStatus} (h : status.Next target) :
    status.isFinal = false := by
  cases h <;> rfl

/-- The stored status stays, or makes one step of the state machine. -/
def FollowsBookings (e : Ev) : Prop :=
  ∀ id v, e.pre.shared.db.booking id = some v →
    ∃ v', e.post.shared.db.booking id = some v' ∧
      (v'.status = v.status ∨ v.status.Next v'.status) ∧
      (v.status.isFinal → v'.status = v.status)

/-- The operation that saves the status accepts bookings with the other one: cancellation, completion
    and reactivation. -/
def BookingStatus.savedOver : BookingStatus → BookingStatus → Bool
  | .cancelled, status => status = .pending ∨ status = .confirmed
  | .completed, status => status = .confirmed
  | .confirmed, status => status = .expired
  | _, _ => false

/-- A save of a status finds the status that it writes, or one that its operation accepts. -/
def Query.savesAccepted (db : Database) : Query → Bool
  | .updateBooking id c => c.status.all fun target =>
      (db.booking id).all fun booking => booking.status = target ∨ target.savedOver booking.status
  | _ => true

abbrev SavesAccepted (e : Ev) : Prop :=
  OnQuery (fun _ _ op => op.savesAccepted e.pre.shared.db) e

/-- A transaction has taken the bookings that it has written one step at most. -/
def OneBookingStep (s : DbServer) : Prop :=
  ∀ t x id v v', s.active.lookup t = some x → s.db.booking id = some v →
    x.written.lookup (.booking id) = some v' → v'.status = v.status ∨ v.status.Next v'.status

/-- A transaction has written no bookings. -/
def Unwritten (s : DbServer) (t : ℕ) : Prop :=
  ∀ x id, s.active.lookup t = some x → x.written.lookup (.booking id) = none

section
variable {s s' : DbServer} {t : ℕ} {w : World} {op : Query} {a : Answer op} {q : PaymentStage}
  {qs : ℕ → Option PaymentStage} {id : Uuid} {v v' : Booking}

theorem BookingStatus.savedOver.next {target status : BookingStatus}
    (h : target.savedOver status) : status.Next target := by
  cases target <;> cases status <;> first | constructor | cases h

/-- How far a query takes the stored bookings. -/
theorem booking_row_step (hexec : exec t w s op = some (a, s')) (hp : q.permits op)
    (hsave : op.savesAccepted s.db) (hold : s.db.booking id = some v)
    (hview : (s.view t).booking id = some v)
    (h : (op.rows w (s.view t)).lookup (.booking id) = some v') :
    v'.status = v.status ∨ v.status.Next v'.status := by
  rcases booking_row h with ⟨booking, rfl, rfl, -⟩ | ⟨old, hold', hnew⟩
  · exact absurd (Finmap.mem_of_lookup_eq_some hview) (insertBooking_fresh hexec).1
  obtain rfl : v = old := Option.some.inj (hview.symm.trans hold')
  rcases hnew with ⟨ids, source, target, rfl, -, rfl, rfl⟩ | ⟨c, rfl, rfl⟩
  · obtain ⟨hsource, ⟨-, rfl⟩ | ⟨-, rfl⟩⟩ := hp.2.2
    · exact Or.inr (hsource ▸ .confirmed)
    · exact Or.inr (hsource ▸ .expired)
  · rw [Query.savesAccepted, hold] at hsave
    rw [Booking.set]
    cases hc : c.status with
    | none => exact Or.inl rfl
    | some target =>
      rw [hc, Option.all_some, Option.all_some, decide_eq_true_eq] at hsave
      exact hsave.imp Eq.symm BookingStatus.savedOver.next

/-- A transaction writes bookings when it has written none. -/
theorem booking_row_tx (hp : q.permits op) (htx : q.tx ≠ .outside)
    (h : (op.rows w (s.view t)).lookup (.booking id) = some v') :
    q.tx = .opened ∧ ∀ a, q.tx.after op a ≠ .opened := by
  rcases booking_row h with ⟨booking, rfl, -⟩ | ⟨old, -, hnew⟩
  · exact ⟨hp.2.2.1, fun a => TxStage.noConfusion⟩
  rcases hnew with ⟨ids, source, target, rfl, -⟩ | ⟨c, rfl, -⟩
  · have hopened : q.tx = .opened := by
      obtain ⟨-, ⟨hout, -⟩ | ⟨hopened, -⟩⟩ := hp.2.2
      · exact absurd hout htx
      · exact hopened
    rw [hopened]
    exact ⟨rfl, fun a => TxStage.noConfusion⟩
  · have hopened : q.tx = .opened := hp.2.2.1.resolve_left htx
    rw [hopened]
    exact ⟨rfl, fun a => TxStage.noConfusion⟩

/-- The bookings that an unfinished transaction has not written are seen as they are stored. -/
theorem Unwritten.view (h : Unwritten s t) (id : Uuid) :
    (s.view t).booking id = s.db.booking id := by
  cases hx : s.active.lookup t with
  | none => rw [DbServer.view, Server.view_none hx]
  | some x => rw [Database.booking, Server.lookup_view hx, h x id hx, Option.none_or]; rfl

/-- Sessions see the stored bookings when they come to write one. -/
theorem view_when_written (haligned : Aligned s qs) (hq : qs t = some q) (hp : q.permits op)
    (hopened : q.tx = .opened → Unwritten s t)
    (h : (op.rows w (s.view t)).lookup (.booking id) = some v') :
    (s.view t).booking id = s.db.booking id := by
  by_cases htx : q.tx = .outside
  · rw [DbServer.view, Server.view_none (haligned.outside hq htx)]
  · exact (hopened (booking_row_tx hp htx h).1).view id

/-- The committed bookings take one step at most. -/
theorem stored_booking_step (hone : OneBookingStep s) (hexec : exec t w s op = some (a, s'))
    (hp : q.permits op) (hsave : op.savesAccepted s.db) (hv : s.db.booking id = some v) :
    ∃ v', s'.db.booking id = some v' ∧ (v'.status = v.status ∨ v.status.Next v'.status) := by
  rcases stored_cases hexec (.booking id) with hsame | ⟨x, v', hx, hw, hv'⟩ | ⟨v', hx, hw, hv'⟩
  · exact ⟨v, hsame.trans hv, Or.inl rfl⟩
  · exact ⟨v', hv', hone t x id v v' hx hv hw⟩
  · have hview : (s.view t).booking id = some v := by rwa [DbServer.view, Server.view_none hx]
    exact ⟨v', hv', booking_row_step hexec hp hsave hv hview hw⟩

theorem OneBookingStep.step (hone : OneBookingStep s) (hsound : s.Sound Discipline.free)
    (haligned : Aligned s qs) (hexec : exec t w s op = some (a, s')) (hq : qs t = some q)
    (hp : q.permits op) (hopened : q.tx = .opened → Unwritten s t)
    (hsave : op.savesAccepted s.db) : OneBookingStep s' := by
  intro t' x id v v' hx hv hw
  by_cases ht : t' = t
  · subst ht
    rcases exec_written hexec hx with ⟨-, hempty⟩ | ⟨x₀, hx₀, hstored, hwritten⟩
    · rw [hempty] at hw
      cases hw
    rw [DbServer.db, hstored] at hv
    rw [hwritten] at hw
    cases hrow : (op.rows w (s.view t')).lookup (.booking id) with
    | none =>
      rw [hrow, Option.none_or] at hw
      exact hone t' x₀ id v v' hx₀ hv hw
    | some new =>
      rw [hrow, Option.some_or, Option.some.injEq] at hw
      subst hw
      have hview := (view_when_written haligned hq hp hopened hrow).trans hv
      exact booking_row_step hexec hp hsave hv hview hrow
  · have hchange := exec_free hexec
    rw [hchange.active ht] at hx
    have hkept := hchange.kept hsound ht hx (Or.inl (Finmap.mem_of_lookup_eq_some hw))
    exact hone t' x id v v' hx (hkept.symm.trans hv) hw

theorem TxStage.opened_of_after {tx : TxStage} (hop : op ≠ .begin)
    (h : tx.after op a = .opened) : tx = .opened := by
  cases op with
  | begin => exact absurd rfl hop
  | commit | rollback => cases h
  | insertBooking booking =>
    obtain ⟨id, saved⟩ := a
    cases h
  | updateBookings | updateBooking | updatePayments =>
    cases tx with
    | opened => rfl
    | outside | booked | resaved | expired | released => cases h
  | now | lockWorkspace | bookedSeats | findWorkspace | updateWorkspace | findBooking
  | findBookings | findPayment | insertPayment | updatePayment | findUser | updateUser
  | initializeTransaction | initiateRefund | createEscrow | start => exact h

/-- After its begin, a transaction writes no booking until it leaves the stage. -/
theorem Unwritten.step (h : q.tx = .opened → Unwritten s t)
    (haligned : Aligned s qs) (hq : qs t = some q) (hexec : exec t w s op = some (a, s'))
    (hp : q.permits op) (hafter : q.tx.after op a = .opened) : Unwritten s' t := by
  intro x id hx
  rcases exec_written hexec hx with ⟨-, hempty⟩ | ⟨x₀, hx₀, -, hwritten⟩
  · rw [hempty]
    rfl
  have htx : q.tx ≠ .outside := fun htx => by cases (haligned.outside hq htx).symm.trans hx₀
  have hrow : (op.rows w (s.view t)).lookup (.booking id) = none := by
    by_contra hne
    obtain ⟨new, hnew⟩ := Option.ne_none_iff_exists'.1 hne
    exact (booking_row_tx hp htx hnew).2 a hafter
  rw [hwritten, hrow, Option.none_or]
  refine h (TxStage.opened_of_after ?_ hafter) x₀ id hx₀
  rintro rfl
  exact htx hp.2.2.1

/-- The history follows the state machine, and so do the open transactions. -/
structure BookingsSafe (tr : List Ev) (s : DbServer) (qs : ℕ → Option PaymentStage) : Prop where
  follows : ∀ e ∈ tr, FollowsBookings e
  sound : s.Sound Discipline.free
  aligned : Aligned s qs
  written : OneBookingStep s
  opened : ∀ t q, qs t = some q → q.tx = .opened → Unwritten s t

theorem BookingsSafe.call {tr : List Ev} {e : Ev} (h : BookingsSafe tr e.pre.shared qs)
    (ht : qs t = none) (hshared : e.post.shared = e.pre.shared) :
    BookingsSafe (tr ++ [e]) e.post.shared (Function.update qs t (some .start)) where
  follows := by
    refine List.forall_mem_append.2 ⟨h.follows, List.forall_mem_singleton.2 fun id v hv => ?_⟩
    exact ⟨v, hshared.symm ▸ hv, Or.inl rfl, fun _ => rfl⟩
  sound := hshared.symm ▸ h.sound
  aligned := hshared.symm ▸ h.aligned.call ht
  written := hshared.symm ▸ h.written
  opened t' q hq hopened := by
    rcases update_stage hq with ⟨-, rfl⟩ | ⟨-, hq⟩
    · cases hopened
    · exact hshared.symm ▸ h.opened t' q hq hopened

theorem BookingsSafe.step {tr : List Ev} {e : Ev} (h : BookingsSafe tr e.pre.shared qs)
    (hexec : exec t w e.pre.shared op = some (a, e.post.shared)) (hq : qs t = some q)
    (hp : q.permits op) (hsave : op.savesAccepted e.pre.shared.db) :
    BookingsSafe (tr ++ [e]) e.post.shared (Function.update qs t (some (q.after op a))) where
  follows := by
    refine List.forall_mem_append.2 ⟨h.follows, List.forall_mem_singleton.2 fun id v hv => ?_⟩
    obtain ⟨v', hv', hstep⟩ := stored_booking_step h.written hexec hp hsave hv
    refine ⟨v', hv', hstep, fun hfinal => hstep.resolve_right fun hnext => ?_⟩
    cases hfinal.symm.trans hnext.not_final
  sound := (exec_free hexec).sound h.sound
  aligned := h.aligned.step hexec hq
  written := h.written.step h.sound h.aligned hexec hq hp (h.opened t q hq) hsave
  opened t' q' hq' hopened := by
    rcases update_stage hq' with ⟨rfl, rfl⟩ | ⟨ht, hq'⟩
    · exact Unwritten.step (h.opened t' q hq) h.aligned hq hexec hp hopened
    · intro x id hx
      rw [(exec_free hexec).active ht] at hx
      exact h.opened t' q' hq' hopened x id hx

theorem bookingsSafe_idle (db : Database) : BookingsSafe [] (idle db).shared fun _ => none where
  follows _ he := absurd he List.not_mem_nil
  sound := Server.sound_idle db
  aligned := aligned_idle db
  written _ _ _ _ _ hx := by cases hx
  opened _ _ hq := by cases hq

end

/-- **Where saves find a status that their operation accepts, every booking follows its state
    machine**, and CANCELLED and COMPLETED are final. -/
theorem booking_states {cfg : Config} {db : Database} {tr : List Ev} {p : Sessions}
    (h : Run (backend cfg).Steps (idle db) tr p) (hsaves : ∀ e ∈ tr, SavesAccepted e) :
    ∀ e ∈ tr, FollowsBookings e := by
  have hC : Along (fun _ e => SavesAccepted e) tr := along_iff_forall.2 hsaves
  obtain ⟨qs, -, hJ⟩ := System.invariant (J := BookingsSafe) (program_payments cfg)
    (fun tr e t r qs _ hqs hshared _ hJ => hJ.call hqs hshared)
    (fun tr e qs t w q op a hans hsaves hJ => hJ.step hans.exec hans.stage hans.permits
      (hsaves t w op hans.inp hans.asks))
    h .idle (bookingsSafe_idle db) hC
  exact hJ.follows

/-- A booking is confirmed, and then completed. -/
theorem booking_states_completed : ∃ tr p,
    Run (backend plainConfig).Steps (idle payable) tr p ∧
      (p.shared.db.booking "b").any (·.status = .completed) ∧ ∀ e ∈ tr, FollowsBookings e := by
  have hplay : ((backend plainConfig).play (idle payable)
      [.call 0 (.confirmBooking "b"), .step 0 {}, .step 0 {}, .call 1 (.completeBooking "b"),
        .step 1 {}, .step 1 {}, .step 1 {}]).any fun x =>
      (∀ e ∈ x.1, SavesAccepted e) ∧ (x.2.shared.db.booking "b").any (·.status = .completed) := by
    decide
  obtain ⟨⟨tr, p⟩, hplay, hfacts⟩ := (Option.any_eq_true _ _).1 hplay
  obtain ⟨hsaves, hcompleted⟩ := of_decide_eq_true hfacts
  exact ⟨tr, p, System.run_play hplay, hcompleted, booking_states (System.run_play hplay) hsaves⟩

/-- A cancellation reads CONFIRMED, the booking is completed, and the cancellation is saved. -/
theorem completed_booking_cancelled : ¬ ∀ tr p,
    Run (backend plainConfig).Steps (idle payable) tr p → ∀ e ∈ tr, FollowsBookings e := by
  intro hclaim
  have hplay : ((backend plainConfig).play (idle payable)
      [.call 0 (.confirmBooking "b"), .step 0 {}, .step 0 {},
        .call 1 (.cancelBooking "b" "u" .user), .step 1 {}, .call 2 (.completeBooking "b"),
        .step 2 {}, .step 2 {}, .step 2 {}, .step 1 {}, .step 1 {}]).any
      fun x => ∃ e ∈ x.1, (e.pre.shared.db.booking "b").any (·.status = .completed) ∧
        (e.post.shared.db.booking "b").any (·.status = .cancelled) := by decide
  obtain ⟨⟨tr, p⟩, hplay, hfacts⟩ := (Option.any_eq_true _ _).1 hplay
  obtain ⟨e, he, hcompleted, hcancelled⟩ := of_decide_eq_true hfacts
  obtain ⟨v, hv, hcompleted⟩ := (Option.any_eq_true _ _).1 hcompleted
  obtain ⟨v', hv', -, hfinal⟩ := hclaim tr p (System.run_play hplay) e he "b" v hv
  rw [hv', Option.any_some, decide_eq_true_eq] at hcancelled
  rw [of_decide_eq_true hcompleted, hcancelled] at hfinal
  cases hfinal rfl

end Backend
