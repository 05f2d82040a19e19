/-
  The expiry sweep, among the operations that open and settle payments.

  It reads which bookings are stale, expires those that are PENDING still, and fails the PENDING
  payments of all of them.  Another operation may have confirmed a booking since the read, and may
  open a payment, or save a failed one as PENDING, after the sweep has released the others.
-/
import NovaLabs.Backend.SweepTransactions

namespace Backend

open Lib

/-! ## The law -/

/-- A transaction that makes a payment FAILED expires its booking. -/
def ReleasesExpired (e : Ev) : Prop :=
  OnQuery (fun _ _ op => op = .commit → ∀ id old new, e.pre.shared.db.payment id = some old →
    old.status ≠ .failed → e.post.shared.db.payment id = some new → new.status = .failed →
      Expires e.pre.shared.db e.post.shared.db new.bookingId) e

/-- All but the UPDATE of payments and the ends of a transaction. -/
def Query.keepsListed : Query → Bool
  | .updatePayments _ _ _ | .commit | .rollback => false
  | _ => true

/-- The UPDATE of bookings of the sweep in session `t` has listed the booking, and the one of
    payments is still to come. -/
def Listed (tr : List Ev) (t : ℕ) (bookingId : Uuid) : Prop :=
  Since (fun e => ∃ w ids, e.inp = .step t w ∧ bookingId ∈ ids ∧
      e.pre.Asks t (.updateBookings ids .pending .expired))
    (OnQuery fun t' _ op => t' = t → op.keepsListed) tr

/-- The sessions that see the booking as EXPIRED are the sweeps that have yet to release its
    payments. -/
def SweptLater (tr : List Ev) (p : Sessions) (bookingId : Uuid) : Prop :=
  ∀ t, ((p.shared.view t).booking bookingId).map (·.status) = some .expired ↔ Listed tr t bookingId

/-- A payment becomes PENDING while its booking is not expired, or is by a sweep that will release
    the payment; and a booking that a sweep lists is still PENDING, or has no PENDING payment. -/
def Query.sweepsApart (tr : List Ev) (p : Sessions) (t : ℕ) : Query → Prop
  | .insertPayment payment => SweptLater tr p payment.bookingId
  | .updatePayment id c => c.status = some .pending →
      ∀ payment ∈ (p.shared.view t).payment id, SweptLater tr p payment.bookingId
  | .updateBookings ids _ .expired => SweepsPending (p.shared.view t) ids
  | _ => True

abbrev SweepsApart (tr : List Ev) (e : Ev) : Prop :=
  OnQuery (fun t _ op => op.sweepsApart tr e.pre t) e

/-! ## The lists of the sweeps -/

section
variable {e : Ev} {tr : List Ev} {t t' : ℕ} {w : World} {op : Query} {a : Answer op}
  {q : PaymentStage} {qs : ℕ → Option PaymentStage} {bookingId : Uuid}

/-- The bookings that a session is expiring, if it has a program. -/
def expiringIn (qs : ℕ → Option PaymentStage) (t : ℕ) : List Uuid :=
  (qs t).elim [] fun q => q.tx.expiring

theorem expiringIn_some (hq : qs t = some q) : expiringIn qs t = q.tx.expiring := by
  rw [expiringIn, hq, Option.elim_some]

theorem expiringIn_update_of_ne (ht : t' ≠ t) (o : Option PaymentStage) :
    expiringIn (Function.update qs t o) t' = expiringIn qs t' := by
  rw [expiringIn, Function.update_of_ne ht]
  rfl

theorem expiringIn_update_self (q : PaymentStage) :
    expiringIn (Function.update qs t (some q)) t = q.tx.expiring := by
  rw [expiringIn, Function.update_self, Option.elim_some]

/-- Other sessions' turns, and the start of its own, leave the list of a session as it is. -/
theorem listed_other (he : ∀ w, e.inp ≠ .step t w) :
    Listed (tr ++ [e]) t bookingId ↔ Listed tr t bookingId := by
  rw [Listed, since_snoc]
  constructor
  · rintro (⟨w, -, hinp, -⟩ | ⟨h, -⟩)
    · exact absurd hinp (he w)
    · exact h
  · intro h
    refine Or.inr ⟨h, fun t' w op hinp _ ht => ?_⟩
    exact absurd (ht ▸ hinp) (he w)

theorem listed_own (hinp : e.inp = .step t w) (hasks : e.pre.Asks t op) :
    Listed (tr ++ [e]) t bookingId ↔
      (∃ ids, bookingId ∈ ids ∧ op = .updateBookings ids .pending .expired) ∨
        (Listed tr t bookingId ∧ op.keepsListed) := by
  have honly {op' : Query} (h : e.pre.Asks t op') : op' = op := Pool.Asks.unique h hasks
  rw [Listed, since_snoc]
  refine or_congr ⟨?_, ?_⟩ (and_congr_right fun _ => ⟨?_, ?_⟩)
  · rintro ⟨w', ids, -, hid, hasks'⟩
    exact ⟨ids, hid, (honly hasks').symm⟩
  · rintro ⟨ids, hid, rfl⟩
    exact ⟨w, ids, hinp, hid, hasks⟩
  · intro h
    exact h t w op hinp hasks rfl
  · intro h t' w' op' hinp' hasks' ht
    subst ht
    exact honly hasks' ▸ h

/-- The list that a session has after a query. -/
theorem mem_expiring_after (hp : q.permits op) : bookingId ∈ (q.tx.after op a).expiring ↔
    (∃ ids, bookingId ∈ ids ∧ op = .updateBookings ids .pending .expired) ∨
      (bookingId ∈ q.tx.expiring ∧ op.keepsListed) := by
  obtain ⟨tx, save⟩ := q
  cases op with
  | begin =>
    obtain rfl : tx = .outside := hp.2.2.1
    simp [TxStage.after, TxStage.expiring]
  | commit | rollback => simp [TxStage.after, TxStage.expiring, Query.keepsListed]
  | insertBooking booking =>
    obtain rfl : tx = .opened := hp.2.2.1
    obtain ⟨id, saved⟩ := a
    simp [TxStage.after, TxStage.expiring]
  | updateBookings ids source target =>
    obtain ⟨rfl, ⟨rfl, rfl⟩ | ⟨rfl, rfl⟩⟩ := hp.2.2
    · simp [TxStage.after, TxStage.expiring]
    · simp [TxStage.after, TxStage.expiring]
  | updateBooking id c =>
    obtain ⟨rfl | rfl, -⟩ := hp.2.2
    · simp [TxStage.after, TxStage.expiring]
    · simp [TxStage.after, TxStage.expiring]
  | updatePayments which source target =>
    obtain ⟨rfl, -⟩ | ⟨ids, rfl, -⟩ := hp.2.2
    · simp [TxStage.after, TxStage.expiring, Query.keepsListed]
    · simp [TxStage.after, TxStage.expiring, Query.keepsListed]
  | _ => simp [TxStage.after, Query.keepsListed]

end

/-! ## Runs -/

/-- The history keeps the law, the committed rows are settled, and so is what each session sees, but
    for the bookings that it is expiring. -/
structure SweepsSafe (tr : List Ev) (s : DbServer) (qs : ℕ → Option PaymentStage) : Prop where
  history : ∀ e ∈ tr, Settled e.pre.shared.db ∧ ReleasesExpired e
  sound : s.Sound Discipline.free
  aligned : Aligned s qs
  held : ∀ t q, qs t = some q → ∀ id held, q.save.saving = some (id, held) →
    held.status = .pending
  wrote : ∀ t q, qs t = some q → q.tx ≠ .outside →
    ∃ x, s.active.lookup t = some x ∧ Wrote q x.written s.db
  lists : ∀ t id, Listed tr t id ↔ id ∈ expiringIn qs t
  settled : Settled s.db
  views : ∀ t, SettledBut (expiringIn qs t) (s.view t)

section
variable {e : Ev} {tr : List Ev} {s s' : DbServer} {t t' : ℕ} {w : World} {op : Query}
  {a : Answer op} {q : PaymentStage} {qs : ℕ → Option PaymentStage} {id bookingId : Uuid}
  {payment : Payment} {x : Transaction Record}

/-- A session with an open transaction is inside it. -/
theorem Aligned.inside (h : Aligned s qs) (hx : s.active.lookup t = some x) :
    ∃ q, qs t = some q ∧ q.tx ≠ .outside := by
  by_contra hno
  push Not at hno
  cases (h t hno).symm.trans hx

theorem SweepsSafe.wrote_of_active (h : SweepsSafe tr s qs) (hx : s.active.lookup t = some x) :
    ∃ q, qs t = some q ∧ Wrote q x.written s.db := by
  obtain ⟨q, hq, htx⟩ := h.aligned.inside hx
  obtain ⟨x', hx', hw⟩ := h.wrote t q hq htx
  obtain rfl := Option.some.inj (hx'.symm.trans hx)
  exact ⟨q, hq, hw⟩

/-- No transaction commits while it is open. -/
theorem stored_of_active (hexec : exec t w s op = some (a, s'))
    (hx : s'.active.lookup t = some x) : s'.stored = s.stored := by
  rcases exec_cases hexec with ⟨-, hb⟩ | ⟨rfl, -⟩ | ⟨rfl, -⟩ | ⟨_, -, hl⟩ | ⟨-, rfl⟩
  · rw [(Server.begin_eq_some.1 hb).2]
  · cases (commit_active hexec).symm.trans hx
  · cases (rollback_active hexec).symm.trans hx
  · obtain ⟨-, _, -, rfl⟩ := Server.lock_eq_some.1 hl
    rfl
  · cases hx₀ : s.active.lookup t with
    | none =>
      rw [Server.put_none hx₀] at hx
      cases hx₀.symm.trans hx
    | some x₀ => rw [Server.put_active hx₀]

theorem outside_after (hp : q.permits op) (hop : op ≠ .begin) (htx : q.tx = .outside) :
    q.tx.after op a = .outside := by
  obtain ⟨tx, save⟩ := q
  obtain rfl : tx = .outside := htx
  cases op with
  | begin => exact absurd rfl hop
  | insertBooking => cases hp.2.2.1
  | _ => rfl

/-- A payment is inserted PENDING, and saved so. -/
theorem held_after (hexec : exec t w s op = some (a, s')) (hp : q.permits op)
    (hheld : ∀ id held, q.save.saving = some (id, held) → held.status = .pending) (id : Uuid)
    (held : Payment) (hsaving : (q.save.after op a).saving = some (id, held)) :
    held.status = .pending := by
  rcases SaveStage.saving_cases hexec hsaving with ⟨rfl, -⟩ | hold
  · exact hp.2.2.2.2.1
  · exact hheld id held hold

theorem sweptLater_of_opens {p : Sessions} (hC : op.sweepsApart tr p t)
    (hopens : op.Opens (p.shared.view t) id bookingId) : SweptLater tr p bookingId := by
  rcases hopens with ⟨payment, rfl, rfl⟩ | ⟨c, old, rfl, hc, hold, rfl⟩
  · exact hC
  · exact hC hc old hold

/-- Where a payment becomes PENDING, no sweep is at work. -/
theorem SweepsSafe.expiring_of_opens (h : SweepsSafe tr s qs) (hq : qs t = some q)
    (hp : q.permits op) (hopens : op.Opens (s.view t) id bookingId) : q.tx.expiring = [] := by
  rcases hopens with ⟨payment, rfl, -⟩ | ⟨c, old, rfl, -⟩
  · rcases hp.2.2.2.1 with htx | htx
    · rw [htx]
      rfl
    · rw [htx]
      rfl
  · obtain ⟨held, reference, stored, hsave, -⟩ := hp.2.2
    by_cases htx : q.tx = .outside
    · rw [htx]
      rfl
    · obtain ⟨x, -, hw⟩ := h.wrote t q hq htx
      obtain ⟨v, hv⟩ := Option.isSome_iff_exists.1 (hw.saving id held (by rw [hsave]; rfl))
      rcases hw.payments id v hv with ⟨hrel, -⟩ | ⟨hbook, -⟩
      · rw [hrel]
        rfl
      · rw [hbook]
        rfl

/-- How a payment comes to be stored PENDING. -/
theorem SweepsSafe.pending_stored (h : SweepsSafe tr s qs)
    (hexec : exec t w s op = some (a, s')) (hp : q.permits op)
    (hpayment : s'.db.payment id = some payment) (hpending : payment.status = .pending) :
    (∃ old, s.db.payment id = some old ∧ old.status = .pending ∧
      old.bookingId = payment.bookingId) ∨
    (∃ x, s.active.lookup t = some x ∧ (x.written.lookup (.booking payment.bookingId)).isSome ∧
      s.db.booking payment.bookingId = none) ∨
    (s.active.lookup t = none ∧ op.Opens (s.view t) id payment.bookingId) := by
  rcases stored_cases hexec (.payment id) with hsame | ⟨x, v, hx, hw, hv⟩ | ⟨v, hx, hw, hv⟩
  · exact Or.inl ⟨payment, hsame.symm.trans hpayment, hpending, rfl⟩
  · obtain rfl := Option.some.inj (hv.symm.trans hpayment)
    obtain ⟨q', -, hwrote⟩ := h.wrote_of_active hx
    rcases hwrote.payments id v hw with ⟨-, hfailed, -⟩ | ⟨hbook, -⟩
    · cases hpending.symm.trans hfailed
    · obtain ⟨hnone, booking, hbooking, -⟩ := hwrote.booked _ hbook
      exact Or.inr (Or.inl ⟨x, hx, Option.isSome_of_eq_some hbooking, hnone⟩)
  · obtain rfl := Option.some.inj (hv.symm.trans hpayment)
    rcases pending_row hp hw hpending with ⟨c, old, rfl, hold, hwas, hb⟩ | hopens
    · rw [Database.payment, DbServer.view, Server.view_none hx] at hold
      exact Or.inl ⟨old, hold, hwas, hb⟩
    · exact Or.inr (Or.inr ⟨hx, hopens⟩)

/-- Where a payment becomes PENDING, a session has expired the booking exactly if it is going to
    release the payment. -/
theorem SweepsSafe.expired_iff (h : SweepsSafe tr e.pre.shared qs)
    (hC : op.sweepsApart tr e.pre t) (hopens : op.Opens (e.pre.shared.view t) id bookingId)
    (t' : ℕ) : ((e.pre.shared.view t').booking bookingId).map (·.status) = some .expired ↔
      bookingId ∈ expiringIn qs t' :=
  (sweptLater_of_opens hC hopens t').trans (h.lists t' bookingId)

/-- A payment becomes PENDING for bookings that its session does not see as EXPIRED. -/
theorem SweepsSafe.not_expired (h : SweepsSafe tr e.pre.shared qs) (hq : qs t = some q)
    (hp : q.permits op) (hC : op.sweepsApart tr e.pre t)
    (hopens : op.Opens (e.pre.shared.view t) id bookingId) (booking : Booking)
    (hbooking : (e.pre.shared.view t).booking bookingId = some booking) :
    booking.status ≠ .expired := by
  intro hexpired
  have hin := (h.expired_iff hC hopens t).1 (by rw [hbooking, Option.map_some, hexpired])
  rw [expiringIn_some hq, h.expiring_of_opens hq hp hopens] at hin
  cases hin

/-- A transaction has written nothing yet when it begins. -/
theorem wrote_begin (hexec : exec t w s .begin = some ((), s')) (hp : q.permits .begin) :
    ∃ x, s'.active.lookup t = some x ∧ Wrote (q.after .begin ()) x.written s'.db := by
  obtain ⟨_, hb, heq⟩ := Option.map_eq_some_iff.1 hexec
  cases heq
  obtain ⟨-, rfl⟩ := Server.begin_eq_some.1 hb
  refine ⟨{}, Finmap.lookup_insert _, fun _ _ => rfl, nofun, nofun, fun id held hsaving => ?_,
    nofun, nofun, nofun⟩
  have hidle : q.save.after .begin () = .idle := hp.2.2.2
  rw [PaymentStage.after, hidle] at hsaving
  cases hsaving

/-- What a session has written in its transaction, after its next query. -/
theorem SweepsSafe.wrote_own (h : SweepsSafe tr e.pre.shared qs)
    (hexec : exec t w e.pre.shared op = some (a, e.post.shared)) (hq : qs t = some q)
    (hp : q.permits op) (hC : op.sweepsApart tr e.pre t) (htx : q.tx.after op a ≠ .outside) :
    ∃ x, e.post.shared.active.lookup t = some x ∧
      Wrote (q.after op a) x.written e.post.shared.db := by
  have hc : op ≠ .commit := by
    rintro rfl
    exact htx rfl
  have hr : op ≠ .rollback := by
    rintro rfl
    exact htx rfl
  by_cases hop : op = .begin
  · subst hop
    exact wrote_begin hexec hp
  · have hin : q.tx ≠ .outside := fun hout => htx (outside_after hp hop hout)
    obtain ⟨x₀, hx₀, hwrote⟩ := h.wrote t q hq hin
    obtain ⟨x, hx⟩ := exec_active hexec hx₀ hc hr
    obtain ⟨x₁, hx₁, hstored, hwrites⟩ := exec_writes hexec hop hx
    obtain rfl := Option.some.inj (hx₁.symm.trans hx₀)
    refine ⟨x, hx, ?_⟩
    rw [DbServer.db, hstored]
    refine hwrote.after hwrites hexec hp hin hop hc hr (h.held t q hq) ?_
    rintro ids rfl
    exact hC

/-- What another session has written stays so. -/
theorem SweepsSafe.wrote_other (h : SweepsSafe tr e.pre.shared qs)
    (hexec : exec t w e.pre.shared op = some (a, e.post.shared)) (hq : qs t = some q)
    (hp : q.permits op) (hC : op.sweepsApart tr e.pre t) (ht : t' ≠ t) {q' : PaymentStage}
    (hq' : qs t' = some q') (htx : q'.tx ≠ .outside) :
    ∃ x, e.post.shared.active.lookup t' = some x ∧ Wrote q' x.written e.post.shared.db := by
  obtain ⟨x, hx, hwrote⟩ := h.wrote t' q' hq' htx
  have hchange := exec_free hexec
  have hkept {row : Row} (hrow : (x.written.lookup row).isSome) :
      e.post.shared.stored.lookup row = e.pre.shared.stored.lookup row :=
    hchange.kept h.sound ht hx (Or.inl (Finmap.lookup_isSome.1 hrow))
  refine ⟨x, (hchange.active ht).trans hx, hwrote.opened, ?_, hwrote.payments, hwrote.saving, ?_,
    ?_, ?_⟩
  · intro id hbooked
    obtain ⟨hnone, booking, hbooking, hlive⟩ := hwrote.booked id hbooked
    refine ⟨?_, booking, hbooking, hlive⟩
    exact (hkept (Option.isSome_of_eq_some hbooking)).trans hnone
  · intro hsweep id hid
    have hexpires := hwrote.expires hsweep id hid
    rw [Expires, Database.booking, DbServer.db, hkept hid]
    exact hexpires
  · intro id hid
    have hold := hwrote.listed id hid
    rcases stored_cases hexec (.booking id) with hsame | ⟨_, v, -, -, hv⟩ | ⟨v, -, -, hv⟩
    · rw [Database.booking, DbServer.db, hsame]
      exact hold
    · exact Option.isSome_of_eq_some hv
    · exact Option.isSome_of_eq_some hv
  · intro id payment hpayment hpending hid
    rcases h.pending_stored hexec hp hpayment hpending with
      ⟨old, hold, hwas, hb⟩ | ⟨_, -, -, hnone⟩ | ⟨hout, hopens⟩
    · rw [← hb] at hid ⊢
      exact hwrote.pending id old hold hwas hid
    · have hlisted := hwrote.listed _ hid
      rw [hnone] at hlisted
      cases hlisted
    · have hseen := (h.expired_iff hC hopens t').2 ((expiringIn_some hq').symm ▸ hid)
      rw [Database.booking, DbServer.view, Server.lookup_view hx] at hseen
      cases hrow : x.written.lookup (.booking payment.bookingId) with
      | some booking => exact Option.isSome_of_eq_some hrow
      | none =>
        -- the session that makes the payment PENDING would see the booking as EXPIRED as well
        rw [hrow, Option.none_or, ← Server.view_none hout] at hseen
        have hin := (h.expired_iff hC hopens t).1 hseen
        rw [expiringIn_some hq, h.expiring_of_opens hq hp hopens] at hin
        cases hin

/-- The committed rows stay settled. -/
theorem SweepsSafe.settled_after (h : SweepsSafe tr e.pre.shared qs)
    (hexec : exec t w e.pre.shared op = some (a, e.post.shared)) (hq : qs t = some q)
    (hp : q.permits op) (hC : op.sweepsApart tr e.pre t) :
    Settled e.post.shared.db ∧ SettledBut (q.tx.after op a).expiring (e.post.shared.view t) := by
  have hview := h.views t
  rw [expiringIn_some hq] at hview
  have hown := settled_own hexec hp h.settled hview fun _ _ hopens => h.not_expired hq hp hC hopens
  refine ⟨?_, hown⟩
  cases hx : e.post.shared.active.lookup t with
  | some x =>
    rw [DbServer.db, stored_of_active hexec hx]
    exact h.settled
  | none =>
    have hout : q.tx.after op a = .outside := by
      by_contra htx
      obtain ⟨x, hx', -⟩ := h.wrote_own hexec hq hp hC htx
      cases hx.symm.trans hx'
    rw [hout, DbServer.view, Server.view_none hx] at hown
    exact settled_iff.2 hown

/-- What another session sees stays settled, but for the bookings that it is expiring. -/
theorem SweepsSafe.view_other (h : SweepsSafe tr e.pre.shared qs)
    (hexec : exec t w e.pre.shared op = some (a, e.post.shared)) (hq : qs t = some q)
    (hp : q.permits op) (hC : op.sweepsApart tr e.pre t) (ht : t' ≠ t) :
    SettledBut (expiringIn qs t') (e.post.shared.view t') := by
  have hstored := (h.settled_after hexec hq hp hC).1
  have hactive := (exec_free hexec).active ht
  cases hx : e.pre.shared.active.lookup t' with
  | none =>
    rw [DbServer.view, Server.view_none (hactive.trans hx)]
    intro id payment booking hpayment hpending hbooking hexpired
    exact absurd hexpired (hstored id payment booking hpayment hpending hbooking)
  | some x =>
    obtain ⟨q', hq', hwrote⟩ := h.wrote_of_active hx
    intro id payment booking hpayment hpending hbooking hexpired
    rw [Database.payment, DbServer.view, Server.lookup_view (hactive.trans hx),
      Option.or_eq_some_iff] at hpayment
    rw [Database.booking, DbServer.view, Server.lookup_view (hactive.trans hx),
      Option.or_eq_some_iff] at hbooking
    rcases hpayment with hpayment | ⟨hunwritten, hpayment⟩
    · rcases hwrote.payments id payment hpayment with ⟨-, hfailed, -⟩ | ⟨hbook, -⟩
      · cases hpending.symm.trans hfailed
      · obtain ⟨-, v, hv, hlive⟩ := hwrote.booked _ hbook
        rcases hbooking with hbooking | ⟨hnone, -⟩
        · obtain rfl := Option.some.inj (hbooking.symm.trans hv)
          exact absurd hexpired hlive
        · cases hnone.symm.trans hv
    rcases hbooking with hbooking | ⟨-, hbooking⟩
    · have hseen : (e.pre.shared.view t').booking payment.bookingId = some booking := by
        rw [Database.booking, DbServer.view, Server.lookup_view hx, hbooking, Option.some_or]
      rcases h.pending_stored hexec hp hpayment hpending with
        ⟨old, hold, hwas, hb⟩ | ⟨y, hy, hwritten, -⟩ | ⟨-, hopens⟩
      · have hold' : (e.pre.shared.view t').payment id = some old := by
          rw [Database.payment, DbServer.view, Server.lookup_view hx, hunwritten, Option.none_or]
          exact hold
        rw [← hb]
        exact h.views t' id old booking hold' hwas (hb ▸ hseen) hexpired
      · refine absurd (Or.inl (Finmap.lookup_isSome.1 hwritten)) (h.sound.apart ht hx hy ?_)
        exact Or.inl (Finmap.mem_of_lookup_eq_some hbooking)
      · exact (h.expired_iff hC hopens t').1 (by rw [hseen, Option.map_some, hexpired])
    · exact absurd hexpired (hstored id payment booking hpayment hpending hbooking)

/-- A commit that makes a payment FAILED expires its booking. -/
theorem SweepsSafe.releases (h : SweepsSafe tr e.pre.shared qs)
    (hinp : e.inp = .step t w) (hasks : e.pre.Asks t op)
    (hexec : exec t w e.pre.shared op = some (a, e.post.shared)) : ReleasesExpired e := by
  intro t' w' op' hinp' hasks' hcommit id old new hold hlive hnew hfailed
  cases hinp.symm.trans hinp'
  obtain rfl := hasks.unique hasks'
  subst hcommit
  obtain ⟨x, hx, hpost⟩ := Server.commit_eq_some.1 (commit_eq hexec)
  have hlookup (row : Row) : e.post.shared.stored.lookup row =
      (x.written.lookup row).or (e.pre.shared.stored.lookup row) := by
    rw [hpost, Storage.lookup_union]
  have hwritten : x.written.lookup (.payment id) = some new := by
    rw [Database.payment, DbServer.db, hlookup, Option.or_eq_some_iff] at hnew
    refine hnew.resolve_right fun hsame => hlive ?_
    obtain rfl := Option.some.inj (hsame.2.symm.trans hold)
    exact hfailed
  obtain ⟨q, -, hwrote⟩ := h.wrote_of_active hx
  rcases hwrote.payments id new hwritten with ⟨hrel, -, hsome⟩ | ⟨-, hne⟩
  · obtain ⟨hwas, hnow⟩ := hwrote.expires (by rw [hrel]; rfl) _ hsome
    refine ⟨hwas, ?_⟩
    obtain ⟨booking, hbooking⟩ := Option.isSome_iff_exists.1 hsome
    have hbooking' : x.written.lookup (.booking new.bookingId) = some booking := hbooking
    rw [hbooking] at hnow
    rw [Database.booking, DbServer.db, hlookup, hbooking', Option.some_or]
    exact hnow
  · exact absurd hfailed hne

theorem SweepsSafe.call (h : SweepsSafe tr e.pre.shared qs) {r : Request}
    (hinp : e.inp = .call t r) (ht : qs t = none) (hshared : e.post.shared = e.pre.shared) :
    SweepsSafe (tr ++ [e]) e.post.shared (Function.update qs t (some .start)) := by
  have hlist (t' : ℕ) : expiringIn (Function.update qs t (some .start)) t' = expiringIn qs t' := by
    by_cases ht' : t' = t
    · subst ht'
      rw [expiringIn_update_self, expiringIn, ht]
      rfl
    · exact expiringIn_update_of_ne ht' _
  rw [hshared]
  constructor
  · intro e' he'
    rcases List.mem_append.1 he' with he' | he'
    · exact h.history e' he'
    · obtain rfl := List.mem_singleton.1 he'
      refine ⟨h.settled, fun t' w op hinp' => ?_⟩
      cases hinp.symm.trans hinp'
  · exact h.sound
  · exact h.aligned.call ht
  · intro t' q hq
    rcases update_stage hq with ⟨-, rfl⟩ | ⟨-, hq⟩
    · nofun
    · exact h.held t' q hq
  · intro t' q hq htx
    rcases update_stage hq with ⟨-, rfl⟩ | ⟨-, hq⟩
    · exact absurd rfl htx
    · exact h.wrote t' q hq htx
  · intro t' id
    rw [hlist, listed_other (fun w hinp' => by cases hinp.symm.trans hinp')]
    exact h.lists t' id
  · exact h.settled
  · intro t'
    rw [hlist]
    exact h.views t'

theorem SweepsSafe.step (h : SweepsSafe tr e.pre.shared qs) (hinp : e.inp = .step t w)
    (hasks : e.pre.Asks t op) (hexec : exec t w e.pre.shared op = some (a, e.post.shared))
    (hq : qs t = some q) (hp : q.permits op) (hC : op.sweepsApart tr e.pre t) :
    SweepsSafe (tr ++ [e]) e.post.shared (Function.update qs t (some (q.after op a))) where
  history e' he' := by
    rcases List.mem_append.1 he' with he' | he'
    · exact h.history e' he'
    · obtain rfl := List.mem_singleton.1 he'
      exact ⟨h.settled, h.releases hinp hasks hexec⟩
  sound := (exec_free hexec).sound h.sound
  aligned := h.aligned.step hexec hq
  held t' q' hq' := by
    rcases update_stage hq' with ⟨-, rfl⟩ | ⟨-, hq'⟩
    · exact held_after hexec hp (h.held t q hq)
    · exact h.held t' q' hq'
  wrote t' q' hq' htx := by
    rcases update_stage hq' with ⟨rfl, rfl⟩ | ⟨ht, hq'⟩
    · exact h.wrote_own hexec hq hp hC htx
    · exact h.wrote_other hexec hq hp hC ht hq' htx
  lists t' id := by
    by_cases ht : t' = t
    · subst ht
      rw [listed_own hinp hasks, expiringIn_update_self, PaymentStage.after, mem_expiring_after hp,
        h.lists, expiringIn_some hq]
    · rw [expiringIn_update_of_ne ht, ← h.lists]
      refine listed_other fun w' hinp' => ?_
      cases hinp.symm.trans hinp'
      exact ht rfl
  settled := (h.settled_after hexec hq hp hC).1
  views t' := by
    by_cases ht : t' = t
    · subst ht
      rw [expiringIn_update_self]
      exact (h.settled_after hexec hq hp hC).2
    · rw [expiringIn_update_of_ne ht]
      exact h.view_other hexec hq hp hC ht

theorem sweepsSafe_idle {db : Database} (hdb : Settled db) :
    SweepsSafe [] (idle db).shared fun _ => none where
  history _ he := absurd he List.not_mem_nil
  sound := Server.sound_idle db
  aligned := aligned_idle db
  held _ _ hq := nomatch hq
  wrote _ _ hq := nomatch hq
  lists _ _ := iff_of_false not_since_nil List.not_mem_nil
  settled := hdb
  views _ := settled_iff.1 hdb

end

/-- **Where sweeps stay apart from the operations that open and confirm, no EXPIRED booking ever has
    a PENDING payment**, and the transactions that make payments FAILED expire their bookings. -/
theorem sweeps_consistent {cfg : Config} {db : Database} {tr : List Ev} {p : Sessions}
    (h : Run (backend cfg).Steps (idle db) tr p) (hdb : Settled db)
    (hsweeps : Along SweepsApart tr) :
    Settled p.shared.db ∧ ∀ e ∈ tr, Settled e.pre.shared.db ∧ ReleasesExpired e := by
  obtain ⟨qs, -, hJ⟩ := System.invariant (J := SweepsSafe) (program_payments cfg)
    (fun tr e t r qs hinp hqs hshared _ hJ => hJ.call hinp hqs hshared)
    (fun tr e qs t w q op a hans hsweeps hJ => hJ.step hans.inp hans.asks hans.exec hans.stage
      hans.permits (hsweeps t w op hans.inp hans.asks))
    h .idle (sweepsSafe_idle hdb) hsweeps
  exact ⟨hJ.settled, hJ.history⟩

/-! ## Examples -/

/-- The query makes no payment PENDING, and updates PENDING bookings only. -/
def Query.sweepsAlone (db : Database) : Query → Bool
  | .insertPayment _ | .updatePayment _ _ => false
  | .updateBookings ids _ _ => ids.all fun id => (db.booking id).any (·.status = .pending)
  | _ => true

theorem sweepsApart_of_alone {tr : List Ev} {p : Sessions} {t : ℕ} {op : Query}
    (h : op.sweepsAlone (p.shared.view t)) : op.sweepsApart tr p t := by
  unfold Query.sweepsApart
  split
  · cases h
  · cases h
  · intro bookingId hid
    obtain ⟨booking, hbooking, hpending⟩ :=
      (Option.any_eq_true _ _).1 (List.all_eq_true.1 h bookingId hid)
    exact ⟨booking, hbooking, fun hne => absurd (of_decide_eq_true hpending) hne⟩
  · trivial

/-- The row is not of an expired booking. -/
def unexpired : (row : Row) → Record row → Bool
  | .booking _, v => Booking.status v ≠ .expired
  | _, _ => true

theorem settled_of_unexpired {db : Database} (h : db.All unexpired) : Settled db :=
  fun _ payment booking _ _ hbooking =>
    of_decide_eq_true (Database.all_iff.1 h (.booking payment.bookingId) booking hbooking)

/-- A booking that is not paid in time. -/
theorem sweeps_consistent_expired : ∃ tr p,
    Run (backend plainConfig).Steps (idle chargeable) tr p ∧
      (p.shared.db.booking "b").any (·.status = .expired) ∧ Settled p.shared.db ∧
        ∀ e ∈ tr, ReleasesExpired e := by
  have hplay : ((backend plainConfig).play (idle chargeable)
      [.call 0 .expireStalePendingBookings, .step 0 { now := 200 }, .step 0 { rows := ["b"] },
        .step 0 {}, .step 0 {}, .step 0 {}, .step 0 {}]).any fun x =>
      (∀ e ∈ x.1, OnQuery (fun t _ op => op.sweepsAlone (e.pre.shared.view t)) e) ∧
        (x.2.shared.db.booking "b").any (·.status = .expired) := by decide
  obtain ⟨⟨tr, p⟩, hplay, hfacts⟩ := (Option.any_eq_true _ _).1 hplay
  obtain ⟨halone, hexpired⟩ := of_decide_eq_true hfacts
  have hsweeps : Along SweepsApart tr := by
    rintro tr₁ e tr₂ rfl t w op hinp hasks
    exact sweepsApart_of_alone (halone e (by simp) t w op hinp hasks)
  have hsettled : Settled chargeable := settled_of_unexpired (by decide)
  have hsafe := sweeps_consistent (System.run_play hplay) hsettled hsweeps
  exact ⟨tr, p, System.run_play hplay, hexpired, hsafe.1, fun e he => (hsafe.2 e he).2⟩

/-- The sweep, and the operations that run beside it. -/
def Request.besideSweep : Request → Bool
  | .expireStalePendingBookings | .initializePayment _ _ => true
  | .confirmBooking _ | .handleWebhook _ => true
  | _ => false

/-- A sweep expires the booking between the check and the insert of an initialization. -/
theorem expired_booking_pending_payment : ¬ ∀ db tr p, Settled db →
    Run (backend plainConfig).Steps (idle db) tr p →
      (∀ e ∈ tr, OnCall (fun r => r.besideSweep) e) →
        Settled p.shared.db ∧ ∀ e ∈ tr, Settled e.pre.shared.db ∧ ReleasesExpired e := by
  intro hclaim
  have hplay : ((backend plainConfig).play (idle payable)
      [.call 0 (.initializePayment "b" "u"), .step 0 {}, .step 0 {}, .step 0 {},
        .call 1 .expireStalePendingBookings, .step 1 { now := 200 }, .step 1 { rows := ["b"] },
        .step 1 {}, .step 1 {}, .step 1 {}, .step 1 {}, .step 0 { id := "p" }]).any fun x =>
      (∀ e ∈ x.1, OnCall (fun r => r.besideSweep) e) ∧
        (x.2.shared.db.payment "p").any (fun v => v.bookingId = "b" ∧ v.status = .pending) ∧
          (x.2.shared.db.booking "b").any (·.status = .expired) := by decide
  obtain ⟨⟨tr, p⟩, hplay, hfacts⟩ := (Option.any_eq_true _ _).1 hplay
  obtain ⟨hcalls, hpayment, hbooking⟩ := of_decide_eq_true hfacts
  obtain ⟨payment, hpayment, hpending⟩ := (Option.any_eq_true _ _).1 hpayment
  obtain ⟨booking, hbooking, hexpired⟩ := (Option.any_eq_true _ _).1 hbooking
  obtain ⟨hb, hpending⟩ := of_decide_eq_true hpending
  have hsettled : Settled payable := settled_of_unexpired (by decide)
  refine (hclaim payable tr p hsettled (System.run_play hplay) hcalls).1 "p" payment booking
    hpayment hpending (hb ▸ hbooking) (of_decide_eq_true hexpired)

end Backend
