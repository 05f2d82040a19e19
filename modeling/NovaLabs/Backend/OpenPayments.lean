/-
  How many payments a booking can have that are not FAILED.

  An initialization looks for a PENDING payment and inserts a new one later.  Where nothing has been
  inserted or paid for the booking in between, and no save reopens a FAILED payment, there is one.
-/
import NovaLabs.Backend.PaymentStates

namespace Backend

open Lib

/-- The row is no payment of the booking that is PENDING, SUCCESS or REFUNDED. -/
def failedFor (bookingId : Uuid) : ∀ row, Record row → Bool
  | .payment _, payment => payment.bookingId = bookingId → payment.status = .failed
  | _, _ => true

/-- All payments of the booking are FAILED: the committed ones, and those in open transactions. -/
def NoneOpen (s : DbServer) (bookingId : Uuid) : Prop :=
  s.db.All (failedFor bookingId) ∧ ∀ t ∈ Finmap.keys (Server.active s), ∀ x ∈ s.active.lookup t,
    Database.All (Transaction.written x) (failedFor bookingId)

instance (s : DbServer) (bookingId : Uuid) : Decidable (NoneOpen s bookingId) :=
  inferInstanceAs (Decidable (_ ∧ ∀ t ∈ _, ∀ x ∈ _, _))

/-- The query inserts a payment for a booking without open payments only, and saves no status. -/
def Query.opensFirst (s : DbServer) : Query → Prop
  | .insertPayment payment => NoneOpen s payment.bookingId
  | op => op.savesNoStatus

instance (s : DbServer) (op : Query) : Decidable (op.opensFirst s) := by
  unfold Query.opensFirst
  split <;> infer_instance

/-- The turn opens no second payment for a booking. -/
abbrev OpensFirst (e : Ev) : Prop := OnQuery (fun _ _ op => op.opensFirst e.pre.shared) e

section
variable {s s' : DbServer} {t : ℕ} {w : World} {op : Query} {a : Answer op} {q : PaymentStage}
  {qs : ℕ → Option PaymentStage} {id : Uuid} {v : Payment}

theorem NoneOpen.failed {bookingId : Uuid} (h : NoneOpen s bookingId)
    (hv : s.Holds (.payment id) v) (hb : v.bookingId = bookingId) : v.status = .failed := by
  have hrow : failedFor bookingId (.payment id) v := by
    rcases hv with hv | ⟨t, x, hx, hv⟩
    · exact Database.all_iff.1 h.1 (.payment id) v hv
    · exact Database.all_iff.1 (h.2 t (Finmap.mem_keys.2 (Finmap.mem_of_lookup_eq_some hx)) x hx)
        (.payment id) v hv
  exact of_decide_eq_true hrow hb

theorem Query.opensFirst.savesNoStatus (h : op.opensFirst s) : op.savesNoStatus := by
  cases op <;> first | rfl | exact h

/-- Bookings have one payment at most that is PENDING, SUCCESS or REFUNDED. -/
def OneOpen (s : DbServer) : Prop :=
  ∀ id id' v v', s.Holds (.payment id) v → s.Holds (.payment id') v' →
    v.bookingId = v'.bookingId → v.status ≠ .failed → v'.status ≠ .failed → id = id'

/-- An open payment is new, or was open before. -/
theorem open_before (hexec : exec t w s op = some (a, s')) (hp : q.permits op)
    (hsave : op.savesNoStatus) (hv : s'.Holds (.payment id) v) (hopen : v.status ≠ .failed) :
    (∃ old, s.Holds (.payment id) old ∧ old.bookingId = v.bookingId ∧ old.status ≠ .failed) ∨
      op = .insertPayment v ∧ id = w.id := by
  rcases holds_of_exec hexec hv with hv | hrow
  · exact Or.inl ⟨v, hv, rfl, hopen⟩
  rcases payment_row hrow with hinsert | ⟨old, hold, hnew⟩
  · exact Or.inr hinsert
  have hstep := row_one_step hexec hp hsave hold hrow
  refine Or.inl ⟨old, Server.holds_of_view hold, ?_, fun hfailed => ?_⟩
  · rcases hnew with ⟨which, source, target, -, -, -, rfl⟩ | ⟨c, -, rfl⟩ <;> rfl
  · rw [hfailed] at hstep
    rcases hstep with hsame | ⟨hnext, -⟩
    · exact hopen hsame
    · cases hnext

theorem OneOpen.step (hone : OneOpen s) (hexec : exec t w s op = some (a, s')) (hp : q.permits op)
    (hfirst : op.opensFirst s) : OneOpen s' := by
  intro id id' v v' hv hv' hb hopen hopen'
  have hsave := hfirst.savesNoStatus
  have hnone {payment old : Payment} {id : Uuid} (hop : op = .insertPayment payment)
      (hold : s.Holds (.payment id) old) (hb : old.bookingId = payment.bookingId) :
      old.status = .failed := by
    subst hop
    exact NoneOpen.failed hfirst hold hb
  rcases open_before hexec hp hsave hv hopen with ⟨old, hold, hbook, hlive⟩ | ⟨hop, rfl⟩
  · rcases open_before hexec hp hsave hv' hopen' with ⟨old', hold', hbook', hlive'⟩ | ⟨hop, -⟩
    · exact hone id id' old old' hold hold' (by rw [hbook, hbook', hb]) hlive hlive'
    · exact absurd (hnone hop hold (hbook.trans hb)) hlive
  · rcases open_before hexec hp hsave hv' hopen' with ⟨old', hold', hbook', hlive'⟩ | ⟨-, rfl⟩
    · exact absurd (hnone hop hold' (hbook'.trans hb.symm)) hlive'
    · rfl

end

/-- The payment has been SUCCESS: in the database of the start, or after an event. -/
def WasSuccess (db : Database) (tr : List Ev) (id : Uuid) : Prop :=
  (∃ v, db.payment id = some v ∧ (v.status = .success ∨ v.status = .refunded)) ∨
    ∃ e ∈ tr, ∃ v, e.post.shared.db.payment id = some v ∧ v.status = .success

/-- One open payment for each booking, and what was once SUCCESS still is, or is REFUNDED. -/
structure OpensSafe (db : Database) (tr : List Ev) (s : DbServer)
    (qs : ℕ → Option PaymentStage) : Prop where
  states : StatesSafe tr s qs
  single : OneOpen s
  success : ∀ id, WasSuccess db tr id →
    ∃ v, s.db.payment id = some v ∧ (v.status = .success ∨ v.status = .refunded)

section
variable {db : Database} {tr : List Ev} {e : Ev} {t : ℕ} {w : World} {op : Query} {a : Answer op}
  {q : PaymentStage} {qs : ℕ → Option PaymentStage}

theorem wasSuccess_snoc {id : Uuid} : WasSuccess db (tr ++ [e]) id ↔ WasSuccess db tr id ∨
    ∃ v, e.post.shared.db.payment id = some v ∧ v.status = .success := by
  simp only [WasSuccess, List.mem_append, List.mem_singleton, or_and_right, exists_or,
    exists_eq_left, or_assoc]

theorem OpensSafe.call (h : OpensSafe db tr e.pre.shared qs) (ht : qs t = none)
    (hshared : e.post.shared = e.pre.shared) :
    OpensSafe db (tr ++ [e]) e.post.shared (Function.update qs t (some .start)) where
  states := h.states.call ht hshared
  single := hshared.symm ▸ h.single
  success id hid := by
    rcases wasSuccess_snoc.1 hid with hid | ⟨v, hv, hsuccess⟩
    · exact hshared.symm ▸ h.success id hid
    · exact ⟨v, hv, Or.inl hsuccess⟩

theorem OpensSafe.step (h : OpensSafe db tr e.pre.shared qs)
    (hexec : exec t w e.pre.shared op = some (a, e.post.shared)) (hq : qs t = some q)
    (hp : q.permits op) (hfirst : op.opensFirst e.pre.shared) :
    OpensSafe db (tr ++ [e]) e.post.shared (Function.update qs t (some (q.after op a))) where
  states := h.states.step hexec hq hp hfirst.savesNoStatus
  single := h.single.step hexec hp hfirst
  success id hid := by
    rcases wasSuccess_snoc.1 hid with hid | ⟨v, hv, hsuccess⟩
    · obtain ⟨v, hv, hpaid⟩ := h.success id hid
      obtain ⟨v', hv', hstep⟩ :=
        stored_one_step hexec hp hfirst.savesNoStatus h.states.written hv
      refine ⟨v', hv', ?_⟩
      rcases hpaid with hpaid | hpaid
      · rw [hpaid] at hstep
        exact hstep.imp_right PaymentStatus.Next.of_success
      · rw [hpaid] at hstep
        exact Or.inr (hstep.resolve_right nofun)
    · exact ⟨v, hv, Or.inl hsuccess⟩

theorem opensSafe_idle (hdb : OneOpen (idle db).shared) :
    OpensSafe db [] (idle db).shared fun _ => none where
  states := statesSafe_idle db
  single := hdb
  success _ hid := hid.resolve_right fun ⟨_, he, _⟩ => absurd he List.not_mem_nil

end

/-- **Where payments are inserted for bookings without open ones, and no save writes a status, each
    booking has one PENDING payment at most, and one that ever was SUCCESS.** -/
theorem one_open_payment {cfg : Config} {db : Database} {tr : List Ev} {p : Sessions}
    (h : Run (backend cfg).Steps (idle db) tr p) (hdb : OneOpen (idle db).shared)
    (hfirst : ∀ e ∈ tr, OpensFirst e) {id id' : Uuid} {v v' : Payment}
    (hv : p.shared.db.payment id = some v) (hv' : p.shared.db.payment id' = some v')
    (hb : v.bookingId = v'.bookingId) :
    (v.status = .pending → v'.status = .pending → id = id') ∧
      (WasSuccess db tr id → WasSuccess db tr id' → id = id') := by
  have hC : Along (fun _ e => OpensFirst e) tr := along_iff_forall.2 hfirst
  obtain ⟨qs, -, hJ⟩ := System.invariant (J := OpensSafe db) (program_payments cfg)
    (fun tr e t r qs _ hqs hshared _ hJ => hJ.call hqs hshared)
    (fun tr e qs t w q op a hans hfirst hJ => hJ.step hans.exec hans.stage hans.permits
      (hfirst t w op hans.inp hans.asks))
    h .idle (opensSafe_idle hdb) hC
  have hsingle (hopen : v.status ≠ .failed) (hopen' : v'.status ≠ .failed) : id = id' :=
    hJ.single id id' v v' (Or.inl hv) (Or.inl hv') hb hopen hopen'
  have hpaid {id : Uuid} {v : Payment} (hv : p.shared.db.payment id = some v)
      (hid : WasSuccess db tr id) : v.status ≠ .failed := by
    obtain ⟨v₁, hv₁, hpaid⟩ := hJ.success id hid
    obtain rfl : v₁ = v := Option.some.inj (hv₁.symm.trans hv)
    rcases hpaid with hpaid | hpaid <;> exact hpaid ▸ PaymentStatus.noConfusion
  constructor
  · intro hpending hpending'
    exact hsingle (hpending ▸ PaymentStatus.noConfusion) (hpending' ▸ PaymentStatus.noConfusion)
  · intro hid hid'
    exact hsingle (hpaid hv hid) (hpaid hv' hid')

theorem oneOpen_payable : OneOpen (idle payable).shared := by
  have hnone : payable.All fun row _ => match row with
    | .payment _ => false
    | _ => true := by decide
  intro id id' v v' hv
  exact nomatch Database.all_iff.1 hnone (.payment id) v (Server.holds_idle.1 hv)

/-- A second initialization reuses the payment of the first. -/
theorem one_open_payment_reused : ∃ tr p,
    Run (backend plainConfig).Steps (idle payable) tr p ∧ ∀ id v,
      p.shared.db.payment id = some v → v.bookingId = "b" → v.status = .pending → id = "p" := by
  have hplay : ((backend plainConfig).play (idle payable)
      [.call 0 (.initializePayment "b" "u"), .step 0 {}, .step 0 {}, .step 0 {},
        .step 0 { id := "p" }, .step 0 { checkout := some ⟨"url", "p"⟩ },
        .step 0 { row := some "p" }, .step 0 {}, .call 1 (.initializePayment "b" "u"), .step 1 {},
        .step 1 { row := some "p" }, .step 1 {}, .step 1 { checkout := some ⟨"url", "p"⟩ }]).any
      fun x => (∀ e ∈ x.1, OpensFirst e) ∧ (x.2.shared.db.payment "p").any fun v =>
        v.bookingId = "b" ∧ v.status = .pending := by decide
  obtain ⟨⟨tr, p⟩, hplay, hfacts⟩ := (Option.any_eq_true _ _).1 hplay
  obtain ⟨hfirst, hpayment⟩ := of_decide_eq_true hfacts
  obtain ⟨v', hv', hpayment⟩ := (Option.any_eq_true _ _).1 hpayment
  obtain ⟨hbook', hpending'⟩ := of_decide_eq_true hpayment
  refine ⟨tr, p, System.run_play hplay, fun id v hv hbook hpending => ?_⟩
  exact (one_open_payment (System.run_play hplay) oneOpen_payable hfirst hv hv'
    (hbook.trans hbook'.symm)).1 hpending hpending'

/-- Two initializations at once each insert a payment. -/
theorem two_pending_payments : ¬ ∀ tr p, Run (backend plainConfig).Steps (idle payable) tr p →
    ∀ id id' v v', p.shared.db.payment id = some v → p.shared.db.payment id' = some v' →
      v.bookingId = v'.bookingId → (v.status = .pending → v'.status = .pending → id = id') ∧
        (WasSuccess payable tr id → WasSuccess payable tr id' → id = id') := by
  intro hclaim
  have hplay : ((backend plainConfig).play (idle payable)
      [.call 0 (.initializePayment "b" "u"), .call 1 (.initializePayment "b" "u"), .step 0 {},
        .step 1 {}, .step 0 {}, .step 1 {}, .step 0 {}, .step 1 {}, .step 0 { id := "p" },
        .step 1 { id := "p'" }]).any
      fun x => ((x.2.shared.db.payment "p").any fun v => v.bookingId = "b" ∧ v.status = .pending) ∧
        (x.2.shared.db.payment "p'").any fun v => v.bookingId = "b" ∧ v.status = .pending := by
    decide
  obtain ⟨⟨tr, p⟩, hplay, hfacts⟩ := (Option.any_eq_true _ _).1 hplay
  obtain ⟨hpayment, hpayment'⟩ := of_decide_eq_true hfacts
  obtain ⟨v, hv, hpayment⟩ := (Option.any_eq_true _ _).1 hpayment
  obtain ⟨v', hv', hpayment'⟩ := (Option.any_eq_true _ _).1 hpayment'
  obtain ⟨hbook, hpending⟩ := of_decide_eq_true hpayment
  obtain ⟨hbook', hpending'⟩ := of_decide_eq_true hpayment'
  have hsame := (hclaim tr p (System.run_play hplay) "p" "p'" v v' hv hv'
    (hbook.trans hbook'.symm)).1 hpending hpending'
  exact absurd hsame (by decide)

end Backend
