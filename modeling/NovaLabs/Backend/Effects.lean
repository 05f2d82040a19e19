/-
  What a query does to the store, and how programs of the backend meet a protocol.
-/
import NovaLabs.Backend.Payments

namespace Backend

open Lib

/-! ## Writes -/

/-- The rows that a query writes, if it sees the rows `db`. -/
def Query.rows (w : World) (db : Database) : Query → Database
  | .insertBooking booking => Finmap.insert (.booking w.id) { booking with createdAt := w.now } ∅
  | .insertPayment payment => Finmap.insert (.payment w.id) payment ∅
  | .updateBookings ids source target => Storage.changes db (bookingUpdate ids source target)
  | .updatePayments which source target => Storage.changes db (paymentUpdate which source target)
  | .updateBooking id c => Storage.changes db (bookingSave id c)
  | .updatePayment id c => Storage.changes db (paymentSave id c)
  | .updateUser id c => Storage.changes db (userSave id c)
  | .updateWorkspace id c => Storage.changes db (workspaceSave id c)
  | _ => ∅

theorem lookup_single_of_ne {row k : Row} {record : Record row} (h : k ≠ row) :
    (Finmap.insert row record (∅ : Database)).lookup k = none := by
  rw [Finmap.lookup_insert_of_ne _ h, Finmap.lookup_empty]

variable {s s' : DbServer} {t t' : ℕ} {w : World} {q : Query} {a : Answer q} {db : Database}
  {id : Uuid}

/-- How a query writes a booking. -/
theorem booking_row {new : Booking} (h : (q.rows w db).lookup (.booking id) = some new) :
    (∃ booking, q = .insertBooking booking ∧ id = w.id ∧
      new = { booking with createdAt := w.now }) ∨
    ∃ old, db.booking id = some old ∧
      ((∃ ids source target, q = .updateBookings ids source target ∧ id ∈ ids ∧
        old.status = source ∧ new = { old with status := target }) ∨
      ∃ c, q = .updateBooking id c ∧ new = old.set c) := by
  cases q with
  | insertBooking booking =>
    by_cases hid : Row.booking id = .booking w.id
    · cases hid
      exact Or.inl ⟨booking, rfl, rfl, Option.some.inj (h.symm.trans (Finmap.lookup_insert _))⟩
    · cases (lookup_single_of_ne hid).symm.trans h
  | insertPayment payment => cases (lookup_single_of_ne Row.noConfusion).symm.trans h
  | updateBookings ids source target =>
    rw [Query.rows, Storage.lookup_changes, Option.bind_eq_some_iff] at h
    obtain ⟨old, hold, hnew⟩ := h
    obtain ⟨⟨hid, hsource⟩, hset⟩ := Option.ite_none_right_eq_some.1 hnew
    exact Or.inr ⟨old, hold, Or.inl ⟨ids, source, target, rfl, hid, hsource,
      (Option.some.inj hset).symm⟩⟩
  | updateBooking id' c =>
    rw [Query.rows, Storage.lookup_changes, Option.bind_eq_some_iff] at h
    obtain ⟨old, hold, hnew⟩ := h
    obtain ⟨rfl, hset⟩ := Option.ite_none_right_eq_some.1 hnew
    exact Or.inr ⟨old, hold, Or.inr ⟨c, rfl, (Option.some.inj hset).symm⟩⟩
  | updatePayments | updatePayment | updateUser | updateWorkspace =>
    rw [Query.rows, Storage.lookup_changes, Option.bind_eq_some_iff] at h
    obtain ⟨_, -, hnew⟩ := h
    cases hnew
  | begin | commit | rollback | lockWorkspace | findBookings | findPayment | now | bookedSeats
  | findWorkspace | findBooking | findUser | initializeTransaction | initiateRefund | createEscrow
  | start => cases h

/-- How a query writes a payment. -/
theorem payment_row {new : Payment} (h : (q.rows w db).lookup (.payment id) = some new) :
    (q = .insertPayment new ∧ id = w.id) ∨
    ∃ old, db.payment id = some old ∧
      ((∃ which source target, q = .updatePayments which source target ∧ which.selects id old ∧
        old.status = source ∧ new = { old with status := target }) ∨
      ∃ c, q = .updatePayment id c ∧ new = old.set c) := by
  cases q with
  | insertPayment payment =>
    by_cases hid : Row.payment id = .payment w.id
    · cases hid
      obtain rfl : payment = new := Option.some.inj ((Finmap.lookup_insert _).symm.trans h)
      exact Or.inl ⟨rfl, rfl⟩
    · cases (lookup_single_of_ne hid).symm.trans h
  | insertBooking booking => cases (lookup_single_of_ne Row.noConfusion).symm.trans h
  | updatePayments which source target =>
    rw [Query.rows, Storage.lookup_changes, Option.bind_eq_some_iff] at h
    obtain ⟨old, hold, hnew⟩ := h
    obtain ⟨⟨hwhich, hsource⟩, hset⟩ := Option.ite_none_right_eq_some.1 hnew
    exact Or.inr ⟨old, hold, Or.inl ⟨which, source, target, rfl, hwhich, hsource,
      (Option.some.inj hset).symm⟩⟩
  | updatePayment id' c =>
    rw [Query.rows, Storage.lookup_changes, Option.bind_eq_some_iff] at h
    obtain ⟨old, hold, hnew⟩ := h
    obtain ⟨rfl, hset⟩ := Option.ite_none_right_eq_some.1 hnew
    exact Or.inr ⟨old, hold, Or.inr ⟨c, rfl, (Option.some.inj hset).symm⟩⟩
  | updateBookings | updateBooking | updateUser | updateWorkspace =>
    rw [Query.rows, Storage.lookup_changes, Option.bind_eq_some_iff] at h
    obtain ⟨_, -, hnew⟩ := h
    cases hnew
  | begin | commit | rollback | lockWorkspace | findBookings | findPayment | now | bookedSeats
  | findWorkspace | findBooking | findUser | initializeTransaction | initiateRefund | createEscrow
  | start => cases h

theorem update_eq_some {f : ∀ row, Record row → Option (Record row)} {n : ℕ} :
    s.update t f = some (n, s') ↔ n = (Finmap.keys (Storage.changes (s.view t) f)).card ∧
      (∀ k ∈ Finmap.keys (Storage.changes (s.view t) f), s.Free t k) ∧
      s' = s.put t (Storage.changes (s.view t) f) := by
  simp only [DbServer.update, Option.map_eq_some_iff, Server.write_eq_some, Prod.mk.injEq]
  constructor
  · rintro ⟨_, ⟨hfree, rfl⟩, rfl, rfl⟩
    exact ⟨rfl, hfree, rfl⟩
  · rintro ⟨rfl, hfree, rfl⟩
    exact ⟨_, ⟨hfree, rfl⟩, rfl, rfl⟩

theorem mem_keys_single {row k : Row} {record : Record row} :
    k ∈ Finmap.keys (Finmap.insert row record (∅ : Database)) ↔ k = row := by
  rw [Finmap.mem_keys, Finmap.mem_insert, or_iff_left Finmap.notMem_empty]

theorem insert_eq_some {row : Row} {record : Record row} :
    s.insert t row record = some s' ↔ DbServer.Fresh s t row ∧
      s' = s.put t (Finmap.insert row record ∅) := by
  simp only [DbServer.insert, Option.ite_none_right_eq_some,
    Server.write_eq_some]
  constructor
  · rintro ⟨hfresh, -, rfl⟩
    exact ⟨hfresh, rfl⟩
  · rintro ⟨hfresh, rfl⟩
    refine ⟨hfresh, fun k hk => ?_, rfl⟩
    rw [mem_keys_single.1 hk]
    exact hfresh.2

/-- A new row has an id that no row has. -/
theorem insertBooking_fresh {booking : Booking} {b : Uuid × Booking}
    (h : exec t w s (.insertBooking booking) = some (b, s')) :
    DbServer.Fresh s t (.booking w.id) := by
  obtain ⟨_, hi, -⟩ := Option.map_eq_some_iff.1 h
  exact (insert_eq_some.1 hi).1

theorem insertPayment_fresh {payment : Payment} {b : Uuid × Payment}
    (h : exec t w s (.insertPayment payment) = some (b, s')) :
    DbServer.Fresh s t (.payment w.id) := by
  obtain ⟨_, hi, -⟩ := Option.map_eq_some_iff.1 h
  exact (insert_eq_some.1 hi).1

/-- A payment that a search finds is there, and is one that the search is about. -/
theorem findPayment_some {which : PaymentWhere} {found : Uuid × Payment}
    (h : exec t w s (.findPayment which) = some (some found, s')) :
    (s.view t).payment found.1 = some found.2 ∧ which.selects found.1 found.2 := by
  obtain ⟨_, hf, heq⟩ := Option.map_eq_some_iff.1 h
  cases heq
  cases hrow : w.row with
  | none =>
    rw [hrow, DbServer.findPayment, Option.ite_none_right_eq_some] at hf
    cases hf.2
  | some id =>
    rw [hrow, DbServer.findPayment, Option.bind_eq_some_iff] at hf
    obtain ⟨payment, hpayment, hf⟩ := hf
    obtain ⟨hselects, hf⟩ := Option.ite_none_right_eq_some.1 hf
    cases hf
    exact ⟨hpayment, hselects⟩

/-- A search that finds nothing is about no payment that is there. -/
theorem findPayment_none {which : PaymentWhere} {v : Payment}
    (h : exec t w s (.findPayment which) = some (none, s')) (hv : (s.view t).payment id = some v) :
    ¬ which.selects id v := by
  obtain ⟨_, hf, heq⟩ := Option.map_eq_some_iff.1 h
  cases heq
  cases hrow : w.row with
  | none =>
    rw [hrow, DbServer.findPayment, Option.ite_none_right_eq_some] at hf
    exact of_decide_eq_true (Database.all_iff.1 hf.1 (.payment id) v hv)
  | some id =>
    rw [hrow, DbServer.findPayment, Option.bind_eq_some_iff] at hf
    obtain ⟨payment, hpayment, hf⟩ := hf
    cases (Option.ite_none_right_eq_some.1 hf).2

/-- What a query does to the store. -/
theorem exec_cases (h : exec t w s q = some (a, s')) :
    (q = .begin ∧ s.begin t = some s') ∨ (q = .commit ∧ s.commit t = some s') ∨
    (q = .rollback ∧ s.rollback t = some s') ∨
    (∃ id, q = .lockWorkspace id ∧ s.lock t (.workspace id) = some s') ∨
    (∀ k ∈ Finmap.keys (q.rows w (s.view t)), s.Free t k) ∧ s' = s.put t (q.rows w (s.view t)) := by
  have hread (hrows : q.rows w (s.view t) = ∅) (hs : s' = s) :
      (∀ k ∈ Finmap.keys (q.rows w (s.view t)), s.Free t k) ∧
        s' = s.put t (q.rows w (s.view t)) := by
    rw [hrows, hs, Server.put_empty, Finmap.keys_empty]
    exact ⟨fun k hk => absurd hk (Finset.notMem_empty k), rfl⟩
  cases q with
  | begin =>
    obtain ⟨_, hb, heq⟩ := Option.map_eq_some_iff.1 h
    cases heq
    exact Or.inl ⟨rfl, hb⟩
  | commit =>
    obtain ⟨_, hc, heq⟩ := Option.map_eq_some_iff.1 h
    cases heq
    exact Or.inr (Or.inl ⟨rfl, hc⟩)
  | rollback =>
    obtain ⟨_, hr, heq⟩ := Option.map_eq_some_iff.1 h
    cases heq
    exact Or.inr (Or.inr (Or.inl ⟨rfl, hr⟩))
  | lockWorkspace id =>
    simp only [exec] at h
    split at h
    · obtain ⟨_, hl, heq⟩ := Option.map_eq_some_iff.1 h
      cases heq
      exact Or.inr (Or.inr (Or.inr (Or.inl ⟨id, rfl, hl⟩)))
    · cases h
      exact Or.inr (Or.inr (Or.inr (Or.inr (hread rfl rfl))))
  | findBookings | findPayment =>
    obtain ⟨_, -, heq⟩ := Option.map_eq_some_iff.1 h
    cases heq
    exact Or.inr (Or.inr (Or.inr (Or.inr (hread rfl rfl))))
  | insertBooking | insertPayment =>
    obtain ⟨_, hi, heq⟩ := Option.map_eq_some_iff.1 h
    cases heq
    obtain ⟨⟨-, hfree⟩, rfl⟩ := insert_eq_some.1 hi
    refine Or.inr (Or.inr (Or.inr (Or.inr ⟨fun k hk => ?_, rfl⟩)))
    obtain rfl := mem_keys_single.1 hk
    exact hfree
  | updateBookings | updateBooking | updatePayments | updatePayment | updateUser
  | updateWorkspace =>
    obtain ⟨-, hfree, rfl⟩ := update_eq_some.1 h
    exact Or.inr (Or.inr (Or.inr (Or.inr ⟨hfree, rfl⟩)))
  | now | bookedSeats | findWorkspace | findBooking | findUser | initializeTransaction
  | initiateRefund | createEscrow | start =>
    cases h
    exact Or.inr (Or.inr (Or.inr (Or.inr (hread rfl rfl))))

/-- All but the statements that control transactions and locks. -/
def Query.isPlain : Query → Bool
  | .begin | .commit | .rollback | .lockWorkspace _ => false
  | _ => true

/-- A plain query puts its rows in the store. -/
theorem exec_plain (h : exec t w s q = some (a, s')) (hq : q.isPlain) :
    s' = s.put t (q.rows w (s.view t)) := by
  rcases exec_cases h with ⟨rfl, -⟩ | ⟨rfl, -⟩ | ⟨rfl, -⟩ | ⟨id, rfl, -⟩ | ⟨-, hs⟩
  · cases hq
  · cases hq
  · cases hq
  · cases hq
  · exact hs

/-- A query changes the store as a discipline allows, if the rows that it writes are allowed. -/
theorem exec_change {D : Discipline Record} (h : exec t w s q = some (a, s'))
    (hrows : ∀ k v, (q.rows w (s.view t)).lookup k = some v →
      D.allows (s.locks t) k ((s.view t).lookup k) v) : s.Change D t s' := by
  rcases exec_cases h with ⟨-, hb⟩ | ⟨-, hc⟩ | ⟨-, hr⟩ | ⟨id, -, hl⟩ | ⟨hfree, rfl⟩
  · obtain ⟨hx, rfl⟩ := Server.begin_eq_some.1 hb
    exact .begin hx
  · obtain ⟨x, hx, rfl⟩ := Server.commit_eq_some.1 hc
    exact .commit hx
  · obtain ⟨x, hx, rfl⟩ := Server.rollback_eq_some.1 hr
    exact .rollback hx
  · obtain ⟨hfree, x, hx, rfl⟩ := Server.lock_eq_some.1 hl
    exact .lock hx hfree
  · exact .write hfree hrows

theorem exec_free (h : exec t w s q = some (a, s')) : s.Change Discipline.free t s' :=
  exec_change h fun _ _ _ => trivial

/-- What the session sees after a query. -/
theorem exec_view (h : exec t w s q = some (a, s')) (hq : q ≠ .rollback) (k : Row) :
    (s'.view t).lookup k = ((q.rows w (s.view t)).lookup k).or ((s.view t).lookup k) := by
  rcases exec_cases h with ⟨rfl, hb⟩ | ⟨rfl, hc⟩ | ⟨hr, -⟩ | ⟨id, rfl, hl⟩ | ⟨-, rfl⟩
  · obtain ⟨hx, rfl⟩ := Server.begin_eq_some.1 hb
    rw [DbServer.view, Server.view_begin hx]
    rfl
  · obtain ⟨x, hx, rfl⟩ := Server.commit_eq_some.1 hc
    rw [DbServer.view, Server.view_commit hx]
    rfl
  · exact absurd hr hq
  · obtain ⟨-, x, hx, rfl⟩ := Server.lock_eq_some.1 hl
    rw [DbServer.view, Server.view_lock hx]
    rfl
  · exact Server.lookup_view_put s t _ k

/-- Allowed rows change what the session sees in allowed ways. -/
theorem view_moves {D : Discipline Record} {locked : Finset Row}
    (h : exec t w s q = some (a, s')) (hq : q ≠ .rollback)
    (hrows : ∀ row v, (q.rows w (s.view t)).lookup row = some v →
      D.allows locked row ((s.view t).lookup row) v) (row : Row) :
    D.Moves locked row ((s.view t).lookup row) ((s'.view t).lookup row) := by
  rw [exec_view h hq row]
  cases hrow : (q.rows w (s.view t)).lookup row with
  | none => exact Or.inl rfl
  | some v => exact Or.inr ⟨v, rfl, hrows row v hrow⟩

theorem commit_eq (h : exec t w s .commit = some ((), s')) : s.commit t = some s' := by
  obtain ⟨_, hc, heq⟩ := Option.map_eq_some_iff.1 h
  cases heq
  exact hc

theorem rollback_eq (h : exec t w s .rollback = some ((), s')) : s.rollback t = some s' := by
  obtain ⟨_, hr, heq⟩ := Option.map_eq_some_iff.1 h
  cases heq
  exact hr

theorem commit_active (h : exec t w s .commit = some ((), s')) : s'.active.lookup t = none := by
  obtain ⟨x, hx, rfl⟩ := Server.commit_eq_some.1 (commit_eq h)
  exact Finmap.lookup_erase _ _

theorem rollback_active (h : exec t w s .rollback = some ((), s')) :
    s'.active.lookup t = none := by
  obtain ⟨x, hx, rfl⟩ := Server.rollback_eq_some.1 (rollback_eq h)
  exact Finmap.lookup_erase _ _

theorem rollback_view (h : exec t w s .rollback = some ((), s')) : s'.view t = s.stored := by
  obtain ⟨x, hx, rfl⟩ := Server.rollback_eq_some.1 (rollback_eq h)
  exact Server.view_rollback

/-- Transactions are opened by `begin`. -/
theorem exec_inactive (h : exec t w s q = some (a, s')) (hq : q ≠ .begin)
    (hx : s.active.lookup t = none) : s'.active.lookup t = none := by
  rcases exec_cases h with ⟨rfl, -⟩ | ⟨rfl, -⟩ | ⟨rfl, -⟩ | ⟨id, rfl, hl⟩ | ⟨-, rfl⟩
  · exact absurd rfl hq
  · exact commit_active h
  · exact rollback_active h
  · obtain ⟨-, x, hx', rfl⟩ := Server.lock_eq_some.1 hl
    cases hx'.symm.trans hx
  · rw [Server.put_none hx]
    exact hx

/-- What the session has written after a query, while its transaction is open. -/
theorem exec_written {x : Transaction Record} (h : exec t w s q = some (a, s'))
    (hx : s'.active.lookup t = some x) :
    (q = .begin ∧ x.written = ∅) ∨
    ∃ x₀, s.active.lookup t = some x₀ ∧ s'.stored = s.stored ∧ ∀ k, x.written.lookup k =
      ((q.rows w (s.view t)).lookup k).or (x₀.written.lookup k) := by
  rcases exec_cases h with ⟨hq, hb⟩ | ⟨rfl, -⟩ | ⟨rfl, -⟩ | ⟨_, rfl, hl⟩ | ⟨-, rfl⟩
  · obtain ⟨-, rfl⟩ := Server.begin_eq_some.1 hb
    rw [Finmap.lookup_insert, Option.some.injEq] at hx
    subst hx
    exact Or.inl ⟨hq, rfl⟩
  · cases (commit_active h).symm.trans hx
  · cases (rollback_active h).symm.trans hx
  · obtain ⟨-, x₀, hx₀, rfl⟩ := Server.lock_eq_some.1 hl
    rw [Finmap.lookup_insert, Option.some.injEq] at hx
    subst hx
    exact Or.inr ⟨x₀, hx₀, rfl, fun k => rfl⟩
  · cases hx₀ : s.active.lookup t with
    | none =>
      rw [Server.put_none hx₀] at hx
      cases hx₀.symm.trans hx
    | some x₀ =>
      rw [Server.put_active hx₀] at hx ⊢
      rw [Finmap.lookup_insert, Option.some.injEq] at hx
      subst hx
      exact Or.inr ⟨x₀, rfl, rfl, Storage.lookup_union _ _⟩

/-- A committed row changes when a transaction that has written it commits, or by a query outside a
    transaction. -/
theorem stored_cases (h : exec t w s q = some (a, s')) (k : Row) :
    s'.stored.lookup k = s.stored.lookup k ∨
    (∃ x v, s.active.lookup t = some x ∧ x.written.lookup k = some v ∧
      s'.stored.lookup k = some v) ∨
    ∃ v, s.active.lookup t = none ∧ (q.rows w (s.view t)).lookup k = some v ∧
      s'.stored.lookup k = some v := by
  rcases exec_cases h with ⟨-, hb⟩ | ⟨-, hc⟩ | ⟨-, hr⟩ | ⟨_, -, hl⟩ | ⟨-, rfl⟩
  · obtain ⟨-, rfl⟩ := Server.begin_eq_some.1 hb
    exact Or.inl rfl
  · obtain ⟨x, hx, rfl⟩ := Server.commit_eq_some.1 hc
    rw [Storage.lookup_union]
    cases hw : x.written.lookup k with
    | none => exact Or.inl rfl
    | some v => exact Or.inr (Or.inl ⟨x, v, hx, hw, rfl⟩)
  · obtain ⟨x, -, rfl⟩ := Server.rollback_eq_some.1 hr
    exact Or.inl rfl
  · obtain ⟨-, x, -, rfl⟩ := Server.lock_eq_some.1 hl
    exact Or.inl rfl
  · cases hx : s.active.lookup t with
    | some x =>
      rw [Server.put_active hx]
      exact Or.inl rfl
    | none =>
      rw [Server.put_none hx, Storage.lookup_union]
      cases hw : (q.rows w (s.view t)).lookup k with
      | none => exact Or.inl rfl
      | some v => exact Or.inr (Or.inr ⟨v, rfl, rfl, rfl⟩)

/-- Rows are committed or written before a query, or by it. -/
theorem holds_of_exec (h : exec t w s q = some (a, s')) {k : Row} {v : Record k}
    (hv : s'.Holds k v) : s.Holds k v ∨ (q.rows w (s.view t)).lookup k = some v := by
  rcases hv with hv | ⟨t', x, hx, hv⟩
  · rcases exec_cases h with ⟨-, hb⟩ | ⟨-, hc⟩ | ⟨-, hr⟩ | ⟨_, -, hl⟩ | ⟨-, rfl⟩
    · obtain ⟨-, rfl⟩ := Server.begin_eq_some.1 hb
      exact Or.inl (Or.inl hv)
    · obtain ⟨x, hx, rfl⟩ := Server.commit_eq_some.1 hc
      rw [Storage.lookup_union] at hv
      exact Or.inl (Server.holds_of_view ((Server.lookup_view hx k).trans hv))
    · obtain ⟨x, -, rfl⟩ := Server.rollback_eq_some.1 hr
      exact Or.inl (Or.inl hv)
    · obtain ⟨-, x, -, rfl⟩ := Server.lock_eq_some.1 hl
      exact Or.inl (Or.inl hv)
    · cases hx : s.active.lookup t with
      | some x =>
        rw [Server.put_active hx] at hv
        exact Or.inl (Or.inl hv)
      | none =>
        rw [Server.put_none hx, Storage.lookup_union, Option.or_eq_some_iff] at hv
        exact hv.symm.imp_left fun hv => Or.inl hv.2
  · by_cases ht : t' = t
    · subst ht
      rcases exec_written h hx with ⟨-, hempty⟩ | ⟨x₀, hx₀, -, hwritten⟩
      · rw [hempty] at hv
        cases hv
      · rw [hwritten, Option.or_eq_some_iff] at hv
        exact hv.symm.imp_left fun hv => Or.inr ⟨t', x₀, hx₀, hv.2⟩
    · rw [(exec_free h).active ht] at hx
      exact Or.inl (Or.inr ⟨t', x, hx, hv⟩)

/-- The locks of the session after a query. -/
theorem exec_locks (h : exec t w s q = some (a, s')) :
    s'.locks t = ∅ ∨ s'.locks t = s.locks t ∨
      ∃ id, q = .lockWorkspace id ∧ s'.locks t = insert (.workspace id) (s.locks t) := by
  rcases exec_cases h with ⟨rfl, hb⟩ | ⟨rfl, hc⟩ | ⟨rfl, hr⟩ | ⟨id, rfl, hl⟩ | ⟨-, rfl⟩
  · obtain ⟨hx, rfl⟩ := Server.begin_eq_some.1 hb
    exact Or.inl (by rw [Server.locks, Finmap.lookup_insert, Option.elim_some])
  · obtain ⟨x, hx, rfl⟩ := Server.commit_eq_some.1 hc
    exact Or.inl (Server.locks_none (Finmap.lookup_erase _ _))
  · obtain ⟨x, hx, rfl⟩ := Server.rollback_eq_some.1 hr
    exact Or.inl (Server.locks_none (Finmap.lookup_erase _ _))
  · obtain ⟨-, x, hx, rfl⟩ := Server.lock_eq_some.1 hl
    refine Or.inr (Or.inr ⟨id, rfl, ?_⟩)
    rw [Server.locks_some hx, Server.locks, Finmap.lookup_insert, Option.elim_some]
  · exact Or.inr (Or.inl (Server.locks_put s t _))

/-! ## Programs and protocols -/

section
variable {Q α β : Type} {P : Protocol Answer Q} {q : Q} {e : HttpError}
  {post : Q → Except HttpError β → Prop}

theorem Meets.transaction {x : Proc β} {mid : Q → Except HttpError β → Prop}
    (hbegin : P.permits q .begin) (h : Meets P (P.after q .begin ()) x mid)
    (hok : ∀ q a, mid q (.ok a) → P.permits q .commit ∧ post (P.after q .commit ()) (.ok a))
    (herr : ∀ q e, mid q (.error e) →
      P.permits q .rollback ∧ post (P.after q .rollback ()) (.error e)) :
    Meets P q (Backend.transaction x) post :=
  Meets.query hbegin fun _ => Meets.attempt h fun q r hr => match r with
    | .ok a => Meets.query (hok q a hr).1 fun _ => (hok q a hr).2
    | .error e => Meets.query (herr q e hr).1 fun _ => (herr q e hr).2

end

/-! ### Asides -/

/-- Queries about no workspace, booking or payment, and outside the control of transactions. -/
def Query.isAside : Query → Bool
  | .now | .findUser _ | .updateUser _ _ | .createEscrow _ _ _ _ | .start _ => true
  | _ => false

/-- Queries about the time and the users. -/
def Query.isPersonal : Query → Bool
  | .now | .findUser _ | .updateUser _ _ => true
  | _ => false

/-- The protocol lets asides pass at the stage. -/
def Quiet {Q : Type} (P : Protocol Answer Q) (q : Q) : Prop :=
  ∀ op, op.isAside → P.permits q op ∧ ∀ a, P.after q op a = q

section
variable {Q β : Type} {P : Protocol Answer Q} {q : Q} {id : Uuid}

theorem Quiet.personal (hP : Quiet P q) : Passes P q Query.isPersonal := by
  intro op hop
  cases op <;> first | exact hP _ rfl | cases hop

theorem saveUser_only (held : User) : (saveUser id held).Only Query.isPersonal := by
  refine (Process.Only.query rfl).bind fun stored => ?_
  cases stored with
  | none => trivial
  | some stored => exact Process.Only.ite ((Process.Only.query rfl).bind fun _ => trivial) trivial

theorem activateMembershipIfNeeded_only (userId : Option Uuid) :
    (activateMembershipIfNeeded userId).Only Query.isPersonal := by
  cases userId with
  | none => trivial
  | some userId =>
    refine (Process.Only.query rfl).bind fun user => ?_
    cases user with
    | none => trivial
    | some user =>
      exact Process.Only.ite ((Process.Only.query rfl).bind fun now => saveUser_only _) trivial

theorem activateMembershipIfNeeded_quiet (hP : Passes P q Query.isPersonal)
    (userId : Option Uuid) :
    Meets P q (activateMembershipIfNeeded userId) fun q' _ => q' = q :=
  (activateMembershipIfNeeded_only userId).meets hP

theorem notifyPayer_only {queries : Query → Bool} {email : Task} {notification : Uuid → Task}
    (hemail : queries (.start email))
    (hnotification : ∀ userId, queries (.start (notification userId))) (payment : Payment) :
    (notifyPayer email notification payment).Only queries := by
  refine (Process.Only.query hemail).bind fun _ => ?_
  split
  · exact Process.Only.query (hnotification _)
  · trivial

theorem notifyPayer_quiet {queries : Query → Bool} (hP : Passes P q queries) {email : Task}
    {notification : Uuid → Task} (hemail : queries (.start email))
    (hnotification : ∀ userId, queries (.start (notification userId))) (payment : Payment) :
    Meets P q (notifyPayer email notification payment) fun q' _ => q' = q :=
  (notifyPayer_only hemail hnotification payment).meets hP

theorem checkWebhookAge_only (cfg : Config) (requestTime : Option String) :
    (checkWebhookAge cfg requestTime).Only Query.isPersonal := by
  unfold checkWebhookAge
  split
  · trivial
  · refine Process.Only.okOr.bind fun deliveredAt => (Process.Only.query rfl).bind fun now => ?_
    exact Process.Only.failIf.bind fun _ => Process.Only.failIf

theorem checkWebhookAge_quiet (hP : Passes P q Query.isPersonal) (cfg : Config)
    (requestTime : Option String) :
    Meets P q (checkWebhookAge cfg requestTime) fun q' _ => q' = q :=
  (checkWebhookAge_only cfg requestTime).meets hP

end

end Backend
