/-
  Members see nothing of each other: what they are answered depends on their own rows, those without
  an owner being public, whatever requests that concern others run at the same time.
-/
import NovaLabs.Lib.Isolation
import NovaLabs.Lib.Selections
import NovaLabs.MemberViews.Operations

namespace MemberViews

open Lib Process
open Backend (Uuid Time UserRole)

variable {X : Type}

/-! ## What a member may see -/

/-- Whose row it is. -/
def Table.owner : (t : Table) → Uuid → t.Row X → Option Uuid
  | .users, id, _ => some id
  | .workspaces, _, _ => none
  | .bookings, _, b => Booking.userId b
  | .payments, _, p => Payment.userId p
  | .invoices, _, i => some (Invoice.userId i)
  | .notifications, _, n => some n.userId
  | .workspaceLogs, _, log => some (WorkspaceLog.userId log)

/-- Workspaces are public, and each user has their own rows. -/
def Table.visible (t : Table) (u id : Uuid) (row : t.Row X) : Bool :=
  t = .workspaces ∨ t.owner id row = some u

/-- The states differ at most in what the user does not see, of which the second may have less. -/
structure Alike (u : Uuid) (s s' : Shared X) : Prop where
  rows : ∀ t, (s.db t).Agree (s'.db t) (t.visible u)
  fewer : ∀ t id, (s.db t).lookup id = none → (s'.db t).lookup id = none
  rooms : (s.rooms.filter fun r => r.2 = u) = s'.rooms.filter fun r => r.2 = u
  delivered : (s.delivered.filter fun d => d.userId = u) = s'.delivered.filter fun d => d.userId = u

/-- The user's payments are for stored bookings of the user's. -/
def PaidForOwn (u : Uuid) (db : Database X) : Prop :=
  ∀ id p, (db .payments).lookup id = some p → p.userId = some u →
    ∃ b, (db .bookings).lookup p.bookingId = some b ∧ b.userId = some u

instance (u : Uuid) (db : Database X) : Decidable (PaidForOwn u db) :=
  decidable_of_iff (Storage.All (db .payments) fun _ p => p.userId = some u →
    ∃ b ∈ (db .bookings).lookup p.bookingId, b.userId = some u) <|
    Storage.all_iff.trans <| forall_congr' fun _ => forall_congr' fun _ =>
      imp_congr_right fun _ => decide_eq_true_iff

/-- No row of the user's passes to another user. -/
def KeepsOwner (u : Uuid) (db : Database X) : Query X → Prop
  | .put t id row => ∀ old ∈ (db t).lookup id, t.owner id old = some u →
    ∀ v ∈ t.owner id row, v = u
  | _ => True

instance (u : Uuid) (db : Database X) (q : Query X) : Decidable (KeepsOwner u db q) :=
  match q with
  | .put t id _ => inferInstanceAs (Decidable (∀ old ∈ (db t).lookup id, _))
  | .count _ _ | .page _ _ _ _ _ | .all _ _ | .one _ _ _ | .sumAmount _ | .insertNotification _
  | .markRead _ _ | .markAllRead _ | .emit _ _ | .join _ _ | .leave _ | .erase _ _ =>
    inferInstanceAs (Decidable True)

/-- What the services keep to. -/
structure Fair (u : Uuid) (_w : World) (s : Shared X) (q : Query X) : Prop where
  paid : PaidForOwn u s.db
  owners : KeepsOwner u s.db q

instance (u : Uuid) (w : World) (s : Shared X) (q : Query X) : Decidable (Fair u w s q) :=
  decidable_of_iff (PaidForOwn u s.db ∧ KeepsOwner u s.db q)
    ⟨fun h => ⟨h.1, h.2⟩, fun h => ⟨h.paid, h.owners⟩⟩

/-- The requests that a user makes as a member, those that erase rows or write rows which are not
    another user's, and those by which clients leave. -/
def Request.concerns (u : Uuid) : Request X → Bool
  | .findBookings _ v role | .findBooking _ v role | .findPayments _ v role | .findPayment _ v role
  | .findInvoices _ v role | .findInvoice _ v role => v = u ∧ ¬ isAdmin role
  | .findNotifications v _ | .markRead _ v | .markAllRead v | .countActiveBookings v | .sumSpent v
  | .countInvoices v | .lastCheckIn v | .getMemberBookings v _ _ | .getMemberPayments v _ _
  | .getMemberInvoices v _ _ | .getMemberCheckIns v _ | .getActiveCheckIn v _ | .exportUserData v
  | .connect _ v => v = u
  | .createNotification input => input.userId = u
  | .disconnect _ | .erase _ _ => true
  | .put t id row => ∀ v ∈ t.owner id row, v = u

/-- The queries that a user does not notice. -/
def Query.quiet (u : Uuid) : Query X → Bool
  | .count _ _ | .page _ _ _ _ _ | .all _ _ | .one _ _ _ | .sumAmount _ => true
  | .insertNotification input => input.userId ≠ u
  | .markRead _ v | .markAllRead v | .emit v _ | .join _ v => v ≠ u
  | .leave _ | .erase _ _ => false
  | .put t id row => ∃ v ∈ t.owner id row, v ≠ u

/-! ## States alike -/

section
variable {u : Uuid} {s s' : Shared X} {t : Table} {selects : Uuid → t.Row X → Bool}

theorem Alike.agree (h : Alike u s s') (hsel : ∀ id row, selects id row → t.visible u id row) :
    (s.db t).Agree (s'.db t) selects := (h.rows t).mono hsel

theorem visible_bookings {id : Uuid} {b : Booking X} :
    Table.bookings.visible u id b ↔ b.userId = some u := by
  simp [Table.visible, Table.owner]

theorem visible_payments {id : Uuid} {p : Payment X} :
    Table.payments.visible u id p ↔ p.userId = some u := by
  simp [Table.visible, Table.owner]

theorem Alike.entry_user (h : Alike u s s') : s.db.entry .users u = s'.db.entry .users u := by
  rw [Database.entry, (h.rows .users).lookup_eq fun _ => by simp [Table.visible, Table.owner],
    Database.entry]

theorem Alike.entry_workspace (h : Alike u s s') (id : Uuid) :
    s.db.entry .workspaces id = s'.db.entry .workspaces id := by
  rw [Database.entry, (h.rows .workspaces).lookup_eq fun _ => by simp [Table.visible],
    Database.entry]

/-- What a row of the user's is linked to is the user's, or public. -/
theorem link_user {id v : Uuid} {row : t.Row X} (hv : t.visible u id row)
    (hlink : t.link row .user = some v) : v = u := by
  cases t with
  | bookings => exact Option.some.inj (hlink.symm.trans (visible_bookings.1 hv))
  | payments => exact Option.some.inj (hlink.symm.trans (visible_payments.1 hv))
  | _ => cases hlink

theorem link_booking {db : Database X} (hpaid : PaidForOwn u db) {id v : Uuid} {row : t.Row X}
    (hrow : (db t).lookup id = some row) (hv : t.visible u id row)
    (hlink : t.link row .booking = some v) :
    ∃ b, (db .bookings).lookup v = some b ∧ b.userId = some u := by
  cases t with
  | payments =>
    cases hlink
    exact hpaid id row hrow (visible_payments.1 hv)
  | _ => cases hlink

theorem Alike.join_eq (h : Alike u s s') (hpaid : PaidForOwn u s.db) {id : Uuid} {row : t.Row X}
    (hrow : (s.db t).lookup id = some row) (hv : t.visible u id row) (relations : List Relation) :
    s.db.join t relations id row = s'.db.join t relations id row := by
  have huser : (t.link row .user).bind (s.db.entry .users) =
      (t.link row .user).bind (s'.db.entry .users) := by
    refine Option.bind_congr fun v hlink => ?_
    rw [link_user hv hlink, h.entry_user]
  have hworkspace : s.db.entry .workspaces = s'.db.entry .workspaces := funext h.entry_workspace
  have hbooking : (t.link row .booking).bind (s.db.entry .bookings) =
      (t.link row .booking).bind (s'.db.entry .bookings) := by
    refine Option.bind_congr fun v hlink => ?_
    obtain ⟨b, hb, hbu⟩ := link_booking hpaid hrow hv hlink
    rw [Database.entry, hb, Database.entry, ((h.rows .bookings) v b (visible_bookings.2 hbu)).1 hb]
  simp only [Database.join, huser, hworkspace, hbooking]

/-- A table is written in both. -/
theorem Alike.set (h : Alike u s s') {rows rows' : Store Uuid (t.Row X)}
    (hrows : rows.Agree rows' (t.visible u))
    (hfewer : ∀ id, rows.lookup id = none → rows'.lookup id = none) :
    Alike u (s.setDb (s.db.set t rows)) (s'.setDb (s'.db.set t rows')) := by
  refine ⟨fun t' => ?_, fun t' id => ?_, h.rooms, h.delivered⟩
  · by_cases ht : t' = t
    · subst ht
      simpa only [Shared.setDb, Database.set, Function.update_self] using hrows
    · simpa only [Shared.setDb, Database.set, Function.update_of_ne ht] using h.rows t'
  · by_cases ht : t' = t
    · subst ht
      simpa only [Shared.setDb, Database.set, Function.update_self] using hfewer id
    · simpa only [Shared.setDb, Database.set, Function.update_of_ne ht] using h.fewer t' id

/-- A table is written in the first only. -/
theorem Alike.set_left (h : Alike u s s') {rows : Store Uuid (t.Row X)}
    (hrows : rows.Agree (s'.db t) (t.visible u))
    (hfewer : ∀ id, rows.lookup id = none → (s.db t).lookup id = none) :
    Alike u (s.setDb (s.db.set t rows)) s' := by
  have hset := h.set hrows fun id hid => h.fewer t id (hfewer id hid)
  rwa [show s'.db.set t (s'.db t) = s'.db from Function.update_eq_self t s'.db] at hset

end

/-! ## Steps -/

section
variable {u : Uuid} {t : Table} {α β : Type}

/-- The program goes on in the same way from states alike. -/
abbrev Steady (u : Uuid) (x : Proc X α) : Prop :=
  Follows services.exec (Fair u) (Alike u) x x

theorem steady_count {selects : Uuid → t.Row X → Bool}
    (hsel : ∀ id row, selects id row → t.visible u id row) :
    Steady u (ask (.count t selects)) := by
  refine Follows.query fun _ w s s' a s₁ _ hs hexec => ?_
  cases hexec
  exact ⟨w, s', by rw [(hs.agree hsel).count_eq]; rfl, hs⟩

theorem steady_sumAmount {selects : Uuid → Payment X → Bool}
    (hsel : ∀ id p, selects id p → Table.payments.visible u id p) :
    Steady u (ask (.sumAmount selects)) := by
  refine Follows.query fun _ w s s' a s₁ _ hs hexec => ?_
  cases hexec
  exact ⟨w, s', by rw [(hs.agree (t := .payments) hsel).total_eq]; rfl, hs⟩

theorem steady_all {selects : Uuid → t.Row X → Bool}
    (hsel : ∀ id row, selects id row → t.visible u id row) :
    Steady u (ask (.all t selects)) := by
  refine Follows.query fun _ w s s' a s₁ _ hs hexec => ?_
  obtain ⟨found, hfound, heq⟩ := Option.map_eq_some_iff.1 hexec
  cases heq
  rw [(hs.agree hsel).findMany_eq] at hfound
  exact ⟨w, s', Option.map_eq_some_iff.2 ⟨_, hfound, rfl⟩, hs⟩

theorem steady_page {selects : Uuid → t.Row X → Bool} {relations : List Relation} {skip take : ℕ}
    (hsel : ∀ id row, selects id row → t.visible u id row) :
    Steady u (ask (.page t relations selects skip take)) := by
  refine Follows.query fun _ w s s' a s₁ hfair hs hexec => ?_
  obtain ⟨found, hfound, hexec⟩ := Option.bind_eq_some_iff.1 hexec
  obtain ⟨hsorted, heq⟩ := Option.ite_none_right_eq_some.1 hexec
  cases heq
  have hjoin : ((found.drop skip).take take).map (fun e => s.db.join t relations e.1 e.2) =
      ((found.drop skip).take take).map fun e => s'.db.join t relations e.1 e.2 := by
    refine List.map_congr_left fun e he => ?_
    obtain ⟨hrow, hv⟩ := Store.mem_findMany (k := e.1) (v := e.2) hfound |>.1
      (List.mem_of_mem_drop (List.mem_of_mem_take he))
    exact hs.join_eq hfair.paid hrow (hsel _ _ hv) relations
  rw [(hs.agree hsel).findMany_eq] at hfound
  exact ⟨w, s', Option.bind_eq_some_iff.2 ⟨found, hfound, by rw [if_pos hsorted, hjoin]⟩, hs⟩

theorem steady_one {selects : Uuid → t.Row X → Bool} {relations : List Relation}
    (hsel : ∀ id row, selects id row → t.visible u id row) :
    Steady u (ask (.one t relations selects)) := by
  refine Follows.query fun _ w s s' a s₁ hfair hs hexec => ?_
  obtain ⟨found, hfound, heq⟩ := Option.map_eq_some_iff.1 hexec
  cases heq
  have hjoin : found.map (fun e => s.db.join t relations e.1 e.2) =
      found.map fun e => s'.db.join t relations e.1 e.2 := by
    refine Option.map_congr fun e he => ?_
    cases he
    obtain ⟨hrow, hv⟩ := Store.findOne_some hfound
    exact hs.join_eq hfair.paid hrow (hsel _ _ hv) relations
  rw [(hs.agree hsel).findOne_eq] at hfound
  exact ⟨w, s', Option.map_eq_some_iff.2 ⟨found, hfound, by rw [hjoin]⟩, hs⟩

theorem lookup_markRead {db : Database X} {selects : Uuid → Notification X → Bool} (id : Uuid) :
    (Storage.changes (db .notifications) (fun id n =>
      if selects id n then some { n with isRead := true } else none) ∪ db .notifications).lookup id =
    ((db .notifications).lookup id).map fun n =>
      if selects id n then { n with isRead := true } else n := by
  rw [Store.lookup_changes_union]
  refine Option.map_congr fun n _ => ?_
  split_ifs <;> rfl

theorem visible_markRead {id : Uuid} {n : Notification X} {c : Bool} :
    Table.notifications.visible u id (if c then { n with isRead := true } else n) =
      Table.notifications.visible u id n := by
  cases c <;> rfl

/-- Notifications are marked in both. -/
theorem Alike.markRead {s s' : Shared X} (h : Alike u s s')
    (selects : Uuid → Notification X → Bool) :
    Alike u (s.setDb (s.db.markRead selects)) (s'.setDb (s'.db.markRead selects)) := by
  refine h.set ?_ fun id hid => ?_
  · exact (h.rows .notifications).map lookup_markRead lookup_markRead fun _ _ => visible_markRead
  · rw [lookup_markRead, Option.map_eq_none_iff] at hid ⊢
    exact h.fewer .notifications id hid

/-- Notifications of others are marked. -/
theorem Alike.markRead_left {s s' : Shared X} (h : Alike u s s')
    {selects : Uuid → Notification X → Bool} (hsel : ∀ id n, selects id n → n.userId ≠ u) :
    Alike u (s.setDb (s.db.markRead selects)) s' := by
  refine h.set_left ?_ fun id hid => ?_
  · refine (h.rows .notifications).map_left lookup_markRead (fun _ _ => visible_markRead)
      fun id n hv => if_neg fun hs => hsel id n hs ?_
    simpa [Table.visible, Table.owner] using hv
  · rwa [lookup_markRead, Option.map_eq_none_iff] at hid

/-- A row is written in both. -/
theorem Alike.put {s s' : Shared X} (h : Alike u s s') (id : Uuid) (row : t.Row X) :
    Alike u (s.setDb (s.db.set t ((s.db t).insert id row)))
      (s'.setDb (s'.db.set t ((s'.db t).insert id row))) := by
  refine h.set ((h.rows t).insert id row) fun id' hid => ?_
  rw [Store.lookup_insert_ite] at hid ⊢
  split_ifs at hid ⊢
  exact h.fewer t id' hid

/-- A row of another user is written, over no row that is visible. -/
theorem Alike.put_left {s s' : Shared X} (h : Alike u s s') {id : Uuid} {row : t.Row X}
    (hnew : ¬ t.visible u id row)
    (hold : ∀ old, (s.db t).lookup id = some old → ¬ t.visible u id old) :
    Alike u (s.setDb (s.db.set t ((s.db t).insert id row))) s' := by
  refine h.set_left ((h.rows t).insert_left hnew hold) fun id' hid => ?_
  rw [Store.lookup_insert_ite] at hid
  split_ifs at hid
  exact hid

theorem Alike.erase {s s' : Shared X} (h : Alike u s s') (t : Table) (id : Uuid) :
    Alike u (s.setDb (s.db.set t ((s.db t).erase id)))
      (s'.setDb (s'.db.set t ((s'.db t).erase id))) := by
  refine h.set ((h.rows t).erase id) fun id' hid => ?_
  rw [Store.lookup_erase_ite] at hid ⊢
  split_ifs at hid ⊢ with hne
  · rfl
  · exact h.fewer t id' hid

/-- Clients of the user are sent the same. -/
theorem Alike.emit {s s' : Shared X} (h : Alike u s s') (push : Push) :
    Alike u (s.emit u push) (s'.emit u push) := by
  refine ⟨h.rows, h.fewer, h.rooms, ?_⟩
  rw [Shared.emit, Shared.emit, List.filter_append, List.filter_append, h.delivered, h.rooms]

theorem Alike.emit_left {s s' : Shared X} (h : Alike u s s') {v : Uuid} (hv : v ≠ u) (push : Push) :
    Alike u (s.emit v push) s' := by
  refine ⟨h.rows, h.fewer, h.rooms, ?_⟩
  rw [Shared.emit, List.filter_append, h.delivered, List.append_right_eq_self,
    List.filter_eq_nil_iff]
  intro d hd
  obtain ⟨r, -, rfl⟩ := List.mem_map.1 hd
  simpa using hv

theorem Alike.join {s s' : Shared X} (h : Alike u s s') (client : String) (v : Uuid) :
    Alike u { s with rooms := s.rooms ++ [(client, v)] }
      { s' with rooms := s'.rooms ++ [(client, v)] } := by
  refine ⟨h.rows, h.fewer, ?_, h.delivered⟩
  rw [List.filter_append, List.filter_append, h.rooms]

theorem Alike.join_left {s s' : Shared X} (h : Alike u s s') (client : String) {v : Uuid}
    (hv : v ≠ u) : Alike u { s with rooms := s.rooms ++ [(client, v)] } s' := by
  refine ⟨h.rows, h.fewer, ?_, h.delivered⟩
  rw [List.filter_append, h.rooms, List.filter_cons_of_neg (by simpa using hv), List.filter_nil,
    List.append_nil]

theorem Alike.leave {s s' : Shared X} (h : Alike u s s') (client : String) :
    Alike u { s with rooms := s.rooms.filter fun r => r.1 ≠ client }
      { s' with rooms := s'.rooms.filter fun r => r.1 ≠ client } := by
  refine ⟨h.rows, h.fewer, ?_, h.delivered⟩
  rw [List.filter_comm, h.rooms, List.filter_comm]

/-- A statement that writes, with the same answer in all states. -/
theorem steady_write {q : Query X} {a : Answer q} {f : Shared X → Shared X}
    (hexec : ∀ w s, exec w s q = some (a, f s))
    (h : ∀ s s', Alike u s s' → Alike u (f s) (f s')) : Steady u (ask q) := by
  refine Follows.query fun _ w s s' a' s₁ _ hs hx => ?_
  cases (hexec w s).symm.trans hx
  exact ⟨w, f s', hexec w s', h s s' hs⟩

theorem steady_insertNotification (input : CreateNotificationInput X) :
    Steady u (ask (.insertNotification input)) := by
  refine Follows.query fun _ w s s' a s₁ _ hs hexec => ?_
  obtain ⟨hfresh, heq⟩ := Option.ite_none_right_eq_some.1 hexec
  cases heq
  exact ⟨w, _, if_pos (hs.fewer .notifications w.id hfresh),
    hs.put (t := .notifications) w.id { input with isRead := false, createdAt := w.now }⟩

end

/-! ## The member's requests -/

section
variable {u : Uuid} {role : UserRole}

theorem BookingQuery.visible {query : BookingQuery} (hrole : ¬ isAdmin role) {id : Uuid}
    {b : Booking X} (h : query.selects u role b) : Table.bookings.visible u id b := by
  have hown := (of_decide_eq_true h).1
  rw [if_pos hrole] at hown
  exact visible_bookings.2 (of_decide_eq_true hown)

theorem PaymentQuery.visible {query : PaymentQuery} (hrole : ¬ isAdmin role) {id : Uuid}
    {p : Payment X} (h : query.selects u role p) : Table.payments.visible u id p :=
  visible_payments.2 ((of_decide_eq_true h).1 hrole)

theorem visible_invoices {id : Uuid} {i : Invoice X} :
    Table.invoices.visible u id i ↔ i.userId = u := by
  simp [Table.visible, Table.owner]

theorem visible_notifications {id : Uuid} {n : Notification X} :
    Table.notifications.visible u id n ↔ n.userId = u := by
  simp [Table.visible, Table.owner]

theorem visible_workspaceLogs {id : Uuid} {log : WorkspaceLog X} :
    Table.workspaceLogs.visible u id log ↔ log.userId = u := by
  simp [Table.visible, Table.owner]

theorem visible_users {id : Uuid} {user : User X} : Table.users.visible u id user ↔ id = u := by
  simp [Table.visible, Table.owner]

theorem InvoiceQuery.visible {query : InvoiceQuery} (hrole : ¬ isAdmin role) {id : Uuid}
    {i : Invoice X} (h : query.selects u role i) : Table.invoices.visible u id i :=
  visible_invoices.2 ((of_decide_eq_true h).1 hrole)

theorem steady_findBookings (query : BookingQuery) (hrole : ¬ isAdmin role) :
    Steady (X := X) u (findBookings query u role) :=
  (steady_count fun _ _ h => query.visible hrole h).seq fun _ =>
    (steady_page fun _ _ h => query.visible hrole h).seq fun _ => Follows.value _

theorem steady_findPayments (query : PaymentQuery) (hrole : ¬ isAdmin role) :
    Steady (X := X) u (findPayments query u role) :=
  (steady_page fun _ _ h => query.visible hrole h).seq fun _ =>
    (steady_count fun _ _ h => query.visible hrole h).seq fun _ => Follows.value _

theorem steady_findPayment (paymentId : Uuid) (hrole : ¬ isAdmin role) :
    Steady (X := X) u (findPayment paymentId u role) :=
  (steady_one fun _ _ h => visible_payments.2 ((of_decide_eq_true h).2 hrole)).seq fun _ =>
    Follows.okOr

theorem steady_findInvoices (query : InvoiceQuery) (hrole : ¬ isAdmin role) :
    Steady (X := X) u (findInvoices query u role) :=
  (steady_page fun _ _ h => query.visible hrole h).seq fun _ =>
    (steady_count fun _ _ h => query.visible hrole h).seq fun _ => Follows.value _

theorem steady_findInvoice (invoiceId : Uuid) (hrole : ¬ isAdmin role) :
    Steady (X := X) u (findInvoice invoiceId u role) :=
  (steady_one fun _ _ h => visible_invoices.2 ((of_decide_eq_true h).2 hrole)).seq fun _ =>
    Follows.okOr

theorem steady_findNotifications (query : NotificationQuery) :
    Steady (X := X) u (findNotifications u query) :=
  (steady_page fun _ _ h => visible_notifications.2 (of_decide_eq_true h).1).seq fun _ =>
    (steady_count fun _ _ h => visible_notifications.2 (of_decide_eq_true h).1).seq fun _ =>
      (steady_count fun _ _ h => visible_notifications.2 (of_decide_eq_true h).1).seq fun _ =>
        Follows.value _

theorem steady_memberPage {t : Table} {mine : t.Row X → Bool} (page limit : ℕ)
    (hmine : ∀ id row, mine row → t.visible u id row) : Steady u (memberPage t mine page limit) :=
  (steady_page fun id row h => hmine id row h).seq fun _ =>
    (steady_count fun id row h => hmine id row h).seq fun _ => Follows.value _

theorem steady_lastCheckIn : Steady (X := X) u (lastCheckIn u) :=
  (steady_page fun _ _ h => visible_workspaceLogs.2 (of_decide_eq_true h)).seq fun _ =>
    Follows.value _

theorem steady_exportUserData : Steady (X := X) u (exportUserData u) := by
  refine (steady_one fun _ _ h => visible_users.2 (of_decide_eq_true h)).seq fun _ =>
    Follows.okOr.seq fun _ => ?_
  refine (steady_all fun _ _ h => visible_bookings.2 (of_decide_eq_true h)).seq fun _ => ?_
  refine (steady_all fun _ _ h => visible_payments.2 (of_decide_eq_true h)).seq fun _ => ?_
  exact (steady_all fun _ _ h => visible_workspaceLogs.2 (of_decide_eq_true h)).seq fun _ =>
    Follows.value _

theorem steady_createNotification {input : CreateNotificationInput X} (hu : input.userId = u) :
    Steady u (createNotification input) := by
  subst hu
  refine (steady_insertNotification input).seq fun saved => ?_
  exact (steady_write (fun _ _ => rfl) fun _ _ hs => hs.emit _).seq fun _ => Follows.value _

/-- A booking of another user is answered like one that is not stored. -/
theorem findBooking_foreign {bookingId : Uuid} {found : Option (Joined X .bookings)}
    (hrole : ¬ isAdmin role) (hfound : ∀ b ∈ found, b.row.userId ≠ some u) :
    (do
      let booking ← okOr found (.notFound s!"Booking \"{bookingId}\" not found")
      failIf (¬ isAdmin role ∧ booking.row.userId ≠ some u)
        (.notFound s!"Booking \"{bookingId}\" not found")
      return booking : Proc X (Joined X .bookings)) =
    throw (.notFound s!"Booking \"{bookingId}\" not found") := by
  cases found with
  | none => rfl
  | some b =>
    have hforeign : ¬ isAdmin role ∧ b.row.userId ≠ some u := ⟨hrole, hfound b rfl⟩
    change (failIf _ _ >>= fun _ => pure b : Proc X (Joined X .bookings)) = _
    rw [failIf, if_pos hforeign]
    rfl

theorem steady_findBooking (bookingId : Uuid) (hrole : ¬ isAdmin role) :
    Steady (X := X) u (findBooking bookingId u role) := by
  refine Follows.ask fun _ w s s' a s₁ hfair hs hexec => ?_
  obtain ⟨found, hfound, heq⟩ := Option.map_eq_some_iff.1 hexec
  cases heq
  obtain ⟨choice, found', hfound'⟩ := (s'.db .bookings).exists_findOne fun id _ => id = bookingId
  refine ⟨{ w with row := choice }, _, s', Option.map_eq_some_iff.2 ⟨found', hfound', rfl⟩, hs, ?_⟩
  obtain rfl := Store.findOne_key hfound
  obtain rfl := Store.findOne_key hfound'
  by_cases hown : ∃ b, (s.db .bookings).lookup bookingId = some b ∧ b.userId = some u
  · obtain ⟨b, hb, hbu⟩ := hown
    have hv : Table.bookings.visible u bookingId b := visible_bookings.2 hbu
    rw [hb, ((hs.rows .bookings) bookingId b hv).1 hb, Option.map_some, Option.map_some,
      Option.map_some, hs.join_eq hfair.paid hb hv]
    exact Follows.okOr.seq fun _ => Follows.failIf.seq fun _ => Follows.value _
  · -- where the first has no booking of the user's, neither has the second
    rw [findBooking_foreign hrole, findBooking_foreign hrole]
    · exact Follows.error _
    · intro j hj hju
      obtain ⟨b, hb, rfl⟩ := by simpa using hj
      exact hown ⟨b, ((hs.rows .bookings) bookingId b (visible_bookings.2 hju)).2 hb, hju⟩
    · intro j hj hju
      obtain ⟨b, hb, rfl⟩ := by simpa using hj
      exact hown ⟨b, hb, hju⟩

theorem steady_program {r : Request X} (h : r.concerns u) : Steady u (program r) := by
  cases r with
  | findBookings query v role =>
    obtain ⟨rfl, hrole⟩ := of_decide_eq_true h
    exact (steady_findBookings query hrole).map _
  | findBooking id v role =>
    obtain ⟨rfl, hrole⟩ := of_decide_eq_true h
    exact (steady_findBooking id hrole).map _
  | findPayments query v role =>
    obtain ⟨rfl, hrole⟩ := of_decide_eq_true h
    exact (steady_findPayments query hrole).map _
  | findPayment id v role =>
    obtain ⟨rfl, hrole⟩ := of_decide_eq_true h
    exact (steady_findPayment id hrole).map _
  | findInvoices query v role =>
    obtain ⟨rfl, hrole⟩ := of_decide_eq_true h
    exact (steady_findInvoices query hrole).map _
  | findInvoice id v role =>
    obtain ⟨rfl, hrole⟩ := of_decide_eq_true h
    exact (steady_findInvoice id hrole).map _
  | findNotifications v query =>
    obtain rfl := of_decide_eq_true h
    exact (steady_findNotifications query).map _
  | markRead id v =>
    exact (steady_write (fun _ _ => rfl) fun _ _ hs => hs.markRead _).map _
  | markAllRead v =>
    exact (steady_write (fun _ _ => rfl) fun _ _ hs => hs.markRead _).map _
  | countActiveBookings v =>
    obtain rfl := of_decide_eq_true h
    exact (steady_count fun _ _ hb => visible_bookings.2 (of_decide_eq_true hb).1).map _
  | sumSpent v =>
    obtain rfl := of_decide_eq_true h
    exact (steady_sumAmount fun _ _ hp => visible_payments.2 (of_decide_eq_true hp).1).map _
  | countInvoices v =>
    obtain rfl := of_decide_eq_true h
    exact (steady_count fun _ _ hi => visible_invoices.2 (of_decide_eq_true hi)).map _
  | lastCheckIn v =>
    obtain rfl := of_decide_eq_true h
    exact steady_lastCheckIn.map _
  | getMemberBookings v page limit =>
    obtain rfl := of_decide_eq_true h
    exact (steady_memberPage page limit fun _ _ hb =>
      visible_bookings.2 (of_decide_eq_true hb)).map _
  | getMemberPayments v page limit =>
    obtain rfl := of_decide_eq_true h
    exact (steady_memberPage page limit fun _ _ hp =>
      visible_payments.2 (of_decide_eq_true hp)).map _
  | getMemberInvoices v page limit =>
    obtain rfl := of_decide_eq_true h
    exact (steady_memberPage page limit fun _ _ hi =>
      visible_invoices.2 (of_decide_eq_true hi)).map _
  | getMemberCheckIns v limit =>
    obtain rfl := of_decide_eq_true h
    exact (steady_page fun _ _ hl => visible_workspaceLogs.2 (of_decide_eq_true hl)).map _
  | getActiveCheckIn v workspaceId =>
    obtain rfl := of_decide_eq_true h
    exact (steady_one fun _ _ hl => visible_workspaceLogs.2 (of_decide_eq_true hl).1).map _
  | exportUserData v =>
    obtain rfl := of_decide_eq_true h
    exact steady_exportUserData.map _
  | createNotification input => exact (steady_createNotification (of_decide_eq_true h)).map _
  | connect client v =>
    exact (steady_write (fun _ _ => rfl) fun _ _ hs => hs.join client v).map _
  | disconnect client =>
    exact (steady_write (fun _ _ => rfl) fun _ _ hs => hs.leave client).map _
  | put t id row => exact (steady_write (fun _ _ => rfl) fun _ _ hs => hs.put id row).map _
  | erase t id => exact (steady_write (fun _ _ => rfl) fun _ _ hs => hs.erase t id).map _

end

/-! ## The requests of others -/

section
variable {u : Uuid} {t : Table}

theorem only_findBooking (bookingId v : Uuid) (role : UserRole) :
    (findBooking (X := X) bookingId v role).Only (Query.quiet u) :=
  (Only.query rfl).bind fun _ => Only.okOr.bind fun _ => Only.failIf.bind fun _ => Only.value _

theorem only_findNotifications (v : Uuid) (query : NotificationQuery) :
    (findNotifications (X := X) v query).Only (Query.quiet u) :=
  (Only.query rfl).bind fun _ => (Only.query rfl).bind fun _ => (Only.query rfl).bind fun _ =>
    Only.value _

theorem only_exportUserData (v : Uuid) :
    (exportUserData (X := X) v).Only (Query.quiet u) :=
  (Only.query rfl).bind fun _ => Only.okOr.bind fun _ => (Only.query rfl).bind fun _ =>
    (Only.query rfl).bind fun _ => (Only.query rfl).bind fun _ => Only.value _

theorem only_memberPage (mine : t.Row X → Bool) (page limit : ℕ) :
    (memberPage t mine page limit).Only (Query.quiet u) :=
  (Only.query rfl).bind fun _ => (Only.query rfl).bind fun _ => Only.value _

theorem only_createNotification {input : CreateNotificationInput X} (hu : input.userId ≠ u) :
    (createNotification input).Only (Query.quiet u) := by
  have hquiet := decide_eq_true hu
  exact Only.bind (Only.query hquiet) fun _ => Only.bind (Only.query hquiet) fun _ => Only.value _

theorem only_program {r : Request X} (h : r.concerns u = false) :
    (program r).Only (Query.quiet u) := by
  cases r with
  | findBookings query v role | findPayments query v role | findInvoices query v role =>
    exact ((Only.query rfl).bind fun _ => (Only.query rfl).bind fun _ => Only.value _).map _
  | findBooking id v role => exact (only_findBooking id v role).map _
  | findPayment id v role | findInvoice id v role =>
    exact ((Only.query rfl).bind fun _ => Only.okOr).map _
  | findNotifications v query => exact (only_findNotifications v query).map _
  | markRead _ v | markAllRead v | connect _ v =>
    refine Only.map (Only.query ?_) _
    exact decide_eq_true (of_decide_eq_false h)
  | countActiveBookings v | sumSpent v | countInvoices v | getMemberCheckIns v limit
  | getActiveCheckIn v workspaceId => exact (Only.query rfl).map _
  | lastCheckIn v => exact ((Only.query rfl).bind fun _ => Only.value _).map _
  | getMemberBookings v page limit | getMemberPayments v page limit
  | getMemberInvoices v page limit => exact (only_memberPage _ page limit).map _
  | exportUserData v => exact (only_exportUserData v).map _
  | createNotification input =>
    exact (only_createNotification (of_decide_eq_false h)).map _
  | disconnect _ | erase _ _ => cases h
  | put t id row =>
    have hother := of_decide_eq_false h
    push Not at hother
    refine Only.map (Only.query ?_) _
    exact decide_eq_true hother

/-- Queries of others are not noticed. -/
theorem Alike.quiet {s s' s₁ : Shared X} {w : World} {q : Query X} {a : Answer q}
    (hs : Alike u s s') (hq : q.quiet u) (hfair : Fair u w s q)
    (hexec : exec w s q = some (a, s₁)) : Alike u s₁ s' := by
  cases q with
  | count _ _ | sumAmount _ =>
    cases hexec
    exact hs
  | page t relations selects skip take =>
    obtain ⟨found, -, hexec⟩ := Option.bind_eq_some_iff.1 hexec
    cases (Option.ite_none_right_eq_some.1 hexec).2
    exact hs
  | all _ _ | one _ _ _ =>
    obtain ⟨found, -, heq⟩ := Option.map_eq_some_iff.1 hexec
    cases heq
    exact hs
  | insertNotification input =>
    obtain ⟨hfresh, heq⟩ := Option.ite_none_right_eq_some.1 hexec
    cases heq
    refine hs.put_left (t := .notifications)
      (fun hv => of_decide_eq_true hq (visible_notifications.1 hv)) fun old hold => ?_
    rw [hfresh] at hold
    cases hold
  | markRead id v =>
    cases hexec
    exact hs.markRead_left fun _ n hn => (of_decide_eq_true hn).2 ▸ of_decide_eq_true hq
  | markAllRead v =>
    cases hexec
    exact hs.markRead_left fun _ n hn => (of_decide_eq_true hn).1 ▸ of_decide_eq_true hq
  | emit v push =>
    cases hexec
    exact hs.emit_left (of_decide_eq_true hq) push
  | join client v =>
    cases hexec
    exact hs.join_left client (of_decide_eq_true hq)
  | leave _ | erase _ _ => cases hq
  | put t id row =>
    cases hexec
    obtain ⟨v, hv, hne⟩ := of_decide_eq_true hq
    have hown {row' : t.Row X} (hvis : t.visible u id row') : t.owner id row' = some u := by
      rcases of_decide_eq_true hvis with rfl | hown
      · cases hv
      · exact hown
    refine hs.put_left (fun hvis => ?_) fun old hold hvis => ?_
    · exact hne (Option.some.inj (hv.symm.trans (hown hvis)))
    · exact hne (hfair.owners old hold (hown hvis) v hv)

end

/-! ## Runs -/

/-- **Members see nothing of each other.**  Beside any other requests, those that concern a member
    end as in a run of these alone, from any state in which the member sees the same and no further
    row is stored, provided that the services keep to what is `Fair`. -/
theorem members_isolated {u : Uuid} {s s' : Shared X}
    {tr : List (Event (Pool Answer (Shared X) HttpError (Response X)) (Turn (Request X) World))}
    {p : Pool Answer (Shared X) HttpError (Response X)}
    (h : Run services.Steps { shared := s } tr p)
    (hfair : ∀ e ∈ tr, OnQuery (fun _ w q => Fair u w e.pre.shared q) e) (hs : Alike u s s') :
    ∃ tr' p', Run services.Steps { shared := s' } tr' p' ∧
      requests tr' = (requests tr).filter (fun r => r.2.concerns u) ∧ Alike u p.shared p'.shared ∧
      ∀ t r x, (t, r) ∈ requests tr → r.concerns u → p.Ended t x → p'.Ended t x :=
  System.isolated (fun _ => steady_program) (fun _ => only_program)
    (fun _ _ _ _ _ _ _ hq hf ha hexec => ha.quiet hq hf hexec) h hfair hs

/-! ### An example -/

/-- What a member sees. -/
def ownRows : Shared Unit where
  db
    | .users => Finmap.insert "u" ⟨"Ada", "L", "e", ()⟩ ∅
    | .workspaces => Finmap.insert "w" ⟨"Attic", .hotDesk, ()⟩ ∅
    | .bookings => Finmap.insert "b" ⟨some "u", "w", .confirmed, 1, 2, 0, ()⟩ ∅
    | .payments => Finmap.insert "p" ⟨"b", some "u", 5, .paystack, .success, 1, ()⟩ ∅
    | .invoices | .notifications | .workspaceLogs => ∅

def othersBooking : Booking Unit := ⟨some "v", "w", .pending, 3, 4, 2, ()⟩

def refused (e : HttpError) : Option (Proc X (Response X)) → Bool
  | some (.done (.error e')) => e' = e
  | _ => false

theorem ended_of_refused {p : Pool Answer (Shared X) HttpError (Response X)} {t : ℕ} {e : HttpError}
    (h : refused e (p.procs t)) : p.Ended t (.error e) := by
  unfold refused at h
  split at h
  · next e' he' => rwa [of_decide_eq_true h] at he'
  · cases h

/-- The member looks for a booking of another user, who is notified meanwhile, and lists payments. -/
theorem members_isolated_lookup : ∃ tr p,
    Run services.Steps
      { shared := ownRows.setDb (ownRows.db.set .bookings
          ((ownRows.db .bookings).insert "c" othersBooking)) } tr p ∧
    p.Ended 0 (.error (.notFound "Booking \"c\" not found")) ∧
    ∃ tr' p', Run services.Steps { shared := ownRows } tr' p' ∧
      p'.Ended 0 (.error (.notFound "Booking \"c\" not found")) ∧
      requests tr' = (requests tr).filter fun r => r.2.concerns "u" := by
  have hplay : (services.play { shared := ownRows.setDb (ownRows.db.set .bookings
        ((ownRows.db .bookings).insert "c" othersBooking)) }
      [.call 0 (.findBooking "c" "u" .user),
        .call 1 (.createNotification ⟨"v", .general, "Hello", "!", none⟩), .step 1 { id := "n" },
        .step 0 { row := some "c" }, .step 1 {}, .call 2 (.findPayments {} "u" .user),
        .step 2 { rows := ["p"] }, .step 2 {}]).any fun x =>
      refused (.notFound "Booking \"c\" not found") (x.2.procs 0) ∧
      (∀ r ∈ requests x.1, r.1 = 0 → r.2.concerns "u") ∧ (requests x.1).any (·.1 = 0) ∧
      ∀ e ∈ x.1, OnQuery (fun _ w q => Fair "u" w e.pre.shared q) e := by
    decide +kernel
  obtain ⟨⟨tr, p⟩, hplay, hfacts⟩ := (Option.any_eq_true _ _).1 hplay
  obtain ⟨hrefused, hconcerns, hcalled, hfair⟩ := of_decide_eq_true hfacts
  have hrun := System.run_play hplay
  have hended := ended_of_refused hrefused
  have hhidden (id : Uuid) (row : Booking Unit) (hu : row.userId = some "v") :
      ¬ Table.bookings.visible "u" id row := by
    rw [visible_bookings, hu]
    decide
  have halike : Alike "u" (ownRows.setDb (ownRows.db.set .bookings
      ((ownRows.db .bookings).insert "c" othersBooking))) ownRows := by
    refine Alike.put_left ⟨fun _ _ _ _ => Iff.rfl, fun _ _ h => h, rfl, rfl⟩
      (hhidden "c" othersBooking rfl) fun old hold => ?_
    cases hold
  obtain ⟨tr', p', hrun', hrequests, -, hsame⟩ := members_isolated hrun hfair halike
  obtain ⟨⟨t, r⟩, hr, ht⟩ := List.any_eq_true.1 hcalled
  obtain rfl := of_decide_eq_true ht
  exact ⟨tr, p, hrun, hended, tr', p', hrun', hsame 0 r _ hr (hconcerns _ hr rfl) hended, hrequests⟩

end MemberViews
