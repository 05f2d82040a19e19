/-
  To whom the e-mails about a payment go.

  The search for the payer of a guest booking has null as its id, and finds any user.  Hence the
  e-mails go to the payer, whatever other users there are, exactly if the payment has a user.
-/
import NovaLabs.PaymentMail.Operations

namespace PaymentMail

open Lib Process
open Backend (Uuid Time GuestInfo Booking)

/-! ## The law -/

/-- The e-mail of who has paid: of the user of the payment, or of the guest of its booking. -/
def Payer (db : Database) (payment : Payment) (email : String) : Prop :=
  match payment.userId with
  | some id => ∃ user, db.users.lookup id = some user ∧ user.email = email
  | none => ∃ booking guest, db.bookings.lookup payment.bookingId = some booking ∧
      booking.guestInfo = some guest ∧ guest.email = email

/-- The task may queue an e-mail to the address. -/
def Receives (cfg : Config) (db : Database) (paymentId : Uuid) (payment : Payment) (task : Task)
    (email : String) : Prop :=
  ∃ r s, Alone exec (fun _ => True) { db } (task.program cfg paymentId payment) r s ∧
    ∃ mail ∈ s.queued, mail.recipient = email

/-- The databases differ in users other than that with the id. -/
structure Agree (userId : Option Uuid) (db db' : Database) : Prop where
  users : ∀ id ∈ userId, db'.users.lookup id = db.users.lookup id
  bookings : db'.bookings = db.bookings
  payments : db'.payments = db.payments
  invoices : db'.invoices = db.invoices
  workspaces : db'.workspaces = db.workspaces

/-- E-mails about the payment go to the payer only, and unrelated users do not matter. -/
structure ReachesPayer (cfg : Config) (db : Database) (paymentId : Uuid) (payment : Payment) :
    Prop where
  addressed : ∀ task email, Receives cfg db paymentId payment task email → Payer db payment email
  independent : ∀ db', Agree payment.userId db db' → ∀ task email,
    Receives cfg db paymentId payment task email ↔ Receives cfg db' paymentId payment task email

section
variable {cfg : Config} {W : World → Prop} {db db' : Database} {s s' : Server} {α : Type}
  {paymentId id : Uuid} {stored payment : Payment} {email : String} {userId o : Option Uuid}

theorem Payer.congr (h : Payer db stored email) (huser : stored.userId = payment.userId)
    (hbooking : stored.bookingId = payment.bookingId) : Payer db payment email := by
  unfold Payer at h ⊢
  rwa [← huser, ← hbooking]

/-! ## What is found -/

/-- What a search by the id may find. -/
def Finds (db : Database) : Option Uuid → Option User → Prop
  | some id, found => db.users.lookup id = found
  | none, some user => ∃ id, db.users.lookup id = some user
  | none, none => ∀ id, db.users.lookup id = none

theorem findUser_finds {w : World} {found : Option User}
    (h : exec w s (.findUser (.ofNullable o)) = some (found, s')) :
    s' = s ∧ Finds s.db o found := by
  obtain ⟨hit, hfind, heq⟩ := Option.map_eq_some_iff.1 h
  cases heq
  refine ⟨rfl, ?_⟩
  cases hit with
  | none =>
    have hnone {id : Uuid} {user : User} (huser : s.db.users.lookup id = some user) :
        ¬ ∀ id' ∈ o, id' = id := by
      simpa using Store.findOne_none hfind huser
    cases o with
    | some id =>
      refine Option.eq_none_iff_forall_ne_some.2 fun user huser => hnone huser ?_
      rintro _ ⟨⟩
      rfl
    | none =>
      exact fun id => Option.eq_none_iff_forall_ne_some.2 fun user huser => hnone huser nofun
  | some found =>
    obtain ⟨huser, hselects⟩ := Store.findOne_some hfind
    cases o with
    | some id =>
      obtain rfl : id = found.1 := by simpa using hselects
      exact huser
    | none => exact ⟨found.1, huser⟩

theorem exists_findUser {found : Option User} (h : Finds s.db o found) :
    ∃ w, exec w s (.findUser (.ofNullable o)) = some (found, s) := by
  have hfind {hit : Option (Uuid × User)} {row : Option Uuid}
      (h : s.db.users.findOne (fun key _ => (Condition.ofNullable o).admits (some key)) row =
        some hit) : exec { row } s (.findUser (.ofNullable o)) = some (hit.map Prod.snd, s) :=
    Option.map_eq_some_iff.2 ⟨hit, h, rfl⟩
  cases found with
  | some user =>
    have hrow : ∃ id, s.db.users.lookup id = some user ∧ ∀ id' ∈ o, id' = id := by
      cases o with
      | some id =>
        refine ⟨id, h, ?_⟩
        rintro _ ⟨⟩
        rfl
      | none => exact h.imp fun id hid => ⟨hid, nofun⟩
    obtain ⟨id, huser, hid⟩ := hrow
    exact ⟨_, hfind (Store.findOne_choice huser (by simpa using hid))⟩
  | none =>
    refine ⟨_, hfind (Store.findOne_nothing fun id user huser hselects => ?_)⟩
    cases o with
    | some id' =>
      obtain rfl : id' = id := by simpa using hselects
      cases huser.symm.trans h
    | none => cases huser.symm.trans (h id)

/-! ## The tasks -/

/-- The e-mail that a task queues, if it queues one. -/
def Queues (s s' : Server) (P : Mail → Prop) : Prop :=
  s'.queued = s.queued ∨ ∃ mail, P mail ∧ s'.queued = mail :: s.queued

theorem Queues.imp {P Q : Mail → Prop} (h : Queues s s' P) (hPQ : ∀ mail, P mail → Q mail) :
    Queues s s' Q := Or.imp_right (fun ⟨mail, hmail, hqueued⟩ => ⟨mail, hPQ mail hmail, hqueued⟩) h

theorem Queues.of_queued {s₁ : Server} {P : Mail → Prop} (h : Queues s₁ s' P)
    (hqueued : s₁.queued = s.queued) : Queues s s' P := by
  rwa [Queues, hqueued] at h

theorem Queues.of_mem {P : Mail → Prop} {mail : Mail} (h : Queues { db } s' P)
    (hmail : mail ∈ s'.queued) : P mail := by
  rcases h with heq | ⟨mail', hmail', heq⟩
  · rw [heq] at hmail
    cases hmail
  · rw [heq] at hmail
    obtain rfl := List.mem_singleton.1 hmail
    exact hmail'

theorem sendTo_alone {recipient : Option (String × String)} {data : MailData}
    {r : Except String Unit} (h : Alone exec W s (sendTo recipient data) r s') :
    Queues s s' fun mail => recipient = some (mail.recipient, mail.fullName) := by
  cases recipient with
  | some recipient =>
    obtain ⟨_, _, _, -, hexec, hend⟩ := Alone.query h
    obtain ⟨-, rfl⟩ := hend.value
    rw [exec, Option.some.injEq] at hexec
    split_ifs at hexec
    · cases hexec
      exact Or.inl rfl
    · cases hexec
      exact Or.inr ⟨_, rfl, rfl⟩
  | none =>
    obtain ⟨-, rfl⟩ := Alone.value h
    exact Or.inl rfl

theorem paymentSuccessEmail_alone {r : Except String Unit}
    (h : Alone exec W s (paymentSuccessEmail cfg payment) r s') :
    Queues s s' fun mail => ∃ user, Finds s.db payment.userId user ∧
      successRecipient user (s.db.bookings.lookup payment.bookingId) =
        some (mail.recipient, mail.fullName) := by
  obtain ⟨_, user, _, -, hexec, hrest⟩ := Alone.query h
  obtain ⟨rfl, hfinds⟩ := findUser_finds hexec
  obtain ⟨_, _, _, -, ⟨⟩, hmail⟩ := Alone.query hrest
  exact (sendTo_alone hmail).imp fun _ hmail => ⟨user, hfinds, hmail⟩

/-- A user that is found by an id is the payer. -/
theorem Finds.payer {user : User} (h : Finds db (some id) (some user))
    (huserId : payment.userId = some id) : Payer db payment user.email := by
  unfold Payer
  rw [huserId]
  exact ⟨user, h, rfl⟩

theorem failedRecipient_alone {r : Except String (Option (String × String))}
    (h : Alone exec W s (failedRecipient payment) r s') :
    s' = s ∧ ∃ recipient, r = .ok recipient ∧
      ∀ email name, recipient = some (email, name) → Payer s.db payment email := by
  unfold failedRecipient at h
  cases huserId : payment.userId with
  | some userId =>
    rw [huserId] at h
    obtain ⟨_, found, _, -, hexec, hend⟩ := Alone.query h
    obtain ⟨rfl, hfinds⟩ := findUser_finds (o := some userId) hexec
    obtain ⟨rfl, rfl⟩ := hend.value
    refine ⟨rfl, _, rfl, fun email name heq => ?_⟩
    obtain ⟨user, rfl, huser⟩ := Option.map_eq_some_iff.1 heq
    cases huser
    exact hfinds.payer huserId
  | none =>
    rw [huserId] at h
    obtain ⟨_, bk, _, -, ⟨⟩, hend⟩ := Alone.query h
    obtain ⟨rfl, rfl⟩ := hend.value
    refine ⟨rfl, _, rfl, fun email name heq => ?_⟩
    obtain ⟨guest, hguest, heq⟩ := Option.map_eq_some_iff.1 heq
    obtain ⟨hguest, -⟩ := Option.filter_eq_some_iff.1 hguest
    obtain ⟨booking, hbooking, hguest⟩ := Option.bind_eq_some_iff.1 hguest
    cases heq
    unfold Payer
    rw [huserId]
    exact ⟨booking, guest, hbooking, hguest, rfl⟩

theorem paymentFailedEmail_alone {r : Except String Unit}
    (h : Alone exec W s (paymentFailedEmail paymentId payment) r s') :
    Queues s s' fun mail => Payer s.db payment mail.recipient := by
  rcases Alone.seq h with ⟨recipient, s₁, hrecipient, hmail⟩ | ⟨e, -, hrecipient⟩
  · obtain ⟨rfl, _, ⟨⟩, hpayer⟩ := failedRecipient_alone hrecipient
    exact (sendTo_alone hmail).imp fun mail hmail => hpayer _ _ hmail
  · obtain ⟨-, _, ⟨⟩, -⟩ := failedRecipient_alone hrecipient

theorem invoiceReadyEmail_alone {invoice : Invoice} {user : User} {r : Except String Unit}
    (h : Alone exec W s (invoiceReadyEmail cfg invoice user) r s') :
    Queues s s' fun mail => mail.recipient = user.email := by
  obtain ⟨_, made, _, -, ⟨⟩, hmail⟩ := Alone.query h
  split at hmail
  · exact (sendTo_alone hmail).imp fun mail hmail => (Prod.mk.inj (Option.some.inj hmail)).1.symm
  · obtain ⟨-, rfl⟩ := hmail.value
    exact Or.inl rfl

theorem insertInvoice_exec {w : World} {invoice : Invoice} {saved : Bool}
    (h : exec w s (.insertInvoice invoice) = some (saved, s')) :
    s'.queued = s.queued ∧ (saved → ∃ id, invoice.userId = some id) := by
  rw [exec] at h
  split_ifs at h with hfails hid
  · cases h
    exact ⟨rfl, nofun⟩
  · cases h
    exact ⟨rfl, fun _ => Option.ne_none_iff_exists'.1 (not_or.1 hfails).1⟩

theorem findInvoice_exec {w : World} {existing : Option Invoice}
    (h : exec w s (.findInvoice id) = some (existing, s')) : s' = s := by
  obtain ⟨_, -, heq⟩ := Option.map_eq_some_iff.1 h
  exact (Prod.mk.inj heq).2.symm

/-- No invoice is stored for a guest, so that none is sent. -/
theorem issueInvoice_alone {booking : Option Booking} {user : Option User}
    {workspace : Option Workspace} {r : Except String Invoice}
    (hfinds : Finds s.db payment.userId user)
    (h : Alone exec W s (issueInvoice cfg paymentId payment booking user workspace) r s') :
    Queues s s' fun mail => Payer s.db payment mail.recipient := by
  obtain ⟨_, number, _, -, hnumber, hrest⟩ := Alone.query h
  cases hnumber
  obtain ⟨_, saved, s₁, -, hexec, hrest⟩ := Alone.query hrest
  obtain ⟨hqueued, hstored⟩ := insertInvoice_exec hexec
  rcases hrest.failIf with ⟨-, -, rfl⟩ | ⟨hsaved, hrest⟩
  · exact Or.inl hqueued
  · obtain ⟨id, huserId⟩ := hstored (not_not.1 hsaved)
    cases user with
    | none =>
      obtain ⟨-, rfl⟩ := hrest.value
      exact Or.inl hqueued
    | some user =>
      have hsent : Queues s₁ s' fun mail => mail.recipient = user.email := by
        rcases hrest.seq with ⟨_, _, hmail, hend⟩ | ⟨_, -, hmail⟩
        · obtain ⟨-, rfl⟩ := hend.value
          exact invoiceReadyEmail_alone hmail
        · exact invoiceReadyEmail_alone hmail
      have huserId : payment.userId = some id := huserId
      rw [huserId] at hfinds
      exact (hsent.of_queued hqueued).imp fun mail hmail => hmail ▸ hfinds.payer huserId

theorem generateForPayment_alone {r : Except String Invoice}
    (hpayment : s.db.payments.lookup paymentId = some payment)
    (h : Alone exec W s (generateForPayment cfg paymentId) r s') :
    Queues s s' fun mail => Payer s.db payment mail.recipient := by
  obtain ⟨_, existing, s₁, -, hexec, hrest⟩ := Alone.query h
  obtain rfl := findInvoice_exec hexec
  split at hrest
  · obtain ⟨-, rfl⟩ := hrest.value
    exact Or.inl rfl
  · obtain ⟨_, _, _, -, ⟨⟩, hrest⟩ := Alone.query hrest
    rw [hpayment] at hrest
    obtain ⟨⟨⟩, -, -⟩ | ⟨_, ⟨⟩, hrest⟩ := hrest.okOr
    obtain ⟨_, _, _, -, ⟨⟩, hrest⟩ := Alone.query hrest
    obtain ⟨_, user, _, -, hexec, hrest⟩ := Alone.query hrest
    obtain ⟨rfl, hfinds⟩ := findUser_finds hexec
    split at hrest
    · obtain ⟨_, _, _, -, ⟨⟩, hrest⟩ := Alone.query hrest
      exact issueInvoice_alone hfinds hrest
    · exact issueInvoice_alone hfinds hrest

/-! ## Unrelated users -/

theorem Agree.symm (h : Agree userId db db') : Agree userId db' db where
  users id hid := (h.users id hid).symm
  bookings := h.bookings.symm
  payments := h.payments.symm
  invoices := h.invoices.symm
  workspaces := h.workspaces.symm

/-- The query finds no user but that with the id. -/
def Query.onlyUser (id : Uuid) : Query → Bool
  | .findUser (.equal id') => id' = id
  | .findUser .isNull | .findUser .null => false
  | _ => true

structure Alike (id : Uuid) (s t : Server) : Prop where
  agree : Agree (some id) s.db t.db
  queued : t.queued = s.queued

/-- Queries that find no other user are answered alike, whatever other users there are. -/
theorem Alike.exec {t : Server} {w : World} {q : Query} {a : Answer q} (hq : q.onlyUser id)
    (h : Alike id s t) (hexec : exec w s q = some (a, s')) :
    ∃ w' t', True ∧ exec w' t q = some (a, t') ∧ Alike id s' t' := by
  cases q with
  | findUser condition =>
    cases condition with
    | equal id' =>
      obtain rfl : id' = id := of_decide_eq_true hq
      obtain ⟨rfl, hfinds⟩ := findUser_finds (o := some id') hexec
      obtain ⟨w', hw'⟩ := exists_findUser (o := some id')
        ((h.agree.users id' rfl).trans hfinds)
      exact ⟨w', t, trivial, hw', h⟩
    | isNull => cases hq
    | null => cases hq
  | findBooking id' =>
    cases hexec
    exact ⟨w, t, trivial, by rw [PaymentMail.exec, h.agree.bookings], h⟩
  | findPayment id' =>
    cases hexec
    exact ⟨w, t, trivial, by rw [PaymentMail.exec, h.agree.payments], h⟩
  | findInvoice paymentId =>
    obtain ⟨o, hfind, heq⟩ := Option.map_eq_some_iff.1 hexec
    cases heq
    exact ⟨w, t, trivial, Option.map_eq_some_iff.2 ⟨o, h.agree.invoices ▸ hfind, rfl⟩, h⟩
  | findWorkspace id' =>
    cases hexec
    exact ⟨w, t, trivial, by rw [PaymentMail.exec, h.agree.workspaces], h⟩
  | nextval =>
    cases hexec
    exact ⟨w, t, trivial, rfl, h⟩
  | insertInvoice invoice =>
    rw [PaymentMail.exec] at hexec
    split_ifs at hexec with hfails hid
    · cases hexec
      exact ⟨w, t, trivial, if_pos hfails, h⟩
    · cases hexec
      refine ⟨w, _, trivial, (if_neg hfails).trans (if_pos (h.agree.invoices ▸ hid)), ?_, h.queued⟩
      exact { h.agree with invoices := congrArg (·.insert w.id invoice) h.agree.invoices }
  | generatePdf invoice =>
    cases hexec
    exact ⟨w, t, trivial, rfl, h⟩
  | send mail =>
    rw [PaymentMail.exec, Option.some.injEq] at hexec
    split_ifs at hexec with hfails
    · cases hexec
      exact ⟨w, t, trivial, congrArg some (if_pos hfails), h⟩
    · cases hexec
      exact ⟨w, _, trivial, congrArg some (if_neg hfails), h.agree, congrArg (mail :: ·) h.queued⟩

theorem sendTo_onlyUser (recipient : Option (String × String)) (data : MailData) :
    (sendTo recipient data).Only (Query.onlyUser id) := by
  cases recipient with
  | some recipient => exact .bind (.query rfl) fun _ => trivial
  | none => trivial

theorem findUser_onlyUser (huserId : payment.userId = some id) :
    (ask (.findUser (.ofNullable payment.userId))).Only (Query.onlyUser id) := by
  rw [huserId]
  exact .query (decide_eq_true rfl)

theorem paymentSuccessEmail_onlyUser (huserId : payment.userId = some id) :
    (paymentSuccessEmail cfg payment).Only (Query.onlyUser id) :=
  .bind (findUser_onlyUser huserId) fun _ => .bind (.query rfl) fun _ => sendTo_onlyUser _ _

theorem paymentFailedEmail_onlyUser (huserId : payment.userId = some id) :
    (paymentFailedEmail paymentId payment).Only (Query.onlyUser id) := by
  refine .bind ?_ fun recipient => sendTo_onlyUser _ _
  unfold failedRecipient
  rw [huserId]
  exact .bind (.query (decide_eq_true rfl)) fun _ => trivial

theorem issueInvoice_onlyUser (booking : Option Booking) (user : Option User)
    (workspace : Option Workspace) :
    (issueInvoice cfg paymentId payment booking user workspace).Only (Query.onlyUser id) := by
  refine .bind (.query rfl) fun number => .bind (.query rfl) fun saved => .bind .failIf fun _ => ?_
  cases user with
  | some user =>
    refine .bind (.bind (.query rfl) fun _ => ?_) fun _ => trivial
    exact .ite (sendTo_onlyUser _ _) trivial
  | none => trivial

theorem Alike.alone {t : Server} {x : Proc α} {r : Except String α} (hst : Alike id s t)
    (hx : x.Only (Query.onlyUser id)) (h : Alone PaymentMail.exec (fun _ => True) s x r s') :
    ∃ t', Alone PaymentMail.exec (fun _ => True) t x r t' ∧ Alike id s' t' :=
  Alone.simulate hx (fun _ _ _ _ _ _ hq hst _ hexec => hst.exec hq hexec) hst h

/-- Which user the invoice is for, is known when the payment has been found. -/
theorem generateForPayment_alike {t : Server} {r : Except String Invoice}
    (huserId : payment.userId = some id) (hpayment : s.db.payments.lookup paymentId = some payment)
    (hst : Alike id s t)
    (h : Alone exec (fun _ => True) s (generateForPayment cfg paymentId) r s') :
    ∃ t', Alone exec (fun _ => True) t (generateForPayment cfg paymentId) r t' ∧
      Alike id s' t' := by
  obtain ⟨_, existing, s₁, -, hexec, hrest⟩ := Alone.query h
  obtain ⟨_, t₁, hw, hexec', hst₁⟩ := hst.exec rfl hexec
  obtain rfl := findInvoice_exec hexec
  cases existing with
  | some existing =>
    obtain ⟨rfl, rfl⟩ := hrest.value
    exact ⟨t₁, .of_query hw hexec' .done, hst₁⟩
  | none =>
    obtain ⟨_, found, s₂, -, hfound, hrest⟩ := Alone.query hrest
    obtain ⟨_, t₂, hw', hfound', hst₂⟩ := hst₁.exec rfl hfound
    obtain rfl : some payment = found :=
      hpayment.symm.trans (Prod.mk.inj (Option.some.inj hfound)).1
    obtain ⟨⟨⟩, -, -⟩ | ⟨_, ⟨⟩, hrest⟩ := hrest.okOr
    obtain ⟨t', h', hend⟩ := hst₂.alone (by
      refine .bind (.query rfl) fun booking => .bind (findUser_onlyUser huserId) fun user => ?_
      cases booking with
      | some booking => exact .bind (.query rfl) fun _ => issueInvoice_onlyUser _ _ _
      | none => exact issueInvoice_onlyUser _ _ _) hrest
    exact ⟨t', .of_query hw hexec' (.of_query hw' hfound' h'), hend⟩

/-- A task does the same for payments with this user, whatever other users there are. -/
theorem Task.program_alike {t : Server} {task : Task} {r : Except String Unit}
    (huserId : payment.userId = some id) (hpayment : s.db.payments.lookup paymentId = some stored)
    (huser : stored.userId = payment.userId) (hst : Alike id s t)
    (h : Alone exec (fun _ => True) s (task.program cfg paymentId payment) r s') :
    ∃ t', Alone exec (fun _ => True) t (task.program cfg paymentId payment) r t' ∧
      Alike id s' t' := by
  cases task with
  | paymentSuccess => exact hst.alone (paymentSuccessEmail_onlyUser huserId) h
  | paymentFailed => exact hst.alone (paymentFailedEmail_onlyUser huserId) h
  | invoice =>
    rcases Alone.seq h with ⟨invoice, s₁, hgen, hend⟩ | ⟨e, rfl, hgen⟩
    · obtain ⟨rfl, rfl⟩ := hend.value
      obtain ⟨t', ht', hst'⟩ := generateForPayment_alike (huser.trans huserId) hpayment hst hgen
      exact ⟨t', .then_ok ht' .done, hst'⟩
    · obtain ⟨t', ht', hst'⟩ := generateForPayment_alike (huser.trans huserId) hpayment hst hgen
      exact ⟨t', Alone.bind_iff.2 (Or.inr ⟨e, rfl, ht'⟩), hst'⟩

/-! ## The payer -/

theorem receives_paymentSuccess : Receives cfg db paymentId payment .paymentSuccess email ↔
    ∃ user name, Finds db payment.userId user ∧
      successRecipient user (db.bookings.lookup payment.bookingId) = some (email, name) := by
  constructor
  · rintro ⟨r, s', h, mail, hmail, rfl⟩
    obtain ⟨user, hfinds, hrecipient⟩ := (paymentSuccessEmail_alone h).of_mem hmail
    exact ⟨user, _, hfinds, hrecipient⟩
  · rintro ⟨user, name, hfinds, hrecipient⟩
    obtain ⟨w, hw⟩ := exists_findUser (s := { db }) hfinds
    let bk := db.bookings.lookup payment.bookingId
    have hsent : Alone exec (fun _ => True) { db }
        (sendTo (successRecipient user bk) (paymentSuccessData cfg payment bk)) (.ok ())
        { db, queued := [⟨email, name, paymentSuccessData cfg payment bk⟩] } := by
      rw [hrecipient]
      exact .of_query (w := {}) trivial rfl .done
    exact ⟨_, _, .of_query trivial hw (.of_query (w := {}) trivial rfl hsent), _, .head [], rfl⟩

theorem successRecipient_email {user : Option User} {bk : Option Booking} {name : String}
    (h : successRecipient user bk = some (email, name)) :
    (user.map (·.email)).or ((guestOf bk).map (·.email)) = some email := by
  dsimp only [successRecipient] at h
  split at h
  · next hemail _ =>
    cases h
    exact (Option.filter_eq_some_iff.1 hemail).1
  · cases h

theorem successRecipient_user {user : User} {bk : Option Booking} {name : String}
    (h : successRecipient (some user) bk = some (email, name)) : user.email = email :=
  Option.some.inj (successRecipient_email h)

theorem successRecipient_some {bk : Option Booking} {name : String} (hemail : email ≠ "")
    (hname : name ≠ "") : successRecipient (some ⟨email, name⟩) bk = some (email, name) := by
  have hkeep {t : String} (ht : t ≠ "") : (some t).filter (· ≠ "") = some t :=
    Option.filter_some_pos (decide_eq_true ht)
  dsimp only [successRecipient, Option.map_some, Option.some_or]
  rw [hkeep hemail, hkeep hname]

/-- The e-mails of all users, and of the guest. -/
def emailsOf (db : Database) (payment : Payment) : Finset String :=
  db.users.keys.image (fun id => (db.users.lookup id).elim "" (·.email)) ∪
    ((guestOf (db.bookings.lookup payment.bookingId)).map (·.email)).toFinset

theorem mem_emailsOf (h : Receives cfg db paymentId payment .paymentSuccess email)
    (huserId : payment.userId = none) : email ∈ emailsOf db payment := by
  obtain ⟨user, name, hfinds, hrecipient⟩ := receives_paymentSuccess.1 h
  rw [huserId] at hfinds
  have hemail := successRecipient_email hrecipient
  cases user with
  | some user =>
    obtain ⟨id, huser⟩ := hfinds
    obtain rfl := Option.some.inj hemail
    refine Finset.mem_union_left _ (Finset.mem_image.2 ⟨id, ?_, by rw [huser]; rfl⟩)
    exact Finmap.mem_keys.2 (Finmap.mem_of_lookup_eq_some huser)
  | none => exact Finset.mem_union_right _ (Option.mem_toFinset.2 hemail)

/-- The booking is that of a guest with an e-mail and a name. -/
def HasGuest (booking : Booking) : Prop :=
  booking.isGuestBooking ∧ ∃ guest ∈ booking.guestInfo, guest.email ≠ "" ∧ guest.name ≠ ""

theorem mem_guestOf {bk : Option Booking} {guest : GuestInfo} : guest ∈ guestOf bk ↔
    ∃ booking ∈ bk, booking.isGuestBooking ∧ booking.guestInfo = some guest := by
  rw [guestOf, Option.mem_def, Option.bind_eq_some_iff]
  refine exists_congr fun booking => and_congr_right fun _ => ?_
  rw [Option.ite_none_right_eq_some]

theorem successRecipient_none {bk : Option Booking} :
    successRecipient none bk = none ↔ ∀ booking ∈ bk, ¬ HasGuest booking := by
  have hguest : (∀ booking ∈ bk, ¬ HasGuest booking) ↔
      ∀ guest ∈ guestOf bk, guest.email = "" ∨ guest.name = "" := by
    constructor
    · intro h guest hguest
      obtain ⟨booking, hbooking, hisGuest, hguest⟩ := mem_guestOf.1 hguest
      by_contra hboth
      exact h booking hbooking ⟨hisGuest, guest, hguest, not_or.1 hboth⟩
    · rintro h booking hbooking ⟨hisGuest, guest, hguest, hemail, hname⟩
      rcases h guest (mem_guestOf.2 ⟨booking, hbooking, hisGuest, hguest⟩) with h | h
      · exact hemail h
      · exact hname h
  rw [hguest, successRecipient]
  cases guestOf bk with
  | none => exact ⟨fun _ => nofun, fun _ => rfl⟩
  | some guest =>
    by_cases hemail : guest.email = "" <;> by_cases hname : guest.name = "" <;>
      simp [Option.filter_some, hemail, hname]

/-- The user is stored, or there is no guest who gets the e-mail in place of the user. -/
def NoSubstitute (db : Database) (id : Uuid) (payment : Payment) : Prop :=
  (db.users.lookup id).isSome ∨
    ∀ booking ∈ db.bookings.lookup payment.bookingId, ¬ HasGuest booking

/-- Only the success e-mail may go to somebody else. -/
theorem Receives.payer {task : Task} (hpayment : db.payments.lookup paymentId = some stored)
    (huser : stored.userId = payment.userId) (hbooking : stored.bookingId = payment.bookingId)
    (h : Receives cfg db paymentId payment task email) (htask : task ≠ .paymentSuccess) :
    Payer db payment email := by
  obtain ⟨r, s', h, mail, hmail, rfl⟩ := h
  have hqueues : Queues { db } s' fun mail => Payer db payment mail.recipient := by
    cases task with
    | paymentSuccess => exact absurd rfl htask
    | paymentFailed => exact paymentFailedEmail_alone h
    | invoice =>
      have hqueues : Queues { db } s' fun mail => Payer db stored mail.recipient := by
        rcases Alone.seq h with ⟨_, _, hgen, hend⟩ | ⟨_, -, hgen⟩
        · obtain ⟨-, rfl⟩ := hend.value
          exact generateForPayment_alone hpayment hgen
        · exact generateForPayment_alone hpayment hgen
      exact hqueues.imp fun _ h => h.congr huser hbooking
  exact hqueues.of_mem hmail

theorem Receives.of_agree {task : Task} (huserId : payment.userId = some id)
    (hpayment : db.payments.lookup paymentId = some stored)
    (huser : stored.userId = payment.userId) (hagree : Agree (some id) db db')
    (h : Receives cfg db paymentId payment task email) :
    Receives cfg db' paymentId payment task email := by
  obtain ⟨r, s', h, mail, hmail, heq⟩ := h
  obtain ⟨t', h', hend⟩ := Task.program_alike (s := { db }) (t := { db := db' }) huserId hpayment
    huser ⟨hagree, rfl⟩ h
  exact ⟨r, t', h', mail, hend.queued ▸ hmail, heq⟩

/-- A payment without a user has its success e-mail sent to anybody who is a user. -/
theorem not_reachesPayer_of_guest (huserId : payment.userId = none) :
    ¬ ReachesPayer cfg db paymentId payment := by
  intro h
  obtain ⟨email, hfresh⟩ := Infinite.exists_notMem_finset (insert "" (emailsOf db payment))
  obtain ⟨hemail, hfresh⟩ := not_or.1 (mt Finset.mem_insert.2 hfresh)
  let db' : Database := { db with users := (∅ : Store Uuid User).insert "" ⟨email, "name"⟩ }
  have hagree : Agree payment.userId db db' := by
    rw [huserId]
    exact ⟨nofun, rfl, rfl, rfl, rfl⟩
  have hfinds : Finds db' payment.userId (some ⟨email, "name"⟩) := by
    rw [huserId]
    exact ⟨"", Finmap.lookup_insert _⟩
  have hreceives : Receives cfg db' paymentId payment .paymentSuccess email :=
    receives_paymentSuccess.2
      ⟨_, "name", hfinds, successRecipient_some hemail (by decide)⟩
  exact hfresh (mem_emailsOf ((h.independent db' hagree _ _).2 hreceives) huserId)

/-- **The e-mails about a payment reach the payer only, exactly if it has a user, and no guest
    stands in for that user.  The task may hold another version of the stored payment, of the same
    user and booking.** -/
theorem payment_mail_iff (cfg : Config) (db : Database) (paymentId : Uuid)
    (stored payment : Payment) (hpayment : db.payments.lookup paymentId = some stored)
    (huser : stored.userId = payment.userId) (hbooking : stored.bookingId = payment.bookingId) :
    ReachesPayer cfg db paymentId payment ↔
      ∃ id, payment.userId = some id ∧ NoSubstitute db id payment := by
  constructor
  · intro h
    cases huserId : payment.userId with
    | none => exact absurd h (not_reachesPayer_of_guest huserId)
    | some id =>
      refine ⟨id, rfl, or_iff_not_imp_left.2 fun hnone => ?_⟩
      rw [Bool.not_eq_true, Option.isSome_eq_false_iff, Option.isNone_iff_eq_none] at hnone
      refine successRecipient_none.1 (Option.eq_none_iff_forall_ne_some.2 ?_)
      rintro ⟨email, name⟩ hrecipient
      have hfinds : Finds db payment.userId none := by
        rw [huserId]
        exact hnone
      have hpayer := h.addressed _ _ (receives_paymentSuccess.2 ⟨none, name, hfinds, hrecipient⟩)
      unfold Payer at hpayer
      rw [huserId] at hpayer
      obtain ⟨user, huser, -⟩ := hpayer
      cases hnone.symm.trans huser
  · rintro ⟨id, huserId, hsubstitute⟩
    refine ⟨fun task email h => ?_, fun db' hagree task email => ?_⟩
    · by_cases htask : task = .paymentSuccess
      · subst htask
        obtain ⟨user, name, hfinds, hrecipient⟩ := receives_paymentSuccess.1 h
        rw [huserId] at hfinds
        cases user with
        | none =>
          rcases hsubstitute with hsome | hnone
          · rw [hfinds] at hsome
            cases hsome
          · cases (successRecipient_none.2 hnone).symm.trans hrecipient
        | some user => exact successRecipient_user hrecipient ▸ hfinds.payer huserId
      · exact h.payer hpayment huser hbooking htask
    · rw [huserId] at hagree
      exact ⟨.of_agree huserId hpayment huser hagree,
        .of_agree huserId (hagree.payments ▸ hpayment) huser hagree.symm⟩

end

/-- The payment of a user who is stored. -/
theorem payment_mail_iff_member :
    let payment : Payment := { bookingId := "b", userId := some "u", amount := 500000,
                               provider := .paystack, status := .pending }
    let db : Database := { users := Finmap.singleton "u" ⟨"ada@example.com", "Ada"⟩,
                           payments := Finmap.singleton "p" payment }
    ReachesPayer { localeString := toString } db "p" payment := by
  intro payment db
  have hpayment : db.payments.lookup "p" = some payment := Finmap.lookup_singleton_eq
  exact (payment_mail_iff _ db "p" payment payment hpayment rfl rfl).2
    ⟨"u", rfl, Or.inl (Option.isSome_iff_exists.2 ⟨_, Finmap.lookup_singleton_eq⟩)⟩

/-- The success e-mail for a guest goes to some user who has nothing to do with it. -/
theorem payment_mail_strays : ¬ ∀ (cfg : Config) (db : Database) (paymentId : Uuid)
    (payment : Payment), db.payments.lookup paymentId = some payment →
      ReachesPayer cfg db paymentId payment := by
  intro h
  let guest : GuestInfo := { name := "Gus", email := "gus@example.com", phone := "" }
  let booking : Booking := { userId := none, workspaceId := "w", planType := .daily, startDate := 1,
                             endDate := 1, totalAmount := 500000, status := .confirmed,
                             paymentDeadline := none, seatCount := 1, isGuestBooking := true,
                             guestInfo := some guest }
  let payment : Payment := { bookingId := "b", userId := none, amount := 500000,
                             provider := .paystack, status := .pending }
  let db : Database := { users := Finmap.singleton "u" ⟨"ada@example.com", "Ada"⟩,
                         bookings := Finmap.singleton "b" booking,
                         payments := Finmap.singleton "p" payment }
  have hfinds : Finds db none (some ⟨"ada@example.com", "Ada"⟩) :=
    ⟨"u", Finmap.lookup_singleton_eq⟩
  have hada : Receives { localeString := toString } db "p" payment .paymentSuccess
      "ada@example.com" :=
    receives_paymentSuccess.2
      ⟨_, "Ada", hfinds, successRecipient_some (by decide) (by decide)⟩
  obtain ⟨found, guest', hfound, hguest, hemail⟩ :=
    (h _ db "p" payment Finmap.lookup_singleton_eq).addressed _ _ hada
  cases hfound.symm.trans Finmap.lookup_singleton_eq
  cases hguest
  exact absurd hemail (by decide)

end PaymentMail
