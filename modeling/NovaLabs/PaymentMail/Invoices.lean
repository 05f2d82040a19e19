/-
  The register of invoices (backend/src/invoices), and how the calls that generate them use it.

  The other tables are whatever they are at the time of each query: other services write them.
  Numbers come from a sequence, and the register has a unique index on them.  A number is unbounded
  here; the source reads it with `parseInt`, which is exact below 2^53.
-/
import NovaLabs.PaymentMail.Operations

namespace PaymentMail

open Lib Process
open Backend (Uuid Time Booking)

/-! ## The register -/

/-- What other services write. -/
structure Tables where
  users : Store Uuid User := ∅
  bookings : Store Uuid Booking := ∅
  payments : Store Uuid Payment := ∅
  workspaces : Store Uuid Workspace := ∅

structure Books where
  invoices : Store Uuid Invoice := ∅
  /-- `invoice_number_seq`: the last number, which is 0 at the start. -/
  sequence : ℕ := 0
  queued : List Mail := []

/-- What the world adds to an answer, with the other tables as they are then. -/
structure Moment extends World where
  tables : Tables := {}

def Books.server (b : Books) (tables : Tables) : Server where
  db := { tables with invoices := b.invoices }
  queued := b.queued

/-- The index admits the number. -/
def Books.Admits (b : Books) (invoice : Invoice) : Prop :=
  b.invoices.matching (fun _ row => row.invoiceNumber = invoice.invoiceNumber) = ∅

instance (b : Books) (invoice : Invoice) : Decidable (b.Admits invoice) :=
  inferInstanceAs (Decidable (_ = _))

/-- How a query is answered, the numbers and the index included. -/
def execBooks (_ : ℕ) (m : Moment) (b : Books) : (q : Query) → Option (Answer q × Books)
  | .nextval => some (b.sequence + 1, { b with sequence := b.sequence + 1 })
  | .insertInvoice invoice =>
    if b.Admits invoice then
      (exec m.toWorld (b.server m.tables) (.insertInvoice invoice)).map fun (saved, s) =>
        (saved, { b with invoices := s.db.invoices })
    else some (false, b)
  | q => (exec m.toWorld (b.server m.tables) q).map fun (a, s) => (a, { b with queued := s.queued })

/-- Any number of calls, each for a payment. -/
def billing (cfg : Config) : System Answer Books Uuid Moment String Invoice where
  program := generateForPayment cfg
  exec := execBooks

abbrev Billing := Pool Answer Books String Invoice

abbrev Ev := Event Billing (Turn Uuid Moment)

/-! ## Numbers -/

def invoiceNumber (number : ℕ) : String := "INV-" ++ String.leftpad 5 '0' (toString number)

theorem leftpad_toList (text : String) : (String.leftpad 5 '0' text).toList =
    List.replicate (5 - text.toList.length) '0' ++ text.toList := String.toList_ofList

theorem invoiceNumber_injective : Function.Injective invoiceNumber := by
  intro m n h
  -- leading zeros do not change the value of the digits
  have hvalue (n : ℕ) : Nat.ofDigitChars 10 (String.leftpad 5 '0' (toString n)).toList 0 = n := by
    rw [leftpad_toList, Nat.ofDigitChars_append, Nat.ofDigitChars_replicate_zero,
      Nat.toString_eq_repr, Nat.toList_repr, Nat.mul_zero, Nat.ofDigitChars_ten_toDigits]
  have hpad : String.leftpad 5 '0' (toString m) = String.leftpad 5 '0' (toString n) :=
    (String.append_right_inj _).1 h
  calc
    m = Nat.ofDigitChars 10 (String.leftpad 5 '0' (toString m)).toList 0 := (hvalue m).symm
    _ = Nat.ofDigitChars 10 (String.leftpad 5 '0' (toString n)).toList 0 := by rw [hpad]
    _ = n := hvalue n

example : invoiceNumber 1 = "INV-00001" ∧ invoiceNumber 123456 = "INV-123456" := by decide

/-! ## The protocol of one call -/

def Stored (b : Books) (invoice : Invoice) : Prop := ∃ id, b.invoices.lookup id = some invoice

/-- The e-mail announces the invoice. -/
def Announces (cfg : Config) (invoice : Invoice) (mail : Mail) : Prop :=
  mail.data = .invoiceReady invoice.invoiceNumber (naira invoice.amountKobo)
    (paidAtText cfg invoice.paidAt)

/-- How far a call is, with what it has read. -/
inductive Stage where
  | called (paymentId : Uuid)
  | absent (paymentId : Uuid)
  | paid (paymentId : Uuid) (payment : Payment)
  | booked (paymentId : Uuid) (payment : Payment) (booking : Option Booking)
  | located (paymentId : Uuid) (payment : Payment) (booking : Booking)
  | described (paymentId : Uuid) (payment : Payment) (booking : Option Booking)
      (workspace : Option Workspace)
  | numbered (invoice : Invoice)
  | saved (invoice : Invoice)
  | found (invoice : Invoice)
  | refused

def Stage.permits (cfg : Config) : Stage → Query → Prop
  | called paymentId, .findInvoice paymentId' => paymentId' = paymentId
  | absent paymentId, .findPayment paymentId' => paymentId' = paymentId
  | paid _ payment, .findBooking bookingId => bookingId = payment.bookingId
  | booked _ _ _, .findUser _ => True
  | located _ _ booking, .findWorkspace workspaceId => workspaceId = booking.workspaceId
  | described _ _ _ _, .nextval => True
  | numbered invoice, .insertInvoice invoice' => invoice' = invoice
  | saved _, .generatePdf _ => True
  | saved invoice, .send mail => Announces cfg invoice mail
  | _, _ => False

def Stage.after : Stage → (q : Query) → Answer q → Stage
  | called paymentId, .findInvoice _, none => absent paymentId
  | called _, .findInvoice _, some invoice => found invoice
  | absent paymentId, .findPayment _, some payment => paid paymentId payment
  | paid paymentId payment, .findBooking _, booking => booked paymentId payment booking
  | booked paymentId payment (some booking), .findUser _, _ => located paymentId payment booking
  | booked paymentId payment none, .findUser _, _ => described paymentId payment none none
  | located paymentId payment booking, .findWorkspace _, workspace =>
    described paymentId payment (some booking) workspace
  | described paymentId payment booking workspace, .nextval, number =>
    numbered (invoiceOf paymentId payment booking workspace number)
  | numbered invoice, .insertInvoice _, true => saved invoice
  | saved invoice, _, _ => saved invoice
  | _, _, _ => refused

/-- How a call ends. -/
def Stage.ends : Stage → Except String Invoice → Prop
  | saved invoice, r | found invoice, r => r = .ok invoice
  | refused, .error _ => True
  | _, _ => False

def protocol (cfg : Config) : Protocol Answer Stage := ⟨Stage.permits cfg, Stage.after⟩

section
variable {cfg : Config} {paymentId : Uuid} {payment : Payment} {booking : Option Booking}
  {workspace : Option Workspace} {user : Option User} {invoice : Invoice}

theorem invoiceReadyEmail_meets {user : User} :
    Meets (protocol cfg) (.saved invoice) (invoiceReadyEmail cfg invoice user)
      fun q r => q = .saved invoice ∧ r = .ok () := by
  unfold invoiceReadyEmail
  refine Meets.query trivial fun made => Meets.ite (fun _ => ?_) fun _ => ⟨rfl, rfl⟩
  exact Meets.query rfl fun _ => ⟨rfl, rfl⟩

theorem issueInvoice_meets :
    Meets (protocol cfg) (.described paymentId payment booking workspace)
      (issueInvoice cfg paymentId payment booking user workspace) Stage.ends := by
  unfold issueInvoice
  refine Meets.query trivial fun number => Meets.query rfl fun saved => ?_
  cases saved with
  | false => exact trivial
  | true =>
    refine Meets.failIf (fun h => absurd rfl h) fun _ => ?_
    cases user with
    | none => exact rfl
    | some user =>
      refine invoiceReadyEmail_meets.seq ?_ ?_
      · rintro _ _ ⟨rfl, -⟩
        exact rfl
      · rintro _ _ ⟨-, ⟨⟩⟩

theorem generateForPayment_meets :
    Meets (protocol cfg) (.called paymentId) (generateForPayment cfg paymentId) Stage.ends := by
  unfold generateForPayment
  refine Meets.query rfl fun existing => ?_
  cases existing with
  | some existing => exact rfl
  | none =>
    refine Meets.query rfl fun payment => Meets.okOr (fun h => ?_) fun payment h => ?_
    · subst h
      exact trivial
    · subst h
      refine Meets.query rfl fun booking => Meets.query trivial fun user => ?_
      cases booking with
      | some booking => exact Meets.query rfl fun workspace => issueInvoice_meets
      | none => exact issueInvoice_meets

end

/-- What a query of a call does to its stage and to the books. -/
inductive Moves (cfg : Config) (m : Moment) (b : Books) : Stage → Query → Stage → Books → Prop
  | absent {paymentId} :
      (∀ id invoice, b.invoices.lookup id = some invoice → invoice.paymentId ≠ paymentId) →
      Moves cfg m b (.called paymentId) (.findInvoice paymentId) (.absent paymentId) b
  | found {paymentId invoice} : Stored b invoice → invoice.paymentId = paymentId →
      Moves cfg m b (.called paymentId) (.findInvoice paymentId) (.found invoice) b
  | unpaid {paymentId} : Moves cfg m b (.absent paymentId) (.findPayment paymentId) .refused b
  | paid {paymentId payment} : m.tables.payments.lookup paymentId = some payment →
      Moves cfg m b (.absent paymentId) (.findPayment paymentId) (.paid paymentId payment) b
  | booked {paymentId payment booking} : m.tables.bookings.lookup payment.bookingId = booking →
      Moves cfg m b (.paid paymentId payment) (.findBooking payment.bookingId)
        (.booked paymentId payment booking) b
  | located {paymentId payment booking id} :
      Moves cfg m b (.booked paymentId payment (some booking)) (.findUser id)
        (.located paymentId payment booking) b
  | unbooked {paymentId payment id} : Moves cfg m b (.booked paymentId payment none) (.findUser id)
      (.described paymentId payment none none) b
  | described {paymentId payment booking workspace} :
      m.tables.workspaces.lookup booking.workspaceId = workspace →
      Moves cfg m b (.located paymentId payment booking) (.findWorkspace booking.workspaceId)
        (.described paymentId payment (some booking) workspace) b
  | numbered {paymentId payment booking workspace} :
      Moves cfg m b (.described paymentId payment booking workspace) .nextval
        (.numbered (invoiceOf paymentId payment booking workspace (b.sequence + 1)))
        { b with sequence := b.sequence + 1 }
  | saved {invoice id} : b.Admits invoice → invoice.userId ≠ none → b.invoices.lookup id = none →
      Moves cfg m b (.numbered invoice) (.insertInvoice invoice) (.saved invoice)
        { b with invoices := b.invoices.insert id invoice }
  | refused {invoice} : (b.Admits invoice → invoice.userId = none ∨ m.fails) →
      Moves cfg m b (.numbered invoice) (.insertInvoice invoice) .refused b
  | printed {invoice invoice'} :
      Moves cfg m b (.saved invoice) (.generatePdf invoice') (.saved invoice) b
  | unsent {invoice mail} : Moves cfg m b (.saved invoice) (.send mail) (.saved invoice) b
  | sent {invoice mail} : Announces cfg invoice mail →
      Moves cfg m b (.saved invoice) (.send mail) (.saved invoice)
        { b with queued := mail :: b.queued }

section
variable {cfg : Config} {m : Moment} {b b' : Books} {t : ℕ} {s s' : Stage} {q : Query}
  {a : Answer q} {invoice : Invoice}

theorem insertInvoice_moves {saved : Bool}
    (h : execBooks t m b (.insertInvoice invoice) = some (saved, b')) :
    Moves cfg m b (.numbered invoice) (.insertInvoice invoice)
      ((Stage.numbered invoice).after (.insertInvoice invoice) saved) b' := by
  rw [execBooks] at h
  split_ifs at h with hadmits
  · obtain ⟨⟨saved', s⟩, hexec, heq⟩ := Option.map_eq_some_iff.1 h
    cases heq
    rw [exec] at hexec
    split_ifs at hexec with hrefuse hfresh
    · cases hexec
      exact .refused fun _ => hrefuse.imp_right id
    · cases hexec
      exact .saved hadmits (fun hnone => hrefuse (Or.inl hnone)) hfresh
  · cases h
    exact .refused fun h => absurd h hadmits

theorem findInvoice_moves {paymentId : Uuid} {existing : Option Invoice}
    (h : execBooks t m b (.findInvoice paymentId) = some (existing, b')) :
    Moves cfg m b (.called paymentId) (.findInvoice paymentId)
      ((Stage.called paymentId).after (.findInvoice paymentId) existing) b' := by
  obtain ⟨⟨_, _⟩, hexec, heq⟩ := Option.map_eq_some_iff.1 h
  cases heq
  obtain ⟨hit, hfind, heq⟩ := Option.map_eq_some_iff.1 hexec
  cases heq
  cases hit with
  | none =>
    refine .absent fun id invoice hinvoice hsame => ?_
    exact Store.findOne_none hfind hinvoice (decide_eq_true hsame)
  | some hit =>
    obtain ⟨hinvoice, hselects⟩ := Store.findOne_some hfind
    exact .found ⟨hit.1, hinvoice⟩ (of_decide_eq_true hselects)

theorem moves_of_exec (h : execBooks t m b q = some (a, b')) (hp : s.permits cfg q) :
    Moves cfg m b s q (s.after q a) b' := by
  cases s with
  | called paymentId =>
    cases q <;> first | exact hp.elim | obtain rfl := hp
    exact findInvoice_moves h
  | absent paymentId =>
    cases q <;> first | exact hp.elim | obtain rfl := hp.symm
    cases h
    cases hpayment : m.tables.payments.lookup paymentId with
    | none => exact hpayment ▸ .unpaid
    | some payment => exact hpayment ▸ .paid hpayment
  | paid paymentId payment =>
    cases q <;> first | exact hp.elim | obtain rfl := hp
    cases h
    exact .booked rfl
  | booked paymentId payment booking =>
    cases q <;> first | exact hp.elim | skip
    obtain ⟨⟨_, _⟩, hexec, heq⟩ := Option.map_eq_some_iff.1 h
    cases heq
    obtain ⟨_, -, heq⟩ := Option.map_eq_some_iff.1 hexec
    cases heq
    cases booking with
    | none => exact .unbooked
    | some booking => exact .located
  | located paymentId payment booking =>
    cases q <;> first | exact hp.elim | obtain rfl := hp
    cases h
    exact .described rfl
  | described paymentId payment booking workspace =>
    cases q <;> first | exact hp.elim | skip
    cases h
    exact .numbered
  | numbered invoice =>
    cases q <;> first | exact hp.elim | obtain rfl := hp
    exact insertInvoice_moves h
  | saved invoice =>
    cases q with
    | generatePdf invoice' =>
      cases h
      exact .printed
    | send mail =>
      simp only [execBooks, exec, Option.map_some, Option.some.injEq] at h
      split_ifs at h
      · cases h
        exact .unsent
      · cases h
        exact .sent hp
    | _ => exact hp.elim
  | found invoice => cases q <;> exact hp.elim
  | refused => cases q <;> exact hp.elim

/-! ### What moves do to the books -/

theorem admits_iff : b.Admits invoice ↔ ∀ id row, b.invoices.lookup id = some row →
    row.invoiceNumber ≠ invoice.invoiceNumber := by
  rw [Books.Admits, Finset.eq_empty_iff_forall_notMem]
  constructor
  · intro h id row hrow hsame
    exact h id (Store.mem_matching.2 ⟨row, hrow, decide_eq_true hsame⟩)
  · intro h id hid
    obtain ⟨row, hrow, hsame⟩ := Store.mem_matching.1 hid
    exact h id row hrow (of_decide_eq_true hsame)

/-- Numbers are not given back, and rows stay. -/
structure Grows (b b' : Books) : Prop where
  sequence : b.sequence ≤ b'.sequence
  invoices : ∀ id row, b.invoices.lookup id = some row → b'.invoices.lookup id = some row

theorem Grows.refl (b : Books) : Grows b b := ⟨le_rfl, fun _ _ hrow => hrow⟩

theorem Grows.stored (h : Grows b b') (hstored : Stored b invoice) : Stored b' invoice :=
  hstored.imp fun id hrow => h.invoices id invoice hrow

theorem Moves.grows (h : Moves cfg m b s q s' b') : Grows b b' := by
  cases h with
  | numbered => exact ⟨Nat.le_succ _, fun _ _ hrow => hrow⟩
  | @saved _ key _ _ hfresh =>
    refine ⟨le_rfl, fun id row hrow => ?_⟩
    have hne : id ≠ key := by
      rintro rfl
      cases hfresh.symm.trans hrow
    exact (Finmap.lookup_insert_of_ne _ hne).trans hrow
  | sent => exact ⟨le_rfl, fun _ _ hrow => hrow⟩
  | _ => exact .refl b

/-- A row is there already, or is the invoice that the call saves. -/
theorem Moves.row {id : Uuid} {row : Invoice} (h : Moves cfg m b s q s' b')
    (hrow : b'.invoices.lookup id = some row) : b.invoices.lookup id = some row ∨
      s = .numbered row ∧ s' = .saved row ∧ b.Admits row ∧ row.userId ≠ none := by
  cases h with
  | saved hadmits huser =>
    rw [Store.lookup_insert_ite] at hrow
    split_ifs at hrow
    · cases hrow
      exact Or.inr ⟨rfl, rfl, hadmits, huser⟩
    · exact Or.inl hrow
  | _ => exact Or.inl hrow

/-- A call that comes to have a number has the next one of the sequence. -/
theorem Moves.next_number (h : Moves cfg m b s q (.numbered invoice) b') :
    b'.invoices = b.invoices ∧ invoice.invoiceNumber = invoiceNumber (b.sequence + 1) := by
  cases h
  exact ⟨rfl, rfl⟩

theorem Moves.mail {mail : Mail} (h : Moves cfg m b s q s' b') (hmail : mail ∈ b'.queued) :
    mail ∈ b.queued ∨ ∃ invoice, s = .saved invoice ∧ Announces cfg invoice mail := by
  cases h with
  | sent hannounces =>
    rcases List.mem_cons.1 hmail with rfl | hmail
    · exact Or.inr ⟨_, rfl, hannounces⟩
    · exact Or.inl hmail
  | _ => exact Or.inl hmail

end

end PaymentMail
