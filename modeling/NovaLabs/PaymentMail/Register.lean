/-
  The register of invoices, however many of them are generated at once.

  Its rows are snapshots under numbers of their own.  There is no unique index on the payment: it
  has one invoice where the calls for it do not overlap.
-/
import NovaLabs.PaymentMail.Invoices
import NovaLabs.Lib.Apart

namespace PaymentMail

open Lib Process
open Backend (Uuid Time Booking)

/-! ## The law -/

/-- A service has read the value in the other tables. -/
def Read {α : Type} (tr : List Ev) (column : Tables → α) (value : α) : Prop :=
  ∃ e ∈ tr, ∃ t m, e.inp = .step t m ∧ column m.tables = value

/-- The workspace of a booking that has been found. -/
def ReadWorkspace (tr : List Ev) : Option Booking → Option Workspace → Prop
  | some booking, workspace => Read tr (·.workspaces.lookup booking.workspaceId) workspace
  | none, workspace => workspace = none

/-- The invoice is made of rows that have been read, and of a number of the sequence. -/
def Snapshot (tr : List Ev) (sequence : ℕ) (invoice : Invoice) : Prop :=
  ∃ paymentId payment booking workspace number,
    invoice = invoiceOf paymentId payment booking workspace number ∧
    Read tr (·.payments.lookup paymentId) (some payment) ∧
    Read tr (·.bookings.lookup payment.bookingId) booking ∧ ReadWorkspace tr booking workspace ∧
    0 < number ∧ number ≤ sequence

/-- An insert is refused only where the invoice has no user, or the world fails. -/
def Inserts (e : Ev) : Prop :=
  OnQuery (fun _ m q => ∀ invoice, q = .insertInvoice invoice → invoice.userId ≠ none →
    ¬ m.fails → Stored e.post.shared invoice) e

structure Register (cfg : Config) (tr : List Ev) (p : Billing) : Prop where
  snapshot : ∀ id invoice, p.shared.invoices.lookup id = some invoice →
    Snapshot tr p.shared.sequence invoice ∧ invoice.userId ≠ none
  distinct : p.shared.invoices.Unique fun invoice => some invoice.invoiceNumber
  kept : ∀ e ∈ tr, ∀ id invoice, e.pre.shared.invoices.lookup id = some invoice →
    p.shared.invoices.lookup id = some invoice
  inserts : ∀ e ∈ tr, Inserts e
  returned : ∀ t invoice, p.Ended t (.ok invoice) → Stored p.shared invoice
  announced : ∀ mail ∈ p.shared.queued, ∃ invoice, Stored p.shared invoice ∧
    Announces cfg invoice mail

/-! ## What holds of the books, and of the calls -/

section
variable {cfg : Config} {tr : List Ev} {e : Ev} {b b' : Books} {invoice invoice' : Invoice}
  {n n' : ℕ}

theorem Read.snoc {α : Type} {column : Tables → α} {value : α} (h : Read tr column value) :
    Read (tr ++ [e]) column value := by
  obtain ⟨e', he', h⟩ := h
  exact ⟨e', List.mem_append_left _ he', h⟩

theorem Read.last {α : Type} (column : Tables → α) {value : α} {t : ℕ} {m : Moment}
    (hinp : e.inp = .step t m) (h : column m.tables = value) : Read (tr ++ [e]) column value :=
  ⟨e, List.mem_append_right _ (.head _), t, m, hinp, h⟩

theorem ReadWorkspace.snoc {booking : Option Booking} {workspace : Option Workspace}
    (h : ReadWorkspace tr booking workspace) : ReadWorkspace (tr ++ [e]) booking workspace := by
  cases booking with
  | none => exact h
  | some booking =>
    rw [ReadWorkspace] at h ⊢
    exact h.snoc

theorem Snapshot.snoc (h : Snapshot tr n invoice) (hn : n ≤ n') :
    Snapshot (tr ++ [e]) n' invoice := by
  obtain ⟨id, payment, booking, workspace, k, heq, hpayment, hbooking, hworkspace, hpos, hk⟩ := h
  exact ⟨id, payment, booking, workspace, k, heq, hpayment.snoc, hbooking.snoc, hworkspace.snoc,
    hpos, hk.trans hn⟩

/-- The next number of the sequence is new. -/
theorem Snapshot.ne_next (h : Snapshot tr n invoice) :
    invoice.invoiceNumber ≠ invoiceNumber (n + 1) := by
  obtain ⟨_, _, _, _, k, rfl, -, -, -, -, hk⟩ := h
  intro heq
  have hkn : k = n + 1 := invoiceNumber_injective heq
  omega

/-- What a call has read, or where its invoice is. -/
def Stage.Known (tr : List Ev) (b : Books) : Stage → Prop
  | called _ | absent _ | refused => True
  | paid paymentId payment => Read tr (·.payments.lookup paymentId) (some payment)
  | booked paymentId payment booking => Read tr (·.payments.lookup paymentId) (some payment) ∧
      Read tr (·.bookings.lookup payment.bookingId) booking
  | located paymentId payment booking => Read tr (·.payments.lookup paymentId) (some payment) ∧
      Read tr (·.bookings.lookup payment.bookingId) (some booking)
  | described paymentId payment booking workspace =>
      Read tr (·.payments.lookup paymentId) (some payment) ∧
      Read tr (·.bookings.lookup payment.bookingId) booking ∧ ReadWorkspace tr booking workspace
  | numbered invoice => Snapshot tr b.sequence invoice
  | saved invoice | found invoice => Stored b invoice

theorem Stage.Known.snoc {s : Stage} (h : s.Known tr b) (hgrows : Grows b b') :
    s.Known (tr ++ [e]) b' := by
  cases s with
  | called | absent | refused => trivial
  | paid =>
    rw [Known] at h ⊢
    exact h.snoc
  | booked | located => exact ⟨h.1.snoc, h.2.snoc⟩
  | described => exact ⟨h.1.snoc, h.2.1.snoc, h.2.2.snoc⟩
  | numbered => exact Snapshot.snoc h hgrows.sequence
  | saved | found => exact hgrows.stored h

theorem Stage.Known.moves {t : ℕ} {m : Moment} {s s' : Stage} {q : Query} (h : s.Known tr b)
    (hmoves : Moves cfg m b s q s' b') (hinp : e.inp = .step t m) : s'.Known (tr ++ [e]) b' := by
  cases hmoves with
  | absent | unpaid | refused => trivial
  | found hstored => exact hstored
  | paid hpayment => exact Read.last (·.payments.lookup _) hinp hpayment
  | booked hbooking =>
    rw [Known] at h
    exact ⟨h.snoc, Read.last (·.bookings.lookup _) hinp hbooking⟩
  | located => exact ⟨h.1.snoc, h.2.snoc⟩
  | unbooked => exact ⟨h.1.snoc, h.2.snoc, rfl⟩
  | described hworkspace =>
    exact ⟨h.1.snoc, h.2.snoc, Read.last (·.workspaces.lookup _) hinp hworkspace⟩
  | numbered =>
    exact ⟨_, _, _, _, _, rfl, h.1.snoc, h.2.1.snoc, h.2.2.snoc, Nat.succ_pos _, le_rfl⟩
  | @saved _ id => exact ⟨id, Finmap.lookup_insert _⟩
  | printed | unsent | sent => exact h

end

/-- The register, with the calls under way: the numbers that they hold are free. -/
structure Ledger (cfg : Config) (tr : List Ev) (b : Books) (qs : ℕ → Option Stage) : Prop where
  snapshot : ∀ id row, b.invoices.lookup id = some row →
    Snapshot tr b.sequence row ∧ row.userId ≠ none
  distinct : b.invoices.Unique fun row => some row.invoiceNumber
  known : ∀ t s, qs t = some s → s.Known tr b
  admits : ∀ t invoice, qs t = some (.numbered invoice) → b.Admits invoice
  apart : ∀ t t' invoice invoice', qs t = some (.numbered invoice) →
    qs t' = some (.numbered invoice') → invoice.invoiceNumber = invoice'.invoiceNumber → t = t'
  kept : ∀ e ∈ tr, ∀ id row, e.pre.shared.invoices.lookup id = some row →
    b.invoices.lookup id = some row
  inserts : ∀ e ∈ tr, Inserts e
  announced : ∀ mail ∈ b.queued, ∃ invoice, Stored b invoice ∧ Announces cfg invoice mail

namespace Ledger
variable {cfg : Config} {tr : List Ev} {e : Ev} {qs : ℕ → Option Stage} {t : ℕ} {m : Moment}
  {s : Stage} {q : Query} {a : Answer q} {b : Books}

theorem idle : Ledger cfg [] {} fun _ => none where
  snapshot id row hrow := by
    rw [Finmap.lookup_empty] at hrow
    cases hrow
  distinct := .empty
  known _ _ hs := by cases hs
  admits _ _ hs := by cases hs
  apart _ _ _ _ hs := by cases hs
  kept _ he := by cases he
  inserts _ he := by cases he
  announced _ hmail := by cases hmail

theorem call {paymentId : Uuid} (h : Ledger cfg tr e.pre.shared qs)
    (hinp : e.inp = .call t paymentId) (hshared : e.post.shared = e.pre.shared) :
    Ledger cfg (tr ++ [e]) e.post.shared (Function.update qs t (some (.called paymentId))) := by
  rw [hshared]
  have hold {t' : ℕ} {invoice : Invoice}
      (hs : Function.update qs t (some (.called paymentId)) t' = some (.numbered invoice)) :
      qs t' = some (.numbered invoice) := by
    rcases update_stage hs with ⟨-, ⟨⟩⟩ | ⟨-, hs⟩
    exact hs
  exact {
    snapshot := fun id row hrow => (h.snapshot id row hrow).imp_left fun h => h.snoc le_rfl
    distinct := h.distinct
    known := fun t' s hs => by
      rcases update_stage hs with ⟨-, rfl⟩ | ⟨-, hs⟩
      · trivial
      · exact (h.known t' s hs).snoc (.refl _)
    admits := fun t' invoice hs => h.admits t' invoice (hold hs)
    apart := fun t₁ t₂ invoice invoice' hs hs' =>
      h.apart t₁ t₂ invoice invoice' (hold hs) (hold hs')
    kept := fun e' he' id row hrow => by
      rcases List.mem_append.1 he' with he' | he'
      · exact h.kept e' he' id row hrow
      · obtain rfl := List.mem_singleton.1 he'
        exact hrow
    inserts := fun e' he' => by
      rcases List.mem_append.1 he' with he' | he'
      · exact h.inserts e' he'
      · obtain rfl := List.mem_singleton.1 he'
        rintro _ _ _ hstep
        cases hinp.symm.trans hstep
    announced := h.announced }

/-- The number that a call comes to have is free, and stays so. -/
theorem admits_moves {t' : ℕ} {invoice : Invoice} {s' : Stage} {b' : Books}
    (h : Ledger cfg tr b qs) (hmoves : Moves cfg m b s q s' b') (hs : qs t = some s)
    (hs' : Function.update qs t (some s') t' = some (.numbered invoice)) : b'.Admits invoice := by
  refine admits_iff.2 fun id row hrow => ?_
  rcases update_stage hs' with ⟨-, rfl⟩ | ⟨hne, hs'⟩
  · obtain ⟨hinvoices, hnumber⟩ := hmoves.next_number
    rw [hinvoices] at hrow
    rw [hnumber]
    exact (h.snapshot id row hrow).1.ne_next
  · rcases hmoves.row hrow with hrow | ⟨rfl, -⟩
    · exact admits_iff.1 (h.admits t' invoice hs') id row hrow
    · exact fun hsame => hne (h.apart t' t invoice row hs' hs hsame.symm)

theorem apart_moves {t₁ t₂ : ℕ} {invoice invoice' : Invoice} {s' : Stage} {b' : Books}
    (h : Ledger cfg tr b qs) (hmoves : Moves cfg m b s q s' b')
    (hs₁ : Function.update qs t (some s') t₁ = some (.numbered invoice))
    (hs₂ : Function.update qs t (some s') t₂ = some (.numbered invoice'))
    (hsame : invoice.invoiceNumber = invoice'.invoiceNumber) : t₁ = t₂ := by
  -- a number that another call has is not the next one
  have hnext {t' : ℕ} {invoice invoice' : Invoice} (hs' : s' = .numbered invoice)
      (hother : qs t' = some (.numbered invoice')) :
      invoice'.invoiceNumber ≠ invoice.invoiceNumber := by
    subst hs'
    rw [hmoves.next_number.2]
    exact Snapshot.ne_next (h.known t' _ hother)
  rcases update_stage hs₁ with ⟨rfl, hnew⟩ | ⟨-, hold₁⟩
  · rcases update_stage hs₂ with ⟨rfl, -⟩ | ⟨-, hold₂⟩
    · rfl
    · exact absurd hsame.symm (hnext hnew.symm hold₂)
  · rcases update_stage hs₂ with ⟨rfl, hnew⟩ | ⟨-, hold₂⟩
    · exact absurd hsame (hnext hnew.symm hold₁)
    · exact h.apart t₁ t₂ invoice invoice' hold₁ hold₂ hsame

/-- An insert is refused only where it has to be. -/
theorem inserts_moves (h : Ledger cfg tr e.pre.shared qs)
    (hans : (billing cfg).Answered (protocol cfg) Stage.ends e qs t m s q a)
    (hmoves : Moves cfg m e.pre.shared s q (s.after q a) e.post.shared) : Inserts e := by
  refine hans.onQuery_iff.2 ?_
  rintro invoice rfl huser hfails
  generalize s.after (.insertInvoice invoice) a = s', e.post.shared = b' at hmoves
  have hstage := hans.stage
  cases hmoves with
  | @saved _ id => exact ⟨id, Finmap.lookup_insert _⟩
  | refused hrefuse =>
    rcases hrefuse (h.admits t invoice hstage) with hnone | hfail
    · exact absurd hnone huser
    · exact absurd hfail hfails

theorem step (h : Ledger cfg tr e.pre.shared qs)
    (hans : (billing cfg).Answered (protocol cfg) Stage.ends e qs t m s q a) :
    Ledger cfg (tr ++ [e]) e.post.shared (Function.update qs t (some (s.after q a))) := by
  have hexec : execBooks t m e.pre.shared q = some (a, e.post.shared) := hans.exec
  have hmoves := moves_of_exec hexec hans.permits
  have hknown := h.known t s hans.stage
  exact {
    snapshot := fun id row hrow => by
      rcases hmoves.row hrow with hrow | ⟨hs, -, -, huser⟩
      · exact (h.snapshot id row hrow).imp_left fun h => h.snoc hmoves.grows.sequence
      · rw [hs] at hknown
        exact ⟨Snapshot.snoc hknown hmoves.grows.sequence, huser⟩
    distinct := by
      generalize s.after q a = s', e.post.shared = b' at hmoves
      cases hmoves with
      | saved hadmits =>
        refine h.distinct.insert fun id row number hrow hnew hnumber => ?_
        exact absurd (Option.some.inj (hnumber.trans hnew.symm)) (admits_iff.1 hadmits id row hrow)
      | _ => exact h.distinct
    known := fun t' s' hs' => by
      rcases update_stage hs' with ⟨-, rfl⟩ | ⟨-, hs'⟩
      · exact hknown.moves hmoves hans.inp
      · exact (h.known t' s' hs').snoc hmoves.grows
    admits := fun t' invoice hs' => h.admits_moves hmoves hans.stage hs'
    apart := fun t₁ t₂ invoice invoice' hs₁ hs₂ hsame => h.apart_moves hmoves hs₁ hs₂ hsame
    kept := fun e' he' id row hrow => by
      rcases List.mem_append.1 he' with he' | he'
      · exact hmoves.grows.invoices id row (h.kept e' he' id row hrow)
      · obtain rfl := List.mem_singleton.1 he'
        exact hmoves.grows.invoices id row hrow
    inserts := fun e' he' => by
      rcases List.mem_append.1 he' with he' | he'
      · exact h.inserts e' he'
      · obtain rfl := List.mem_singleton.1 he'
        exact h.inserts_moves hans hmoves
    announced := fun mail hmail => by
      rcases hmoves.mail hmail with hmail | ⟨invoice, rfl, hannounces⟩
      · obtain ⟨invoice, hstored, hannounces⟩ := h.announced mail hmail
        exact ⟨invoice, hmoves.grows.stored hstored, hannounces⟩
      · exact ⟨invoice, hmoves.grows.stored hknown, hannounces⟩ }

end Ledger

theorem ledger_of_run {cfg : Config} {tr : List Ev} {p : Billing}
    (h : Run (billing cfg).Steps { shared := {} } tr p) :
    ∃ qs, Tracks (protocol cfg) Stage.ends p qs ∧ Ledger cfg tr p.shared qs :=
  System.invariant (C := fun _ _ => True) (fun _ => generateForPayment_meets)
    (fun _ _ _ _ _ hinp _ hshared _ hJ => hJ.call hinp hshared)
    (fun _ _ _ _ _ _ _ _ hans _ hJ => hJ.step hans) h .idle .idle
    (along_iff_forall.2 fun _ _ => trivial)

theorem stored_of_run {cfg : Config} {tr : List Ev} {p : Billing}
    (h : Run (billing cfg).Steps { shared := {} } tr p) {t : ℕ} {invoice : Invoice}
    (hend : p.Ended t (.ok invoice)) : Stored p.shared invoice := by
  obtain ⟨qs, hqs, hJ⟩ := ledger_of_run h
  obtain ⟨s, hs, hends⟩ := hqs.ended hend
  have hknown := hJ.known t s hs
  cases s with
  | saved | found =>
    cases hends
    exact hknown
  | _ => exact hends.elim

/-- **However many invoices are generated at once, each row of the register is a snapshot of a
    payment with a user under a number of its own, is never changed, and is there before it is
    returned or announced; the index on the numbers refuses no insert.** -/
theorem register_sound {cfg : Config} {tr : List Ev} {p : Billing}
    (h : Run (billing cfg).Steps { shared := {} } tr p) : Register cfg tr p := by
  obtain ⟨qs, -, hJ⟩ := ledger_of_run h
  exact {
    snapshot := hJ.snapshot
    distinct := hJ.distinct
    kept := hJ.kept
    inserts := hJ.inserts
    returned := fun _ _ => stored_of_run h
    announced := hJ.announced }

/-! ### Two calls at once -/

def plainConfig : Config where
  localeString := toString

/-- A payment of a user, and its booking. -/
def soldTables : Tables where
  users := Finmap.singleton "u" ⟨"ada@example.com", "Ada"⟩
  bookings := Finmap.singleton "b" {
    userId := some "u", workspaceId := "w", planType := .daily, startDate := 1, endDate := 1,
    totalAmount := 500000, status := .confirmed, paymentDeadline := none, seatCount := 1 }
  payments := Finmap.singleton "p" {
    bookingId := "b", userId := some "u", amount := 500000, provider := .paystack,
    status := .success }
  workspaces := Finmap.singleton "w" ⟨"Loft"⟩

/-- A query of the session, that is answered from `soldTables`. -/
def turn (t : ℕ) (world : World) : Turn Uuid Moment := .step t { world with tables := soldTables }

/-- One call for the payment, from its search for an invoice to its e-mail. -/
def generates (t : ℕ) (id : Uuid) : List (Turn Uuid Moment) :=
  [turn t {}, turn t {}, turn t {}, turn t { row := some "u" }, turn t {}, turn t {},
    turn t { id }, turn t {}, turn t {}]

/-- Two calls for the payment, that both search before one of them saves. -/
def overlapping : List (Turn Uuid Moment) :=
  .call 0 "p" :: .call 1 "p" :: turn 0 {} :: turn 1 {} ::
    (generates 0 "i").tail ++ (generates 1 "i'").tail

/-- Each of the two calls saves an invoice. -/
theorem overlapping_saves : ((billing plainConfig).play { shared := {} } overlapping).any fun x =>
    ((x.2.shared.invoices.lookup "i").any fun row => row.invoiceNumber = "INV-00001") ∧
    ((x.2.shared.invoices.lookup "i'").any fun row => row.invoiceNumber = "INV-00002") ∧
    x.2.shared.queued.length = 2 := by
  decide

theorem register_sound_twice : ∃ tr p, Run (billing plainConfig).Steps { shared := {} } tr p ∧
    p.shared.queued.length = 2 ∧ Register plainConfig tr p := by
  obtain ⟨⟨tr, p⟩, hplay, hfacts⟩ := (Option.any_eq_true _ _).1 overlapping_saves
  obtain ⟨-, -, hqueued⟩ := of_decide_eq_true hfacts
  exact ⟨tr, p, System.run_play hplay, hqueued, register_sound (System.run_play hplay)⟩

/-! ## One invoice for each payment -/

/-- The payment that the call is about. -/
def Stage.paymentId : Stage → Option Uuid
  | called paymentId | absent paymentId | paid paymentId _ | booked paymentId _ _
  | located paymentId _ _ | described paymentId _ _ _ => some paymentId
  | numbered invoice | saved invoice | found invoice => some invoice.paymentId
  | refused => none

/-- The call has found no invoice, and has not saved one. -/
def Stage.Searched : Stage → Prop
  | called _ | saved _ | found _ | refused => False
  | _ => True

section
variable {cfg : Config} {m : Moment} {b b' : Books} {s s' : Stage} {q : Query} {id : Uuid}

theorem Moves.paymentId (h : Moves cfg m b s q s' b') (hid : s'.paymentId = some id) :
    s.paymentId = some id := by
  cases h with
  | found _ heq => exact (congrArg some heq.symm).trans hid
  | unpaid | refused => cases hid
  | _ => exact hid

theorem Moves.searched (h : Moves cfg m b s q s' b') (hs' : s'.Searched)
    (hid : s'.paymentId = some id) :
    b'.invoices = b.invoices ∧ (s.Searched ∨ ∀ key row, b.invoices.lookup key = some row →
      row.paymentId ≠ id) := by
  cases h with
  | absent hnone =>
    cases hid
    exact ⟨rfl, Or.inr hnone⟩
  | found | unpaid | saved | refused | printed | unsent | sent => exact hs'.elim
  | _ => exact ⟨rfl, Or.inl trivial⟩

theorem Stage.Searched.not_ends (h : s.Searched) {r : Except String Invoice} : ¬ s.ends r := by
  cases s with
  | called | saved | found | refused => exact h.elim
  | _ => exact id

end

/-- Where a call has found no invoice, there is none, and each payment has one at most. -/
structure Single (tr : List Ev) (b : Books) (qs : ℕ → Option Stage) : Prop where
  called : ∀ t paymentId, Called tr t paymentId →
    ∃ s, qs t = some s ∧ ∀ id ∈ s.paymentId, id = paymentId
  calls : ∀ t s, qs t = some s → ∃ paymentId, Called tr t paymentId
  single : b.invoices.Unique fun row => some row.paymentId
  absent : ∀ t s id, qs t = some s → s.Searched → s.paymentId = some id →
    ∀ key row, b.invoices.lookup key = some row → row.paymentId ≠ id

namespace Single
variable {cfg : Config} {tr : List Ev} {e : Ev} {qs : ℕ → Option Stage} {t : ℕ} {m : Moment}
  {s : Stage} {q : Query} {a : Answer q} {b : Books}

theorem idle : Single [] {} fun _ => none where
  called _ _ := by
    rintro ⟨_, he, -⟩
    cases he
  calls _ _ hs := by cases hs
  single := .empty
  absent _ _ _ hs := by cases hs

theorem call {paymentId : Uuid} (h : Single tr e.pre.shared qs) (hqs : qs t = none)
    (hinp : e.inp = .call t paymentId) (hshared : e.post.shared = e.pre.shared) :
    Single (tr ++ [e]) e.post.shared (Function.update qs t (some (.called paymentId))) where
  called t' paymentId' hcalled := by
    rcases called_snoc.1 hcalled with hcalled | hinp'
    · obtain ⟨s, hs, hid⟩ := h.called t' paymentId' hcalled
      have hne : t' ≠ t := by
        rintro rfl
        cases hqs.symm.trans hs
      exact ⟨s, (Function.update_of_ne hne _ _).trans hs, hid⟩
    · cases hinp.symm.trans hinp'
      refine ⟨_, Function.update_self .., ?_⟩
      rintro _ ⟨⟩
      rfl
  calls t' s hs := by
    rcases update_stage hs with ⟨rfl, -⟩ | ⟨-, hs⟩
    · exact ⟨paymentId, called_snoc.2 (Or.inr hinp)⟩
    · exact (h.calls t' s hs).imp fun _ hcalled => called_snoc.2 (Or.inl hcalled)
  single := hshared ▸ h.single
  absent t' s id hs hsearched hid := by
    rw [hshared]
    rcases update_stage hs with ⟨-, rfl⟩ | ⟨-, hs⟩
    · exact hsearched.elim
    · exact h.absent t' s id hs hsearched hid

/-- A call that has found no invoice is live. -/
theorem live {p : Billing} {t : ℕ} {s : Stage} {id : Uuid} (h : Single tr b qs)
    (hqs : Tracks (protocol cfg) Stage.ends p qs) (hs : qs t = some s) (hsearched : s.Searched) (hid : s.paymentId = some id) :
    Live tr p t id := by
  obtain ⟨paymentId, hcalled⟩ := h.calls t s hs
  obtain ⟨s', hs', heq⟩ := h.called t paymentId hcalled
  cases hs.symm.trans hs'
  obtain rfl := heq id hid
  refine ⟨hcalled, fun r hend => ?_⟩
  obtain ⟨s', hs', hends⟩ := hqs.ended hend
  cases hs.symm.trans hs'
  exact hsearched.not_ends hends

theorem step (h : Single tr e.pre.shared qs)
    (hans : (billing cfg).Answered (protocol cfg) Stage.ends e qs t m s q a)
    (hsolo : Solo id tr e.pre) :
    Single (tr ++ [e]) e.post.shared (Function.update qs t (some (s.after q a))) := by
  have hexec : execBooks t m e.pre.shared q = some (a, e.post.shared) := hans.exec
  have hmoves := moves_of_exec hexec hans.permits
  -- the row that the call saves is the first of its payment
  have hrow {key : Uuid} {row : Invoice} (hrow : e.post.shared.invoices.lookup key = some row) :
      e.pre.shared.invoices.lookup key = some row ∨ s = .numbered row :=
    (hmoves.row hrow).imp_right fun h => h.1
  have hfirst {row : Invoice} (hs : s = .numbered row) {t' : ℕ} {s' : Stage}
      (hs' : qs t' = some s') (hsearched : s'.Searched) (hid : s'.paymentId = some row.paymentId) :
      t' = t := by
    subst hs
    exact hsolo t' t _ _ (h.live hans.before hs' hsearched hid)
      (h.live hans.before hans.stage trivial rfl) rfl
  exact {
    called := fun t' paymentId hcalled => by
      rcases called_snoc.1 hcalled with hcalled | hinp
      · obtain ⟨s', hs', hid⟩ := h.called t' paymentId hcalled
        by_cases ht : t' = t
        · subst ht
          cases hs'.symm.trans hans.stage
          exact ⟨_, Function.update_self .., fun id hid' => hid id (hmoves.paymentId hid')⟩
        · exact ⟨s', (Function.update_of_ne ht _ _).trans hs', hid⟩
      · cases hans.inp.symm.trans hinp
    calls := fun t' s' hs' => by
      have hcalled : ∃ paymentId, Called tr t' paymentId := by
        rcases update_stage hs' with ⟨rfl, -⟩ | ⟨-, hs'⟩
        · exact h.calls _ s hans.stage
        · exact h.calls t' s' hs'
      exact hcalled.imp fun _ hcalled => called_snoc.2 (Or.inl hcalled)
    single := by
      generalize s.after q a = s', e.post.shared = b' at hmoves
      cases hmoves with
      | saved =>
        refine h.single.insert fun key row id hkey hnew hid => ?_
        exact absurd (Option.some.inj (hid.trans hnew.symm))
          (h.absent t _ _ hans.stage trivial rfl key row hkey)
      | _ => exact h.single
    absent := fun t' s' id hs' hsearched hid key row hkey => by
      rcases update_stage hs' with ⟨rfl, rfl⟩ | ⟨hne, hs'⟩
      · obtain ⟨hinvoices, hsearched' | hnone⟩ := hmoves.searched hsearched hid
        · rw [hinvoices] at hkey
          exact h.absent _ s id hans.stage hsearched' (hmoves.paymentId hid) key row hkey
        · rw [hinvoices] at hkey
          exact hnone key row hkey
      · rcases hrow hkey with hkey | hs
        · exact h.absent t' s' id hs' hsearched hid key row hkey
        · rintro rfl
          exact hne (hfirst hs hs' hsearched hid) }

end Single

/-- **Where the calls for one payment do not overlap, it has one invoice at most, and all of them
    return it.** -/
theorem one_invoice {cfg : Config} {tr : List Ev} {p : Billing}
    (h : Run (billing cfg).Steps { shared := {} } tr p) (hapart : Along (StartsApart id) tr) :
    (p.shared.invoices.Unique fun invoice => some invoice.paymentId) ∧
      ∀ t t' paymentId invoice invoice', Called tr t paymentId → Called tr t' paymentId →
        p.Ended t (.ok invoice) → p.Ended t' (.ok invoice') → invoice = invoice' := by
  obtain ⟨-, hsolo⟩ := System.solo_of_apart h hapart
  obtain ⟨qs, hqs, hJ⟩ := System.invariant (J := Single) (C := fun tr e => Solo id tr e.pre)
    (fun _ => generateForPayment_meets)
    (fun tr e t _ qs hinp hnone hshared _ hJ => hJ.call hnone hinp hshared)
    (fun tr e qs t m s q a hans hsolo hJ => hJ.step hans hsolo)
    h .idle Single.idle hsolo
  refine ⟨hJ.single, fun t t' paymentId invoice invoice' hcalled hcalled' hend hend' => ?_⟩
  have hpayment {t : ℕ} {invoice : Invoice} (hcalled : Called tr t paymentId)
      (hend : p.Ended t (.ok invoice)) : invoice.paymentId = paymentId := by
    obtain ⟨s, hs, hid⟩ := hJ.called t paymentId hcalled
    obtain ⟨s', hs', hends⟩ := hqs.ended hend
    cases hs.symm.trans hs'
    cases s with
    | saved | found =>
      cases hends
      exact hid _ rfl
    | _ => exact hends.elim
  obtain ⟨key, hrow⟩ := stored_of_run h hend
  obtain ⟨key', hrow'⟩ := stored_of_run h hend'
  obtain rfl := hJ.single key key' invoice invoice' paymentId hrow hrow'
    (congrArg some (hpayment hcalled hend)) (congrArg some (hpayment hcalled' hend'))
  exact Option.some.inj (hrow.symm.trans hrow')

/-- A second call, after the first one has ended, returns the invoice of the first. -/
theorem one_invoice_again : ∃ tr p, Run (billing plainConfig).Steps { shared := {} } tr p ∧
    (p.returned 1).isSome ∧
      ∀ invoice, p.returned 1 = some invoice → p.returned 0 = some invoice := by
  have hplay : ((billing plainConfig).play { shared := {} }
      (.call 0 "p" :: generates 0 "i" ++ [.call 1 "p", turn 1 { row := some "i" }])).any fun x =>
      Along (StartsApart id) x.1 ∧ (x.2.returned 0).isSome ∧ (x.2.returned 1).isSome := by
    decide
  obtain ⟨⟨tr, p⟩, hplay, hfacts⟩ := (Option.any_eq_true _ _).1 hplay
  obtain ⟨hapart, hfirst, hsecond⟩ := of_decide_eq_true hfacts
  refine ⟨tr, p, System.run_play hplay, hsecond, fun invoice hinvoice => ?_⟩
  obtain ⟨invoice', hinvoice'⟩ := Option.isSome_iff_exists.1 hfirst
  have hsame := (one_invoice (System.run_play hplay) hapart).2 0 1 "p" invoice' invoice
    ((System.called_play hplay).2 (by simp)) ((System.called_play hplay).2 (by simp))
    (Pool.returned_eq_some.1 hinvoice') (Pool.returned_eq_some.1 hinvoice)
  exact hsame ▸ hinvoice'

/-- Two calls at once may give the payment two invoices. -/
theorem two_invoices : ¬ ∀ tr p, Run (billing plainConfig).Steps { shared := {} } tr p →
    p.shared.invoices.Unique fun invoice => some invoice.paymentId := by
  intro h
  have hplay : ((billing plainConfig).play { shared := {} } overlapping).any fun x =>
      ((x.2.shared.invoices.lookup "i").any fun row => row.paymentId = "p") ∧
      ((x.2.shared.invoices.lookup "i'").any fun row => row.paymentId = "p") := by
    decide
  obtain ⟨⟨tr, p⟩, hplay, hfacts⟩ := (Option.any_eq_true _ _).1 hplay
  obtain ⟨hrow, hrow'⟩ := of_decide_eq_true hfacts
  obtain ⟨row, hrow, hpayment⟩ := (Option.any_eq_true _ _).1 hrow
  obtain ⟨row', hrow', hpayment'⟩ := (Option.any_eq_true _ _).1 hrow'
  have hsame := h tr p (System.run_play hplay) "i" "i'" row row' "p" hrow hrow'
    (congrArg some (of_decide_eq_true hpayment)) (congrArg some (of_decide_eq_true hpayment'))
  exact absurd hsame (by decide)

end PaymentMail
