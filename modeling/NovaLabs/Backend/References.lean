/-
  Which references are given out, and which payments they find.

  A new payment's reference is its id, and is saved before it is given out.  An initialization that
  finds a PENDING payment gives its id out and saves nothing.
-/
import NovaLabs.Backend.PaymentProtocol

namespace Backend

open Lib

/-- A payment keeps its id as its reference. -/
def ReferencesAllow : ∀ row, Option (Record row) → Record row → Prop
  | .payment id, old, new => ∀ v, old = some v → v.providerReference = some id →
      new.providerReference = some id
  | .workspace _, _, _ | .booking _, _, _ | .user _, _, _ => True

def referenceDiscipline : Discipline Record where
  allows _ := ReferencesAllow
  mono _ h := h
  trans {_ row _ _ _} h h' := by
    cases row with
    | payment id => exact fun v hv href => h' _ rfl (h v hv href)
    | workspace | booking | user => trivial

/-- The rows may have changed from `db` to `db'`. -/
abbrev ReferenceMoves (locked : Finset Row) (db db' : Database) : Prop :=
  ∀ row, referenceDiscipline.Moves locked row (db.lookup row) (db'.lookup row)

/-- The payment is there, with its id as its reference. -/
def Referred (db : Database) (id : Uuid) : Prop :=
  ∃ v, db.payment id = some v ∧ v.providerReference = some id

/-- What a stage says about the rows that its session sees. -/
def SaveStage.Holds (db : Database) : SaveStage → Prop
  | idle => True
  | inserted id _ | existing id => ∃ v, db.payment id = some v
  | answered id _ reference => reference = id ∧ ∃ v, db.payment id = some v
  | reread id _ reference stored => reference = id ∧ ∃ v, db.payment id = some v ∧
      (stored.providerReference = some id → v.providerReference = some id)
  | saved id reference | reused id reference => reference = id ∧ Referred db id
  | missing => False

section
variable {locked : Finset Row} {db db' : Database}

theorem ReferenceMoves.payment (h : ReferenceMoves locked db db') {id : Uuid} {v : Payment}
    (hv : db.payment id = some v) : ∃ v', db'.payment id = some v' ∧
      (v.providerReference = some id → v'.providerReference = some id) := by
  rcases h (.payment id) with hsame | ⟨v', hv', hallows⟩
  · exact ⟨v, hsame.trans hv, fun href => href⟩
  · exact ⟨v', hv', hallows v hv⟩

theorem SaveStage.Holds.moves {stage : SaveStage} (hs : stage.Holds db)
    (h : ReferenceMoves locked db db') : stage.Holds db' := by
  cases stage with
  | idle | missing => exact hs
  | inserted id | existing id =>
    obtain ⟨v, hv⟩ := hs
    exact (h.payment hv).imp fun _ hv' => hv'.1
  | answered id held reference =>
    obtain ⟨href, v, hv⟩ := hs
    exact ⟨href, (h.payment hv).imp fun _ hv' => hv'.1⟩
  | reread id held reference stored =>
    obtain ⟨href, v, hv, hstored⟩ := hs
    exact ⟨href, (h.payment hv).imp fun _ hv' => ⟨hv'.1, fun hid => hv'.2 (hstored hid)⟩⟩
  | saved id reference | reused id reference =>
    obtain ⟨href, v, hv, hid⟩ := hs
    exact ⟨href, (h.payment hv).imp fun _ hv' => ⟨hv'.1, hv'.2 hid⟩⟩

end

/-- Payments have no reference but their ids. -/
def OwnReferences (s : DbServer) : Prop :=
  ∀ id v, s.Holds (.payment id) v → v.providerReference = none ∨ v.providerReference = some id

/-- Paystack answers with the reference that it was given. -/
def Query.echoed (w : World) : Query → Bool
  | .initializeTransaction _ _ reference => w.checkout.all (·.reference = reference)
  | _ => true

abbrev Echoed (e : Ev) : Prop := OnQuery (fun _ w op => op.echoed w) e

/-- A session returns with Paystack's answer only if the reference is saved already. -/
def Query.reusesSaved (db : Database) (returned : Option Response) : Query → Bool
  | .initializeTransaction _ _ reference =>
    returned.isNone ∨ (db.payment reference).any (·.providerReference = some reference)
  | _ => true

abbrev ReusesSaved (e : Ev) : Prop :=
  OnQuery (fun t _ op => op.reusesSaved e.pre.shared.db (e.post.returned t)) e

section
variable {s s' : DbServer} {t : ℕ} {w : World} {op : Query} {a : Answer op} {q : PaymentStage}
  {qs : ℕ → Option PaymentStage} {id : Uuid} {v : Payment}

/-- The columns that a save of the reference writes. -/
theorem changes_reference {held stored : Payment} {reference : String} (old : Payment) :
    (old.set ((held.referring reference).changes stored)).providerReference =
      if stored.providerReference = some reference then old.providerReference
      else some reference := by
  simp only [Payment.set, Payment.changes, differing, Payment.referring, eq_comm]
  split_ifs <;> rfl

theorem OwnReferences.step (h : OwnReferences s) (hexec : exec t w s op = some (a, s'))
    (hp : q.permits op) (hq : q.save.Holds (s.view t)) : OwnReferences s' := by
  intro id v hv
  rcases holds_of_exec hexec hv with hv | hrow
  · exact h id v hv
  rcases payment_row hrow with ⟨rfl, -⟩ | ⟨old, hold, hnew⟩
  · exact Or.inl hp.2.2.2.2.2
  have hown := h id old (Server.holds_of_view hold)
  rcases hnew with ⟨which, source, target, -, -, -, rfl⟩ | ⟨c, rfl, rfl⟩
  · exact hown
  · obtain ⟨held, reference, stored, hsave, rfl⟩ := hp.2.2
    rw [hsave] at hq
    rw [changes_reference, hq.1]
    split_ifs
    · exact hown
    · exact Or.inr rfl

theorem rows_keep_references (hexec : exec t w s op = some (a, s')) (hp : q.permits op)
    (hq : q.save.Holds (s.view t)) (row : Row) (new : Record row)
    (hrow : (op.rows w (s.view t)).lookup row = some new) :
    ReferencesAllow row ((s.view t).lookup row) new := by
  cases row with
  | workspace | booking | user => trivial
  | payment id =>
    intro v hv href
    rcases payment_row hrow with ⟨rfl, rfl⟩ | ⟨old, hold, hnew⟩
    · exact absurd (Finmap.mem_of_lookup_eq_some hv) (insertPayment_fresh hexec).1
    obtain rfl : v = old := Option.some.inj (hv.symm.trans hold)
    rcases hnew with ⟨which, source, target, -, -, -, rfl⟩ | ⟨c, rfl, rfl⟩
    · exact href
    · obtain ⟨held, reference, stored, hsave, rfl⟩ := hp.2.2
      rw [hsave] at hq
      rw [changes_reference, hq.1]
      split_ifs
      · exact href
      · rfl

theorem view_references (hexec : exec t w s op = some (a, s')) (hp : q.permits op)
    (hq : q.save.Holds (s.view t)) (hop : op ≠ .rollback) :
    ReferenceMoves (s.locks t) (s.view t) (s'.view t) :=
  view_moves hexec hop (rows_keep_references hexec hp hq)

/-- What the second read of a payment shows. -/
theorem read_holds {found : Option (Uuid × Payment)} {held : Payment} {reference : String}
    (hexec : exec t w s (.findPayment (.byId id)) = some (found, s)) (href : reference = id)
    (hv : (s.view t).payment id = some v) :
    (SaveStage.read id held reference found).Holds (s.view t) := by
  cases found with
  | none => exact absurd (decide_eq_true rfl) (findPayment_none hexec hv)
  | some found =>
    obtain ⟨hfound, hid⟩ := findPayment_some hexec
    obtain ⟨id', stored⟩ := found
    obtain rfl : id' = id := of_decide_eq_true hid
    rw [SaveStage.read]
    split_ifs with hsame
    · have hreference := differing_eq_none.1 (congrArg PaymentChanges.providerReference hsame)
      exact ⟨href, stored, hfound, hreference.symm.trans (congrArg some href)⟩
    · exact ⟨href, stored, hfound, fun h => h⟩

/-- What a session knows after its own query. -/
theorem SaveStage.Holds.after (hexec : exec t w s op = some (a, s')) (hp : q.permits op)
    (hq : q.save.Holds (s.view t)) (hecho : op.echoed w)
    (hreuse : ∀ id reference, q.save.after op a = .reused id reference → Referred (s.view t) id) :
    (q.save.after op a).Holds (s'.view t) := by
  have hmoves (hop : op ≠ .rollback) : q.save.Holds (s'.view t) :=
    hq.moves (view_references hexec hp hq hop)
  cases op with
  | rollback => trivial
  | insertPayment payment =>
    obtain ⟨_, hi, heq⟩ := Option.map_eq_some_iff.1 hexec
    cases heq
    refine ⟨payment, ?_⟩
    rw [Database.payment, exec_view hexec (by rintro ⟨⟩), Query.rows, Finmap.lookup_insert,
      Option.some_or]
  | initializeTransaction email amount reference =>
    cases hexec
    cases hcheckout : w.checkout with
    | none => exact hq
    | some checkout =>
      rw [hcheckout] at hreuse
      have href : checkout.reference = reference := by
        rw [Query.echoed, hcheckout, Option.all_some] at hecho
        exact of_decide_eq_true hecho
      cases hsave : q.save with
      | inserted id held =>
        rw [hsave] at hq
        obtain ⟨held', hid⟩ | hid := hp.2.2
        · rw [hsave] at hid
          cases hid
          exact ⟨href, hq⟩
        · cases hsave.symm.trans hid
      | existing id =>
        rw [hsave] at hreuse
        obtain ⟨held', hid⟩ | hid := hp.2.2
        · cases hsave.symm.trans hid
        · rw [hsave] at hid
          cases hid
          exact ⟨href, hreuse _ _ rfl⟩
      | idle | answered | reread | saved | missing | reused =>
        rw [hsave] at hq
        exact hq
  | findPayment which =>
    cases which with
    | pendingOf bookingId =>
      cases a with
      | none => exact hmoves (by rintro ⟨⟩)
      | some found =>
        have hfound := (findPayment_some hexec).1
        obtain ⟨_, -, heq⟩ := Option.map_eq_some_iff.1 hexec
        cases heq
        cases hsave : q.save with
        | idle => exact ⟨found.2, hfound⟩
        | inserted | answered | reread | saved | missing | existing | reused =>
          rw [hsave] at hq
          exact hq
    | byId id' =>
      cases hsave : q.save with
      | answered id held reference =>
        rw [hsave] at hq
        obtain ⟨href, v, hv⟩ := hq
        obtain ⟨_, -, heq⟩ := Option.map_eq_some_iff.1 hexec
        cases heq
        simp only [SaveStage.after]
        split_ifs with hid
        · subst hid
          exact read_holds hexec href hv
        · exact ⟨href, v, hv⟩
      | idle | inserted | reread | saved | missing | existing | reused =>
        have hkept := hmoves (by rintro ⟨⟩)
        rw [hsave] at hkept
        exact hkept
    | byReference | ofBookings => exact hmoves (by rintro ⟨⟩)
  | updatePayment id c =>
    obtain ⟨held, reference, stored, hsave, rfl⟩ := hp.2.2
    rw [hsave] at hq ⊢
    obtain ⟨href, v, hv, hstored⟩ := hq
    refine ⟨href, v.set ((held.referring reference).changes stored), ?_, ?_⟩
    · have hlookup : (s.view t).lookup (.payment id) = some v := hv
      rw [Database.payment, exec_view hexec (by rintro ⟨⟩), Query.rows, Storage.lookup_changes, hlookup,
        Option.bind_some, paymentSave, if_pos rfl, Option.some_or]
    · rw [changes_reference, href]
      split_ifs with hsame
      · exact hstored hsame
      · rfl
  | begin | commit | now | lockWorkspace | bookedSeats | findWorkspace | updateWorkspace
  | findBooking | findBookings | insertBooking | updateBookings | updateBooking | updatePayments
  | findUser | updateUser | initiateRefund | createEscrow | start => exact hmoves (by rintro ⟨⟩)

/-- A session comes to reuse a payment when Paystack answers for one that it has found. -/
theorem SaveStage.reuses {stage : SaveStage} {op : Query} {a : Answer op} {id : Uuid}
    {reference : String} (hq : stage.isReused = false) (h : stage.after op a = .reused id reference) :
    stage = .existing id ∧ ∃ email amount given, op = .initializeTransaction email amount given := by
  cases op with
  | initializeTransaction email amount given =>
    cases a with
    | none => exact nomatch hq.symm.trans (congrArg isReused h)
    | some checkout =>
      cases stage with
      | existing id' =>
        cases h
        exact ⟨rfl, email, amount, given, rfl⟩
      | idle | inserted | answered | reread | saved | missing => cases h
      | reused => cases hq
  | rollback | insertPayment => cases h
  | findPayment which =>
    cases which with
    | pendingOf bookingId =>
      cases a with
      | none => exact nomatch hq.symm.trans (congrArg isReused h)
      | some found =>
        cases stage with
        | reused => cases hq
        | idle | inserted | answered | reread | saved | missing | existing => cases h
    | byId id' =>
      cases stage with
      | answered id'' held given =>
        simp only [SaveStage.after, SaveStage.read] at h
        split_ifs at h with hid
        cases a with
        | none => cases h
        | some found =>
          dsimp only at h
          split_ifs at h
      | reused => cases hq
      | idle | inserted | reread | saved | missing | existing => cases h
    | byReference | ofBookings => exact nomatch hq.symm.trans (congrArg isReused h)
  | updatePayment =>
    cases stage with
    | reused => cases hq
    | idle | inserted | answered | reread | saved | missing | existing => cases h
  | begin | commit | now | lockWorkspace | bookedSeats | findWorkspace | updateWorkspace
  | findBooking | findBookings | insertBooking | updateBookings | updateBooking | updatePayments
  | findUser | updateUser | initiateRefund | createEscrow | start =>
    exact nomatch hq.symm.trans (congrArg isReused h)

end

/-- Payments have no reference but their ids, and sessions know which are saved. -/
structure ReferencesSafe (s : DbServer) (qs : ℕ → Option PaymentStage) : Prop where
  sound : s.Sound referenceDiscipline
  aligned : Aligned s qs
  own : OwnReferences s
  saves : ∀ t q, qs t = some q → q.save.Holds (s.view t)

section
variable {e : Ev} {t : ℕ} {w : World} {op : Query} {a : Answer op} {q : PaymentStage}
  {qs : ℕ → Option PaymentStage}

theorem ReferencesSafe.call (h : ReferencesSafe e.pre.shared qs) (ht : qs t = none)
    (hshared : e.post.shared = e.pre.shared) :
    ReferencesSafe e.post.shared (Function.update qs t (some .start)) where
  sound := hshared.symm ▸ h.sound
  aligned := hshared.symm ▸ h.aligned.call ht
  own := hshared.symm ▸ h.own
  saves t' q hq := by
    rw [hshared]
    rcases update_stage hq with ⟨-, rfl⟩ | ⟨-, hq⟩
    · trivial
    · exact h.saves t' q hq

/-- A session that comes to reuse a payment has returned, and the payment's reference is saved. -/
theorem reused_referred {cfg : Config}
    (hans : (backend cfg).Answered paymentProtocol PaymentStage.Ends e qs t w q op a)
    (h : ReferencesSafe e.pre.shared qs) (hreuse : ReusesSaved e) {id : Uuid} {reference : String}
    (hafter : q.save.after op a = .reused id reference) : Referred (e.pre.shared.view t) id := by
  have hp : q.permits op := hans.permits
  obtain ⟨hexisting, email, amount, given, rfl⟩ := SaveStage.reuses hp.2.1 hafter
  have hid : id = given := by
    rcases hp.2.2 with ⟨held, hsave⟩ | hsave
    · cases hexisting.symm.trans hsave
    · exact SaveStage.existing.inj (hexisting.symm.trans hsave)
  have hstuck (op' : Query) : ¬ paymentProtocol.permits (paymentProtocol.after q _ a) op' :=
    fun hp' => nomatch hp'.2.1.symm.trans (congrArg SaveStage.isReused hafter)
  obtain ⟨r, hended, hends⟩ := hans.after.ended_of_stuck (Function.update_self ..) hstuck
  obtain ⟨response, rfl⟩ := hends.reused (congrArg SaveStage.isReused hafter)
  have hsaved : (Query.initializeTransaction email amount given).reusesSaved e.pre.shared.db
      (e.post.returned t) := hreuse t w _ hans.inp hans.asks
  rw [Pool.returned_eq_some.2 hended] at hsaved
  obtain ⟨v, hv, href⟩ := (Option.any_eq_true _ _).1
    ((of_decide_eq_true hsaved).resolve_left Bool.noConfusion)
  have htx : q.tx = .outside := hends.outside
  rw [Referred, DbServer.view, Server.view_none (h.aligned.outside hans.stage htx), hid]
  exact ⟨v, hv, of_decide_eq_true href⟩

theorem ReferencesSafe.step {cfg : Config}
    (hans : (backend cfg).Answered paymentProtocol PaymentStage.Ends e qs t w q op a)
    (h : ReferencesSafe e.pre.shared qs) (hecho : Echoed e) (hreuse : ReusesSaved e) :
    ReferencesSafe e.post.shared (Function.update qs t (some (q.after op a))) := by
  have hexec : exec t w e.pre.shared op = some (a, e.post.shared) := hans.exec
  have hp : q.permits op := hans.permits
  have hq := h.saves t q hans.stage
  have hchange := exec_change (D := referenceDiscipline) hexec (rows_keep_references hexec hp hq)
  refine ⟨hchange.sound h.sound, h.aligned.step hexec hans.stage, h.own.step hexec hp hq, ?_⟩
  intro t' q' hq'
  rcases update_stage hq' with ⟨rfl, rfl⟩ | ⟨ht, hq'⟩
  · exact hq.after hexec hp (hecho t' w op hans.inp hans.asks) fun id reference hafter =>
      reused_referred hans h hreuse hafter
  · exact (h.saves t' q' hq').moves (hchange.view h.sound ht)

end

/-- A payment's reference, where it has one, is its id. -/
def OwnIds (db : Database) : Prop :=
  ∀ id v, db.payment id = some v → v.providerReference = none ∨ v.providerReference = some id

theorem referencesSafe_idle {db : Database} (hdb : OwnIds db) :
    ReferencesSafe (idle db).shared fun _ => none where
  sound := Server.sound_idle db
  aligned := aligned_idle db
  own id v hv := hdb id v (Server.holds_idle.1 hv)
  saves _ _ hq := by cases hq

/-- **Where sessions reuse saved payments only, the references that are given out are saved, and
    webhooks find their payments.** -/
theorem issued_references {cfg : Config} {db : Database} {tr : List Ev} {p : Sessions}
    (h : Run (backend cfg).Steps (idle db) tr p) (hdb : OwnIds db) (hecho : ∀ e ∈ tr, Echoed e)
    (hreuse : ∀ e ∈ tr, ReusesSaved e) {t : ℕ} {response : Response} {id : Uuid}
    {reference : String} (hend : p.Ended t (.ok response))
    (hissued : response.issued = some (id, reference)) :
    (∃ v, p.shared.db.payment id = some v ∧ v.providerReference = some reference) ∧
      ∀ t' w found s, p.Asks t' (.findPayment (.byReference reference)) →
        exec t' w p.shared (.findPayment (.byReference reference)) = some (found, s) →
        ∃ v, found = some (id, v) := by
  have hC : Along (fun _ e => Echoed e ∧ ReusesSaved e) tr :=
    along_iff_forall.2 fun e he => ⟨hecho e he, hreuse e he⟩
  obtain ⟨qs, hqs, hJ⟩ := System.invariant (J := fun _ => ReferencesSafe) (program_payments cfg)
    (fun tr e t r qs _ hqs hshared _ hJ => hJ.call hqs hshared)
    (fun tr e qs t w q op a hans hC hJ => hJ.step hans hC.1 hC.2)
    h .idle (referencesSafe_idle hdb) hC
  obtain ⟨q, hq, hends⟩ := hqs.ended hend
  obtain ⟨htx, hsave⟩ := hends.issued response id reference rfl hissued
  have hholds := hJ.saves t q hq
  rw [DbServer.view, Server.view_none (hJ.aligned.outside hq htx)] at hholds
  obtain ⟨rfl, v, hv, href⟩ : reference = id ∧ Referred p.shared.db id := by
    rcases hsave with hsave | hsave | hsave <;> rw [hsave] at hholds
    · exact hholds
    · exact hholds
    · exact hholds.elim
  refine ⟨⟨v, hv, href⟩, fun t' w found s hasks hexec => ?_⟩
  obtain ⟨q', hq', hp'⟩ := hqs.asks hasks
  have hview : p.shared.view t' = p.shared.db := Server.view_none (hJ.aligned.outside hq' hp'.2.2)
  cases found with
  | none =>
    exact absurd (decide_eq_true href) (findPayment_none hexec (hview ▸ hv))
  | some found =>
    obtain ⟨hfound, hselects⟩ := findPayment_some hexec
    have hreference : found.2.providerReference = some reference := of_decide_eq_true hselects
    rcases hJ.own found.1 found.2 (Server.holds_of_view hfound) with hnone | hown
    · cases hnone.symm.trans hreference
    · have hid : found.1 = reference := Option.some.inj (hown.symm.trans hreference)
      exact ⟨found.2, congrArg some (Prod.ext hid rfl)⟩

def Row.isPayment : Row → Bool
  | .payment _ => true
  | _ => false

theorem ownIds_payable : OwnIds payable := by
  have hnone : payable.All fun row _ => ¬ row.isPayment := by decide
  intro id v hv
  exact absurd rfl (of_decide_eq_true (Database.all_iff.1 hnone (.payment id) v hv))

/-- A payment is initialized, and its reference is given out. -/
theorem issued_references_saved : ∃ tr p,
    Run (backend plainConfig).Steps (idle payable) tr p ∧
      ∃ v, p.shared.db.payment "p" = some v ∧ v.providerReference = some "p" := by
  have hplay : ((backend plainConfig).play (idle payable)
      [.call 0 (.initializePayment "b" "u"), .step 0 {}, .step 0 {}, .step 0 {},
        .step 0 { id := "p" }, .step 0 { checkout := some ⟨"url", "p"⟩ },
        .step 0 { row := some "p" }, .step 0 {}]).any fun x =>
      (∀ e ∈ x.1, Echoed e) ∧ (∀ e ∈ x.1, ReusesSaved e) ∧
        (x.2.returned 0).any (·.issued = some ("p", "p")) := by
    decide
  obtain ⟨⟨tr, p⟩, hplay, hfacts⟩ := (Option.any_eq_true _ _).1 hplay
  obtain ⟨hecho, hreuse, hreturned⟩ := of_decide_eq_true hfacts
  obtain ⟨response, hreturned, hissued⟩ := (Option.any_eq_true _ _).1 hreturned
  exact ⟨tr, p, System.run_play hplay, (issued_references (System.run_play hplay) ownIds_payable
    hecho hreuse (Pool.returned_eq_some.1 hreturned) (of_decide_eq_true hissued)).1⟩

/-- Paystack fails once.  The retry finds the payment that the first attempt has inserted, and gives
    out a reference that is not saved. -/
theorem reused_reference_unsaved : ¬ ∀ tr p, Run (backend plainConfig).Steps (idle payable) tr p →
    (∀ e ∈ tr, Echoed e) → ∀ t response id reference, p.Ended t (.ok response) →
      response.issued = some (id, reference) →
      ∃ v, p.shared.db.payment id = some v ∧ v.providerReference = some reference := by
  intro hclaim
  have hplay : ((backend plainConfig).play (idle payable)
      [.call 0 (.initializePayment "b" "u"), .step 0 {}, .step 0 {}, .step 0 {},
        .step 0 { id := "p" }, .step 0 {}, .call 1 (.initializePayment "b" "u"), .step 1 {},
        .step 1 { row := some "p" }, .step 1 {}, .step 1 { checkout := some ⟨"url", "p"⟩ }]).any
      fun x => (∀ e ∈ x.1, Echoed e) ∧ (x.2.returned 1).any (·.issued = some ("p", "p")) ∧
        (x.2.shared.db.payment "p").all (·.providerReference = none) := by decide
  obtain ⟨⟨tr, p⟩, hplay, hfacts⟩ := (Option.any_eq_true _ _).1 hplay
  obtain ⟨hecho, hreturned, hunsaved⟩ := of_decide_eq_true hfacts
  obtain ⟨response, hreturned, hissued⟩ := (Option.any_eq_true _ _).1 hreturned
  obtain ⟨v, hv, href⟩ := hclaim tr p (System.run_play hplay) hecho 1 response "p" "p"
    (Pool.returned_eq_some.1 hreturned) (of_decide_eq_true hissued)
  rw [hv, Option.all_some, decide_eq_true_eq] at hunsaved
  cases hunsaved.symm.trans href

end Backend
