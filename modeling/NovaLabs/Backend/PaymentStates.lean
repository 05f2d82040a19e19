/-
  The state machine of payments: PENDING to SUCCESS to REFUNDED, or PENDING to FAILED.

  Conditional updates follow it.  The save after Paystack's answer does where its second read finds
  the payment as it was inserted; otherwise it writes PENDING over a status that was set meanwhile.
-/
import NovaLabs.Backend.PaymentProtocol

namespace Backend

open Lib

/-- The stored status stays, or makes one step of the state machine; SUCCESS stays or is refunded. -/
def FollowsStates (e : Ev) : Prop :=
  ∀ id v, e.pre.shared.db.payment id = some v →
    ∃ v', e.post.shared.db.payment id = some v' ∧
      (v'.status = v.status ∨ v.status.Next v'.status) ∧
      (v.status = .success → v'.status = .success ∨ v'.status = .refunded)

/-- The query does not save a status over another one. -/
def Query.savesNoStatus : Query → Bool
  | .updatePayment _ c => c.status = none
  | _ => true

/-- The turn does not save a status over another one. -/
abbrev SavesNoStatus (e : Ev) : Prop := OnQuery (fun _ _ op => op.savesNoStatus) e

/-- A transaction has taken the payments that it has written one step at most. -/
def OneStep (s : DbServer) : Prop :=
  ∀ t x id v v', s.active.lookup t = some x → s.db.payment id = some v →
    x.written.lookup (.payment id) = some v' → v'.status = v.status ∨ v.status.Next v'.status

section
variable {s s' : DbServer} {t : ℕ} {w : World} {op : Query} {a : Answer op} {q : PaymentStage}
  {qs : ℕ → Option PaymentStage} {id : Uuid} {v v' : Payment}

/-- How far a query takes the payments that its session sees. -/
theorem row_one_step (hexec : exec t w s op = some (a, s')) (hp : q.permits op)
    (hsave : op.savesNoStatus) (hold : (s.view t).payment id = some v)
    (h : (op.rows w (s.view t)).lookup (.payment id) = some v') :
    v'.status = v.status ∨ v.status.Next v'.status ∧
      (q.tx ≠ .outside → v.status = .pending ∧ v'.status = .failed) := by
  rcases payment_row h with ⟨rfl, rfl⟩ | ⟨old, hold', hnew⟩
  · exact absurd (Finmap.mem_of_lookup_eq_some hold) (insertPayment_fresh hexec).1
  obtain rfl : v = old := Option.some.inj (hold.symm.trans hold')
  rcases hnew with ⟨which, source, target, rfl, -, rfl, rfl⟩ | ⟨c, rfl, rfl⟩
  · rcases hp.2.2 with ⟨htx, hnext⟩ | ⟨ids, htx, -, hsource, rfl⟩
    · exact Or.inr ⟨hnext, fun hne => absurd htx hne⟩
    · exact Or.inr ⟨hsource ▸ .failed, fun _ => ⟨hsource, rfl⟩⟩
  · refine Or.inl ?_
    rw [Payment.set, of_decide_eq_true hsave, Option.getD_none]

/-- The committed payments take one step at most. -/
theorem stored_one_step (hexec : exec t w s op = some (a, s')) (hp : q.permits op)
    (hsave : op.savesNoStatus) (hone : OneStep s) (hv : s.db.payment id = some v) :
    ∃ v', s'.db.payment id = some v' ∧ (v'.status = v.status ∨ v.status.Next v'.status) := by
  rcases stored_cases hexec (.payment id) with hsame | ⟨x, v', hx, hw, hv'⟩ | ⟨v', hx, hw, hv'⟩
  · exact ⟨v, hsame.trans hv, Or.inl rfl⟩
  · exact ⟨v', hv', hone t x id v v' hx hv hw⟩
  · have hview : (s.view t).payment id = some v := by rwa [DbServer.view, Server.view_none hx]
    exact ⟨v', hv', (row_one_step hexec hp hsave hview hw).imp_right And.left⟩

/-- Inside a transaction, payments are released only. -/
theorem OneStep.step (hone : OneStep s) (hsound : s.Sound Discipline.free) (haligned : Aligned s qs)
    (hexec : exec t w s op = some (a, s')) (hq : qs t = some q) (hp : q.permits op)
    (hsave : op.savesNoStatus) : OneStep s' := by
  intro t' x id v v' hx hv hw
  by_cases ht : t' = t
  · subst ht
    rcases exec_written hexec hx with ⟨-, hempty⟩ | ⟨x₀, hx₀, hstored, hwritten⟩
    · rw [hempty, Finmap.lookup_empty] at hw
      cases hw
    rw [DbServer.db, hstored] at hv
    rw [hwritten] at hw
    cases hrow : (op.rows w (s.view t')).lookup (.payment id) with
    | none =>
      rw [hrow, Option.none_or] at hw
      exact hone t' x₀ id v v' hx₀ hv hw
    | some new =>
      rw [hrow, Option.some_or, Option.some.injEq] at hw
      subst hw
      have htx : q.tx ≠ .outside := fun htx => by cases (haligned.outside hq htx).symm.trans hx₀
      cases hold : x₀.written.lookup (.payment id) with
      | none =>
        have hview : (s.view t').payment id = some v := by
          rw [Database.payment, DbServer.view, Server.lookup_view hx₀, hold, Option.none_or]
          exact hv
        exact (row_one_step hexec hp hsave hview hrow).imp_right And.left
      | some old =>
        have hview : (s.view t').payment id = some old := by
          rw [Database.payment, DbServer.view, Server.lookup_view hx₀, hold, Option.some_or]
        have hfirst := hone t' x₀ id v old hx₀ hv hold
        rcases row_one_step hexec hp hsave hview hrow with hsame | ⟨-, hrelease⟩
        · exact hsame ▸ hfirst
        · obtain ⟨hpending, hfailed⟩ := hrelease htx
          rw [hpending] at hfirst
          rcases hfirst with hv | hnext
          · exact Or.inr (hfailed ▸ hv ▸ .failed)
          · exact absurd hnext PaymentStatus.not_next_pending
  · have hchange := exec_free hexec
    rw [hchange.active ht] at hx
    have hkept := hchange.kept hsound ht hx (Or.inl (Finmap.mem_of_lookup_eq_some hw))
    exact hone t' x id v v' hx (hkept.symm.trans hv) hw

/-- The history follows the state machine, and so do the open transactions. -/
structure StatesSafe (tr : List Ev) (s : DbServer) (qs : ℕ → Option PaymentStage) : Prop where
  follows : ∀ e ∈ tr, FollowsStates e
  sound : s.Sound Discipline.free
  aligned : Aligned s qs
  written : OneStep s

theorem StatesSafe.call {tr : List Ev} {e : Ev} (h : StatesSafe tr e.pre.shared qs)
    (ht : qs t = none) (hshared : e.post.shared = e.pre.shared) :
    StatesSafe (tr ++ [e]) e.post.shared (Function.update qs t (some .start)) where
  follows := by
    refine List.forall_mem_append.2 ⟨h.follows, List.forall_mem_singleton.2 fun id v hv => ?_⟩
    exact ⟨v, hshared.symm ▸ hv, Or.inl rfl, Or.inl⟩
  sound := hshared.symm ▸ h.sound
  aligned := hshared.symm ▸ h.aligned.call ht
  written := hshared.symm ▸ h.written

theorem StatesSafe.step {tr : List Ev} {e : Ev} (h : StatesSafe tr e.pre.shared qs)
    (hexec : exec t w e.pre.shared op = some (a, e.post.shared)) (hq : qs t = some q)
    (hp : q.permits op) (hsave : op.savesNoStatus) :
    StatesSafe (tr ++ [e]) e.post.shared (Function.update qs t (some (q.after op a))) where
  follows := by
    refine List.forall_mem_append.2 ⟨h.follows, List.forall_mem_singleton.2 fun id v hv => ?_⟩
    obtain ⟨v', hv', hstep⟩ := stored_one_step hexec hp hsave h.written hv
    refine ⟨v', hv', hstep, fun hsuccess => ?_⟩
    rw [hsuccess] at hstep
    exact hstep.imp_right PaymentStatus.Next.of_success
  sound := (exec_free hexec).sound h.sound
  aligned := h.aligned.step hexec hq
  written := h.written.step h.sound h.aligned hexec hq hp hsave

theorem statesSafe_idle (db : Database) : StatesSafe [] (idle db).shared fun _ => none where
  follows _ he := absurd he List.not_mem_nil
  sound := Server.sound_idle db
  aligned := aligned_idle db
  written _ _ _ _ _ hx := by cases hx

end

/-- **Where no save writes a status, every payment follows its state machine**: PENDING to SUCCESS
    to REFUNDED, or PENDING to FAILED. -/
theorem payment_states {cfg : Config} {db : Database} {tr : List Ev} {p : Sessions}
    (h : Run (backend cfg).Steps (idle db) tr p) (hsaves : ∀ e ∈ tr, SavesNoStatus e) :
    ∀ e ∈ tr, FollowsStates e := by
  have hC : Along (fun _ e => SavesNoStatus e) tr := along_iff_forall.2 hsaves
  obtain ⟨qs, -, hJ⟩ := System.invariant (J := StatesSafe) (program_payments cfg)
    (fun tr e t r qs _ hqs hshared _ hJ => hJ.call hqs hshared)
    (fun tr e qs t w q op a hans hsaves hJ => hJ.step hans.exec hans.stage hans.permits
      (hsaves t w op hans.inp hans.asks))
    h .idle (statesSafe_idle db) hC
  exact hJ.follows

/-- A payment is initialized, and then paid. -/
theorem payment_states_success : ∃ tr p,
    Run (backend plainConfig).Steps (idle payable) tr p ∧
      (p.shared.db.payment "p").any (·.status = .success) ∧ ∀ e ∈ tr, FollowsStates e := by
  have hplay : ((backend plainConfig).play (idle payable)
      [.call 0 (.initializePayment "b" "u"), .step 0 {}, .step 0 {}, .step 0 {},
        .step 0 { id := "p" }, .step 0 { checkout := some ⟨"url", "p"⟩ },
        .step 0 { row := some "p" }, .step 0 {}, .call 1 (.handleWebhook ⟨"p", "p", none⟩),
        .step 1 { row := some "p" }, .step 1 {}]).any fun x =>
      (∀ e ∈ x.1, SavesNoStatus e) ∧ (x.2.shared.db.payment "p").any (·.status = .success) := by
    decide
  obtain ⟨⟨tr, p⟩, hplay, hfacts⟩ := (Option.any_eq_true _ _).1 hplay
  obtain ⟨hsaves, hsuccess⟩ := of_decide_eq_true hfacts
  exact ⟨tr, p, System.run_play hplay, hsuccess, payment_states (System.run_play hplay) hsaves⟩

/-- The sweep fails a payment while Paystack is asked for it, and the save makes it PENDING again. -/
theorem failed_payment_pending_again : ¬ ∀ tr p,
    Run (backend plainConfig).Steps (idle payable) tr p → ∀ e ∈ tr, FollowsStates e := by
  intro hclaim
  have hplay : ((backend plainConfig).play (idle payable)
      [.call 0 (.initializePayment "b" "u"), .step 0 {}, .step 0 {}, .step 0 {},
        .step 0 { id := "p" }, .call 1 .expireStalePendingBookings, .step 1 { now := 200 },
        .step 1 { rows := ["b"] }, .step 1 {}, .step 1 {}, .step 1 {}, .step 1 {},
        .step 0 { checkout := some ⟨"url", "p"⟩ }, .step 0 { row := some "p" }, .step 0 {}]).any
      fun x => ∃ e ∈ x.1, (e.pre.shared.db.payment "p").any (·.status = .failed) ∧
        (e.post.shared.db.payment "p").any (·.status = .pending) := by decide
  obtain ⟨⟨tr, p⟩, hplay, hfacts⟩ := (Option.any_eq_true _ _).1 hplay
  obtain ⟨e, he, hfailed, hpending⟩ := of_decide_eq_true hfacts
  obtain ⟨v, hv, hfailed⟩ := (Option.any_eq_true _ _).1 hfailed
  obtain ⟨v', hv', hstep, -⟩ := hclaim tr p (System.run_play hplay) e he "p" v hv
  rw [hv', Option.any_some, decide_eq_true_eq] at hpending
  rw [of_decide_eq_true hfailed, hpending] at hstep
  rcases hstep with hsame | hnext
  · cases hsame
  · exact PaymentStatus.not_next_pending hnext

end Backend
