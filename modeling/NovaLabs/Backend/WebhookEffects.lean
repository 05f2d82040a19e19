/-
  Which deliveries start the effects of a charge.

  One delivery changes the payment from PENDING, and goes on to the effects; the others find nothing
  to change.
-/
import NovaLabs.Backend.DeliveryProtocol

namespace Backend

open Lib

/-- A PENDING payment becomes SUCCESS or FAILED, and keeps its reference. -/
def DeliveriesAllow : ∀ row, Option (Record row) → Record row → Prop
  | .payment _, old, new => ∃ v : Payment, old = some v ∧ v.status = .pending ∧
      new.status.isCharged ∧ new.providerReference = v.providerReference
  | .workspace _, _, _ | .booking _, _, _ | .user _, _, _ => True

def deliveryDiscipline : Discipline Record where
  allows _ := DeliveriesAllow
  mono _ h := h
  trans {_ row _ new _} h h' := by
    cases row with
    | payment id =>
      obtain ⟨v, -, -, hcharged, -⟩ := h
      obtain ⟨v', hv', hpending, -⟩ := h'
      obtain rfl : new = v' := Option.some.inj hv'
      rw [hpending] at hcharged
      cases hcharged
    | workspace | booking | user => trivial

section
variable {s s' : DbServer} {t : ℕ} {w : World} {op : Query} {a : Answer op} {q : DeliveryStage}
  {id : Uuid} {v : Payment} {target : PaymentStatus}

/-- Deliveries and sweeps make no other updates of payments. -/
theorem DeliveryStage.permits.updatePayments {which : PaymentWhere} {source : PaymentStatus}
    (hp : q.permits (.updatePayments which source target)) (hq : q ≠ .other) :
    source = .pending ∧ target.isCharged := by
  cases q with
  | found id' =>
    obtain ⟨target', htarget, heq⟩ := hp
    cases heq
    exact ⟨rfl, htarget⟩
  | sweeping => cases source <;> cases target <;> first | exact ⟨rfl, rfl⟩ | cases hp
  | received | lost => rcases hp with hp | hp <;> simp [Query.isPersonal] at hp
  | won target' => cases target' <;> cases hp
  | other => exact absurd rfl hq

/-- Deliveries and sweeps neither insert nor save payments. -/
theorem DeliveryStage.permits.updates (hp : q.permits op) (hq : q ≠ .other) :
    (∀ payment, op ≠ .insertPayment payment) ∧ ∀ id c, op ≠ .updatePayment id c := by
  constructor
  all_goals
    intros
    rintro rfl
    cases q with
    | found id' =>
      obtain ⟨_, -, heq⟩ := hp
      cases heq
    | sweeping => cases hp
    | received | lost => rcases hp with hp | hp <;> simp [Query.isPersonal] at hp
    | won target' => cases target' <;> cases hp
    | other => exact absurd rfl hq

theorem rows_charge (hp : q.permits op) (hq : q ≠ .other) (row : Row) (new : Record row)
    (hrow : (op.rows w (s.view t)).lookup row = some new) :
    DeliveriesAllow row ((s.view t).lookup row) new := by
  cases row with
  | workspace | booking | user => trivial
  | payment id =>
    rcases payment_row hrow with ⟨hop, -⟩ | ⟨old, hold, hnew⟩
    · exact absurd hop ((hp.updates hq).1 _)
    rcases hnew with ⟨which, source, target, rfl, -, hsource, rfl⟩ | ⟨c, hop, -⟩
    · obtain ⟨rfl, htarget⟩ := hp.updatePayments hq
      exact ⟨old, hold, hsource, htarget, rfl⟩
    · exact absurd hop ((hp.updates hq).2 _ _)

/-- A conditional update that changes a payment finds it PENDING. -/
theorem charged_now {n : ℕ}
    (hexec : exec t w s (.updatePayments (.byId id) .pending target) = some (n, s'))
    (hx : s.active.lookup t = none) (hn : n ≠ 0) :
    ∃ v, s.db.payment id = some v ∧ v.status = .pending ∧
      s'.db.payment id = some { v with status := target } := by
  obtain ⟨hcard, -, rfl⟩ := update_eq_some.1 hexec
  obtain ⟨row, hrow⟩ := Finset.card_ne_zero.1 (hcard ▸ hn)
  obtain ⟨new, hnew⟩ := Finmap.mem_iff.1 (Finmap.mem_keys.1 hrow)
  cases row with
  | workspace | booking | user =>
    rw [Storage.lookup_changes, Option.bind_eq_some_iff] at hnew
    obtain ⟨_, -, hnew⟩ := hnew
    cases hnew
  | payment id' =>
    have hchanged := hnew
    rw [Storage.lookup_changes, Option.bind_eq_some_iff] at hnew
    obtain ⟨old, hold, hupdate⟩ := hnew
    obtain ⟨⟨hid, hpending⟩, hset⟩ := Option.ite_none_right_eq_some.1 hupdate
    obtain rfl : id' = id := of_decide_eq_true hid
    rw [DbServer.view, Server.view_none hx] at hold
    refine ⟨old, hold, hpending, ?_⟩
    rw [Server.put_none hx, Database.payment, Storage.lookup_union, hchanged, Option.some_or, hset]

/-! ## Stages -/

/-- What a stage says about the committed rows, in a run of deliveries about the reference. -/
def DeliveryStage.Fits (id : Uuid) (reference : String) (db : Database) : DeliveryStage → Prop
  | .received given => given = reference
  | .found given => given = id
  | .won target => target.isCharged ∧ ∃ v, db.payment id = some v ∧ v.status = target
  | .lost | .sweeping => True
  | .other => False

variable {reference : String}

theorem DeliveryStage.Fits.ne_other {db : Database} (h : q.Fits id reference db) : q ≠ .other := by
  rintro rfl
  exact h

theorem DeliveryStage.Fits.moves {locked : Finset Row} {db db' : Database}
    (h : q.Fits id reference db)
    (hmoves : ∀ row, deliveryDiscipline.Moves locked row (db.lookup row) (db'.lookup row)) :
    q.Fits id reference db' := by
  cases q with
  | received | found | lost | sweeping | other => exact h
  | won target =>
    obtain ⟨hcharged, v, hv, rfl⟩ := h
    rcases hmoves (.payment id) with hsame | ⟨v', -, old, hold, hpending, -⟩
    · exact ⟨hcharged, v, hsame.trans hv, rfl⟩
    · obtain rfl : v = old := Option.some.inj (hv.symm.trans hold)
      rw [hpending] at hcharged
      cases hcharged

theorem DeliveryStage.wins (h : q.after op a = .won target) :
    q = .won target ∨ ∃ id, q = .found id := by
  cases q with
  | found id => exact Or.inr ⟨id, rfl⟩
  | won target' => exact Or.inl h
  | received given =>
    cases op with
    | findPayment which => cases a <;> cases h
    | _ => cases h
  | lost | sweeping | other => cases h

/-- What a session's own query makes of its stage. -/
theorem DeliveryStage.Fits.after (h : q.Fits id reference s.db) (hp : q.permits op)
    (hexec : exec t w s op = some (a, s')) (hx : q.isOpen = false → s.active.lookup t = none)
    (hreferenced : ∀ id' v, s.Holds (.payment id') v → v.providerReference = some reference →
      id' = id)
    (hmoves : ∀ row, deliveryDiscipline.Moves (s.locks t) row (s.db.lookup row) (s'.db.lookup row)) :
    (q.after op a).Fits id reference s'.db := by
  cases q with
  | other => exact h.elim
  | won target => exact h.moves hmoves
  | lost | sweeping => trivial
  | received given =>
    obtain rfl : given = reference := h
    rcases hp with hp | rfl
    · cases op <;> first | rfl | cases hp
    · cases a with
      | none => trivial
      | some found =>
        obtain ⟨hfound, hselects⟩ := findPayment_some hexec
        exact hreferenced _ _ (Server.holds_of_view hfound) (of_decide_eq_true hselects)
  | found given =>
    obtain rfl : given = id := h
    obtain ⟨target, htarget, rfl⟩ := hp
    simp only [DeliveryStage.after]
    split_ifs with hn
    · trivial
    · obtain ⟨v, -, -, hv⟩ := charged_now hexec (hx rfl) hn
      exact ⟨htarget, _, hv, rfl⟩

theorem Query.isPersonal.no_effect (h : op.isPersonal) :
    op.isSuccessEffect = false ∧ op.isFailureEffect = false := by
  cases op <;> first | exact ⟨rfl, rfl⟩ | cases h

theorem Query.isFailureEffect.not_success (h : op.isFailureEffect) :
    op.isSuccessEffect = false := by
  cases op with
  | start task => cases task <;> first | rfl | cases h
  | _ => cases h

theorem DeliveryStage.sweeps.no_effect (h : DeliveryStage.sweeps op) :
    op.isSuccessEffect = false ∧ op.isFailureEffect = false := by
  cases op with
  | updateBookings ids source target =>
    cases source <;> cases target <;> first | exact ⟨rfl, rfl⟩ | cases h
  | _ => first | exact ⟨rfl, rfl⟩ | cases h

theorem DeliveryStage.settles.no_failure (h : DeliveryStage.settles op) :
    op.isFailureEffect = false := by
  cases op with
  | start task => exact Bool.eq_false_iff.2 (of_decide_eq_true h)
  | _ => rfl

/-- Only sessions that have changed the payment start effects, and these of one kind. -/
theorem DeliveryStage.permits.effects (hp : q.permits op) (hq : q.Fits id reference s.db) :
    (op.isSuccessEffect → q = .won .success) ∧ (op.isFailureEffect → q = .won .failed) := by
  have hnone (h : op.isSuccessEffect = false ∧ op.isFailureEffect = false) :
      (op.isSuccessEffect → q = .won .success) ∧ (op.isFailureEffect → q = .won .failed) :=
    ⟨fun h' => Bool.noConfusion (h.1.symm.trans h'), fun h' => Bool.noConfusion (h.2.symm.trans h')⟩
  cases q with
  | received given =>
    rcases hp with hp | rfl
    · exact hnone (Query.isPersonal.no_effect hp)
    · exact hnone ⟨rfl, rfl⟩
  | found id =>
    obtain ⟨_, -, rfl⟩ := hp
    exact hnone ⟨rfl, rfl⟩
  | won target =>
    cases target with
    | success =>
      exact ⟨fun _ => rfl, fun hop => Bool.noConfusion
        ((DeliveryStage.settles.no_failure hp).symm.trans hop)⟩
    | failed =>
      exact ⟨fun hop => Bool.noConfusion
        ((Query.isFailureEffect.not_success hp).symm.trans hop), fun _ => rfl⟩
    | pending | refunded => cases hq.1
  | lost =>
    rcases hp with hp | ⟨id, rfl⟩
    · exact hnone (Query.isPersonal.no_effect hp)
    · exact hnone ⟨rfl, rfl⟩
  | sweeping => exact hnone (DeliveryStage.sweeps.no_effect hp)
  | other => exact hq.elim

end

/-! ## Runs -/

/-- Session `t` has made a query of the kind. -/
def Starts (effect : Query → Bool) (tr : List Ev) (t : ℕ) : Prop :=
  ∃ e ∈ tr, ∃ w op, e.inp = .step t w ∧ e.pre.Asks t op ∧ effect op

/-- The request is a sweep, or a delivery about the reference. -/
def Request.charges (cfg : Config) (reference : String) : Request → Bool
  | .handleWebhook d => match cfg.parseBody d.rawBody with
    | .event _ given => given = some reference
    | _ => false
  | .expireStalePendingBookings => true
  | _ => false

/-- The payment is stored with the status. -/
def Stored (s : DbServer) (id : Uuid) (status : PaymentStatus) : Prop :=
  ∃ v, s.db.payment id = some v ∧ v.status = status

/-- One session at most has changed the payment, and the effects are this session's. -/
structure EffectsSafe (id : Uuid) (reference : String) (tr : List Ev) (s : DbServer)
    (qs : ℕ → Option DeliveryStage) : Prop where
  sound : s.Sound deliveryDiscipline
  inactive : ∀ t, (∀ q, qs t = some q → q.isOpen = false) → s.active.lookup t = none
  referenced : ∀ id' v, s.Holds (.payment id') v → v.providerReference = some reference → id' = id
  fits : ∀ t q, qs t = some q → q.Fits id reference s.db
  single : ∀ t t' target target', qs t = some (.won target) → qs t' = some (.won target') → t = t'
  success : ∀ t, Starts Query.isSuccessEffect tr t → qs t = some (.won .success)
  failure : ∀ t, Starts Query.isFailureEffect tr t → qs t = some (.won .failed)
  paid : ∀ e ∈ tr,
    OnQuery (fun _ _ op => op.isSuccessEffect → Stored e.pre.shared id .success) e

section
variable {cfg : Config} {tr : List Ev} {e : Ev} {t : ℕ} {w : World} {op : Query} {a : Answer op}
  {q : DeliveryStage} {qs : ℕ → Option DeliveryStage} {id : Uuid} {reference : String}

theorem starts_snoc {effect : Query → Bool} : Starts effect (tr ++ [e]) t ↔ Starts effect tr t ∨
    ∃ w op, e.inp = .step t w ∧ e.pre.Asks t op ∧ effect op := by
  simp only [Starts, List.mem_append, List.mem_singleton, or_and_right, exists_or,
    exists_eq_left]

theorem starts_call {effect : Query → Bool} {r : Request} (he : e.inp = .call t r) {t' : ℕ}
    (h : Starts effect (tr ++ [e]) t') : Starts effect tr t' := by
  refine (starts_snoc.1 h).resolve_right ?_
  rintro ⟨w, op, hinp, -⟩
  cases he.symm.trans hinp

theorem start_fits {db : Database} {r : Request} (hr : r.charges cfg reference) :
    (DeliveryStage.start cfg r).Fits id reference db ∧
      ∀ target, DeliveryStage.start cfg r ≠ .won target := by
  cases r with
  | handleWebhook d =>
    simp only [Request.charges] at hr
    split at hr
    · next eventType given hbody =>
      obtain rfl : given = some reference := of_decide_eq_true hr
      simp only [DeliveryStage.start, hbody]
      exact ⟨rfl, fun _ => DeliveryStage.noConfusion⟩
    · cases hr
  | expireStalePendingBookings => exact ⟨trivial, fun _ => DeliveryStage.noConfusion⟩
  | createBooking | createDayPass | confirmBooking | cancelBooking | completeBooking
  | reactivateExpired | updateWorkspace | initializePayment | refundPayment => cases hr

theorem EffectsSafe.call {r : Request} (h : EffectsSafe id reference tr e.pre.shared qs)
    (he : e.inp = .call t r) (ht : qs t = none) (hshared : e.post.shared = e.pre.shared)
    (hr : r.charges cfg reference) :
    EffectsSafe id reference (tr ++ [e]) e.post.shared
      (Function.update qs t (some (.start cfg r))) := by
  have hstart : (DeliveryStage.start cfg r).Fits id reference e.post.shared.db ∧ _ := start_fits hr
  obtain ⟨hfits, hnot⟩ := hstart
  have hkept {t' : ℕ} {q : DeliveryStage} (hq : qs t' = some q) :
      Function.update qs t (some (.start cfg r)) t' = some q := by
    rw [Function.update_of_ne (by rintro rfl; cases ht.symm.trans hq), hq]
  have hwon {t' : ℕ} {target : PaymentStatus}
      (hq : Function.update qs t (some (.start cfg r)) t' = some (.won target)) :
      qs t' = some (.won target) := by
    rcases update_stage hq with ⟨-, heq⟩ | ⟨-, hq⟩
    · exact absurd heq.symm (hnot target)
    · exact hq
  exact {
    sound := hshared.symm ▸ h.sound
    inactive := fun t' hno => hshared.symm ▸ h.inactive t' fun q hq => hno q (hkept hq)
    referenced := hshared.symm ▸ h.referenced
    fits := fun t' q hq => by
      rcases update_stage hq with ⟨-, rfl⟩ | ⟨-, hq⟩
      · exact hshared.symm ▸ hfits
      · exact hshared.symm ▸ h.fits t' q hq
    single := fun t₁ t₂ _ _ h₁ h₂ => h.single t₁ t₂ _ _ (hwon h₁) (hwon h₂)
    success := fun t' hst => hkept (h.success t' (starts_call he hst))
    failure := fun t' hst => hkept (h.failure t' (starts_call he hst))
    paid := fun e' he' => by
      rcases List.mem_append.1 he' with he' | he'
      · exact h.paid e' he'
      · obtain rfl := List.mem_singleton.1 he'
        exact fun t' w op hinp => by cases he.symm.trans hinp }

theorem DeliveryStage.isOpen_after (h : q.isOpen) : (q.after op a).isOpen := by
  cases q with
  | won | sweeping | other => rfl
  | received | found | lost => cases h

theorem DeliveryStage.permits.begin (h : q.permits .begin) : q.isOpen := by
  cases q with
  | won | sweeping | other => rfl
  | received | lost => rcases h with h | h <;> simp [Query.isPersonal] at h
  | found => simp [DeliveryStage.permits] at h

/-- A session that comes to win finds the payment PENDING. -/
theorem EffectsSafe.wins {target : PaymentStatus}
    (h : EffectsSafe id reference tr e.pre.shared qs)
    (hans : (backend cfg).Answered deliveryProtocol (fun _ _ => True) e qs t w q op a)
    (hwon : q.after op a = .won target) :
    q = .won target ∨ Stored e.pre.shared id .pending := by
  refine (DeliveryStage.wins hwon).imp_right ?_
  rintro ⟨given, rfl⟩
  obtain rfl : given = id := h.fits t _ hans.stage
  have hp : DeliveryStage.permits (.found given) op := hans.permits
  obtain ⟨target', -, rfl⟩ := hp
  have hn : a ≠ 0 := by
    rintro rfl
    cases hwon
  have hx : e.pre.shared.active.lookup t = none := h.inactive t fun q hq => by
    obtain rfl := Option.some.inj (hans.stage.symm.trans hq)
    rfl
  obtain ⟨v, hv, hpending, -⟩ := charged_now (w := w) hans.exec hx hn
  exact ⟨v, hv, hpending⟩

theorem EffectsSafe.step (h : EffectsSafe id reference tr e.pre.shared qs)
    (hans : (backend cfg).Answered deliveryProtocol (fun _ _ => True) e qs t w q op a) :
    EffectsSafe id reference (tr ++ [e]) e.post.shared
      (Function.update qs t (some (q.after op a))) := by
  have hexec : exec t w e.pre.shared op = some (a, e.post.shared) := hans.exec
  have hp : q.permits op := hans.permits
  have hq := h.fits t q hans.stage
  have hrows := rows_charge (s := e.pre.shared) (t := t) (w := w) hp hq.ne_other
  have hchange := exec_change (D := deliveryDiscipline) hexec hrows
  have hclosed (ho : q.isOpen = false) : e.pre.shared.active.lookup t = none :=
    h.inactive t fun q' hq' => by
      obtain rfl := Option.some.inj (hans.stage.symm.trans hq')
      exact ho
  have hkept {t' : ℕ} {target : PaymentStatus} (hq' : qs t' = some (.won target)) :
      Function.update qs t (some (q.after op a)) t' = some (.won target) := by
    by_cases ht : t' = t
    · subst ht
      obtain rfl := Option.some.inj (hans.stage.symm.trans hq')
      rw [Function.update_self]
      rfl
    · rw [Function.update_of_ne ht, hq']
  have hsingle {t' : ℕ} {target target' : PaymentStatus} (hwon : q.after op a = .won target)
      (ht' : qs t' = some (.won target')) : t = t' := by
    rcases h.wins hans hwon with rfl | ⟨v, hv, hpending⟩
    · exact h.single t t' _ _ hans.stage ht'
    · obtain ⟨hcharged, v', hv', rfl⟩ := h.fits t' _ ht'
      obtain rfl : v = v' := Option.some.inj (hv.symm.trans hv')
      rw [hpending] at hcharged
      cases hcharged
  have hnew {effect : Query → Bool} {t' : ℕ}
      (hst : ∃ w op, e.inp = .step t' w ∧ e.pre.Asks t' op ∧ effect op) : t' = t ∧ effect op := by
    obtain ⟨w', op', hinp, ⟨next', hnext'⟩, heffect⟩ := hst
    obtain ⟨next, hnext, -⟩ := hans.asked
    cases hans.inp.symm.trans hinp
    cases hnext.symm.trans hnext'
    exact ⟨rfl, heffect⟩
  refine ⟨hchange.sound h.sound, ?_, ?_, ?_, ?_, ?_, ?_, ?_⟩
  · intro t' hno
    by_cases ht : t' = t
    · subst ht
      have hafter := hno _ (Function.update_self ..)
      have ho : q.isOpen = false := by
        by_contra hopen
        cases hafter.symm.trans (DeliveryStage.isOpen_after (Bool.eq_true_of_not_eq_false hopen))
      refine exec_inactive hexec ?_ (hclosed ho)
      rintro rfl
      cases ho.symm.trans hp.begin
    · rw [hchange.active ht]
      exact h.inactive t' fun q' hq' => hno q' (by rw [Function.update_of_ne ht, hq'])
  · intro id' v hv href
    rcases holds_of_exec hexec hv with hv | hrow
    · exact h.referenced id' v hv href
    · obtain ⟨old, hold, -, -, hsame⟩ := hrows _ v hrow
      exact h.referenced id' old (Server.holds_of_view hold) (hsame.symm.trans href)
  · intro t' q' hq'
    rcases update_stage hq' with ⟨-, rfl⟩ | ⟨-, hq'⟩
    · exact hq.after hp hexec hclosed h.referenced (hchange.stored h.sound)
    · exact (h.fits t' q' hq').moves (hchange.stored h.sound)
  · intro t₁ t₂ target₁ target₂ h₁ h₂
    rcases update_stage h₁ with ⟨ht₁, heq₁⟩ | ⟨-, h₁⟩
    · rcases update_stage h₂ with ⟨ht₂, -⟩ | ⟨-, h₂⟩
      · exact ht₁.trans ht₂.symm
      · exact ht₁.trans (hsingle heq₁.symm h₂)
    · rcases update_stage h₂ with ⟨ht₂, heq₂⟩ | ⟨-, h₂⟩
      · exact (hsingle heq₂.symm h₁).symm.trans ht₂.symm
      · exact h.single t₁ t₂ _ _ h₁ h₂
  · intro t' hst
    rcases starts_snoc.1 hst with hst | hst
    · exact hkept (h.success t' hst)
    · obtain ⟨rfl, heffect⟩ := hnew hst
      exact hkept (hans.stage.trans (congrArg some ((hp.effects hq).1 heffect)))
  · intro t' hst
    rcases starts_snoc.1 hst with hst | hst
    · exact hkept (h.failure t' hst)
    · obtain ⟨rfl, heffect⟩ := hnew hst
      exact hkept (hans.stage.trans (congrArg some ((hp.effects hq).2 heffect)))
  · intro e' he'
    rcases List.mem_append.1 he' with he' | he'
    · exact h.paid e' he'
    · obtain rfl := List.mem_singleton.1 he'
      intro t' w' op' hinp hasks heffect
      obtain ⟨rfl, heffect⟩ := hnew ⟨w', op', hinp, hasks, heffect⟩
      obtain rfl := (hp.effects hq).1 heffect
      exact hq.2

theorem effectsSafe_idle {db : Database}
    (hdb : ∀ id' v, db.payment id' = some v → v.providerReference = some reference → id' = id) :
    EffectsSafe id reference [] (idle db).shared fun _ => none where
  sound := Server.sound_idle db
  inactive _ _ := rfl
  referenced id' v hv := hdb id' v (Server.holds_idle.1 hv)
  fits _ _ hq := by cases hq
  single _ _ _ _ hq := by cases hq
  success t hst := by
    obtain ⟨e, he, -⟩ := hst
    cases he
  failure t hst := by
    obtain ⟨e, he, -⟩ := hst
    cases he
  paid _ he := by cases he

end

/-- **Exactly once**: in a run of deliveries about one payment, and of sweeps, one delivery at most
    starts effects; those of a successful charge start when the payment is stored as SUCCESS. -/
theorem webhook_effects_once {cfg : Config} {db : Database} {tr : List Ev} {p : Sessions}
    {id : Uuid} {reference : String} (h : Run (backend cfg).Steps (idle db) tr p)
    (hcalls : ∀ e ∈ tr, OnCall (Request.charges cfg reference ·) e)
    (hdb : ∀ id' v, db.payment id' = some v → v.providerReference = some reference → id' = id) :
    (∀ t t', Starts Query.isSuccessEffect tr t → Starts Query.isSuccessEffect tr t' → t = t') ∧
      (∀ t t', Starts Query.isFailureEffect tr t → Starts Query.isFailureEffect tr t' → t = t') ∧
      (∀ t t', Starts Query.isSuccessEffect tr t → ¬ Starts Query.isFailureEffect tr t') ∧
      ∀ e ∈ tr, OnQuery (fun _ _ op => op.isSuccessEffect → Stored e.pre.shared id .success) e := by
  have hC : Along (fun _ e => OnCall (Request.charges cfg reference ·) e) tr :=
    along_iff_forall.2 hcalls
  obtain ⟨qs, -, hJ⟩ := System.invariant (J := EffectsSafe id reference) (program_deliveries cfg)
    (fun tr e t r qs he ht hshared hcalls hJ => hJ.call he ht hshared (hcalls t r he))
    (fun tr e qs t w q op a hans _ hJ => hJ.step hans)
    h .idle (effectsSafe_idle hdb) hC
  refine ⟨fun t t' ht ht' => ?_, fun t t' ht ht' => ?_, fun t t' ht ht' => ?_, hJ.paid⟩
  · exact hJ.single t t' _ _ (hJ.success t ht) (hJ.success t' ht')
  · exact hJ.single t t' _ _ (hJ.failure t ht) (hJ.failure t' ht')
  · have hq := hJ.success t ht
    have hq' := hJ.failure t' ht'
    obtain rfl := hJ.single t t' _ _ hq hq'
    cases hq.symm.trans hq'

theorem starts_of_asks {effect : Query → Bool} {tr : List Ev} {e : Ev} {t : ℕ} (he : e ∈ tr)
    (h : ¬ OnQuery (fun t' _ op => ¬ (t' = t ∧ effect op)) e) : Starts effect tr t := by
  simp only [OnQuery, not_forall, not_not] at h
  obtain ⟨_, w, op, hinp, hasks, rfl, heffect⟩ := h
  exact ⟨e, he, w, op, hinp, hasks, heffect⟩

/-- The row is not of a payment other than that whose reference is its id. -/
def refersToItself : (row : Row) → Record row → Bool
  | .payment id, v => Payment.providerReference v = some "p" → id = "p"
  | _, _ => true

/-- Of two deliveries at once, the first to update the payment confirms the booking. -/
theorem webhook_effects_once_twice : ∃ tr p,
    Run (backend plainConfig).Steps (idle chargeable) tr p ∧
      Starts Query.isSuccessEffect tr 0 ∧ ¬ Starts Query.isSuccessEffect tr 1 := by
  have hplay : ((backend plainConfig).play (idle chargeable)
      [.call 0 (.handleWebhook ⟨"p", "p", none⟩), .call 1 (.handleWebhook ⟨"p", "p", none⟩),
        .step 0 { row := some "p" }, .step 1 { row := some "p" }, .step 0 {}, .step 1 {},
        .step 1 { row := some "p" }, .step 0 {}, .step 0 {}]).any fun x =>
      (∀ e ∈ x.1, OnCall (Request.charges plainConfig "p" ·) e) ∧
        ∃ e ∈ x.1, ¬ OnQuery (fun t' _ op => ¬ (t' = 0 ∧ op.isSuccessEffect)) e := by decide
  obtain ⟨⟨tr, p⟩, hplay, hfacts⟩ := (Option.any_eq_true _ _).1 hplay
  obtain ⟨hcalls, e, he, hasks⟩ := of_decide_eq_true hfacts
  have hdb : chargeable.All refersToItself := by decide
  have hunique : ∀ id v, chargeable.payment id = some v → v.providerReference = some "p" →
      id = "p" := fun id v hv => of_decide_eq_true (Database.all_iff.1 hdb (.payment id) v hv)
  have honce := webhook_effects_once (System.run_play hplay) hcalls hunique
  refine ⟨tr, p, System.run_play hplay, starts_of_asks he hasks, fun hst => ?_⟩
  cases honce.1 0 1 (starts_of_asks he hasks) hst

end Backend
