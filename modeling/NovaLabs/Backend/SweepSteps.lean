/-
  What the steps of sweeps change in the database, whatever the other sessions do.
-/
import NovaLabs.Backend.WebhookEffects

namespace Backend

open Lib

/-- PENDING bookings become EXPIRED, and PENDING payments FAILED; the others stay. -/
structure Swept (db db' : Database) : Prop where
  payment : ∀ id v, db.payment id = some v → db'.payment id = some v ∨
    v.status = .pending ∧ db'.payment id = some { v with status := .failed }
  booking : ∀ id v, db.booking id = some v → db'.booking id = some v ∨
    v.status = .pending ∧ db'.booking id = some { v with status := .expired }

/-- The row is what a sweep makes of a PENDING booking or payment. -/
def SweptRow (db : Database) : ∀ row, Record row → Prop
  | .payment id, new =>
    ∃ v, db.payment id = some v ∧ v.status = .pending ∧ new = { v with status := .failed }
  | .booking id, new =>
    ∃ v, db.booking id = some v ∧ v.status = .pending ∧ new = { v with status := .expired }
  | .workspace _, _ | .user _, _ => True

/-- The session's transaction has swept the bookings and payments that it has written. -/
def SweepsOnly (s : DbServer) (t : ℕ) : Prop :=
  ∀ x row new, s.active.lookup t = some x → x.written.lookup row = some new → SweptRow s.db row new

section
variable {s s' : DbServer} {t t' : ℕ} {w : World} {op : Query} {a : Answer op}

theorem SweptRow.of_eq {db db' : Database} {row : Row} {new : Record row}
    (h : SweptRow db row new) (hsame : db'.lookup row = db.lookup row) : SweptRow db' row new := by
  cases row with
  | workspace | user => trivial
  | payment id =>
    obtain ⟨v, hv, hnew⟩ := h
    exact ⟨v, hsame.trans hv, hnew⟩
  | booking id =>
    obtain ⟨v, hv, hnew⟩ := h
    exact ⟨v, hsame.trans hv, hnew⟩

/-- A sweep's queries write swept rows. -/
theorem sweptRow_of_rows {db : Database} (hop : DeliveryStage.sweeps op) {row : Row}
    {new : Record row} (hrow : (op.rows w db).lookup row = some new) : SweptRow db row new := by
  cases row with
  | workspace | user => trivial
  | payment id =>
    rcases payment_row hrow with ⟨rfl, -⟩ | ⟨old, hold, ⟨which, source, target, rfl, -, hs, rfl⟩ |
      ⟨c, rfl, -⟩⟩
    · cases hop
    · cases source <;> cases target <;> first | exact ⟨old, hold, hs, rfl⟩ | cases hop
    · cases hop
  | booking id =>
    rcases booking_row hrow with ⟨booking, rfl, -⟩ | ⟨old, hold,
      ⟨ids, source, target, rfl, -, hs, rfl⟩ | ⟨c, rfl, -⟩⟩
    · cases hop
    · cases source <;> cases target <;> first | exact ⟨old, hold, hs, rfl⟩ | cases hop
    · cases hop

/-- What a sweep finds PENDING is committed. -/
theorem SweepsOnly.stored (h : SweepsOnly s t) {row : Row} {new : Record row}
    (hnew : SweptRow (s.view t) row new) : SweptRow s.db row new := by
  cases hx : s.active.lookup t with
  | none =>
    rwa [DbServer.view, Server.view_none hx] at hnew
  | some x =>
    cases hw : x.written.lookup row with
    | none =>
      refine hnew.of_eq ?_
      rw [DbServer.view, Server.lookup_view hx, hw, Option.none_or]
    | some old =>
      have hview : (s.view t).lookup row = some old := by
        rw [DbServer.view, Server.lookup_view hx, hw, Option.some_or]
      have hswept := h x row old hx hw
      cases row with
      | workspace | user => trivial
      | payment id =>
        obtain ⟨v, hv, hpending, -⟩ := hnew
        obtain ⟨_, -, -, rfl⟩ := hswept
        cases hview.symm.trans hv
        cases hpending
      | booking id =>
        obtain ⟨v, hv, hpending, -⟩ := hnew
        obtain ⟨_, -, -, rfl⟩ := hswept
        cases hview.symm.trans hv
        cases hpending

theorem SweepsOnly.step (h : SweepsOnly s t) (hexec : exec t w s op = some (a, s'))
    (hop : DeliveryStage.sweeps op) : SweepsOnly s' t := by
  intro x row new hx hw
  rcases exec_written hexec hx with ⟨-, hempty⟩ | ⟨x₀, hx₀, hstored, hwritten⟩
  · rw [hempty] at hw
    cases hw
  rw [DbServer.db, hstored]
  rw [hwritten, Option.or_eq_some_iff] at hw
  rcases hw with hrow | ⟨-, hold⟩
  · exact h.stored (sweptRow_of_rows hop hrow)
  · exact h x₀ row new hx₀ hold

theorem SweepsOnly.other (h : SweepsOnly s t') (hsound : s.Sound Discipline.free)
    (hexec : exec t w s op = some (a, s')) (ht : t' ≠ t) : SweepsOnly s' t' := by
  intro x row new hx hw
  have hchange := exec_free hexec
  rw [hchange.active ht] at hx
  refine (h x row new hx hw).of_eq ?_
  exact hchange.kept hsound ht hx (Or.inl (Finmap.mem_of_lookup_eq_some hw))

/-- A step of a sweep sweeps the committed rows. -/
theorem SweepsOnly.swept (h : SweepsOnly s t) (hexec : exec t w s op = some (a, s'))
    (hop : DeliveryStage.sweeps op) : Swept s.db s'.db := by
  have hrow (row : Row) : s'.stored.lookup row = s.stored.lookup row ∨
      ∃ new, SweptRow s.db row new ∧ s'.stored.lookup row = some new := by
    rcases stored_cases hexec row with hsame | ⟨x, new, hx, hw, hnew⟩ | ⟨new, -, hw, hnew⟩
    · exact Or.inl hsame
    · exact Or.inr ⟨new, h x row new hx hw, hnew⟩
    · exact Or.inr ⟨new, h.stored (sweptRow_of_rows hop hw), hnew⟩
  constructor
  · intro id v hv
    rcases hrow (.payment id) with hsame | ⟨new, ⟨v', hv', hpending, rfl⟩, hnew⟩
    · exact Or.inl (hsame.trans hv)
    · obtain rfl := Option.some.inj (hv'.symm.trans hv)
      exact Or.inr ⟨hpending, hnew⟩
  · intro id v hv
    rcases hrow (.booking id) with hsame | ⟨new, ⟨v', hv', hpending, rfl⟩, hnew⟩
    · exact Or.inl (hsame.trans hv)
    · obtain rfl := Option.some.inj (hv'.symm.trans hv)
      exact Or.inr ⟨hpending, hnew⟩

end

/-! ## Runs -/

/-- The event is in a sound store, and sweeps if it is of a sweep. -/
def SweepsSoundly (tr : List Ev) (e : Ev) : Prop :=
  e.pre.shared.Sound Discipline.free ∧
    ∀ t w, e.inp = .step t w → Called tr t .expireStalePendingBookings →
      Swept e.pre.shared.db e.post.shared.db

/-- Sweeps are at their stage, and have swept what they have written. -/
structure SweepStepsSafe (tr : List Ev) (s : DbServer) (qs : ℕ → Option DeliveryStage) : Prop where
  sound : s.Sound Discipline.free
  sweeping : ∀ t, Called tr t .expireStalePendingBookings → qs t = some .sweeping
  only : ∀ t, qs t = some .sweeping → SweepsOnly s t
  inside : ∀ t, qs t = none → s.active.lookup t = none
  history : Along SweepsSoundly tr

theorem DeliveryStage.sweeping_of_after {q : DeliveryStage} {op : Query} {a : Answer op}
    (h : q.after op a = .sweeping) : q = .sweeping := by
  cases q with
  | received given =>
    cases op with
    | findPayment which => cases a <;> cases h
    | _ => cases h
  | found id =>
    cases op with
    | updatePayments which source target =>
      simp only [DeliveryStage.after] at h
      split_ifs at h
    | _ => cases h
  | won | lost | other => cases h
  | sweeping => rfl

section
variable {cfg : Config} {tr : List Ev} {e : Ev} {t : ℕ} {w : World} {op : Query} {a : Answer op}
  {q : DeliveryStage} {qs : ℕ → Option DeliveryStage}

theorem SweepStepsSafe.call {r : Request} (h : SweepStepsSafe tr e.pre.shared qs)
    (he : e.inp = .call t r) (ht : qs t = none) (hshared : e.post.shared = e.pre.shared) :
    SweepStepsSafe (tr ++ [e]) e.post.shared (Function.update qs t (some (.start cfg r))) := by
  refine ⟨hshared.symm ▸ h.sound, fun t' hcalled => ?_, fun t' hq => ?_, fun t' hq => ?_,
    along_snoc.2 ⟨h.history, h.sound, fun _ _ hinp => nomatch he.symm.trans hinp⟩⟩
  · rcases called_snoc.1 hcalled with hcalled | hinp
    · rw [Function.update_of_ne (by rintro rfl; cases ht.symm.trans (h.sweeping _ hcalled))]
      exact h.sweeping t' hcalled
    · cases he.symm.trans hinp
      rw [Function.update_self]
      rfl
  · rw [hshared]
    rcases update_stage hq with ⟨rfl, -⟩ | ⟨-, hq⟩
    · intro x row new hx
      cases (h.inside t' ht).symm.trans hx
    · exact h.only t' hq
  · rw [hshared]
    by_cases ht' : t' = t
    · exact ht' ▸ h.inside t ht
    · rw [Function.update_of_ne ht'] at hq
      exact h.inside t' hq

theorem SweepStepsSafe.step (h : SweepStepsSafe tr e.pre.shared qs)
    (he : e.inp = .step t w) (hq : qs t = some q) (hp : q.permits op)
    (hexec : exec t w e.pre.shared op = some (a, e.post.shared)) :
    SweepStepsSafe (tr ++ [e]) e.post.shared (Function.update qs t (some (q.after op a))) := by
  have hstays (hsweeping : q = .sweeping) : q.after op a = .sweeping := by rw [hsweeping]; rfl
  refine ⟨(exec_free hexec).sound h.sound, fun t' hcalled => ?_, fun t' hq' => ?_,
    fun t' hnone => ?_, along_snoc.2 ⟨h.history, h.sound, fun t' w' hinp hcalled => ?_⟩⟩
  · have hqs := h.sweeping t' ((called_snoc.1 hcalled).resolve_right fun hinp =>
      nomatch he.symm.trans hinp)
    by_cases ht : t' = t
    · subst ht
      rw [Function.update_self, hstays (Option.some.inj (hq.symm.trans hqs))]
    · rwa [Function.update_of_ne ht]
  · rcases update_stage hq' with ⟨rfl, heq⟩ | ⟨ht, hq'⟩
    · obtain rfl := DeliveryStage.sweeping_of_after heq.symm
      exact (h.only t' hq).step hexec hp
    · exact (h.only t' hq').other h.sound hexec ht
  · by_cases ht : t' = t
    · subst ht
      rw [Function.update_self] at hnone
      cases hnone
    · rw [Function.update_of_ne ht] at hnone
      exact ((exec_free hexec).active ht).trans (h.inside t' hnone)
  · cases he.symm.trans hinp
    obtain rfl := Option.some.inj (hq.symm.trans (h.sweeping t hcalled))
    exact (h.only t hq).swept hexec hp

end

/-- **A step of a sweep makes PENDING bookings EXPIRED and PENDING payments FAILED, and changes
    nothing else of bookings and payments that are stored.** -/
theorem sweeps_soundly {cfg : Config} {db : Database} {tr : List Ev} {p : Sessions}
    (h : Run (backend cfg).Steps (idle db) tr p) : Along SweepsSoundly tr ∧
      ∀ t, p.procs t = none → p.shared.active.lookup t = none := by
  have hidle : SweepStepsSafe [] (idle db).shared fun _ => none :=
    ⟨Server.sound_idle db, fun _ ⟨_, he, _⟩ => absurd he List.not_mem_nil,
      fun _ hq => (nomatch hq), fun _ _ => rfl, along_nil _⟩
  obtain ⟨qs, htracks, hsafe⟩ := System.invariant (C := fun _ _ => True)
    (program_deliveries cfg) (fun tr e t r qs he ht hshared _ hJ => hJ.call he ht hshared)
    (fun tr e qs t w q op a hans _ hJ => hJ.step hans.inp hans.stage hans.permits hans.exec)
    h Tracks.idle hidle fun _ _ _ _ => trivial
  exact ⟨hsafe.history, fun t ht => hsafe.inside t (htracks.none_iff.1 ht)⟩

end Backend
