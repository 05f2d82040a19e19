/-
  workspace_booking when the token calls back: while a transfer is in flight, any entry point may be
  called, by anyone and to any depth.

  All checks of a booking come before its lock and its transfer, all writes after it.  While it is
  in flight its lock keeps every other booking out, and what else can happen only frees seats
  (`Quiet`), so the checks still hold when it is committed (`Contained`).
-/
import NovaLabs.Soroban.Reentrancy
import NovaLabs.WorkspaceBooking.Capacity

namespace WorkspaceBooking

open Lib Soroban

variable {me : Address}

/-! ## Call trees of the contract -/

abbrev Config (me : Address) := Conf (Env me × Call) State Transfer Error

abbrev interface (me : Address) (c : Env me × Call) : EntryPoint := entryPoint c.1 c.2

/-- The moves of the contract's callers and of the token. -/
abbrev CallTree (me : Address) := Run (Conf.Steps (interface me))

/-- The booking a call cancels. -/
def Call.cancels : Call → Option String
  | .cancelBooking _ id => some id
  | _ => none

/-- How many of the transfers refund the booking `id`. -/
def refunds (sent : List ((Env me × Call) × Transfer)) (id : String) : ℕ :=
  sent.countP fun x => x.1.2.cancels = some id

/-- The move commits the booking `b`: the transfer of the innermost call in flight, which makes it,
    has returned, and the call ends. -/
structure Commits (ev : Event (Config me) (Move (Env me × Call))) (b : Booking) : Prop where
  ret : ev.inp = .ret
  call : ∃ f fs, ev.pre.stack = f :: fs ∧
    f.label.2 = .bookWorkspace b.member b.id b.workspaceId b.startTime b.endTime b.seatCount ∧
    f.resume ev.pre.st = .done (.ok ()) ev.post.st
  stored : ev.post.st.bookings.lookup b.id = some b

/-! ## What may happen while a booking is in flight -/

/-- The same bookings exist, none takes more seats, and the workspaces keep their capacities. -/
structure Quiet (s s' : State) : Prop where
  bookings : ∀ id, s'.bookings.lookup id = none ↔ s.bookings.lookup id = none
  seats : ∀ w startTime endTime, seatsIn s' w startTime endTime ≤ seatsIn s w startTime endTime
  capacity : ∀ w ws, s.workspaces.lookup w = some ws →
    ∃ ws', s'.workspaces.lookup w = some ws' ∧ ws'.capacity = ws.capacity

variable {s s' : State} {env : Env me} {c : Call} {id : String} {b b' : Booking}

theorem quiet_of_eq (hb : s'.bookings = s.bookings)
    (hw : ∀ w ws, s.workspaces.lookup w = some ws →
      ∃ ws', s'.workspaces.lookup w = some ws' ∧ ws'.capacity = ws.capacity) : Quiet s s' :=
  ⟨fun id => by rw [hb], fun w st en => by rw [seatsIn, seatsIn, hb], hw⟩

/-- Closing a booking frees its seats. -/
theorem quiet_close (hs : s.bookings.lookup id = some b) (hc : b'.status ≠ .active)
    (hb : s'.bookings = s.bookings.insert id b') (hw : s'.workspaces = s.workspaces) :
    Quiet s s' where
  bookings id' := by
    rw [hb, Store.lookup_insert_ite]
    split_ifs with hid
    · rw [hid, hs]; simp
    · rfl
  seats w st en := by
    have ht := Store.total_insert_old hs b' (heldSeats w (·.Overlaps st en))
    have hzero : heldSeats w (·.Overlaps st en) id b' = 0 := if_neg fun h => hc h.2.1
    rw [hzero, add_zero] at ht
    rw [seatsIn, hb, seatsIn, ← ht]
    exact Nat.le_add_right _ _
  capacity w ws h := ⟨ws, hw ▸ h, rfl⟩

theorem Local.quiet (h : Local env c s s') : Quiet s s' := by
  cases h with
  | config => exact quiet_of_eq rfl fun w ws h => ⟨ws, h, rfl⟩
  | register ws hn =>
    refine quiet_of_eq rfl fun w ws' h => ⟨ws', ?_, rfl⟩
    change (s.workspaces.insert ws.id ws).lookup w = some ws'
    rw [Store.lookup_insert_ite, if_neg fun he : w = ws.id => by rw [he, hn] at h; cases h]
    exact h
  | @workspace _ id ws ws' _ hs hc =>
    refine quiet_of_eq rfl fun w ws₁ h => ?_
    change ∃ ws₂, (s.workspaces.insert id ws').lookup w = some ws₂ ∧ _
    rw [Store.lookup_insert_ite]
    split_ifs with hid
    · subst hid
      rw [hs] at h; cases h
      exact ⟨ws', rfl, hc⟩
    · exact ⟨ws₁, h, rfl⟩
  | @complete _ id b _ hs ha => exact quiet_close hs (by rintro ⟨⟩) rfl rfl

/-! ## The invariant -/

abbrev CallFrame (me : Address) := Frame (Env me × Call) State Transfer Error

/-- The call in flight `f` makes the booking `b`. -/
def BooksFor (f : CallFrame me) (b : Booking) : Prop :=
  ∃ ws s', Books f.label.1 f.label.2 b ws f.st f.req s' f.resume

/-- The call in flight `f` cancels the booking `id`, which it found as `b`. -/
def CancelsFor (f : CallFrame me) (id : String) (b : Booking) : Prop :=
  ∃ s', Cancels f.label.1 f.label.2 id b f.st f.req s' f.resume

/-- The checks of the booking `b` hold, with its lock taken. -/
structure Admitted (s : State) (b : Booking) : Prop where
  locked : .book ∈ s.locks
  fresh : s.bookings.lookup b.id = none
  fits : ∃ ws, s.workspaces.lookup b.workspaceId = some ws ∧
    saturatingAdd 32 (bookedSeatsInSlot s b.workspaceId b.startTime b.endTime) b.seatCount ≤
      ws.capacity

/-- The booking `id`, which a cancellation found as `b`, is there and not refunded, and the lock of
    cancellations is taken. -/
structure Refundable (s : State) (sent : List ((Env me × Call) × Transfer)) (id : String)
    (b : Booking) : Prop where
  locked : .cancel ∈ s.locks
  stored : ∃ b₀, s.bookings.lookup id = some b₀ ∧ b.workspaceId = b₀.workspaceId
  unrefunded : refunds sent id = 0

/-- What holds of the storage, the transfers made, and the calls in flight. -/
structure Contained (me : Address) (s : State) (sent : List ((Env me × Call) × Transfer))
    (fs : List (CallFrame me)) : Prop where
  indexed : Indexed s
  inFlight : ∀ f ∈ fs, (∃ b, BooksFor f b) ∨ ∃ id b, CancelsFor f id b
  once : ∀ id, refunds sent id ≤ 1
  unrefunded : ∀ id, (∀ b, s.bookings.lookup id = some b → b.status ≠ .cancelled) →
    refunds sent id = 0
  booking : ∀ f ∈ fs, ∀ b, BooksFor f b → Admitted s b
  cancelling : ∀ f ∈ fs, ∀ id b, CancelsFor f id b → Refundable s sent id b
  distinct : fs.Pairwise fun f g => (∀ b b', BooksFor f b → ¬ BooksFor g b') ∧
    ∀ id b id' b', CancelsFor f id b → ¬ CancelsFor g id' b'

section
variable {sent : List ((Env me × Call) × Transfer)} {f : CallFrame me} {fs : List (CallFrame me)}
  {q : Transfer} {k : State → Act State Transfer Error Unit}

theorem refunds_snoc (sent : List ((Env me × Call) × Transfer)) (x : (Env me × Call) × Transfer)
    (id : String) :
    refunds (sent ++ [x]) id = refunds sent id + if x.1.2.cancels = some id then 1 else 0 := by
  simp [refunds, List.countP_append, List.countP_singleton]

theorem saturatingAdd_mono {m n : ℕ} (h : m ≤ n) (k : ℕ) :
    saturatingAdd 32 m k ≤ saturatingAdd 32 n k :=
  min_le_min (Nat.add_le_add_right h k) le_rfl

/-- What is quiet keeps the checks of a booking. -/
theorem Admitted.quiet (h : Admitted s b) (hq : Quiet s s') (hi : Indexed s) (hi' : Indexed s')
    (hl : .book ∈ s'.locks) : Admitted s' b where
  locked := hl
  fresh := (hq.bookings b.id).2 h.fresh
  fits := by
    obtain ⟨ws, hws, hfit⟩ := h.fits
    obtain ⟨ws', hws', hcap⟩ := hq.capacity b.workspaceId ws hws
    refine ⟨ws', hws', le_trans (saturatingAdd_mono ?_ _) (hcap ▸ hfit)⟩
    rw [bookedSeatsInSlot_eq hi, bookedSeatsInSlot_eq hi']
    exact min_le_min (hq.seats _ _ _) le_rfl

/-- A call without a transfer. -/
theorem Contained.local (h : Contained me s sent fs) (hl : Local env c s s') :
    Contained me s' sent fs := by
  have hq := hl.quiet
  have hi := hl.change.indexed h.indexed
  have hlocks : s'.locks = s.locks := by cases hl <;> rfl
  have hrec : ∀ id b, s.bookings.lookup id = some b → ∃ b', s'.bookings.lookup id = some b' ∧
      b'.workspaceId = b.workspaceId ∧ (b'.status ≠ .cancelled → b.status ≠ .cancelled) := by
    intro id b hs
    cases hl with
    | config | register | workspace => exact ⟨b, hs, rfl, fun hn => hn⟩
    | @complete _ id₁ b₁ _ hs₁ ha₁ =>
      change ∃ b', (s.bookings.insert id₁ (b₁.complete env.now)).lookup id = some b' ∧ _
      rw [Store.lookup_insert_ite]
      split_ifs with hid
      · subst hid
        rw [hs₁] at hs; cases hs
        exact ⟨_, rfl, rfl, fun _ => by rw [ha₁]; rintro ⟨⟩⟩
      · exact ⟨b, hs, rfl, fun hn => hn⟩
  refine ⟨hi, h.inFlight, h.once, fun id hn => h.unrefunded id fun b hs => ?_, fun f hf b hb => ?_,
    fun f hf id b hb => ?_, h.distinct⟩
  · obtain ⟨b', hs', -, hst⟩ := hrec id b hs
    exact hst (hn b' hs')
  · have ha := h.booking f hf b hb
    exact ha.quiet hq h.indexed hi (hlocks ▸ ha.locked)
  · obtain ⟨hlock, ⟨b₀, hs₀, hw⟩, hz⟩ := h.cancelling f hf id b hb
    obtain ⟨b', hs', hw', -⟩ := hrec id b₀ hs₀
    exact ⟨hlocks ▸ hlock, ⟨b', hs', hw.trans hw'.symm⟩, hz⟩

/-- No call both makes a booking and cancels one. -/
theorem BooksFor.not_cancelsFor (hb : BooksFor f b) : ¬ CancelsFor f id b' := by
  rintro ⟨_, hc⟩
  obtain ⟨_, _, hb⟩ := hb
  obtain ⟨_, hcall, -⟩ := hc.call
  exact Call.noConfusion (hb.call.symm.trans hcall)

theorem Indexed.lock (h : Indexed s) (key : ReentrancyKey) : Indexed (s.lock key) :=
  ⟨h.listed, h.known, h.nodup, h.registered⟩

/-- A lock is taken. -/
theorem Contained.lock (h : Contained me s sent fs) (key : ReentrancyKey) :
    Contained me (s.lock key) sent fs where
  indexed := h.indexed.lock key
  inFlight := h.inFlight
  once := h.once
  unrefunded := h.unrefunded
  booking f hf b hb :=
    let ha := h.booking f hf b hb
    ⟨Finset.mem_insert_of_mem ha.locked, ha.fresh, ha.fits⟩
  cancelling f hf id b hb :=
    let hr := h.cancelling f hf id b hb
    ⟨Finset.mem_insert_of_mem hr.locked, hr.stored, hr.unrefunded⟩
  distinct := h.distinct

/-- A call is in flight as well. -/
theorem Contained.push (h : Contained me s sent fs)
    (hf : (∃ b, BooksFor f b) ∨ ∃ id b, CancelsFor f id b)
    (hb : ∀ b, BooksFor f b → Admitted s b ∧ ∀ g ∈ fs, ∀ b', ¬ BooksFor g b')
    (hc : ∀ id b, CancelsFor f id b → Refundable s sent id b ∧
      ∀ g ∈ fs, ∀ id' b', ¬ CancelsFor g id' b') :
    Contained me s sent (f :: fs) where
  indexed := h.indexed
  inFlight := List.forall_mem_cons.2 ⟨hf, h.inFlight⟩
  once := h.once
  unrefunded := h.unrefunded
  booking := List.forall_mem_cons.2 ⟨fun b hb' => (hb b hb').1, h.booking⟩
  cancelling := List.forall_mem_cons.2 ⟨fun id b hc' => (hc id b hc').1, h.cancelling⟩
  distinct := List.pairwise_cons.2 ⟨fun g hg =>
    ⟨fun b b' hb' => (hb b hb').2 g hg b', fun id b id' b' hc' => (hc id b hc').2 g hg id' b'⟩,
    h.distinct⟩

/-- A call that reaches its transfer. -/
theorem Contained.callOut (h : Contained me s sent fs)
    (hc : CallsOut (entryPoint env c) s q s' k) :
    Contained me s' sent (⟨(env, c), s, sent, q, k⟩ :: fs) := by
  rcases callsOut_cases hc with ⟨b, ws, hb⟩ | ⟨id, b, hb⟩
  · obtain rfl := hb.locked
    refine (h.lock .book).push (Or.inl ⟨b, ws, _, hb⟩) ?_ fun id b' hc' => ?_
    · rintro b' ⟨ws', s', hb'⟩
      exact ⟨⟨Finset.mem_insert_self _ _, hb'.fresh, ws', hb'.stored, hb'.fits⟩,
        fun g hg b₁ hg' => hb.free (h.booking g hg b₁ hg').locked⟩
    · exact absurd hc' (BooksFor.not_cancelsFor (f := ⟨(env, c), s, sent, q, k⟩) ⟨ws, _, hb⟩)
  · obtain rfl := hb.locked
    refine (h.lock .cancel).push (Or.inr ⟨id, b, _, hb⟩) (fun b' hb' => ?_) ?_
    · exact absurd ⟨_, hb⟩ (BooksFor.not_cancelsFor (f := ⟨(env, c), s, sent, q, k⟩) hb')
    · rintro id' b' ⟨s', hb'⟩
      refine ⟨⟨Finset.mem_insert_self _ _, ⟨b', hb'.stored, rfl⟩, h.unrefunded id' fun b₁ hs => ?_⟩,
        fun g hg id₁ b₁ hg' => hb.free (h.cancelling g hg id₁ b₁ hg').locked⟩
      rw [hb'.stored] at hs; cases hs
      rw [hb'.active]; rintro ⟨⟩

/-- The storage after the writes of `book_workspace`. -/
theorem Admitted.change (h : Admitted s b)
    (hcall : c = .bookWorkspace b.member b.id b.workspaceId b.startTime b.endTime b.seatCount) :
    Change s (((s.putBooking b.id b).index b).unlock .book) c := by
  obtain ⟨ws, hws, hfit⟩ := h.fits
  exact .book b ws hcall h.fresh hws hfit rfl rfl fun w => index_bookingIds _ b w

/-- The transfer of a call that makes a booking returns. -/
theorem Contained.booked {ws : Workspace} (h : Contained me s sent (f :: fs))
    (hb : Books f.label.1 f.label.2 b ws f.st f.req s' f.resume) :
    Contained me (((s.putBooking b.id b).index b).unlock .book) (sent ++ [(f.label, f.req)]) fs := by
  obtain ⟨hd, hds⟩ := List.pairwise_cons.1 h.distinct
  have hf : BooksFor f b := ⟨ws, s', hb⟩
  have ha := h.booking f (by simp) b hf
  have hrefunds (id : String) : refunds (sent ++ [(f.label, f.req)]) id = refunds sent id := by
    rw [refunds_snoc, if_neg, Nat.add_zero]
    change f.label.2.cancels ≠ some id
    rw [hb.call]; rintro ⟨⟩
  have hold : ∀ id b₀, s.bookings.lookup id = some b₀ →
      (s.bookings.insert b.id b).lookup id = some b₀ := by
    intro id b₀ hs
    rw [Store.lookup_insert_ite, if_neg fun hid : id = b.id => by
      rw [hid, ha.fresh] at hs; cases hs]
    exact hs
  refine ⟨(ha.change hb.call).indexed h.indexed, fun g hg => h.inFlight g (by simp [hg]),
    fun id => ?_, fun id hn => ?_, fun g hg b' hg' => absurd hg' ((hd g hg).1 b b' hf),
    fun g hg id b' hg' => ?_, hds⟩
  · rw [hrefunds]; exact h.once id
  · rw [hrefunds]
    exact h.unrefunded id fun b₀ hs => hn b₀ (hold id b₀ hs)
  · obtain ⟨hlock, ⟨b₀, hs₀, hw⟩, hz⟩ := h.cancelling g (by simp [hg]) id b' hg'
    exact ⟨Finset.mem_erase.2 ⟨by rintro ⟨⟩, hlock⟩, ⟨b₀, hold id b₀ hs₀, hw⟩,
      (hrefunds id).trans hz⟩

/-- The transfer of a cancellation returns. -/
theorem Contained.cancelled {now : ℕ} (h : Contained me s sent (f :: fs))
    (hc : Cancels f.label.1 f.label.2 id b f.st f.req s' f.resume) :
    Contained me ((s.putBooking id (b.cancel now)).unlock .cancel) (sent ++ [(f.label, f.req)])
      fs := by
  obtain ⟨hd, hds⟩ := List.pairwise_cons.1 h.distinct
  have hf : CancelsFor f id b := ⟨s', hc⟩
  obtain ⟨-, ⟨b₀, hs₀, hw⟩, hz⟩ := h.cancelling f (by simp) id b hf
  have hst : (b.cancel now).status ≠ .active := by rintro ⟨⟩
  have hrefunds (id' : String) : refunds (sent ++ [(f.label, f.req)]) id' =
      refunds sent id' + if id' = id then 1 else 0 := by
    obtain ⟨caller, hcall, -⟩ := hc.call
    simp only [refunds_snoc, hcall, Call.cancels, Option.some.injEq, eq_comm]
  have hi : Indexed ((s.putBooking id (b.cancel now)).unlock .cancel) :=
    Change.indexed (c := f.label.2) (.close id b₀ (b.cancel now) hs₀ hw hst rfl rfl rfl) h.indexed
  refine ⟨hi, fun g hg => h.inFlight g (by simp [hg]), fun id' => ?_, fun id' hn => ?_,
    fun g hg b' hg' => ?_, fun g hg id' b' hg' => absurd hg' ((hd g hg).2 id b id' b' hf), hds⟩
  · rw [hrefunds]
    split_ifs with hid
    · rw [hid, hz]
    · exact h.once id'
  · have hid : id' ≠ id := by
      rintro rfl
      exact hn (b.cancel now) (Finmap.lookup_insert _) rfl
    rw [hrefunds, if_neg hid, Nat.add_zero]
    refine h.unrefunded id' fun b₁ hs => hn b₁ ?_
    change (s.bookings.insert id (b.cancel now)).lookup id' = some b₁
    rw [Store.lookup_insert_ite, if_neg hid]; exact hs
  · have ha := h.booking g (by simp [hg]) b' hg'
    exact ha.quiet (quiet_close hs₀ hst rfl rfl) h.indexed hi
      (Finset.mem_erase.2 ⟨by rintro ⟨⟩, ha.locked⟩)

end

theorem contained_start : Contained me {} [] [] where
  indexed := indexed_start
  inFlight _ h := by cases h
  once _ := by simp [refunds]
  unrefunded _ _ := rfl
  booking _ h := by cases h
  cancelling _ h := by cases h
  distinct := .nil

theorem contained_keeps : Conf.Keeps (interface me) (fun _ _ => True) (Contained me) where
  finish h _ hf := h.local (finishes_cases hf)
  callOut h _ hc := h.callOut hc
  ret {s h f fs s'} hi _ hr := by
    rcases hi.inFlight f (by simp) with ⟨b, ws, _, hb⟩ | ⟨id, b, _, hc⟩
    · rw [hb.rest] at hr; cases hr
      exact hi.booked hb
    · rw [hc.rest] at hr; cases hr
      exact hi.cancelled hc
  again {s h f fs q s' k} hi _ hr := by
    rcases hi.inFlight f (by simp) with ⟨b, ws, _, hb⟩ | ⟨id, b, _, hc⟩
    · rw [hb.rest] at hr; cases hr
    · rw [hc.rest] at hr; cases hr

/-! ## Containment -/

/-- What calls from within transfers cannot upset. -/
structure Unharmed (tr : List (Event (Config me) (Move (Env me × Call)))) (σ : Config me) :
    Prop where
  fresh : ∀ ev ∈ tr, ∀ b, Commits ev b → ev.pre.st.bookings.lookup b.id = none
  refundedOnce : ∀ id, refunds σ.sent id ≤ 1
  listedOnce : ∀ id b, σ.st.bookings.lookup id = some b →
    (σ.st.bookingIds b.workspaceId).count id = 1
  fits : ∀ ev ∈ tr, ∀ b, Commits ev b → ∃ ws, ev.pre.st.workspaces.lookup b.workspaceId = some ws ∧
    (ws.capacity < 2 ^ 32 - 1 →
      seatsIn ev.pre.st b.workspaceId b.startTime b.endTime + b.seatCount ≤ ws.capacity)

/-- When a booking is committed, its checks still hold. -/
theorem Commits.admitted {ev : Event (Config me) (Move (Env me × Call))} (h : Commits ev b)
    (hi : Contained me ev.pre.st ev.pre.sent ev.pre.stack) : Admitted ev.pre.st b := by
  obtain ⟨f, fs, hstack, hcall, hres⟩ := h.call
  have hf : f ∈ ev.pre.stack := by simp [hstack]
  rcases hi.inFlight f hf with ⟨b', ws, s', hb⟩ | ⟨id, b', _, hc⟩
  · -- the call writes the booking that it checked
    have hid : b.id = b'.id := by
      have heq := hcall.symm.trans hb.call
      simp only [Call.bookWorkspace.injEq] at heq
      exact heq.2.1
    have hpost : ev.post.st = ((ev.pre.st.putBooking b'.id b').index b').unlock .book := by
      rw [hb.rest] at hres
      injection hres with _ hst
      exact hst.symm
    have hstored := h.stored
    rw [hpost, hid] at hstored
    obtain rfl : b' = b := Option.some.inj ((Finmap.lookup_insert _).symm.trans hstored)
    exact hi.booking f hf b' ⟨ws, s', hb⟩
  · obtain ⟨_, hcall', -⟩ := hc.call
    exact Call.noConfusion (hcall.symm.trans hcall')

/-- **Reentrancy containment.** Whatever the token calls from within its transfers, a booking is
    committed under a fresh id and where its seats fit, it is listed once and refunded at most
    once. -/
theorem reentrancy_contained {tr : List (Event (Config me) (Move (Env me × Call)))} {σ : Config me}
    (h : CallTree me ⟨{}, [], []⟩ tr σ) : Unharmed tr σ := by
  have hrun {tr : List (Event (Config me) (Move (Env me × Call)))} {σ : Config me}
      (h : CallTree me ⟨{}, [], []⟩ tr σ) : Contained me σ.st σ.sent σ.stack :=
    contained_keeps.run h contained_start fun _ _ _ _ => trivial
  have hadm : ∀ ev ∈ tr, ∀ b, Commits ev b → Indexed ev.pre.st ∧ Admitted ev.pre.st b := by
    intro ev hev b hb
    obtain ⟨tr₁, tr₂, rfl⟩ := List.append_of_mem hev
    have hi := hrun h.split.1
    exact ⟨hi.indexed, hb.admitted hi⟩
  have hi := hrun h
  refine ⟨fun ev hev b hb => (hadm ev hev b hb).2.fresh, hi.once, fun id b hs => ?_,
    fun ev hev b hb => ?_⟩
  · exact List.count_eq_one_of_mem (hi.indexed.nodup _) (hi.indexed.listed id b hs)
  · obtain ⟨hx, ha⟩ := hadm ev hev b hb
    obtain ⟨ws, hws, hfit⟩ := ha.fits
    refine ⟨ws, hws, fun hcap => ?_⟩
    rw [bookedSeatsInSlot_eq hx] at hfit
    exact le_of_saturatingAdd_le hfit (Or.inl hcap)

/-- From within the transfer of the booking "second", the booking "first" is cancelled, and
    completed from within that refund. -/
def nestedCancel : List (Move (Env ⟨0⟩ × Call)) :=
  [.enter (sampleEnv 0, .initializeContract ⟨1⟩ ⟨2⟩),
    .enter (sampleEnv 1, .registerWorkspace ⟨1⟩ "room" "Room" .meetingRoom 4 1),
    .enter (sampleEnv 2, .bookWorkspace ⟨3⟩ "first" "room" 10 20 3), .ret,
    .enter (sampleEnv 3, .bookWorkspace ⟨4⟩ "second" "room" 10 20 1),
    .enter (sampleEnv 3, .cancelBooking ⟨3⟩ "first"),
    .enter (sampleEnv 3, .completeBooking ⟨1⟩ "first"), .ret, .ret]

theorem reentrancy_contained_nestedCancel : ∃ tr σ, CallTree ⟨0⟩ ⟨{}, [], []⟩ tr σ ∧
    Unharmed tr σ ∧ σ.st.bookingIds "room" = ["first", "second"] ∧ refunds σ.sent "first" = 1 := by
  have h := Conf.run_moves (interface ⟨0⟩) ⟨{}, [], []⟩ nestedCancel
  exact ⟨_, _, h, reentrancy_contained h, by decide, by decide⟩

end WorkspaceBooking
