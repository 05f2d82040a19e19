/-
  The indexes of workspace_booking, whatever the token calls back.

  A booking is written together with its entries in the two indexes, after its transfer; what is
  written later keeps its workspace and its member.
-/
import NovaLabs.WorkspaceBooking.Reentrancy

namespace WorkspaceBooking

open Lib Soroban

variable {me : Address}

/-- The ids of the bookings of a member, in booking order. -/
def State.memberBookingIds (s : State) (member : Address) : List String :=
  (s.memberBookings.lookup member).getD []

/-! ## The law -/

/-- The indexes list each booking once, under its workspace and its member, and nothing else. -/
structure ExactIndexes (s : State) : Prop where
  workspace : IndexedBy s.bookings (·.workspaceId) s.bookingIds
  member : IndexedBy s.bookings (·.member) s.memberBookingIds
  ids : ∀ id b, s.bookings.lookup id = some b → b.id = id
  registered : ∀ id b, s.bookings.lookup id = some b →
    ∃ ws, s.workspaces.lookup b.workspaceId = some ws

/-- All bookings that are looked up are found, and each active one that overlaps the slot is counted
    once. -/
structure CountsOnce (s : State) (w : String) (startTime endTime : ℕ) : Prop where
  found : ∀ id ∈ s.bookingIds w, ∃ b, s.bookings.lookup id = some b
  counted : bookedSeatsInSlot s w startTime endTime =
    min (seatsIn s w startTime endTime) (2 ^ 32 - 1)

/-! ## Records -/

variable {s s' : State} {env : Env me} {c : Call} {id : String} {b b' : Booking}

/-- The bookings keep their ids and their members. -/
def KeepsMembers (s s' : State) : Prop :=
  ∀ id b, s.bookings.lookup id = some b →
    ∃ b', s'.bookings.lookup id = some b' ∧ b'.member = b.member ∧ b'.id = b.id

theorem keepsMembers_of_eq (hb : s'.bookings = s.bookings) : KeepsMembers s s' :=
  fun _ b hs => ⟨b, hb ▸ hs, rfl, rfl⟩

theorem keepsMembers_new (hs : s.bookings.lookup id = none)
    (hb : s'.bookings = s.bookings.insert id b) : KeepsMembers s s' := by
  intro id₁ b₁ hs₁
  rw [hb, Store.lookup_insert_ite]
  split_ifs with hid
  · subst hid
    cases hs.symm.trans hs₁
  · exact ⟨b₁, hs₁, rfl, rfl⟩

theorem keepsMembers_old (hs : s.bookings.lookup id = some b)
    (hb : s'.bookings = s.bookings.insert id b') (hm : b'.member = b.member) (hid : b'.id = b.id) :
    KeepsMembers s s' := by
  intro id₁ b₁ hs₁
  rw [hb, Store.lookup_insert_ite]
  split_ifs with hid₁
  · subst hid₁
    cases hs.symm.trans hs₁
    exact ⟨b', rfl, hm, hid⟩
  · exact ⟨b₁, hs₁, rfl, rfl⟩

theorem index_memberBookingIds (s : State) (b : Booking) (m : Address) :
    (s.index b).memberBookingIds m =
      if m = b.member then s.memberBookingIds m ++ [b.id] else s.memberBookingIds m := by
  simp only [State.memberBookingIds, State.index, Store.lookup_insert_ite]
  split_ifs with h
  · rw [h]; rfl
  · rfl

/-- The index of the members is exact, and the bookings are stored under their ids. -/
structure ByMember (s : State) : Prop where
  member : IndexedBy s.bookings (·.member) s.memberBookingIds
  ids : ∀ id b, s.bookings.lookup id = some b → b.id = id

theorem ByMember.of_eq (h : ByMember s) (hb : s'.bookings = s.bookings)
    (hm : s'.memberBookings = s.memberBookings) : ByMember s' := by
  have hids : s'.memberBookingIds = s.memberBookingIds := by
    funext m
    rw [State.memberBookingIds, State.memberBookingIds, hm]
  exact ⟨hb ▸ hids ▸ h.member, hb ▸ h.ids⟩

theorem ByMember.old (h : ByMember s) (hs : s.bookings.lookup id = some b)
    (hm : b'.member = b.member) (hid : b'.id = b.id) : ByMember (s.putBooking id b') := by
  refine ⟨h.member.insert_old hs hm, fun id₁ b₁ hs₁ => ?_⟩
  rw [State.putBooking, Store.lookup_insert_ite] at hs₁
  split_ifs at hs₁ with hid₁
  · cases hs₁
    rw [hid₁, hid, h.ids id b hs]
  · exact h.ids id₁ b₁ hs₁

theorem ByMember.new (h : ByMember s) (hs : s.bookings.lookup b.id = none) :
    ByMember ((s.putBooking b.id b).index b) := by
  refine ⟨h.member.insert_new hs (index_memberBookingIds _ b), fun id₁ b₁ hs₁ => ?_⟩
  rw [State.index, State.putBooking, Store.lookup_insert_ite] at hs₁
  split_ifs at hs₁ with hid₁
  · cases hs₁
    exact hid₁.symm
  · exact h.ids id₁ b₁ hs₁

theorem Local.keepsMembers (h : Local env c s s') : KeepsMembers s s' := by
  cases h with
  | config | register | workspace => exact keepsMembers_of_eq rfl
  | complete hs ha => exact keepsMembers_old hs rfl rfl rfl

theorem Local.byMember (h : Local env c s s') (hi : ByMember s) : ByMember s' := by
  cases h with
  | config | register | workspace => exact hi.of_eq rfl rfl
  | complete hs ha => exact hi.old hs rfl rfl

/-! ## The invariant -/

/-- A booking that is being cancelled still has its id and its member. -/
structure Recorded (me : Address) (s : State) (sent : List ((Env me × Call) × Transfer))
    (fs : List (CallFrame me)) : Prop where
  contained : Contained me s sent fs
  byMember : ByMember s
  cancelling : ∀ f ∈ fs, ∀ id b, CancelsFor f id b →
    ∃ b₀, s.bookings.lookup id = some b₀ ∧ b₀.member = b.member ∧ b₀.id = b.id

section
variable {sent : List ((Env me × Call) × Transfer)} {f : CallFrame me} {fs : List (CallFrame me)}
  {q : Transfer} {k : State → Act State Transfer Error Unit}

theorem KeepsMembers.cancelling (hk : KeepsMembers s s')
    (h : ∃ b₀, s.bookings.lookup id = some b₀ ∧ b₀.member = b.member ∧ b₀.id = b.id) :
    ∃ b₀, s'.bookings.lookup id = some b₀ ∧ b₀.member = b.member ∧ b₀.id = b.id := by
  obtain ⟨b₀, hs, hm, hid⟩ := h
  obtain ⟨b₁, hs₁, hm₁, hid₁⟩ := hk id b₀ hs
  exact ⟨b₁, hs₁, hm₁.trans hm, hid₁.trans hid⟩

theorem Recorded.local (h : Recorded me s sent fs) (hl : Local env c s s') :
    Recorded me s' sent fs where
  contained := h.contained.local hl
  byMember := hl.byMember h.byMember
  cancelling f hf id b hc := hl.keepsMembers.cancelling (h.cancelling f hf id b hc)

theorem Recorded.callOut (h : Recorded me s sent fs)
    (hc : CallsOut (entryPoint env c) s q s' k) :
    Recorded me s' sent (⟨(env, c), s, sent, q, k⟩ :: fs) := by
  have hlocked : ∃ key, s' = s.lock key := by
    rcases callsOut_cases hc with ⟨b, ws, hb⟩ | ⟨id, b, hb⟩
    · exact ⟨.book, hb.locked⟩
    · exact ⟨.cancel, hb.locked⟩
  obtain ⟨key, rfl⟩ := hlocked
  refine ⟨h.contained.callOut hc, h.byMember.of_eq rfl rfl, List.forall_mem_cons.2 ⟨?_, ?_⟩⟩
  · rintro id b ⟨_, hb⟩
    exact ⟨b, hb.stored, rfl, rfl⟩
  · exact h.cancelling

/-- The transfer of a call that makes a booking returns. -/
theorem Recorded.booked {ws : Workspace} (h : Recorded me s sent (f :: fs))
    (hb : Books f.label.1 f.label.2 b ws f.st f.req s' f.resume) :
    Recorded me (((s.putBooking b.id b).index b).unlock .book) (sent ++ [(f.label, f.req)]) fs := by
  have hfresh := (h.contained.booking f (.head _) b ⟨ws, s', hb⟩).fresh
  refine ⟨h.contained.booked hb, (h.byMember.new hfresh).of_eq rfl rfl, fun g hg id b' hc => ?_⟩
  exact (keepsMembers_new hfresh rfl).cancelling (h.cancelling g (.tail _ hg) id b' hc)

/-- The transfer of a cancellation returns. -/
theorem Recorded.cancelled {now : ℕ} (h : Recorded me s sent (f :: fs))
    (hc : Cancels f.label.1 f.label.2 id b f.st f.req s' f.resume) :
    Recorded me ((s.putBooking id (b.cancel now)).unlock .cancel) (sent ++ [(f.label, f.req)])
      fs := by
  obtain ⟨b₀, hs, hm, hid⟩ := h.cancelling f (.head _) id b ⟨s', hc⟩
  have hm : (b.cancel now).member = b₀.member := hm.symm
  have hid : (b.cancel now).id = b₀.id := hid.symm
  refine ⟨h.contained.cancelled hc, (h.byMember.old hs hm hid).of_eq rfl rfl,
    fun g hg id' b' hc' => ?_⟩
  exact (keepsMembers_old hs rfl hm hid).cancelling (h.cancelling g (.tail _ hg) id' b' hc')

end

theorem recorded_start : Recorded me {} [] [] where
  contained := contained_start
  byMember := ⟨.empty fun _ => rfl, fun _ _ h => by simp at h⟩
  cancelling _ h := by cases h

theorem recorded_keeps : Conf.Keeps (interface me) (fun _ _ => True) (Recorded me) where
  finish h _ hf := h.local (finishes_cases hf)
  callOut h _ hc := h.callOut hc
  ret {s h f fs s'} hi _ hr := by
    rcases hi.contained.inFlight f (by simp) with ⟨b, ws, _, hb⟩ | ⟨id, b, _, hc⟩
    · rw [hb.rest] at hr; cases hr
      exact hi.booked hb
    · rw [hc.rest] at hr; cases hr
      exact hi.cancelled hc
  again {s h f fs q s' k} hi _ hr := by
    rcases hi.contained.inFlight f (by simp) with ⟨b, ws, _, hb⟩ | ⟨id, b, _, hc⟩
    · rw [hb.rest] at hr; cases hr
    · rw [hc.rest] at hr; cases hr

/-! ## Exactness -/

/-- **The indexes are exact.** In every state that calls reach, from within transfers as well, the
    lists of the bookings of workspaces and of members are exact, so that the seats in a slot are
    counted from each active booking once. -/
theorem booking_indexes_exact {tr : List (Event (Config me) (Move (Env me × Call)))} {σ : Config me}
    (h : CallTree me ⟨{}, [], []⟩ tr σ) : ExactIndexes σ.st ∧
      ∀ w startTime endTime, CountsOnce σ.st w startTime endTime := by
  have hrec : Recorded me σ.st σ.sent σ.stack :=
    recorded_keeps.run h recorded_start fun _ _ _ _ => trivial
  have hi := hrec.contained.indexed
  obtain ⟨hx, hr⟩ := indexed_iff.1 hi
  refine ⟨⟨hx, hrec.byMember.member, hrec.byMember.ids, fun id b hs => ?_⟩,
    fun w startTime endTime => ⟨fun id hid => ?_, bookedSeatsInSlot_eq hi w startTime endTime⟩⟩
  · exact Option.ne_none_iff_exists'.1 (hr id b hs)
  · obtain ⟨b, hs, -⟩ := hi.known w id hid
    exact ⟨b, hs⟩

/-- The bookings "first" and "second": one is cancelled from within the other's transfer. -/
theorem booking_indexes_exact_nested : ∃ tr σ, CallTree ⟨0⟩ ⟨{}, [], []⟩ tr σ ∧
    ExactIndexes σ.st ∧ σ.st.bookingIds "room" = ["first", "second"] ∧
    σ.st.memberBookingIds ⟨3⟩ = ["first"] := by
  have h := Conf.run_moves (interface ⟨0⟩) ⟨{}, [], []⟩ nestedCancel
  exact ⟨_, _, h, (booking_indexes_exact h).1, by decide, by decide⟩

/-! ## Tokens that do not call back -/

/-- Moves of a call tree lead to the storage, with no call in flight. -/
def ReachedByMoves (me : Address) (s : State) : Prop :=
  ∃ (ms : List (Move (Env me × Call))) (sent : List ((Env me × Call) × Transfer)),
    ms.foldl (Conf.step (interface me)) ⟨{}, [], []⟩ = ⟨s, sent, []⟩

/-- The states that calls reach when the token does not call back are among those of call trees. -/
theorem exists_callTree {l : Ledger} {tr : List (Event World (Input me))} {w : World}
    (h : Run (Steps me) ({}, l) tr w) :
    ∃ tr' sent, CallTree me ⟨{}, [], []⟩ tr' ⟨w.1, sent, []⟩ := by
  have hstep : ∀ (w : World) (i : Input me) (w' : World), ReachedByMoves me w.1 → Steps me w i w' →
      ReachedByMoves me w'.1 := by
    rintro w i _ ⟨ms, sent, hms⟩ rfl
    rcases completes_or_eq i.token (entryPoint i.env i.call) w.1 w.2 with ⟨_, hc⟩ | ⟨-, heq⟩
    · have hc : Completes i.token (interface me (i.env, i.call)) w.1 w.2 _ _ _ := hc
      obtain ⟨ms', sent', hms'⟩ := Conf.exists_moves hc sent
      refine ⟨ms ++ ms', sent', ?_⟩
      rw [List.foldl_append, hms, hms']
      rfl
    · refine ⟨ms, sent, ?_⟩
      rw [next, heq, hms]
  obtain ⟨ms, sent, hms⟩ := h.invariant' (P := fun w => ReachedByMoves me w.1) hstep ⟨[], [], rfl⟩
  exact ⟨_, sent, hms ▸ Conf.run_moves (interface me) ⟨{}, [], []⟩ ms⟩

end WorkspaceBooking
