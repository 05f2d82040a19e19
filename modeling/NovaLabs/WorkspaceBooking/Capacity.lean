/-
  Seats of workspace_booking over whole runs.

  `book_workspace` compares a saturated sum of seats with the capacity.  The indexes are exact
  (`Indexed`), so that sum is the exact one, cut off at `u32::MAX` (`bookedSeatsInSlot_eq`).  Below
  the cut the seats held at any instant stay within the capacity (`capacity_respected`); at the cut
  they need not (`capacity_exceeded`).
-/
import NovaLabs.Lib.IndexedBy
import NovaLabs.Lib.Run
import NovaLabs.WorkspaceBooking.Calls

namespace WorkspaceBooking

open Lib Soroban

/-! ## Worlds and steps -/

abbrev World := State × Ledger

/-- A call of the contract, with the transfers that the token makes during it. -/
structure Input (me : Address) where
  env : Env me
  call : Call
  token : Transfer → Ledger → Option Ledger

variable {me : Address}

def next (w : World) (i : Input me) : World := commitIn i.token (entryPoint i.env i.call) w.1 w.2

def Steps (me : Address) (w : World) (i : Input me) (w' : World) : Prop := w' = next w i

/-- What a step does to the workspaces, the bookings and their index. -/
inductive Change (s s' : State) (c : Call) : Prop
  | none : s'.workspaces = s.workspaces → s'.bookings = s.bookings →
      s'.bookingIds = s.bookingIds → Change s s' c
  | register (ws : Workspace) : s.workspaces.lookup ws.id = Option.none →
      s'.workspaces = s.workspaces.insert ws.id ws → s'.bookings = s.bookings →
      s'.bookingIds = s.bookingIds → Change s s' c
  | workspace (id : String) (ws ws' : Workspace) : s.workspaces.lookup id = some ws →
      ws'.capacity = ws.capacity → s'.workspaces = s.workspaces.insert id ws' →
      s'.bookings = s.bookings → s'.bookingIds = s.bookingIds → Change s s' c
  | close (id : String) (b b' : Booking) : s.bookings.lookup id = some b →
      b'.workspaceId = b.workspaceId → b'.status ≠ .active → s'.workspaces = s.workspaces →
      s'.bookings = s.bookings.insert id b' → s'.bookingIds = s.bookingIds → Change s s' c
  | book (b : Booking) (ws : Workspace) :
      c = .bookWorkspace b.member b.id b.workspaceId b.startTime b.endTime b.seatCount →
      s.bookings.lookup b.id = Option.none → s.workspaces.lookup b.workspaceId = some ws →
      saturatingAdd 32 (bookedSeatsInSlot s b.workspaceId b.startTime b.endTime) b.seatCount ≤
        ws.capacity →
      s'.workspaces = s.workspaces → s'.bookings = s.bookings.insert b.id b →
      (∀ w, s'.bookingIds w =
        if w = b.workspaceId then s.bookingIds w ++ [b.id] else s.bookingIds w) → Change s s' c

theorem Local.change {env : Env me} {s s' : State} {c : Call} (h : Local env c s s') :
    Change s s' c := by
  cases h with
  | config => exact .none rfl rfl rfl
  | register ws hn => exact .register ws hn rfl rfl rfl
  | workspace hs hc => exact .workspace _ _ _ hs hc rfl rfl rfl
  | @complete _ id b _ hs ha =>
    exact .close id b (b.complete env.now) hs rfl (by simp [Booking.complete]) rfl rfl rfl

theorem Steps.change {w w' : World} {i : Input me} (h : Steps me w i w') :
    Change w.1 w'.1 i.call := by
  obtain ⟨env, c, token⟩ := i
  subst h
  rcases commitIn_cases token (entryPoint env c) w.1 w.2 with
    ⟨-, hw⟩ | ⟨_, s', hf, hw⟩ | ⟨q, s₁, k, l₁, _, s', l', hc, -, hk, hw⟩ <;>
    rw [next, hw]
  · exact .none rfl rfl rfl
  · exact (finishes_cases hf).change
  · rcases callsOut_cases hc with ⟨b, ws, hb⟩ | ⟨id, b, hb⟩
    · rw [hb.rest, hb.locked, Act.run] at hk
      cases hk
      exact .book b ws hb.call hb.fresh hb.stored hb.fits rfl rfl fun w => index_bookingIds _ b w
    · rw [hb.rest, hb.locked, Act.run] at hk
      cases hk
      exact .close id b (b.cancel env.now) hb.stored rfl (by simp [Booking.cancel]) rfl rfl rfl

/-! ## The index -/

/-- The index lists the bookings of each workspace once, and only registered workspaces have
    bookings. -/
structure Indexed (s : State) : Prop where
  listed : ∀ id b, s.bookings.lookup id = some b → id ∈ s.bookingIds b.workspaceId
  known : ∀ w, ∀ id ∈ s.bookingIds w, ∃ b, s.bookings.lookup id = some b ∧ b.workspaceId = w
  nodup : ∀ w, (s.bookingIds w).Nodup
  registered : ∀ id b, s.bookings.lookup id = some b → s.workspaces.lookup b.workspaceId ≠ none

theorem indexed_iff {s : State} : Indexed s ↔
    IndexedBy s.bookings (·.workspaceId) s.bookingIds ∧
      ∀ id b, s.bookings.lookup id = some b → s.workspaces.lookup b.workspaceId ≠ none := by
  constructor
  · intro hi
    refine ⟨⟨hi.nodup, fun w id => ⟨hi.known w id, ?_⟩⟩, hi.registered⟩
    rintro ⟨b, hs, rfl⟩
    exact hi.listed id b hs
  · rintro ⟨hx, hr⟩
    exact ⟨fun id b hs => hx.listed hs, fun w id => (hx.mem w id).1, hx.nodup, hr⟩

theorem Change.indexed {s s' : State} {c : Call} (h : Change s s' c) (hi : Indexed s) :
    Indexed s' := by
  rw [indexed_iff] at hi ⊢
  obtain ⟨hx, hr⟩ := hi
  cases h with
  | none hw hb hl => exact ⟨hb ▸ hl ▸ hx, hb ▸ hw ▸ hr⟩
  | register ws hn hw hb hl =>
    refine ⟨hb ▸ hl ▸ hx, fun id b hs => ?_⟩
    rw [hw, Store.lookup_insert_ite]
    split_ifs
    · simp
    · exact hr id b (hb ▸ hs)
  | workspace id₀ ws ws' hs₀ hc hw hb hl =>
    refine ⟨hb ▸ hl ▸ hx, fun id b hs => ?_⟩
    rw [hw, Store.lookup_insert_ite]
    split_ifs
    · simp
    · exact hr id b (hb ▸ hs)
  | close id₀ b₀ b' hs₀ hws hst hw hb hl =>
    -- the record that changes stays with its workspace
    refine ⟨hb ▸ hl ▸ hx.insert_old hs₀ hws, fun id b hs => ?_⟩
    rw [hb, Store.lookup_insert_ite] at hs
    rw [hw]
    split_ifs at hs
    · cases hs
      rw [hws]
      exact hr id₀ b₀ hs₀
    · exact hr id b hs
  | book b₀ ws _ hf hs₀ _ hw hb hl =>
    refine ⟨hb ▸ hx.insert_new hf hl, fun id b hs => ?_⟩
    rw [hb, Store.lookup_insert_ite] at hs
    rw [hw]
    split_ifs at hs
    · cases hs
      rw [hs₀]
      simp
    · exact hr id b hs

/-! ## Seats -/

/-- The seats that a booking holds of the workspace `w`, if it is one of the bookings `p`. -/
def heldSeats (w : String) (p : Booking → Prop) [DecidablePred p] (_ : String) (b : Booking) : ℕ :=
  if b.workspaceId = w ∧ b.status = .active ∧ p b then b.seatCount else 0

/-- The seats of `w` held at the instant `t`. -/
def seatsAt (s : State) (w : String) (t : ℕ) : ℕ :=
  Store.total s.bookings (heldSeats w fun b => b.startTime ≤ t ∧ t < b.endTime)

/-- The seats of `w` held by the bookings that overlap a slot. -/
def seatsIn (s : State) (w : String) (startTime endTime : ℕ) : ℕ :=
  Store.total s.bookings (heldSeats w (·.Overlaps startTime endTime))

theorem seatsAt_le_seatsIn (s : State) (w : String) {startTime endTime t : ℕ} (h₁ : startTime ≤ t)
    (h₂ : t < endTime) : seatsAt s w t ≤ seatsIn s w startTime endTime := by
  refine Store.total_le_total fun _ b _ => ?_
  unfold heldSeats
  by_cases h : b.workspaceId = w ∧ b.status = .active ∧ b.startTime ≤ t ∧ t < b.endTime
  · obtain ⟨hw, ha, hs, he⟩ := h
    rw [if_pos ⟨hw, ha, hs, he⟩, if_pos ⟨hw, ha, show b.startTime < endTime ∧ b.endTime > startTime
      by omega⟩]
  · rw [if_neg h]; exact Nat.zero_le _

/-- The sum of the code is the exact sum, cut off at `u32::MAX`. -/
theorem bookedSeatsInSlot_eq {s : State} (hi : Indexed s) (w : String) (startTime endTime : ℕ) :
    bookedSeatsInSlot s w startTime endTime =
      min (seatsIn s w startTime endTime) (2 ^ 32 - 1) := by
  have hsum : seatsIn s w startTime endTime = ((s.bookingIds w).map fun id =>
      (s.bookings.lookup id).elim 0 (heldSeats w (·.Overlaps startTime endTime) id)).sum := by
    refine Store.total_eq_list _ _ (hi.nodup w) fun id b hs hne => ?_
    unfold heldSeats at hne
    by_cases hw : b.workspaceId = w
    · exact hw ▸ hi.listed id b hs
    · simp [hw] at hne
  have hmap : (s.bookingIds w).map (fun id =>
      (s.bookings.lookup id).elim 0 (heldSeats w (·.Overlaps startTime endTime) id)) =
        (s.bookingIds w).map fun id => (s.bookings.lookup id).elim 0 fun b =>
          if b.status = .active ∧ b.Overlaps startTime endTime then b.seatCount else 0 := by
    refine List.map_congr_left fun id hid => ?_
    obtain ⟨b, hs, hw⟩ := hi.known w id hid
    simp [hs, heldSeats, hw]
  rw [hsum, hmap, bookedSeatsInSlot, ← Nat.zero_add (List.sum _), ← foldl_capped]
  · rfl
  · intro n id
    rcases s.bookings.lookup id with _ | b
    · simp
    · by_cases ha : b.status = .active
      · by_cases ho : b.Overlaps startTime endTime
        · simp only [ha, ho, and_self, if_true, Option.elim_some, ne_eq, not_true, if_false]
          exact saturatingAdd_min 32 n b.seatCount
        · simp [ha, ho]
      · simp [ha]

/-! ## The capacity -/

/-- A booking request for a workspace of the largest capacity asks for no more seats than `u32`
    has left next to those of the overlapping bookings. -/
def NoSaturation (w : World) (i : Input me) : Prop :=
  ∀ member id workspaceId startTime endTime seatCount ws,
    i.call = .bookWorkspace member id workspaceId startTime endTime seatCount →
    w.1.workspaces.lookup workspaceId = some ws →
    ws.capacity < 2 ^ 32 - 1 ∨ seatsIn w.1 workspaceId startTime endTime + seatCount ≤ 2 ^ 32 - 1

/-- At every instant the seats held of a workspace are within its capacity. -/
def WithinCapacity (s : State) : Prop :=
  ∀ id ws, s.workspaces.lookup id = some ws → ∀ t, seatsAt s id t ≤ ws.capacity

theorem Change.withinCapacity {s s' : State} {l : Ledger} {i : Input me}
    (h : Change s s' i.call) (hi : Indexed s) (hc : NoSaturation (s, l) i)
    (hw : WithinCapacity s) : WithinCapacity s' := by
  intro id ws hs t
  cases h with
  | none he hb _ => rw [seatsAt, hb]; exact hw id ws (he ▸ hs) t
  | register ws₀ hn he hb _ =>
    rw [seatsAt, hb]
    rw [he, Store.lookup_insert_ite] at hs
    split_ifs at hs with hid
    · -- nothing is booked before the workspace is registered
      rw [Store.total_eq_list _ _ List.nodup_nil fun id' b hb' hne => ?_]
      · exact Nat.zero_le _
      · exfalso
        refine hi.registered id' b hb' ?_
        unfold heldSeats at hne
        by_cases hw' : b.workspaceId = id
        · rw [hw', hid, hn]
        · simp [hw'] at hne
    · exact hw id ws hs t
  | workspace id₀ ws₀ ws' hs₀ hcap he hb _ =>
    rw [seatsAt, hb]
    rw [he, Store.lookup_insert_ite] at hs
    split_ifs at hs with hid
    · cases hs
      rw [hcap, hid]; exact hw id₀ ws₀ hs₀ t
    · exact hw id ws hs t
  | close id₀ b₀ b' hs₀ _ hst he hb _ =>
    have ht := Store.total_insert_old hs₀ b' (heldSeats id fun b => b.startTime ≤ t ∧ t < b.endTime)
    have hzero : heldSeats id (fun b => b.startTime ≤ t ∧ t < b.endTime) id₀ b' = 0 :=
      if_neg fun h => hst h.2.1
    have hold := hw id ws (he ▸ hs) t
    unfold seatsAt at hold ⊢
    rw [hb]
    omega
  | book b₀ ws₀ hcall hf hs₀ hfit he hb _ =>
    rw [seatsAt, hb, Store.total_insert_new hf]
    change _ + seatsAt s id t ≤ _
    have hold := hw id ws (he ▸ hs) t
    unfold heldSeats
    split_ifs with hheld
    · obtain ⟨rfl, -, ht⟩ := hheld
      rw [he, hs₀] at hs; cases hs
      rw [bookedSeatsInSlot_eq hi] at hfit
      have hexact := le_of_saturatingAdd_le hfit (hc _ _ _ _ _ _ _ hcall hs₀)
      have := seatsAt_le_seatsIn s b₀.workspaceId ht.1 ht.2
      omega
    · omega

theorem indexed_start : Indexed {} where
  listed _ _ h := by simp at h
  known _ _ h := by simp [State.bookingIds] at h
  nodup _ := by simp [State.bookingIds]
  registered _ _ h := by simp at h

/-- **Seat capacity.** Where no sum of seats saturates, the seats held at any instant stay within
    the capacity. -/
theorem capacity_respected {l : Ledger} {tr : List (Event World (Input me))} {w : World}
    (h : Run (Steps me) ({}, l) tr w) (hc : ∀ ev ∈ tr, NoSaturation ev.pre ev.inp) :
    WithinCapacity w.1 :=
  (h.invariant (P := fun w => Indexed w.1 ∧ WithinCapacity w.1)
    (fun _ ⟨hi, hw⟩ hs hc => ⟨hs.change.indexed hi, hs.change.withinCapacity hi hc hw⟩)
    ⟨indexed_start, fun _ _ h => by simp at h⟩ hc).2

/-- Calls at the times 0, 1, 2, .. to a contract at `⟨0⟩`, whose token accepts every transfer. -/
def sampleInputs (cs : List Call) : List (Input ⟨0⟩) :=
  cs.mapIdx fun n c => ⟨sampleEnv n, c, fun _ l => some l⟩

/-- Two bookings of one slot of the workspace "room". -/
def twoBookings (capacity seats : ℕ) : List (Input ⟨0⟩) :=
  sampleInputs [.initializeContract ⟨1⟩ ⟨2⟩,
    .registerWorkspace ⟨1⟩ "room" "Room" .meetingRoom capacity 1,
    .bookWorkspace ⟨3⟩ "first" "room" 10 20 seats, .bookWorkspace ⟨4⟩ "second" "room" 10 20 1]

/-- A room of four seats, of which three and one are booked. -/
theorem capacity_respected_full : ∃ tr w, Run (Steps ⟨0⟩) ({}, fun _ _ => 0) tr w ∧
    WithinCapacity w.1 ∧ seatsAt w.1 "room" 15 = 4 := by
  have h := run_foldl next (twoBookings 4 3) ({}, fun _ _ => 0)
  refine ⟨_, _, h, capacity_respected h fun ev hev member id w st en n ws hc hs => Or.inl ?_,
    by decide⟩
  have hall : (ev.pre.1.workspaces.lookup w).all (·.capacity < 2 ^ 32 - 1) := by
    simp only [twoBookings, sampleInputs, List.mapIdx_cons, List.mapIdx_nil, eventsFrom,
      List.mem_cons, List.not_mem_nil, or_false] at hev
    rcases hev with rfl | rfl | rfl | rfl <;> cases hc <;> decide
  simpa [hs] using hall

/-- The arguments fit the types of the entry points. -/
def Call.Fits : Call → Prop
  | .registerWorkspace _ _ _ _ capacity hourlyRate => capacity < 2 ^ 32 ∧ hourlyRate < 2 ^ 128
  | .setWorkspaceRate _ _ hourlyRate => hourlyRate < 2 ^ 128
  | .bookWorkspace _ _ _ startTime endTime seatCount =>
    startTime < 2 ^ 64 ∧ endTime < 2 ^ 64 ∧ seatCount < 2 ^ 32
  | _ => True

/-- A workspace with `u32::MAX` seats, after bookings of `u32::MAX` seats and of one. -/
def overbooked : World :=
  (twoBookings (2 ^ 32 - 1) (2 ^ 32 - 1)).foldl next ({}, fun _ _ => 0)

/-- **A workspace of the largest capacity can be overbooked.** -/
theorem capacity_exceeded : ¬ ∀ (me : Address) (l : Ledger) (tr : List (Event World (Input me)))
    (w : World), Run (Steps me) ({}, l) tr w → (∀ ev ∈ tr, ev.inp.call.Fits) →
      WithinCapacity w.1 := by
  intro hall
  have h := run_foldl next (twoBookings (2 ^ 32 - 1) (2 ^ 32 - 1)) ({}, fun _ _ => 0)
  have hover : (overbooked.1.workspaces.lookup "room").any
      fun ws => ws.capacity < seatsAt overbooked.1 "room" 15 := by decide
  obtain ⟨ws, hs, hlt⟩ := Option.any_eq_true .. |>.1 hover
  refine absurd (hall ⟨0⟩ _ _ _ h (fun ev hev => ?_) "room" ws hs 15)
    (Nat.not_le.2 (of_decide_eq_true hlt))
  simp only [twoBookings, sampleInputs, List.mapIdx_cons, List.mapIdx_nil, eventsFrom,
    List.mem_cons, List.not_mem_nil, or_false] at hev
  rcases hev with rfl | rfl | rfl | rfl <;> simp [Call.Fits]

end WorkspaceBooking
