/-
  What the calls of workspace_booking do: one specification for each kind of call.

  A call that ends without a transfer sets up the contract, changes a workspace, or completes a
  booking (`Local`); a call that reaches a transfer makes a booking (`Books`) or cancels one
  (`Cancels`), and says what it will write once the transfer has returned.
-/
import NovaLabs.WorkspaceBooking.Contract

namespace WorkspaceBooking

open Lib Soroban

variable {me : Address} {env : Env me} {s s' : State} {q : Transfer}
  {k : State → Act State Transfer Error Unit}

/-! ## Storage updates -/

def State.lock (s : State) (key : ReentrancyKey) : State := { s with locks := insert key s.locks }

def State.unlock (s : State) (key : ReentrancyKey) : State := { s with locks := s.locks.erase key }

def State.putWorkspace (s : State) (id : String) (ws : Workspace) : State :=
  { s with workspaces := s.workspaces.insert id ws }

def State.putBooking (s : State) (id : String) (b : Booking) : State :=
  { s with bookings := s.bookings.insert id b }

/-- The storage after the two indexes of `book_workspace`. -/
def State.index (s : State) (b : Booking) : State :=
  { s with
    workspaceBookings := s.workspaceBookings.insert b.workspaceId
      (s.bookingIds b.workspaceId ++ [b.id])
    memberBookings := s.memberBookings.insert b.member
      ((s.memberBookings.lookup b.member).getD [] ++ [b.id]) }

/-- The record of a booking completed at time `now`. -/
def Booking.complete (b : Booking) (now : ℕ) : Booking :=
  { b with status := .completed, completedAt := some now }

/-- The record of a booking cancelled at time `now`. -/
def Booking.cancel (b : Booking) (now : ℕ) : Booking :=
  { b with status := .cancelled, cancelledAt := some now }

theorem index_bookingIds (s : State) (b : Booking) (w : String) :
    (s.index b).bookingIds w =
      if w = b.workspaceId then s.bookingIds w ++ [b.id] else s.bookingIds w := by
  simp only [State.bookingIds, State.index, Store.lookup_insert_ite]
  split_ifs with h
  · rw [h]; rfl
  · rfl

/-! ## The kinds of calls -/

/-- A call without a transfer. -/
inductive Local (env : Env me) : Call → State → State → Prop
  | config {admin token s} :
      Local env (.initializeContract admin token) s
        { s with admin := some admin, paymentToken := some token }
  | register {caller s} (ws : Workspace) : s.workspaces.lookup ws.id = none → ws.capacity ≠ 0 →
      Local env (.registerWorkspace caller ws.id ws.name ws.workspaceType ws.capacity ws.hourlyRate)
        s { s.putWorkspace ws.id ws with workspaceList := s.workspaceList ++ [ws.id] }
  | workspace {c id ws ws' s} : s.workspaces.lookup id = some ws → ws'.capacity = ws.capacity →
      Local env c s (s.putWorkspace id ws')
  | complete {caller id b s} : s.bookings.lookup id = some b → b.status = .active →
      Local env (.completeBooking caller id) s (s.putBooking id (b.complete env.now))

/-- The call `c` makes the booking `b` of the workspace `ws`: the storage `s'` and the transfer `q`
    when it calls the token, and what it does afterwards. -/
structure Books (env : Env me) (c : Call) (b : Booking) (ws : Workspace) (s : State) (q : Transfer)
    (s' : State) (k : State → Act State Transfer Error Unit) : Prop where
  call : c = .bookWorkspace b.member b.id b.workspaceId b.startTime b.endTime b.seatCount
  auth : b.member ∈ env.auths
  fresh : s.bookings.lookup b.id = none
  slot : b.startTime < b.endTime ∧ env.now < b.endTime
  seats : b.seatCount ≠ 0
  stored : s.workspaces.lookup b.workspaceId = some ws
  available : ws.availability = .available
  fits : saturatingAdd 32 (bookedSeatsInSlot s b.workspaceId b.startTime b.endTime) b.seatCount ≤
    ws.capacity
  cost : b.amountPaid = ws.hourlyRate * ((b.endTime - b.startTime + 3599) / 3600)
  active : b.status = .active
  free : .book ∉ s.locks
  req : ∃ token, s.paymentToken = some token ∧ q = ⟨token, b.member, me, asI128 b.amountPaid⟩
  locked : s' = s.lock .book
  rest : ∀ t, k t = .done (.ok ()) (((t.putBooking b.id b).index b).unlock .book)

/-- The call `c` cancels the booking `b`, stored at `id`. -/
structure Cancels (env : Env me) (c : Call) (id : String) (b : Booking) (s : State) (q : Transfer)
    (s' : State) (k : State → Act State Transfer Error Unit) : Prop where
  call : ∃ caller, c = .cancelBooking caller id ∧ caller ∈ env.auths ∧
    (caller = b.member ∨ s.admin = some caller)
  stored : s.bookings.lookup id = some b
  active : b.status = .active
  free : .cancel ∉ s.locks
  req : ∃ token, s.paymentToken = some token ∧ q = ⟨token, me, b.member, asI128 b.amountPaid⟩
  locked : s' = s.lock .cancel
  rest : ∀ t, k t = .done (.ok ()) ((t.putBooking id (b.cancel env.now)).unlock .cancel)

section
variable {caller : Address} {id : String}

theorem requireAdmin_returns {u : Unit} :
    Returns (requireAdmin env caller) s u s' ↔
      s.admin = some caller ∧ caller ∈ env.auths ∧ s' = s := by
  simp only [requireAdmin, getAdmin, requireAuth, returns_bind, returns_get,
    returns_okOr, returns_failIf, returns_hostRequire, ne_eq, not_not]
  constructor
  · rintro ⟨a, _, ⟨_, _, ⟨rfl, rfl⟩, ha, rfl⟩, _, _, ⟨rfl, rfl⟩, h, rfl⟩
    exact ⟨ha, h, rfl⟩
  · rintro ⟨ha, h, rfl⟩
    exact ⟨caller, s', ⟨s', s', ⟨rfl, rfl⟩, ha, rfl⟩, (), s', ⟨rfl, rfl⟩, h, rfl⟩

theorem getAdmin_returns {a : Address} :
    Returns getAdmin s a s' ↔ s.admin = some a ∧ s' = s := by
  simp [getAdmin, and_comm]

theorem getPaymentToken_returns {a : Address} :
    Returns getPaymentToken s a s' ↔ s.paymentToken = some a ∧ s' = s := by
  simp [getPaymentToken, and_comm]

theorem loadWorkspace_returns {ws : Workspace} :
    Returns (loadWorkspace id) s ws s' ↔ s.workspaces.lookup id = some ws ∧ s' = s := by
  simp [loadWorkspace, and_comm]

theorem loadBooking_returns {b : Booking} :
    Returns (loadBooking id) s b s' ↔ s.bookings.lookup id = some b ∧ s' = s := by
  simp [loadBooking, and_comm]

theorem reentrancyProtect_returns {key : ReentrancyKey} {u : Unit} :
    Returns (reentrancyProtect key) s u s' ↔ key ∉ s.locks ∧ s' = s.lock key := by
  simp [reentrancyProtect, State.lock]

theorem bookChecks_returns {member : Address} {bookingId w : String} {st en n amount : ℕ} :
    Returns (bookChecks env member bookingId w st en n) s amount s' →
      member ∈ env.auths ∧ s.bookings.lookup bookingId = none ∧ (st < en ∧ env.now < en) ∧
        n ≠ 0 ∧ (∃ ws, s.workspaces.lookup w = some ws ∧ ws.availability = .available ∧
          saturatingAdd 32 (bookedSeatsInSlot s w st en) n ≤ ws.capacity ∧
          amount = ws.hourlyRate * ((en - st + 3599) / 3600)) ∧ s' = s := by
  simp only [bookChecks, requireAuth, slotCost, returns_bind, returns_hostRequire, returns_get,
    returns_failIf, loadWorkspace_returns, returns_checked, not_or, not_lt, not_le, ge_iff_le,
    gt_iff_lt, ne_eq, not_not, Bool.not_eq_true, Option.isSome_eq_false_iff,
    Option.isNone_iff_eq_none]
  rintro ⟨_, _, ⟨ha, rfl⟩, _, _, ⟨rfl, rfl⟩, _, _, ⟨hf, rfl⟩, _, _, ⟨hs, rfl⟩, _, _, ⟨hn, rfl⟩,
    ws, _, ⟨hw, rfl⟩, _, _, ⟨hv, rfl⟩, _, _, ⟨rfl, rfl⟩, _, _, ⟨hc, rfl⟩, rfl, -, rfl⟩
  exact ⟨ha, hf, hs, hn, ⟨ws, hw, hv, hc, rfl⟩, rfl⟩

/-- The amount to pay fits a `u128`. -/
theorem bookChecks_lt {member : Address} {bookingId w : String} {st en n amount : ℕ}
    (h : Returns (bookChecks env member bookingId w st en n) s amount s') : amount < 2 ^ 128 := by
  simp only [bookChecks, requireAuth, slotCost, returns_bind, returns_hostRequire, returns_get,
    returns_failIf, loadWorkspace_returns, returns_checked] at h
  obtain ⟨_, _, -, _, _, -, _, _, -, _, _, -, _, _, -, ws, _, -, _, _, -, _, _, -, _, _, -, rfl, hlt,
    -⟩ := h
  exact hlt

theorem cancelChecks_returns {b : Booking} :
    Returns (cancelChecks env caller id) s b s' →
      caller ∈ env.auths ∧ s.bookings.lookup id = some b ∧
        (caller = b.member ∨ s.admin = some caller) ∧ b.status = .active ∧ s' = s := by
  simp only [cancelChecks, requireAuth, returns_bind, returns_hostRequire, loadBooking_returns,
    getAdmin_returns, returns_failIf, returns_pure, not_and_or, ne_eq, not_not]
  rintro ⟨_, _, ⟨hu, rfl⟩, b', _, ⟨hb, rfl⟩, _, _, ⟨ha, rfl⟩, _, _, ⟨hc, rfl⟩, _, _, ⟨hs, rfl⟩,
    rfl, rfl⟩
  exact ⟨hu, hb, hc.imp_right fun (h : caller = _) => h ▸ ha, hs, rfl⟩

end

/-- The checks of `cancel_booking` pass where they should. -/
theorem cancelChecks_passes {caller : Address} {id : String} {b : Booking} (ha : caller ∈ env.auths)
    (hb : s.bookings.lookup id = some b) (hadm : s.admin ≠ none)
    (hc : caller = b.member ∨ s.admin = some caller) (hact : b.status = .active) :
    Returns (cancelChecks env caller id) s b s := by
  obtain ⟨admin, hadm⟩ := Option.ne_none_iff_exists'.1 hadm
  simp only [cancelChecks, requireAuth, returns_bind, returns_hostRequire, loadBooking_returns,
    getAdmin_returns, returns_failIf, returns_pure]
  refine ⟨(), s, ⟨ha, rfl⟩, b, s, ⟨hb, rfl⟩, admin, s, ⟨hadm, rfl⟩, (), s, ⟨?_, rfl⟩, (), s,
    ⟨not_not.2 hact, rfl⟩, rfl, rfl⟩
  rintro ⟨hne, hne'⟩
  rcases hc with rfl | hc
  · exact hne rfl
  · exact hne' (Option.some.inj (hc.symm.trans hadm))

theorem initializeContract_returns {admin token : Address} {u : Unit} :
    Returns (initializeContract env admin token) s u s' ↔ s.admin = none ∧ admin ∈ env.auths ∧
      s' = { s with admin := some admin, paymentToken := some token } := by
  rw [initializeContract, returns_get_bind]
  simp only [requireAuth, returns_bind, returns_failIf, returns_hostRequire, returns_modify,
    Bool.not_eq_true, Option.isSome_eq_false_iff, Option.isNone_iff_eq_none]
  constructor
  · rintro ⟨_, _, ⟨hn, rfl⟩, _, _, ⟨ha, rfl⟩, rfl⟩
    exact ⟨hn, ha, rfl⟩
  · rintro ⟨hn, ha, rfl⟩
    exact ⟨(), s, ⟨hn, rfl⟩, (), s, ⟨ha, rfl⟩, rfl⟩

theorem finishes_cases {c : Call} (h : Finishes (entryPoint env c) s () s') : Local env c s s' := by
  cases c with
  | initializeContract admin token =>
    simp only [entryPoint, finishes_lift, initializeContract, requireAuth, returns_bind,
      returns_get, returns_failIf, returns_hostRequire, returns_modify] at h
    obtain ⟨_, _, ⟨rfl, rfl⟩, _, _, ⟨-, rfl⟩, _, _, ⟨-, rfl⟩, rfl⟩ := h
    exact .config
  | registerWorkspace caller id name type capacity rate =>
    simp only [entryPoint, finishes_lift, registerWorkspace, saveWorkspace, returns_bind,
      requireAdmin_returns, returns_get, returns_failIf, returns_modify, Bool.not_eq_true,
      Option.isSome_eq_false_iff, Option.isNone_iff_eq_none] at h
    obtain ⟨_, _, ⟨-, -, rfl⟩, _, _, ⟨hc, rfl⟩, _, _, ⟨-, rfl⟩, _, _, ⟨rfl, rfl⟩, _, _, ⟨hf, rfl⟩,
      _, _, rfl, rfl⟩ := h
    exact .register ⟨id, name, type, capacity, rate, .available, env.now⟩ hf hc
  | setWorkspaceAvailability caller id b =>
    simp only [entryPoint, finishes_lift, setWorkspaceAvailability, saveWorkspace, returns_bind,
      requireAdmin_returns, loadWorkspace_returns, returns_modify] at h
    obtain ⟨_, _, ⟨-, -, rfl⟩, ws, _, ⟨hw, rfl⟩, rfl⟩ := h
    exact .workspace hw rfl
  | setWorkspaceRate caller id rate =>
    simp only [entryPoint, finishes_lift, setWorkspaceRate, saveWorkspace, returns_bind,
      requireAdmin_returns, returns_failIf, loadWorkspace_returns, returns_modify] at h
    obtain ⟨_, _, ⟨-, -, rfl⟩, _, _, ⟨-, rfl⟩, ws, _, ⟨hw, rfl⟩, rfl⟩ := h
    exact .workspace hw rfl
  | completeBooking caller id =>
    simp only [entryPoint, finishes_lift, completeBooking, saveBooking, returns_bind,
      requireAdmin_returns, loadBooking_returns, returns_failIf, returns_modify, ne_eq,
      not_not] at h
    obtain ⟨_, _, ⟨-, -, rfl⟩, b, _, ⟨hb, rfl⟩, _, _, ⟨hs, rfl⟩, rfl⟩ := h
    exact .complete hb hs
  | bookWorkspace => simp [entryPoint, bookWorkspace] at h
  | cancelBooking => simp [entryPoint, cancelBooking] at h

theorem callsOut_cases {c : Call} (h : CallsOut (entryPoint env c) s q s' k) :
    (∃ b ws, Books env c b ws s q s' k) ∨ ∃ id b, Cancels env c id b s q s' k := by
  cases c with
  | initializeContract | registerWorkspace | setWorkspaceAvailability | setWorkspaceRate
  | completeBooking => exact absurd h not_callsOut_lift
  | bookWorkspace member bookingId w st en n =>
    simp only [entryPoint, bookWorkspace, callsOut_bind, callsOut_request, not_callsOut_lift,
      finishes_lift, not_finishes_request, reentrancyProtect_returns, getPaymentToken_returns,
      and_false, false_and, exists_false, or_false, false_or] at h
    obtain ⟨amount, _, hc, _, _, ⟨hk, rfl⟩, token, _, ⟨ht, rfl⟩, _, ⟨rfl, rfl, rfl⟩, rfl⟩ := h
    obtain ⟨ha, hf, hs, hn, ⟨ws, hw, hv, hfit, hcost⟩, rfl⟩ := bookChecks_returns hc
    exact Or.inl ⟨⟨bookingId, w, member, st, en, .active, n, amount, env.now, none, none⟩, ws,
      rfl, ha, hf, hs, hn, hw, hv, hfit, hcost, rfl, hk, ⟨token, ht, rfl⟩, rfl, fun _ => rfl⟩
  | cancelBooking caller id =>
    simp only [entryPoint, cancelBooking, callsOut_bind, callsOut_request, not_callsOut_lift,
      finishes_lift, not_finishes_request, reentrancyProtect_returns, getPaymentToken_returns,
      and_false, false_and, exists_false, or_false, false_or] at h
    obtain ⟨b, _, hc, _, _, ⟨hk, rfl⟩, token, _, ⟨ht, rfl⟩, _, ⟨rfl, rfl, rfl⟩, rfl⟩ := h
    obtain ⟨hu, hb, hm, hs, rfl⟩ := cancelChecks_returns hc
    exact Or.inr ⟨id, b, ⟨caller, rfl, hu, hm⟩, hb, hs, hk, ⟨token, ht, rfl⟩, rfl, fun _ => rfl⟩

/-- The amount of a booking that is paid for fits a `u128`. -/
theorem Books.amount_lt {c : Call} {b : Booking} {ws : Workspace}
    (h : Books env c b ws s q s' k) (hc : CallsOut (entryPoint env c) s q s' k) :
    b.amountPaid < 2 ^ 128 := by
  rw [h.call] at hc
  simp only [entryPoint, bookWorkspace, callsOut_bind, callsOut_request, not_callsOut_lift,
    finishes_lift, false_and, exists_false, or_false] at hc
  obtain ⟨amount, _, hret, -⟩ := hc
  obtain ⟨-, -, -, -, ⟨ws', hw, -, -, hcost⟩, -⟩ := bookChecks_returns hret
  rw [h.stored] at hw
  cases hw
  rw [h.cost, ← hcost]
  exact bookChecks_lt hret

/-- A cancellation that passes its checks reaches its transfer. -/
theorem cancelBooking_callsOut {caller token : Address} {id : String} {b : Booking}
    (h : Returns (cancelChecks env caller id) s b s) (hfree : .cancel ∉ s.locks)
    (ht : s.paymentToken = some token) :
    ∃ k, CallsOut (entryPoint env (.cancelBooking caller id)) s
      ⟨token, me, b.member, asI128 b.amountPaid⟩ (s.lock .cancel) k := by
  simp only [entryPoint, cancelBooking, callsOut_bind, callsOut_request, not_callsOut_lift,
    finishes_lift, not_finishes_request, reentrancyProtect_returns, getPaymentToken_returns,
    and_false, false_and, exists_false, or_false, false_or]
  exact ⟨_, b, s, h, (), _, ⟨hfree, rfl⟩, token, _, ⟨ht, rfl⟩, _, ⟨rfl, rfl, rfl⟩, rfl⟩

end WorkspaceBooking
