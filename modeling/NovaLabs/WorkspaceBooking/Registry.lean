/-
  Who governs the workspaces and the bookings of workspace_booking, whatever the token does.

  The admin, who stays the same, registers workspaces and sets their rates and availability; the last
  setting is the one that holds.  A booking is made by its member at the rate of that time, and ended
  once, by its member or the admin.
-/
import NovaLabs.WorkspaceBooking.Capacity

namespace WorkspaceBooking

open Lib Soroban

variable {me : Address}

abbrev CallEvent (me : Address) := Event World (Input me)

/-- The call goes through. -/
def Succeeds (e : CallEvent me) : Prop :=
  ((entryPoint e.inp.env e.inp.call e.pre.1).run e.inp.token e.pre.2).isSome

/-! ## What a call writes -/

/-- The admin has authorised the call. -/
def IsAdmin (env : Env me) (s : State) (caller : Address) : Prop :=
  s.admin = some caller ∧ caller ∈ env.auths

/-- What a call that goes through writes, and who has authorised it. -/
inductive Writes (env : Env me) : Call → State → State → Prop
  | config {admin token s} : s.admin = none → admin ∈ env.auths →
      Writes env (.initializeContract admin token) s
        { s with admin := some admin, paymentToken := some token }
  | register {caller s} (ws : Workspace) : IsAdmin env s caller → 0 < ws.capacity →
      0 < ws.hourlyRate → ws.availability = .available → ws.createdAt = env.now →
      s.workspaces.lookup ws.id = none →
      Writes env (.registerWorkspace caller ws.id ws.name ws.workspaceType ws.capacity ws.hourlyRate)
        s { s.putWorkspace ws.id ws with workspaceList := s.workspaceList ++ [ws.id] }
  | availability {caller id isAvailable ws s} : IsAdmin env s caller →
      s.workspaces.lookup id = some ws →
      Writes env (.setWorkspaceAvailability caller id isAvailable) s (s.putWorkspace id { ws with
        availability := if isAvailable then .available else .unavailable .adminHold })
  | rate {caller id hourlyRate ws s} : IsAdmin env s caller → 0 < hourlyRate →
      s.workspaces.lookup id = some ws →
      Writes env (.setWorkspaceRate caller id hourlyRate) s (s.putWorkspace id { ws with hourlyRate })
  | complete {caller id b s} : IsAdmin env s caller → s.bookings.lookup id = some b →
      b.status = .active →
      Writes env (.completeBooking caller id) s (s.putBooking id (b.complete env.now))
  | book {c b ws s q s₁ k} : Books env c b ws s q s₁ k →
      Writes env c s (((s₁.putBooking b.id b).index b).unlock .book)
  | cancel {c id b s q s₁ k} : Cancels env c id b s q s₁ k →
      Writes env c s ((s₁.putBooking id (b.cancel env.now)).unlock .cancel)

theorem finishes_writes {env : Env me} {c : Call} {s s' : State}
    (h : Finishes (entryPoint env c) s () s') : Writes env c s s' := by
  cases c with
  | initializeContract admin token =>
    obtain ⟨hnone, hauth, rfl⟩ := initializeContract_returns.1 (finishes_lift.1 h)
    exact .config hnone hauth
  | registerWorkspace caller id name type capacity rate =>
    simp only [entryPoint, finishes_lift, registerWorkspace, saveWorkspace, returns_bind,
      requireAdmin_returns, returns_get, returns_failIf, returns_modify, Bool.not_eq_true,
      Option.isSome_eq_false_iff, Option.isNone_iff_eq_none] at h
    obtain ⟨_, _, ⟨hadmin, hauth, rfl⟩, _, _, ⟨hcapacity, rfl⟩, _, _, ⟨hrate, rfl⟩, _, _, ⟨rfl, rfl⟩,
      _, _, ⟨hfree, rfl⟩, _, _, rfl, rfl⟩ := h
    exact .register ⟨id, name, type, capacity, rate, .available, env.now⟩ ⟨hadmin, hauth⟩
      (Nat.pos_of_ne_zero hcapacity) (Nat.pos_of_ne_zero hrate) rfl rfl hfree
  | setWorkspaceAvailability caller id isAvailable =>
    simp only [entryPoint, finishes_lift, setWorkspaceAvailability, saveWorkspace, returns_bind,
      requireAdmin_returns, loadWorkspace_returns, returns_modify] at h
    obtain ⟨_, _, ⟨hadmin, hauth, rfl⟩, ws, _, ⟨hws, rfl⟩, rfl⟩ := h
    exact .availability ⟨hadmin, hauth⟩ hws
  | setWorkspaceRate caller id rate =>
    simp only [entryPoint, finishes_lift, setWorkspaceRate, saveWorkspace, returns_bind,
      requireAdmin_returns, returns_failIf, loadWorkspace_returns, returns_modify] at h
    obtain ⟨_, _, ⟨hadmin, hauth, rfl⟩, _, _, ⟨hrate, rfl⟩, ws, _, ⟨hws, rfl⟩, rfl⟩ := h
    exact .rate ⟨hadmin, hauth⟩ (Nat.pos_of_ne_zero hrate) hws
  | completeBooking caller id =>
    simp only [entryPoint, finishes_lift, completeBooking, saveBooking, returns_bind,
      requireAdmin_returns, loadBooking_returns, returns_failIf, returns_modify, ne_eq,
      not_not] at h
    obtain ⟨_, _, ⟨hadmin, hauth, rfl⟩, b, _, ⟨hb, rfl⟩, _, _, ⟨hs, rfl⟩, rfl⟩ := h
    exact .complete ⟨hadmin, hauth⟩ hb hs
  | bookWorkspace => simp [entryPoint, bookWorkspace] at h
  | cancelBooking => simp [entryPoint, cancelBooking] at h

/-- A call writes as it should, or it fails and writes nothing. -/
theorem Steps.writes {e : CallEvent me} (h : Steps me e.pre e.inp e.post) :
    (¬ Succeeds e ∧ e.post.1 = e.pre.1) ∨
      Succeeds e ∧ Writes e.inp.env e.inp.call e.pre.1 e.post.1 := by
  obtain ⟨w, ⟨env, c, token⟩, w'⟩ := e
  obtain rfl : w' = next w ⟨env, c, token⟩ := h
  cases hr : (entryPoint env c w.1).run token w.2 with
  | none =>
    refine Or.inl ⟨fun hok => ?_, ?_⟩
    · rw [Succeeds, hr] at hok
      cases hok
    · rw [next, commitIn, hr]
  | some r =>
    refine Or.inr ⟨by rw [Succeeds, hr]; rfl, ?_⟩
    rcases commitIn_cases token (entryPoint env c) w.1 w.2 with
      ⟨hn, -⟩ | ⟨_, s', hf, hw⟩ | ⟨q, s₁, k, l₁, _, s', l', hc, -, hk, hw⟩
    · cases hr.symm.trans hn
    · rw [next, hw]
      exact finishes_writes hf
    · rw [next, hw]
      rcases callsOut_cases hc with ⟨b, ws, hb⟩ | ⟨id, b, hb⟩
      · rw [hb.rest, Act.run] at hk
        cases hk
        exact .book hb
      · rw [hb.rest, Act.run] at hk
        cases hk
        exact .cancel hb

/-! ## Workspaces -/

/-- The call sets the rate of the workspace. -/
def SetsRate (id : String) (hourlyRate : ℕ) (e : CallEvent me) : Prop :=
  Succeeds e ∧ ((∃ caller, e.inp.call = .setWorkspaceRate caller id hourlyRate) ∨
    ∃ caller name type capacity,
      e.inp.call = .registerWorkspace caller id name type capacity hourlyRate)

/-- The call sets the availability of the workspace. -/
def SetsAvailability (id : String) (availability : WorkspaceAvailability) (e : CallEvent me) : Prop :=
  Succeeds e ∧ ((∃ caller, e.inp.call = .setWorkspaceAvailability caller id true ∧
      availability = .available) ∨
    (∃ caller, e.inp.call = .setWorkspaceAvailability caller id false ∧
      availability = .unavailable .adminHold) ∨
    ∃ caller name type capacity rate,
      e.inp.call = .registerWorkspace caller id name type capacity rate ∧ availability = .available)

/-- The workspace goes back to a registration, and to the last calls that set its rate and its
    availability. -/
structure Registered (tr : List (CallEvent me)) (id : String) (ws : Workspace) : Prop where
  keyed : ws.id = id
  capacity : 0 < ws.capacity
  positive : 0 < ws.hourlyRate
  registration : ∃ e ∈ tr, Succeeds e ∧ e.inp.env.now = ws.createdAt ∧ ∃ caller rate,
    e.inp.call = .registerWorkspace caller id ws.name ws.workspaceType ws.capacity rate
  rate : Since (SetsRate id ws.hourlyRate) (fun e => ∀ r, ¬ SetsRate id r e) tr
  availability : Since (SetsAvailability id ws.availability)
    (fun e => ∀ a, ¬ SetsAvailability id a e) tr

section
variable {tr : List (CallEvent me)} {e : CallEvent me} {id : String} {ws : Workspace}

theorem Registered.other (h : Registered tr id ws) (hrate : ∀ r, ¬ SetsRate id r e)
    (havailability : ∀ a, ¬ SetsAvailability id a e) : Registered (tr ++ [e]) id ws where
  keyed := h.keyed
  capacity := h.capacity
  positive := h.positive
  registration := h.registration.imp fun _ h => ⟨List.mem_append_left _ h.1, h.2⟩
  rate := since_snoc.2 (Or.inr ⟨h.rate, hrate⟩)
  availability := since_snoc.2 (Or.inr ⟨h.availability, havailability⟩)

/-- The workspace that the call registers or sets. -/
def Call.workspace : Call → Option String
  | .registerWorkspace _ id _ _ _ _ | .setWorkspaceAvailability _ id _ | .setWorkspaceRate _ id _ =>
    some id
  | _ => none

/-- A call that is not about the workspace, or fails. -/
theorem Registered.idle (h : Registered tr id ws)
    (hcall : Succeeds e → e.inp.call.workspace ≠ some id) : Registered (tr ++ [e]) id ws := by
  refine h.other ?_ ?_
  · rintro r ⟨hok, ⟨_, heq⟩ | ⟨_, _, _, _, heq⟩⟩ <;> exact hcall hok (by rw [heq]; rfl)
  · rintro a ⟨hok, ⟨_, heq, -⟩ | ⟨_, heq, -⟩ | ⟨_, _, _, _, _, heq, -⟩⟩ <;>
      exact hcall hok (by rw [heq]; rfl)

theorem Registered.setRate (h : Registered tr id ws) (hok : Succeeds e) {caller : Address} {r : ℕ}
    (hcall : e.inp.call = .setWorkspaceRate caller id r) (hpos : 0 < r) :
    Registered (tr ++ [e]) id { ws with hourlyRate := r } where
  keyed := h.keyed
  capacity := h.capacity
  positive := hpos
  registration := h.registration.imp fun _ h => ⟨List.mem_append_left _ h.1, h.2⟩
  rate := since_snoc.2 (Or.inl ⟨hok, Or.inl ⟨caller, hcall⟩⟩)
  availability := by
    refine since_snoc.2 (Or.inr ⟨h.availability, ?_⟩)
    rintro a ⟨-, ⟨_, heq, -⟩ | ⟨_, heq, -⟩ | ⟨_, _, _, _, _, heq, -⟩⟩ <;> cases hcall.symm.trans heq

theorem Registered.setAvailability (h : Registered tr id ws) (hok : Succeeds e) {caller : Address}
    {isAvailable : Bool} (hcall : e.inp.call = .setWorkspaceAvailability caller id isAvailable) :
    Registered (tr ++ [e]) id { ws with
      availability := if isAvailable then .available else .unavailable .adminHold } where
  keyed := h.keyed
  capacity := h.capacity
  positive := h.positive
  registration := h.registration.imp fun _ h => ⟨List.mem_append_left _ h.1, h.2⟩
  rate := by
    refine since_snoc.2 (Or.inr ⟨h.rate, ?_⟩)
    rintro r ⟨-, ⟨_, heq⟩ | ⟨_, _, _, _, heq⟩⟩ <;> cases hcall.symm.trans heq
  availability := by
    refine since_snoc.2 (Or.inl ⟨hok, ?_⟩)
    cases isAvailable with
    | true => exact Or.inl ⟨caller, hcall, rfl⟩
    | false => exact Or.inr (Or.inl ⟨caller, hcall, rfl⟩)

theorem registered_of_call (hok : Succeeds e) {caller : Address} (hcall : e.inp.call =
      .registerWorkspace caller ws.id ws.name ws.workspaceType ws.capacity ws.hourlyRate)
    (hcapacity : 0 < ws.capacity) (hrate : 0 < ws.hourlyRate)
    (havailable : ws.availability = .available) (hnow : ws.createdAt = e.inp.env.now) : Registered (tr ++ [e]) ws.id ws where
  keyed := rfl
  capacity := hcapacity
  positive := hrate
  registration := ⟨e, List.mem_append_right _ (.head _), hok, hnow.symm, caller, _, hcall⟩
  rate := since_snoc.2 (Or.inl ⟨hok, Or.inr ⟨_, _, _, _, hcall⟩⟩)
  availability := since_snoc.2
    (Or.inl ⟨hok, Or.inr (Or.inr ⟨_, _, _, _, _, hcall, havailable⟩)⟩)

/-- The workspaces of the storage go back to calls. -/
def AllRegistered (tr : List (CallEvent me)) (s : State) : Prop :=
  ∀ id ws, s.workspaces.lookup id = some ws → Registered tr id ws

theorem Steps.allRegistered (h : Steps me e.pre e.inp e.post) (hall : AllRegistered tr e.pre.1) :
    AllRegistered (tr ++ [e]) e.post.1 := by
  intro id ws hws
  rcases h.writes with ⟨hfails, hs⟩ | ⟨hok, hwrites⟩
  · exact (hall id ws (hs ▸ hws)).idle fun hok => absurd hok hfails
  generalize hs' : e.post.1 = s', hs : e.pre.1 = s, hc : e.inp.call = c at hwrites hall hws
  have hidle (hold : s.workspaces.lookup id = some ws) (hcall : c.workspace ≠ some id) :
      Registered (tr ++ [e]) id ws := (hall id ws hold).idle fun _ => hc ▸ hcall
  cases hwrites with
  | config | complete => exact hidle hws nofun
  | book hb => exact hidle (by rw [hb.locked] at hws; exact hws) (by rw [hb.call]; nofun)
  | cancel hb =>
    obtain ⟨caller, rfl, -⟩ := hb.call
    exact hidle (by rw [hb.locked] at hws; exact hws) nofun
  | register ws' hadmin hcapacity hrate havailable hnow hfree =>
    rw [State.putWorkspace, Store.lookup_insert_ite] at hws
    split_ifs at hws with hid
    · cases hws
      subst hid
      exact registered_of_call hok hc hcapacity hrate havailable hnow
    · exact hidle hws fun heq => hid (Option.some.inj heq).symm
  | @availability _ id' _ ws' _ hadmin hold =>
    rw [State.putWorkspace, Store.lookup_insert_ite] at hws
    by_cases hid : id = id'
    · rw [if_pos hid] at hws
      cases hws
      subst hid
      exact (hall id ws' hold).setAvailability hok hc
    · rw [if_neg hid] at hws
      exact hidle hws fun heq => hid (Option.some.inj heq).symm
  | @rate _ id' _ ws' _ hadmin hpos hold =>
    rw [State.putWorkspace, Store.lookup_insert_ite] at hws
    split_ifs at hws with hid
    · cases hws
      subst hid
      exact (hall id ws' hold).setRate hok hc hpos
    · exact hidle hws fun heq => hid (Option.some.inj heq).symm

/-! ## The list of workspaces -/

/-- `get_all_workspaces` lists each registered workspace once. -/
def Listed (s : State) : Prop :=
  s.workspaceList.Nodup ∧ ∀ id, id ∈ s.workspaceList ↔ s.workspaces.lookup id ≠ none

theorem Listed.put {s : State} (h : Listed s) {ws ws' : Workspace}
    (hold : s.workspaces.lookup id = some ws) : Listed (s.putWorkspace id ws') := by
  refine ⟨h.1, fun id' => (h.2 id').trans ?_⟩
  rw [State.putWorkspace, Store.lookup_insert_ite]
  split_ifs with hid
  · rw [hid, hold]
    simp
  · exact Iff.rfl

theorem Writes.list {env : Env me} {c : Call} {s s' : State} (h : Writes env c s s') :
    s.workspaceList <+: s'.workspaceList ∧ (Listed s → Listed s') := by
  cases h with
  | config | complete => exact ⟨List.prefix_rfl, fun h => h⟩
  | book hb =>
    rw [hb.locked]
    exact ⟨List.prefix_rfl, fun h => h⟩
  | cancel hb =>
    rw [hb.locked]
    exact ⟨List.prefix_rfl, fun h => h⟩
  | availability _ hold | rate _ _ hold => exact ⟨List.prefix_rfl, fun h => h.put hold⟩
  | register ws _ _ _ _ _ hfree =>
    refine ⟨List.prefix_append _ _, fun h => ⟨?_, fun id => ?_⟩⟩
    · refine List.nodup_append.2 ⟨h.1, List.nodup_singleton _, ?_⟩
      rintro id hid _ hid' rfl
      rw [List.mem_singleton.1 hid'] at hid
      exact (h.2 _).1 hid hfree
    · change id ∈ s.workspaceList ++ [ws.id] ↔ Finmap.lookup id (s.workspaces.insert ws.id ws) ≠ none
      rw [List.mem_append, List.mem_singleton, Store.lookup_insert_ite, h.2]
      split_ifs with hid <;> simp [hid]

/-! ## Who may write -/

/-- How a record of a booking comes to be. -/
inductive Authorised (e : CallEvent me) (id : String) : Booking → Prop
  | made {b ws} : e.pre.1.bookings.lookup id = none → b.id = id → b.status = .active →
      b.member ∈ e.inp.env.auths → e.pre.1.workspaces.lookup b.workspaceId = some ws →
      ws.availability = .available →
      b.amountPaid = ws.hourlyRate * ((b.endTime - b.startTime + 3599) / 3600) → Authorised e id b
  | cancelled {b caller} : e.pre.1.bookings.lookup id = some b → b.status = .active →
      caller ∈ e.inp.env.auths → (caller = b.member ∨ e.pre.1.admin = some caller) →
      Authorised e id (b.cancel e.inp.env.now)
  | completed {b caller} : e.pre.1.bookings.lookup id = some b → b.status = .active →
      IsAdmin e.inp.env e.pre.1 caller → Authorised e id (b.complete e.inp.env.now)

/-- What a call may have written. -/
structure Lawful (e : CallEvent me) : Prop where
  admin : ∀ a, e.pre.1.admin = some a →
    e.post.1.admin = some a ∧ e.post.1.paymentToken = e.pre.1.paymentToken
  workspaces : e.post.1.workspaces = e.pre.1.workspaces ∨ ∃ caller, IsAdmin e.inp.env e.pre.1 caller
  bookings : ∀ id b, e.post.1.bookings.lookup id = some b →
    e.pre.1.bookings.lookup id = some b ∨ Authorised e id b

theorem Lawful.of_same (bookings : e.post.1.bookings = e.pre.1.bookings)
    (admin : e.post.1.admin = e.pre.1.admin) (token : e.post.1.paymentToken = e.pre.1.paymentToken)
    (workspaces : e.post.1.workspaces = e.pre.1.workspaces ∨
      ∃ caller, IsAdmin e.inp.env e.pre.1 caller) : Lawful e where
  admin _ ha := ⟨admin.trans ha, token⟩
  workspaces := workspaces
  bookings _ _ hb := Or.inl (bookings ▸ hb)

/-- One record is written. -/
theorem Lawful.of_put {b : Booking} (admin : e.post.1.admin = e.pre.1.admin)
    (token : e.post.1.paymentToken = e.pre.1.paymentToken)
    (workspaces : e.post.1.workspaces = e.pre.1.workspaces)
    (bookings : e.post.1.bookings = e.pre.1.bookings.insert id b) (h : Authorised e id b) :
    Lawful e where
  admin _ ha := ⟨admin.trans ha, token⟩
  workspaces := Or.inl workspaces
  bookings _ _ hb := by
    rw [bookings, Store.lookup_insert_ite] at hb
    split_ifs at hb with hid
    · cases hb
      subst hid
      exact Or.inr h
    · exact Or.inl hb

theorem Steps.lawful (h : Steps me e.pre e.inp e.post) : Lawful e := by
  rcases h.writes with ⟨-, hs⟩ | ⟨-, hwrites⟩
  · exact .of_same (by rw [hs]) (by rw [hs]) (by rw [hs]) (Or.inl (by rw [hs]))
  obtain ⟨⟨s, l⟩, ⟨env, c, token⟩, ⟨s', l'⟩⟩ := e
  change Writes env c s s' at hwrites
  cases hwrites with
  | config hnone =>
    refine ⟨fun a ha => ?_, Or.inl rfl, fun id b hb => Or.inl hb⟩
    cases hnone.symm.trans ha
  | register _ hadmin | availability hadmin | rate hadmin =>
    exact .of_same rfl rfl rfl (Or.inr ⟨_, hadmin⟩)
  | complete hadmin hb hactive => exact .of_put rfl rfl rfl rfl (.completed hb hactive hadmin)
  | @book _ b ws _ _ _ _ hb =>
    obtain rfl := hb.locked
    exact .of_put rfl rfl rfl rfl
      (.made hb.fresh rfl hb.active hb.auth hb.stored hb.available hb.cost)
  | @cancel _ id b _ _ _ _ hb =>
    obtain rfl := hb.locked
    obtain ⟨caller, -, hauth, hcaller⟩ := hb.call
    exact .of_put rfl rfl rfl rfl (.cancelled hb.stored hb.active hauth hcaller)

end

/-! ## Runs -/

/-- **Whatever the token does, the admin and the token stay once they are set, the list has each
    workspace once, in the order of registration, a workspace goes back to its registration and to the
    last calls that set its rate and its availability, by the admin, and each booking was made by its
    member, at the rate of that time, and ended once by the member or the admin.** -/
theorem registry_governed {l : Ledger} {tr : List (CallEvent me)} {w : World}
    (h : Run (Steps me) ({}, l) tr w) :
    Listed w.1 ∧ AllRegistered tr w.1 ∧ (∀ e ∈ tr, Lawful e) ∧
      ∀ tr₁ e tr₂, tr = tr₁ ++ e :: tr₂ →
        e.pre.1.workspaceList <+: w.1.workspaceList ∧
        ∀ a, e.pre.1.admin = some a →
          w.1.admin = some a ∧ w.1.paymentToken = e.pre.1.paymentToken := by
  have hlist {w w' : World} {i : Input me} (hst : Steps me w i w') :
      w.1.workspaceList <+: w'.1.workspaceList ∧ (Listed w.1 → Listed w'.1) := by
    rcases hst.writes (e := ⟨w, i, w'⟩) with ⟨-, hs⟩ | ⟨-, hwrites⟩
    · rw [show w'.1 = w.1 from hs]
      exact ⟨List.prefix_rfl, fun h => h⟩
    · exact hwrites.list
  refine ⟨?_, ?_, fun e he => (h.step_of_mem he).lawful, ?_⟩
  · refine h.invariant' (P := fun w => Listed w.1) (fun w i w' hw hst => (hlist hst).2 hw) ?_
    exact ⟨List.nodup_nil, fun id => by simp⟩
  · exact h.history (P := fun tr w => AllRegistered tr w.1)
      (fun tr w i w' hall hst => hst.allRegistered (e := ⟨w, i, w'⟩) hall)
      fun id ws hws => by simp at hws
  · rintro tr₁ e tr₂ rfl
    obtain ⟨-, hst, h₂⟩ := h.split
    have hlast : e.pre.1.workspaceList <+: w.1.workspaceList := by
      refine h₂.invariant' (P := fun w => e.pre.1.workspaceList <+: w.1.workspaceList) ?_ (hlist hst).1
      exact fun w i w' hw hst => hw.trans (hlist hst).1
    refine ⟨hlast, fun a ha => ?_⟩
    refine h₂.invariant' (P := fun w => w.1.admin = some a ∧
      w.1.paymentToken = e.pre.1.paymentToken) (fun w i w' hw hst => ?_) (hst.lawful.admin a ha)
    obtain ⟨ha', ht'⟩ := (hst.lawful (e := ⟨w, i, w'⟩)).admin a hw.1
    exact ⟨ha', ht'.trans hw.2⟩

/-- A room, whose rate goes up after a booking. -/
theorem registry_governed_rate : ∃ tr w, Run (Steps ⟨0⟩) ({}, fun _ _ => 0) tr w ∧
    (w.1.bookings.lookup "first").map (·.amountPaid) = some 21 ∧
    Since (SetsRate "room" 9) (fun e => ∀ r, ¬ SetsRate "room" r e) tr := by
  have h := run_foldl next (sampleInputs [.initializeContract ⟨1⟩ ⟨2⟩,
    .registerWorkspace ⟨1⟩ "room" "Room" .meetingRoom 4 7,
    .bookWorkspace ⟨3⟩ "first" "room" 0 9000 2, .setWorkspaceRate ⟨1⟩ "room" 9,
    .completeBooking ⟨1⟩ "first"]) ({}, fun _ _ => 0)
  exact ⟨_, _, h, by decide, ((registry_governed h).2.1 "room"
    ⟨"room", "Room", .meetingRoom, 4, 9, .available, 1⟩ (by decide)).rate⟩

end WorkspaceBooking
