/-
  Settlement in payment_escrow: whatever happened before, the admin can pay out all that is held.

  In the states between calls no lock is held, and whoever could create an escrow found an admin.
  So no payout is refused but for its caller, the status of its escrow, or the token.
-/
import NovaLabs.PaymentEscrow.Custody

namespace PaymentEscrow

open Lib Soroban

variable {me : Address} {env : Env me} {s s' : State} {l : Ledger} {id : String} {e : Escrow}
  {caller : Address} {accepts : Transfer → Ledger → Bool}

/-! ## Payouts that go through -/

/-- The transfer that settles an escrow with the status `st`. -/
def Escrow.payment (me : Address) (e : Escrow) (st : EscrowStatus) : Transfer :=
  ⟨e.paymentToken, me, e.recipient st, e.amount⟩

/-- The storage after a payout. -/
def State.paidOut (s : State) (p : Payout) (e : Escrow) (now : ℕ) : State :=
  ((s.lock p.key).put (e.settle p.after now)).unlock p.key

theorem payOut_completes {key : ReentrancyKey} {r : Address} {st : EscrowStatus}
    (hfree : key ∉ s.locks) (hacc : accepts ⟨e.paymentToken, me, r, e.amount⟩ l = true) :
    Completes (exactTokens accepts) (payOut env key e r st) s l ()
      (((s.lock key).put (e.settle st env.now)).unlock key)
      (l.move ⟨e.paymentToken, me, r, e.amount⟩) := by
  have htoken : exactTokens accepts ⟨e.paymentToken, me, r, e.amount⟩ l =
      some (l.move ⟨e.paymentToken, me, r, e.amount⟩) := by rw [exactTokens, if_pos hacc]
  simp only [payOut, completes_bind, completes_lift, completes_request,
    reentrancyProtect_returns, saveEscrow, dropGuard, returns_modify]
  exact ⟨(), _, _, ⟨⟨hfree, rfl⟩, rfl⟩, (), _, _, ⟨htoken, rfl⟩, (), _, _, ⟨rfl, rfl⟩, rfl, rfl⟩

theorem paidOut_eq {p : Payout} {now : ℕ} (hfree : p.key ∉ s.locks) (hkeyed : e.id = id) :
    s.paidOut p e now = { s with escrows := s.escrows.insert id (e.settle p.after now) } := by
  rw [State.paidOut, State.unlock, State.put, State.lock, Finset.erase_insert hfree]
  exact congrArg (fun key => { s with escrows := s.escrows.insert key (e.settle p.after now) }) hkeyed

theorem returns_releaseChecks (ha : s.admin = some caller) (hu : caller ∈ env.auths)
    (hs : s.escrows.lookup id = some e) (hst : e.status = .pending) :
    Returns (releaseChecks env caller id) s e s := by
  simp only [releaseChecks, returns_bind, requireAdmin_returns, loadEscrow_returns, returns_failIf,
    returns_pure, ne_eq, not_not]
  exact ⟨(), s, ⟨ha, hu, rfl⟩, e, s, ⟨hs, rfl⟩, (), s, ⟨hst, rfl⟩, rfl, rfl⟩

theorem returns_resolveChecks (ha : s.admin = some caller) (hu : caller ∈ env.auths)
    (hs : s.escrows.lookup id = some e) (hst : e.status = .disputed) :
    Returns (resolveChecks env caller id) s e s := by
  simp only [resolveChecks, returns_bind, requireAdmin_returns, loadEscrow_returns, returns_failIf,
    returns_pure, ne_eq, not_not]
  exact ⟨(), s, ⟨ha, hu, rfl⟩, e, s, ⟨hs, rfl⟩, (), s, ⟨hst, rfl⟩, rfl, rfl⟩

theorem returns_claimChecks (ha : (Call.claim caller id).admitted env s e)
    (hs : s.escrows.lookup id = some e) (hst : e.status = .pending) :
    Returns (claimChecks env caller id) s e s := by
  obtain ⟨hu, hb, hr, hn⟩ := ha
  simp only [claimChecks, requireAuth, returns_bind, returns_hostRequire, loadEscrow_returns,
    returns_failIf, returns_pure, ne_eq, not_not, not_lt]
  exact ⟨(), s, ⟨hu, rfl⟩, e, s, ⟨hs, rfl⟩, (), s, ⟨hb, rfl⟩, (), s, ⟨hst, rfl⟩, (), s, ⟨hr, rfl⟩,
    (), s, ⟨hn, rfl⟩, rfl, rfl⟩

/-- An admitted payout goes through where its lock is free and the token accepts the transfer. -/
theorem payout_completes {c : Call} {p : Payout} (hc : c.payout = some (id, p))
    (hs : s.escrows.lookup id = some e) (hst : e.status = p.before) (ha : c.admitted env s e)
    (hfree : p.key ∉ s.locks) (hacc : accepts (e.payment me p.after) l = true) :
    Completes (exactTokens accepts) (entryPoint env c) s l () (s.paidOut p e env.now)
      (l.move (e.payment me p.after)) := by
  cases c with
  | initializeContract | setDisputeWindow | createEscrow | raiseDispute => cases hc
  | release caller id =>
    cases hc
    obtain ⟨hadmin, hu⟩ := ha
    simp only [entryPoint, release, completes_bind, completes_lift]
    exact ⟨e, s, l, ⟨returns_releaseChecks hadmin hu hs hst, rfl⟩, payOut_completes hfree hacc⟩
  | refund caller id =>
    cases hc
    obtain ⟨hadmin, hu⟩ := ha
    simp only [entryPoint, refund, completes_bind, completes_lift]
    exact ⟨e, s, l, ⟨returns_releaseChecks hadmin hu hs hst, rfl⟩, payOut_completes hfree hacc⟩
  | resolveDispute caller id b =>
    obtain ⟨hadmin, hu⟩ := ha
    cases b with
    | true | false =>
      cases hc
      simp only [entryPoint, resolveDispute, completes_bind, completes_lift]
      exact ⟨e, s, l, ⟨returns_resolveChecks hadmin hu hs hst, rfl⟩, payOut_completes hfree hacc⟩
  | claim caller id =>
    cases hc
    simp only [entryPoint, claim, completes_bind, completes_lift]
    exact ⟨e, s, l, ⟨returns_claimChecks ha hs hst, rfl⟩, payOut_completes hfree hacc⟩

/-! ## Between calls -/

/-- What holds of the storage between calls: no lock is held, and escrows are only there where an
    admin is, who is not the contract itself. -/
structure Ready (me : Address) (s : State) : Prop where
  unlocked : s.locks = ∅
  funded : s.paymentToken ≠ none → s.admin ≠ none
  recorded : ∀ id e, s.escrows.lookup id = some e → s.admin ≠ none
  admin : ∀ a, s.admin = some a → a ≠ me

theorem ready_start : Ready me {} where
  unlocked := rfl
  funded h := absurd rfl h
  recorded _ _ h := by simp at h
  admin _ h := by cases h

/-- The settings are left as they are. -/
theorem Ready.of_eq (h : Ready me s) (hl : s'.locks = ∅) (ht : s'.paymentToken = s.paymentToken)
    (ha : s'.admin = s.admin) (hr : ∀ id e, s'.escrows.lookup id = some e → s.admin ≠ none) :
    Ready me s' :=
  ⟨hl, ht ▸ ha ▸ h.funded, ha ▸ hr, ha ▸ h.admin⟩

section
variable {c : Call} {q : Transfer} {k : State → Act State Transfer Error Unit}

theorem Ready.finishes (h : Ready me s) (hf : Finishes (entryPoint env c) s () s') :
    Ready me s' := by
  cases finishes_changes hf with
  | setup _ hauth =>
    refine ⟨h.unlocked, fun _ => Option.some_ne_none _, fun _ _ _ => Option.some_ne_none _, ?_⟩
    rintro a ⟨⟩ rfl
    exact env.me_notMem hauth
  | window _ _ => exact h.of_eq h.unlocked rfl rfl h.recorded
  | dispute hs _ _ => exact h.of_eq h.unlocked rfl rfl fun _ _ _ => h.recorded _ _ hs

/-- Whoever creates an escrow finds a payment token. -/
theorem Creates.paymentToken_ne_none (h : Creates env c e s q s' k)
    (hc : CallsOut (entryPoint env c) s q s' k) : s.paymentToken ≠ none := by
  rw [h.call] at hc
  simp only [entryPoint, createEscrow, callsOut_bind, callsOut_request, not_callsOut_lift,
    finishes_lift, not_finishes_request, and_false, false_and, exists_false, or_false,
    false_or] at hc
  obtain ⟨r, s₁, hchecks, -⟩ := hc
  simp only [createChecks, getPaymentToken, bind_assoc, returns_requireAuth_bind,
    returns_failIf_bind, returns_get_bind, returns_okOr_bind] at hchecks
  obtain ⟨-, -, -, token, htoken, -⟩ := hchecks
  rw [htoken]
  exact Option.some_ne_none token

/-- What a call writes once its transfer has returned. -/
theorem Ready.callsOut {callee : Transfer → Ledger → Option Ledger} {l' : Ledger} {u : Unit}
    {s'' : State} (h : Ready me s) (hc : CallsOut (entryPoint env c) s q s' k)
    (hk : (k s').run callee l = some (u, s'', l')) : Ready me s'' := by
  have hunlock (key : ReentrancyKey) : (insert key s.locks).erase key = ∅ := by
    rw [h.unlocked, Finset.erase_insert (Finset.notMem_empty key)]
  rcases callsOut_cases hc with ⟨e, hce⟩ | ⟨id, p, e, hp⟩
  · have hadmin := h.funded (hce.paymentToken_ne_none hc)
    rw [hce.rest, hce.locked, Act.run] at hk
    obtain rfl := (Prod.mk.inj (Prod.mk.inj (Option.some.inj hk)).2).1
    exact h.of_eq (hunlock .create) rfl rfl fun _ _ _ => hadmin
  · have hadmin := h.recorded id e hp.stored
    rw [hp.rest, hp.locked, Act.run] at hk
    obtain rfl := (Prod.mk.inj (Prod.mk.inj (Option.some.inj hk)).2).1
    exact h.of_eq (hunlock p.key) rfl rfl fun _ _ _ => hadmin

end

theorem Steps.ready {w w' : World} {i : Input me} (h : Steps me w i w') (hr : Ready me w.1) :
    Ready me w'.1 := by
  cases h with
  | outside _ _ => exact hr
  | call env c accepts =>
    rcases commitIn_cases (exactTokens accepts) (entryPoint env c) w.1 w.2 with
      ⟨-, hw⟩ | ⟨_, s', hf, hw⟩ | ⟨q, s₁, k, l₁, _, s', l', hc, -, hk, hw⟩ <;> rw [hw]
    · exact hr
    · exact hr.finishes hf
    · exact hr.callsOut hc hk

theorem ready_run {w w' : World} {tr : List (Event World (Input me))}
    (h : Run (Steps me) w tr w') (hr : Ready me w.1) : Ready me w'.1 :=
  h.invariant' (P := fun w => Ready me w.1) (fun _ _ _ hr hs => hs.ready hr) hr

/-! ## Settling everything -/

/-- The call by which `admin` settles the escrow, in favour of the beneficiary or of the
    depositor. -/
def settleCall (admin : Address) (id : String) (e : Escrow) (toBeneficiary : Bool) : Call :=
  if e.status = .disputed then .resolveDispute admin id toBeneficiary
  else if toBeneficiary then .release admin id else .refund admin id

/-- The status that a settlement gives. -/
def settledStatus (toBeneficiary : Bool) : EscrowStatus :=
  if toBeneficiary then .released else .refunded

theorem settleCall_payout (admin : Address) (id : String) (toBeneficiary : Bool)
    (h : e.status.Held) : ∃ key, (settleCall admin id e toBeneficiary).payout =
      some (id, ⟨key, e.status, settledStatus toBeneficiary⟩) := by
  rcases h with h | h <;> cases toBeneficiary <;> simp [settleCall, Call.payout, settledStatus, h]

theorem settleCall_admitted {admin : Address} {toBeneficiary : Bool} (ha : s.admin = some admin)
    (hu : admin ∈ env.auths) : (settleCall admin id e toBeneficiary).admitted env s e := by
  unfold settleCall
  split_ifs <;> exact ⟨ha, hu⟩

theorem heldIn_nonneg {token : Address} (h : 0 < e.amount) : 0 ≤ heldIn token id e := by
  unfold heldIn
  split_ifs
  · exact h.le
  · exact le_rfl

/-- One held escrow is settled by its call. -/
theorem Ready.settle {w : World} {admin : Address} (hr : Ready me w.1) (toBeneficiary : Bool)
    (hb : Backed me w) (ha : w.1.admin = some admin) (hu : admin ∈ env.auths)
    (hs : w.1.escrows.lookup id = some e) (hst : e.status.Held)
    (hacc : ∀ t l, 0 < t.amount → t.amount ≤ l t.token t.src → accepts t l = true) :
    ∃ w', Steps me w (.call env (settleCall admin id e toBeneficiary) accepts) w' ∧
      w'.1 = { w.1 with
        escrows := w.1.escrows.insert id (e.settle (settledStatus toBeneficiary) env.now) } ∧
      w'.2 = w.2.move (e.payment me (settledStatus toBeneficiary)) := by
  obtain ⟨key, hp⟩ := settleCall_payout admin id toBeneficiary hst
  have hcovered : e.amount ≤ w.2 e.paymentToken me := by
    have hheld : heldIn e.paymentToken id e = e.amount := by
      rw [heldIn_of_held id hst, if_pos rfl]
    have hle : heldIn e.paymentToken id e ≤ Store.total w.1.escrows (heldIn e.paymentToken) :=
      Store.le_total (fun k v hk => heldIn_nonneg (hb.pos k v hk)) hs
    rw [hheld] at hle
    exact hle.trans (hb.covered e.paymentToken)
  have hfree : key ∉ w.1.locks := by
    rw [hr.unlocked]
    exact Finset.notMem_empty _
  have hcompletes := payout_completes hp hs rfl (settleCall_admitted ha hu) hfree
    (hacc _ _ (hb.pos id e hs) hcovered)
  refine ⟨_, .call w env _ accepts, ?_⟩
  rw [hcompletes.commitIn_eq]
  exact ⟨paidOut_eq hfree (hb.keyed id e hs), rfl⟩

/-- The record once all that is held has been settled, in favour of the beneficiary where
    `toBeneficiary` says so. -/
def Escrow.settled (toBeneficiary : String → Bool) (now : ℕ) (id : String) (e : Escrow) : Escrow :=
  if e.status.Held then e.settle (settledStatus (toBeneficiary id)) now else e

/-- What the settlement of an escrow brings a holder. -/
def proceeds (me : Address) (toBeneficiary : String → Bool) (token holder : Address) (id : String)
    (e : Escrow) : ℤ :=
  if e.status.Held then (e.payment me (settledStatus (toBeneficiary id))).gain token holder else 0

/-- Calls of the host's side `env` lead from `w` to `w'`, where the escrows among `ids` are settled
    and paid. -/
structure Settles (env : Env me) (accepts : Transfer → Ledger → Bool)
    (toBeneficiary : String → Bool) (ids : List String) (w w' : World) : Prop where
  run : ∃ tr, Run (Steps me) w tr w' ∧ ∀ ev ∈ tr, ∃ c, ev.inp = .call env c accepts
  rest : w'.1 = { w.1 with escrows := w'.1.escrows }
  records : ∀ id, w'.1.escrows.lookup id =
    if id ∈ ids then (w.1.escrows.lookup id).map (Escrow.settled toBeneficiary env.now id)
    else w.1.escrows.lookup id
  paid : ∀ token holder, w'.2 token holder = w.2 token holder +
    (ids.map fun id => (w.1.escrows.lookup id).elim 0 (proceeds me toBeneficiary token holder id)).sum

section
variable {w w' w'' : World} {toBeneficiary : String → Bool} {ids : List String} {admin : Address}

theorem Settles.nil : Settles env accepts toBeneficiary [] w w where
  run := ⟨[], .nil, fun _ h => absurd h List.not_mem_nil⟩
  rest := rfl
  records id := by rw [if_neg List.not_mem_nil]
  paid token holder := by rw [List.map_nil, List.sum_nil, add_zero]

theorem Settles.cons (h : Settles env accepts toBeneficiary [id] w w')
    (h' : Settles env accepts toBeneficiary ids w' w'') (hid : id ∉ ids) :
    Settles env accepts toBeneficiary (id :: ids) w w'' := by
  have hsame (id' : String) (hmem : id' ∈ ids) :
      w'.1.escrows.lookup id' = w.1.escrows.lookup id' := by
    rw [h.records, if_neg]
    rintro he
    exact hid (List.mem_singleton.1 he ▸ hmem)
  obtain ⟨tr, hrun, hinp⟩ := h.run
  obtain ⟨tr', hrun', hinp'⟩ := h'.run
  refine ⟨⟨tr ++ tr', hrun.append hrun', fun ev hev => ?_⟩, ?_, fun id' => ?_,
    fun token holder => ?_⟩
  · exact (List.mem_append.1 hev).elim (hinp ev) (hinp' ev)
  · rw [h'.rest, h.rest]
  · rw [h'.records]
    by_cases hmem : id' ∈ ids
    · rw [if_pos hmem, if_pos (List.mem_cons_of_mem _ hmem), hsame id' hmem]
    · rw [if_neg hmem, h.records]
      simp only [List.mem_cons, hmem, or_false, List.not_mem_nil]
  · have hsum : ids.map (fun id => (w'.1.escrows.lookup id).elim 0
        (proceeds me toBeneficiary token holder id)) = ids.map fun id =>
          (w.1.escrows.lookup id).elim 0 (proceeds me toBeneficiary token holder id) :=
      List.map_congr_left fun id' hmem => by rw [hsame id' hmem]
    rw [h'.paid, h.paid, hsum]
    simp only [List.map_cons, List.map_nil, List.sum_cons, List.sum_nil, add_zero, add_assoc]

/-- An escrow that is not held needs no call. -/
theorem Settles.idle (h : ∀ e, w.1.escrows.lookup id = some e → ¬ e.status.Held) :
    Settles env accepts toBeneficiary [id] w w where
  run := ⟨[], .nil, fun _ h => absurd h List.not_mem_nil⟩
  rest := rfl
  records id' := by
    split_ifs with hmem
    · rw [List.mem_singleton.1 hmem]
      cases hs : w.1.escrows.lookup id with
      | none => rfl
      | some e => rw [Option.map_some, Escrow.settled, if_neg (h e hs)]
    · rfl
  paid token holder := by
    have hzero : (w.1.escrows.lookup id).elim 0 (proceeds me toBeneficiary token holder id) = 0 := by
      cases hs : w.1.escrows.lookup id with
      | none => rfl
      | some e => rw [Option.elim_some, proceeds, if_neg (h e hs)]
    rw [List.map_cons, List.map_nil, List.sum_cons, List.sum_nil, hzero, add_zero, add_zero]

theorem Ready.settles_one (hr : Ready me w.1) (hb : Backed me w) (ha : w.1.admin = some admin)
    (hu : admin ∈ env.auths)
    (hacc : ∀ t l, 0 < t.amount → t.amount ≤ l t.token t.src → accepts t l = true)
    (toBeneficiary : String → Bool) (id : String) :
    ∃ w', Settles env accepts toBeneficiary [id] w w' := by
  by_cases hheld : ∃ e, w.1.escrows.lookup id = some e ∧ e.status.Held
  · obtain ⟨e, hs, hst⟩ := hheld
    obtain ⟨w', hstep, hstate, hledger⟩ := hr.settle (toBeneficiary id) hb ha hu hs hst hacc
    refine ⟨w', ⟨_, .snoc .nil hstep, ?_⟩, ?_, fun id' => ?_, fun token holder => ?_⟩
    · exact List.forall_mem_singleton.2 ⟨_, rfl⟩
    · rw [hstate]
    · simp only [hstate, Store.lookup_insert_ite, List.mem_singleton]
      split_ifs with hid
      · rw [hid, hs, Option.map_some, Escrow.settled, if_pos hst]
      · rfl
    · rw [hledger, Ledger.move, List.map_cons, List.map_nil, List.sum_cons, List.sum_nil, add_zero,
        hs, Option.elim_some, proceeds, if_pos hst]
  · exact ⟨w, Settles.idle fun e hs hst => hheld ⟨e, hs, hst⟩⟩

theorem Ready.settles (hr : Ready me w.1) (hb : Backed me w) (ha : w.1.admin = some admin)
    (hu : admin ∈ env.auths)
    (hacc : ∀ t l, 0 < t.amount → t.amount ≤ l t.token t.src → accepts t l = true)
    (toBeneficiary : String → Bool) (hids : ids.Nodup) :
    ∃ w', Settles env accepts toBeneficiary ids w w' := by
  induction ids generalizing w with
  | nil => exact ⟨w, .nil⟩
  | cons id ids ih =>
    obtain ⟨hid, hids⟩ := List.nodup_cons.1 hids
    obtain ⟨w₁, h₁⟩ := hr.settles_one hb ha hu hacc toBeneficiary id
    obtain ⟨tr, hrun, -⟩ := h₁.run
    have hr₁ := ready_run hrun hr
    obtain ⟨w₂, h₂⟩ := ih hr₁ (backed_run hrun hb) ((congrArg State.admin h₁.rest).trans ha) hids
    exact ⟨w₂, h₁.cons h₂ hid⟩

end

/-- **No funds are stuck.**  From every world that calls reach, calls that the admin alone authorises
    settle whatever is held, each escrow in favour of the party that is chosen for it, where the
    tokens make the transfers that are funded.  They pay exactly this, and leave the settings, the
    lists of ids and the locks as they are. -/
theorem held_settles {l₀ : Ledger} (h₀ : ∀ token, 0 ≤ l₀ token me)
    {tr : List (Event World (Input me))} {w : World} (h : Run (Steps me) ({}, l₀) tr w)
    {env : Env me} (hu : ∀ admin, w.1.admin = some admin → admin ∈ env.auths)
    {accepts : Transfer → Ledger → Bool}
    (hacc : ∀ t l, 0 < t.amount → t.amount ≤ l t.token t.src → accepts t l = true)
    (toBeneficiary : String → Bool) :
    ∃ tr' w', Run (Steps me) w tr' w' ∧ (∀ ev ∈ tr', ∃ c, ev.inp = .call env c accepts) ∧
      (∀ id, w'.1.escrows.lookup id =
        (w.1.escrows.lookup id).map (Escrow.settled toBeneficiary env.now id)) ∧
      (∀ id e, w'.1.escrows.lookup id = some e → ¬ e.status.Held) ∧
      w'.1 = { w.1 with escrows := w'.1.escrows } ∧
      ∀ token holder, w'.2 token holder = w.2 token holder +
        Store.total w.1.escrows (proceeds me toBeneficiary token holder) := by
  have hr := ready_run h ready_start
  have hb := backed_run h (backed_start h₀)
  have hsettles : ∃ w', Settles env accepts toBeneficiary w.1.escrows.keys.toList w w' := by
    cases ha : w.1.admin with
    | some admin => exact hr.settles hb ha (hu admin ha) hacc toBeneficiary (Finset.nodup_toList _)
    | none =>
      -- without an admin there are no escrows
      have hnone : w.1.escrows.keys.toList = [] := by
        rw [Finset.toList_eq_nil, Finset.eq_empty_iff_forall_notMem]
        intro id hid
        obtain ⟨e, hs⟩ := Finmap.mem_iff.1 (Finmap.mem_keys.1 hid)
        exact hr.recorded id e hs ha
      rw [hnone]
      exact ⟨w, .nil⟩
  obtain ⟨w', hw⟩ := hsettles
  obtain ⟨tr', hrun, hinp⟩ := hw.run
  have hrecords (id : String) : w'.1.escrows.lookup id =
      (w.1.escrows.lookup id).map (Escrow.settled toBeneficiary env.now id) := by
    rw [hw.records]
    split_ifs with hmem
    · rfl
    · rw [Finmap.lookup_eq_none.2 fun hm => hmem (Finset.mem_toList.2 (Finmap.mem_keys.2 hm))]
      rfl
  refine ⟨tr', w', hrun, hinp, hrecords, fun id e hs => ?_, hw.rest, fun token holder => ?_⟩
  · rw [hrecords, Option.map_eq_some_iff] at hs
    obtain ⟨e₀, -, rfl⟩ := hs
    unfold Escrow.settled
    split_ifs with hst
    · cases toBeneficiary id <;> simp [Escrow.settle, settledStatus, EscrowStatus.Held]
    · exact hst
  · rw [hw.paid, Finset.sum_map_toList]
    rfl

/-- The admin settles a disputed escrow and a pending one, both in favour of the depositor. -/
theorem held_settles_disputed : ∃ w : World,
    (w.1.escrows.lookup "first").map (·.status) = some .disputed ∧
    (w.1.escrows.lookup "second").map (·.status) = some .pending ∧
    ∃ tr' w', Run (Steps ⟨0⟩) w tr' w' ∧ w'.1 = { w.1 with escrows := w'.1.escrows } ∧
      ∀ id e, w'.1.escrows.lookup id = some e → ¬ e.status.Held := by
  let funded : Transfer → Ledger → Bool := fun t l => 0 ≤ t.amount ∧ t.amount ≤ l t.token t.src
  have hfunded : ∀ t l, 0 < t.amount → t.amount ≤ l t.token t.src → funded t l = true :=
    fun t l hpos hle => by simp [funded, hpos.le, hle]
  have hstart : Run (Steps ⟨0⟩) ({}, fun _ a => if a = ⟨3⟩ then 100 else 0) [] _ := .nil
  have h := (((hstart.snoc
    (.call _ (sampleEnv 0) (.initializeContract ⟨1⟩ ⟨2⟩ 60) funded)).snoc
    (.call _ (sampleEnv 1) (.createEscrow ⟨3⟩ "first" ⟨4⟩ 40 "desk" 0) funded)).snoc
    (.call _ (sampleEnv 2) (.createEscrow ⟨3⟩ "second" ⟨4⟩ 20 "room" 0) funded)).snoc
    (.call _ (sampleEnv 3) (.raiseDispute ⟨3⟩ "first") funded)
  obtain ⟨tr', w', hrun, -, -, hheld, hrest, -⟩ :=
    @held_settles ⟨0⟩ _ (fun _ => by simp) _ _ h (sampleEnv 9) (fun admin ha => by cases ha; decide)
      funded hfunded fun _ => false
  exact ⟨_, rfl, rfl, tr', w', hrun, hrest, hheld⟩

end PaymentEscrow
