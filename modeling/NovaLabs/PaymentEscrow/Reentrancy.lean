/-
  payment_escrow when the token calls back: while a transfer is in flight, any entry point may be
  called, by anyone and to any depth.

  The locks are one per entry point, and a status is written only after the transfer.  So a payout
  can be made from within another payout of the same escrow, and both go through
  (`payout_twice`).  Where no payout is made in this way, every escrow is paid out at most once
  (`payout_atMostOnce`).
-/
import NovaLabs.Soroban.Reentrancy
import NovaLabs.PaymentEscrow.Calls

namespace PaymentEscrow

open Lib Soroban

variable {me : Address}

/-! ## Call trees of the contract -/

abbrev Config (me : Address) := Conf (Env me × Call) State Transfer Error

abbrev interface (me : Address) (c : Env me × Call) : EntryPoint := entryPoint c.1 c.2

/-- The moves of the contract's callers and tokens. -/
abbrev CallTree (me : Address) := Run (Conf.Steps (interface me))

/-- The escrow a call is about. -/
def Call.escrowId : Call → Option String
  | .initializeContract _ _ _ | .setDisputeWindow _ _ => none
  | .createEscrow _ id _ _ _ _ | .release _ id | .refund _ id | .raiseDispute _ id
  | .resolveDispute _ id _ | .claim _ id => some id

/-- A transfer out of the contract, by a call about the escrow `id`. -/
def PaidFor (id : String) (x : (Env me × Call) × Transfer) : Prop :=
  x.2.src = me ∧ x.1.2.escrowId = some id

instance (id : String) (x : (Env me × Call) × Transfer) : Decidable (PaidFor id x) :=
  inferInstanceAs (Decidable (_ ∧ _))

/-- How many of the transfers pay for the escrow `id`. -/
def payouts (sent : List ((Env me × Call) × Transfer)) (id : String) : ℕ :=
  sent.countP (PaidFor id ·)

/-- The call `c` passes the checks to pay out the escrow `id`, and finds its own lock free. -/
def Payable (env : Env me) (c : Call) (id : String) (s : State) : Prop :=
  ∃ p e, c.payout = some (id, p) ∧ s.escrows.lookup id = some e ∧ e.status = p.before ∧
    c.admitted env s e ∧ p.key ∉ s.locks

/-- The transfer of the call in flight `f` pays for the escrow `id`. -/
abbrev Paying (id : String) (f : Frame (Env me × Call) State Transfer Error) : Prop :=
  PaidFor id (f.label, f.req)

/-- No call in flight pays for an escrow that `c` can now pay out. -/
def NotNested (σ : Config me) (c : Env me × Call) : Prop :=
  ∀ id, Payable c.1 c.2 id σ.st → ∀ f ∈ σ.stack, ¬ Paying id f

section
variable {env : Env me} {c : Call} {s s' : State} {q : Transfer} {id : String} {e : Escrow}
  {p : Payout} {k : State → Act State Transfer Error Unit}

theorem PaysOut.payable (h : PaysOut env c id p e s q s' k) : Payable env c id s :=
  ⟨p, e, h.payout, h.stored, h.status, h.admitted, h.free⟩

theorem escrowId_of_payout (h : c.payout = some (id, p)) : c.escrowId = some id := by
  cases c with
  | initializeContract | setDisputeWindow | createEscrow | raiseDispute => cases h
  | release | refund | claim => cases h; rfl
  | resolveDispute _ _ b => cases b <;> cases h <;> rfl

theorem PaysOut.paidFor (h : PaysOut env c id p e s q s' k) (id' : String) :
    PaidFor id' ((env, c), q) ↔ id' = id := by
  simp [PaidFor, h.req, escrowId_of_payout h.payout, eq_comm]

theorem Creates.not_paidFor (h : Creates env c e s q s' k) : ¬ PaidFor id ((env, c), q) :=
  fun hp => env.me_notMem ((show e.depositor = me by simpa [h.req] using hp.1) ▸ h.auth)

end

/-! ## The invariant -/

/-- A call in flight creates an escrow or pays one out, and what is left of it only writes the
    record and frees the lock. -/
def InFlight (f : Frame (Env me × Call) State Transfer Error) : Prop :=
  (∃ e s', Creates f.label.1 f.label.2 e f.st f.req s' f.resume) ∨
    ∃ id p e s', PaysOut f.label.1 f.label.2 id p e f.st f.req s' f.resume

/-- The call in flight `f` creates the escrow `id`. -/
def Creating (id : String) (f : Frame (Env me × Call) State Transfer Error) : Prop :=
  ∃ e s', e.id = id ∧ Creates f.label.1 f.label.2 e f.st f.req s' f.resume

/-- The escrow can still be paid out: it does not exist yet, or its funds are held. -/
def Open (s : State) (id : String) : Prop :=
  ∀ e, s.escrows.lookup id = some e → e.status.Held

/-- What holds of the storage, the transfers made, and the calls in flight. -/
structure Contained (me : Address) (s : State) (sent : List ((Env me × Call) × Transfer))
    (fs : List (Frame (Env me × Call) State Transfer Error)) : Prop where
  keyed : ∀ id e, s.escrows.lookup id = some e → e.id = id
  inFlight : ∀ f ∈ fs, InFlight f
  once : ∀ id, payouts sent id ≤ 1
  unpaid : ∀ id, Open s id → payouts sent id = 0
  paying : ∀ f ∈ fs, ∀ id, Paying id f → s.escrows.lookup id ≠ none ∧ payouts sent id = 0
  creating : ∀ f ∈ fs, ∀ id, Creating id f → s.escrows.lookup id = none ∧ .create ∈ s.locks
  distinct : fs.Pairwise fun f g => (∀ id, Paying id f → ¬ Paying id g) ∧
    ∀ id id', Creating id f → ¬ Creating id' g

section
variable {s s' : State} {sent : List ((Env me × Call) × Transfer)}
  {f : Frame (Env me × Call) State Transfer Error}
  {fs : List (Frame (Env me × Call) State Transfer Error)}

theorem payouts_snoc (sent : List ((Env me × Call) × Transfer)) (x : (Env me × Call) × Transfer)
    (id : String) : payouts (sent ++ [x]) id = payouts sent id + if PaidFor id x then 1 else 0 := by
  simp [payouts, List.countP_append, List.countP_singleton]

/-- The storage may change as long as it has the same records, none reopened, and the lock of
    `create_escrow` stays where it is held. -/
theorem Contained.update (h : Contained me s sent fs)
    (hk : ∀ id e, s'.escrows.lookup id = some e → e.id = id)
    (hd : ∀ id, s'.escrows.lookup id = none ↔ s.escrows.lookup id = none)
    (ho : ∀ id, Open s' id → Open s id) (hl : .create ∈ s.locks → .create ∈ s'.locks) :
    Contained me s' sent fs where
  keyed := hk
  inFlight := h.inFlight
  once := h.once
  unpaid id hi := h.unpaid id (ho id hi)
  paying f hf id hp := by
    rw [ne_eq, hd]; exact h.paying f hf id hp
  creating f hf id hc := by
    rw [hd]
    exact ⟨(h.creating f hf id hc).1, hl (h.creating f hf id hc).2⟩
  distinct := h.distinct

/-- A call joins those in flight. -/
theorem Contained.push (h : Contained me s sent fs) (hf : InFlight f)
    (hp : ∀ id, Paying id f →
      (s.escrows.lookup id ≠ none ∧ payouts sent id = 0) ∧ ∀ g ∈ fs, ¬ Paying id g)
    (hc : ∀ id, Creating id f →
      (s.escrows.lookup id = none ∧ .create ∈ s.locks) ∧ ∀ g ∈ fs, ∀ id', ¬ Creating id' g) :
    Contained me s sent (f :: fs) where
  keyed := h.keyed
  inFlight := List.forall_mem_cons.2 ⟨hf, h.inFlight⟩
  once := h.once
  unpaid := h.unpaid
  paying := List.forall_mem_cons.2 ⟨fun id hi => (hp id hi).1, h.paying⟩
  creating := List.forall_mem_cons.2 ⟨fun id hi => (hc id hi).1, h.creating⟩
  distinct := List.pairwise_cons.2
    ⟨fun g hg => ⟨fun id hi => (hp id hi).2 g hg, fun id id' hi => (hc id hi).2 g hg id'⟩,
      h.distinct⟩

theorem PaysOut.not_creating {id id' : String} {p : Payout} {e : Escrow}
    (h : PaysOut f.label.1 f.label.2 id p e f.st f.req s' f.resume) : ¬ Creating id' f := by
  rintro ⟨e', _, -, hc⟩
  have hp := h.payout
  rw [hc.call] at hp; cases hp

end

/-! ## Moves -/

section
variable {s s' : State} {sent : List ((Env me × Call) × Transfer)} {c : Env me × Call}
  {q : Transfer} {k : State → Act State Transfer Error Unit}
  {f : Frame (Env me × Call) State Transfer Error}
  {fs : List (Frame (Env me × Call) State Transfer Error)}

/-- A call that makes no transfer. -/
theorem Contained.local {env : Env me} {c : Call} (h : Contained me s sent fs)
    (hl : Local env c s s') : Contained me s' sent fs := by
  cases hl with
  | config _ he hk =>
    refine h.update (fun id e => ?_) (fun id => by rw [he]) (fun id => ?_) (fun hc => hk ▸ hc)
    · rw [he]; exact h.keyed id e
    · unfold Open; rw [he]; exact fun ho => ho
  | @dispute caller id₀ _ e₀ hs hp =>
    have hid := h.keyed id₀ e₀ hs
    refine h.update (fun id e hs' => ?_) (fun id => ?_) (fun id ho e he => ?_) (fun hc => hc)
    · rw [put_escrows, Store.lookup_insert_ite] at hs'
      split_ifs at hs' with hi
      · cases hs'; exact hi.symm
      · exact h.keyed id e hs'
    · rw [put_escrows, Store.lookup_insert_ite]
      split_ifs with hi
      · have hi : id = id₀ := hi.trans hid
        rw [hi, hs]; simp
      · rfl
    · by_cases hi : id = id₀
      · subst hi; rw [hs] at he; cases he; exact Or.inl hp
      · refine ho e ?_
        rw [put_escrows, Store.lookup_insert_ite,
          if_neg fun hi' : id = (e₀.dispute _).id => hi (hi'.trans hid)]
        exact he

/-- A call that reaches its transfer. -/
theorem Contained.callOut (h : Contained me s sent fs) (hn : NotNested ⟨s, sent, fs⟩ c)
    (hc : CallsOut (entryPoint c.1 c.2) s q s' k) :
    Contained me s' sent (⟨c, s, sent, q, k⟩ :: fs) := by
  rcases callsOut_cases hc with ⟨e, hce⟩ | ⟨id, p, e, hp⟩
  · have hu : Contained me s' sent fs := by
      rw [hce.locked]
      exact h.update h.keyed (fun _ => Iff.rfl) (fun _ ho => ho)
        (fun hl => Finset.mem_insert_of_mem hl)
    refine hu.push (Or.inl ⟨e, s', hce⟩) (fun id hi => absurd hi hce.not_paidFor) ?_
    rintro id ⟨e', s'', rfl, hce'⟩
    obtain rfl := hce.locked
    refine ⟨⟨hce'.fresh, by simp⟩, fun g hg id' hg' => hce.free (h.creating g hg id' hg').2⟩
  · have hu : Contained me s' sent fs := by
      rw [hp.locked]
      exact h.update h.keyed (fun _ => Iff.rfl) (fun _ ho => ho)
        (fun hl => Finset.mem_insert_of_mem hl)
    refine hu.push (Or.inr ⟨id, p, e, s', hp⟩) (fun id' hi => ?_)
      (fun id' hi => absurd hi (PaysOut.not_creating (f := ⟨c, s, sent, q, k⟩) hp))
    obtain rfl := (hp.paidFor id').1 hi
    refine ⟨⟨?_, h.unpaid id' fun e' he => ?_⟩, fun g hg => hn id' hp.payable g hg⟩
    · rw [hp.locked, lock_escrows, hp.stored]; exact Option.some_ne_none e
    · rw [hp.stored] at he; cases he
      exact hp.status ▸ (payout_spec hp.payout).1

/-- The transfer of a call that creates an escrow returns. -/
theorem Contained.created {e : Escrow} (h : Contained me s sent (f :: fs))
    (hc : Creates f.label.1 f.label.2 e f.st f.req s' f.resume) :
    Contained me (((s.put e).index e).unlock .create) (sent ++ [(f.label, f.req)]) fs := by
  obtain ⟨hd, hds⟩ := List.pairwise_cons.1 h.distinct
  have hf : Creating e.id f := ⟨e, s', rfl, hc⟩
  have hnone := (h.creating f (by simp) e.id hf).1
  have hpay (id : String) : payouts (sent ++ [(f.label, f.req)]) id = payouts sent id := by
    rw [payouts_snoc, if_neg hc.not_paidFor, Nat.add_zero]
  refine ⟨fun id e' hs => ?_, fun g hg => h.inFlight g (by simp [hg]), fun id => ?_, fun id ho => ?_,
    fun g hg id hp => ?_, fun g hg id hg' => absurd hg' ((hd g hg).2 e.id id hf), hds⟩
  · simp only [unlock_escrows, index_escrows, put_escrows, Store.lookup_insert_ite] at hs
    split_ifs at hs with hi
    · cases hs; exact hi.symm
    · exact h.keyed id e' hs
  · rw [hpay]; exact h.once id
  · rw [hpay]
    refine h.unpaid id fun e' he => ho e' ?_
    simp only [unlock_escrows, index_escrows, put_escrows, Store.lookup_insert_ite]
    rw [if_neg fun hi : id = e.id => by rw [hi, hnone] at he; cases he]
    exact he
  · obtain ⟨h1, h2⟩ := h.paying g (by simp [hg]) id hp
    rw [hpay]
    refine ⟨?_, h2⟩
    simp only [unlock_escrows, index_escrows, put_escrows, Store.lookup_insert_ite]
    split_ifs
    · simp
    · exact h1

/-- The transfer of a payout returns. -/
theorem Contained.paid {id : String} {p : Payout} {e : Escrow} {now : ℕ}
    (h : Contained me s sent (f :: fs)) (hid : e.id = id)
    (hp : PaysOut f.label.1 f.label.2 id p e f.st f.req s' f.resume) :
    Contained me ((s.put (e.settle p.after now)).unlock p.key) (sent ++ [(f.label, f.req)]) fs := by
  obtain ⟨hd, hds⟩ := List.pairwise_cons.1 h.distinct
  obtain ⟨-, hfinal, -, hkey⟩ := payout_spec hp.payout
  have hf : Paying id f := (hp.paidFor id).2 rfl
  obtain ⟨hsome, hzero⟩ := h.paying f (by simp) id hf
  have hpay (id' : String) : payouts (sent ++ [(f.label, f.req)]) id' =
      payouts sent id' + if id' = id then 1 else 0 := by
    rw [payouts_snoc]; simp only [hp.paidFor id']
  have hlook (id' : String) : ((s.put (e.settle p.after now)).unlock p.key).escrows.lookup id' =
      if id' = id then some (e.settle p.after now) else s.escrows.lookup id' := by
    rw [unlock_escrows, put_escrows, Store.lookup_insert_ite,
      show (e.settle p.after now).id = id from hid]
  refine ⟨fun id' e' hs => ?_, fun g hg => h.inFlight g (by simp [hg]), fun id' => ?_,
    fun id' ho => ?_, fun g hg id' hp' => ?_, fun g hg id' hg' => ?_, hds⟩
  · rw [hlook] at hs
    split_ifs at hs with hi
    · cases hs; exact hid.trans hi.symm
    · exact h.keyed id' e' hs
  · rw [hpay]
    split_ifs with hi
    · rw [hi, hzero]
    · exact h.once id'
  · have hi : id' ≠ id := by
      rintro rfl
      exact hfinal (ho _ (by rw [hlook, if_pos rfl]))
    rw [hpay, if_neg hi, Nat.add_zero]
    refine h.unpaid id' fun e' he => ho e' ?_
    rw [hlook, if_neg hi, he]
  · have hi : id' ≠ id := by
      rintro rfl; exact (hd g hg).1 id' hf hp'
    obtain ⟨h1, h2⟩ := h.paying g (by simp [hg]) id' hp'
    rw [hlook, hpay, if_neg hi, if_neg hi]
    exact ⟨h1, h2⟩
  · obtain ⟨h1, h2⟩ := h.creating g (by simp [hg]) id' hg'
    have hi : id' ≠ id := by
      rintro rfl; exact hsome h1
    rw [hlook, if_neg hi]
    exact ⟨h1, Finset.mem_erase.2 ⟨hkey.symm, h2⟩⟩

end

theorem contained_start : Contained me {} [] [] where
  keyed _ _ h := by simp at h
  inFlight _ h := by cases h
  once _ := by simp [payouts]
  unpaid _ _ := rfl
  paying _ h := by cases h
  creating _ h := by cases h
  distinct := .nil

theorem contained_keeps :
    Conf.Keeps (interface me) NotNested (Contained me) where
  finish h _ hf := h.local (finishes_cases hf)
  callOut h hn hc := h.callOut hn hc
  ret {s h f fs s'} hi hback hr := by
    rcases hi.inFlight f (by simp) with ⟨e, _, hc⟩ | ⟨id, p, e, _, hp⟩
    · rw [hc.rest] at hr; cases hr
      exact hi.created hc
    · rw [hp.rest] at hr; cases hr
      exact hi.paid (hback.keyed id e hp.stored) hp
  again {s h f fs q s' k} hi _ hr := by
    rcases hi.inFlight f (by simp) with ⟨e, _, hc⟩ | ⟨id, p, e, _, hp⟩
    · rw [hc.rest] at hr; cases hr
    · rw [hp.rest] at hr; cases hr

/-! ## Payouts along call trees -/

/-- **At most one payout.** Along call trees in which no payout is made from within a payout of
    the same escrow, at most one transfer pays for an escrow. -/
theorem payout_atMostOnce {tr : List (Event (Config me) (Move (Env me × Call)))} {σ : Config me}
    (h : CallTree me ⟨{}, [], []⟩ tr σ)
    (hn : ∀ ev ∈ tr, ∀ c, ev.inp = .enter c → NotNested ev.pre c) (id : String) :
    payouts σ.sent id ≤ 1 :=
  (contained_keeps.run h contained_start hn).once id

/-- `release` pays an escrow out; from within its transfer, the depositor disputes the escrow. -/
def nestedDispute : List (Move (Env ⟨0⟩ × Call)) :=
  [.enter (sampleEnv 0, .initializeContract ⟨1⟩ ⟨2⟩ 60),
    .enter (sampleEnv 1, .createEscrow ⟨3⟩ "deposit" ⟨4⟩ 40 "desk" 0), .ret,
    .enter (sampleEnv 2, .release ⟨1⟩ "deposit"),
    .enter (sampleEnv 2, .raiseDispute ⟨3⟩ "deposit"), .ret]

theorem payout_atMostOnce_nestedDispute : ∃ tr σ, CallTree ⟨0⟩ ⟨{}, [], []⟩ tr σ ∧
    σ.sent.length = 2 ∧ payouts σ.sent "deposit" ≤ 1 := by
  have h := Conf.run_moves (interface ⟨0⟩) ⟨{}, [], []⟩ nestedDispute
  refine ⟨_, _, h, by decide, payout_atMostOnce h (fun ev hev c hc id ⟨p, e, hp, _⟩ f hf => ?_) _⟩
  simp only [nestedDispute, eventsFrom, List.mem_cons, List.not_mem_nil, or_false] at hev
  rcases hev with rfl | rfl | rfl | rfl | rfl | rfl <;> cases hc
  · cases hp
  · cases hp
  · cases hf
  · cases hp

/-- `release` pays an escrow out; from within its transfer, `refund` pays it out again. -/
def nestedRefund : List (Move (Env ⟨0⟩ × Call)) :=
  [.enter (sampleEnv 0, .initializeContract ⟨1⟩ ⟨2⟩ 0),
    .enter (sampleEnv 1, .createEscrow ⟨3⟩ "deposit" ⟨4⟩ 40 "desk" 0), .ret,
    .enter (sampleEnv 2, .release ⟨1⟩ "deposit"), .enter (sampleEnv 2, .refund ⟨1⟩ "deposit"),
    .ret, .ret]

/-- **An escrow can be paid out twice.** -/
theorem payout_twice : ¬ ∀ (me : Address) (tr : List (Event (Config me) (Move (Env me × Call))))
    (σ : Config me), CallTree me ⟨{}, [], []⟩ tr σ → ∀ id, payouts σ.sent id ≤ 1 := by
  intro h
  have h2 := h ⟨0⟩ _ _ (Conf.run_moves (interface ⟨0⟩) _ nestedRefund) "deposit"
  revert h2
  decide

end PaymentEscrow
