/-
  The indexes of payment_escrow, whatever the token calls back.

  An escrow is written together with its entries in the two indexes, after its transfer, while the
  lock of its creation keeps others from being created.  What a payout writes later may be stale,
  but keeps the depositor and the beneficiary.
-/
import NovaLabs.Lib.IndexedBy
import NovaLabs.PaymentEscrow.DisputeWindow

namespace PaymentEscrow

open Lib Soroban

variable {me : Address} {env : Env me} {s s' : State} {c : Call} {id : String} {e e' : Escrow}

/-! ## Queries -/

def getEscrow (escrowId : String) : Fn Escrow := loadEscrow escrowId

def getDepositorEscrows (depositor : Address) : Fn (List String) := do
  return ((← get).depositorEscrows.lookup depositor).getD []

def getBeneficiaryEscrows (beneficiary : Address) : Fn (List String) := do
  return ((← get).beneficiaryEscrows.lookup beneficiary).getD []

/-- What `getDepositorEscrows` returns. -/
def State.depositorIds (s : State) (depositor : Address) : List String :=
  (s.depositorEscrows.lookup depositor).getD []

/-- What `getBeneficiaryEscrows` returns. -/
def State.beneficiaryIds (s : State) (beneficiary : Address) : List String :=
  (s.beneficiaryEscrows.lookup beneficiary).getD []

theorem getEscrow_returns : Returns (getEscrow id) s e s' ↔ s.escrows.lookup id = some e ∧ s' = s :=
  loadEscrow_returns

theorem getDepositorEscrows_returns {depositor : Address} {ids : List String} :
    Returns (getDepositorEscrows depositor) s ids s' ↔ ids = s.depositorIds depositor ∧ s' = s := by
  rw [getDepositorEscrows, returns_get_bind, returns_pure]
  exact Iff.rfl

theorem getBeneficiaryEscrows_returns {beneficiary : Address} {ids : List String} :
    Returns (getBeneficiaryEscrows beneficiary) s ids s' ↔
      ids = s.beneficiaryIds beneficiary ∧ s' = s := by
  rw [getBeneficiaryEscrows, returns_get_bind, returns_pure]
  exact Iff.rfl

/-! ## Records and indexes -/

/-- The indexes list each escrow once, under its depositor and its beneficiary, and nothing else;
    the escrows are stored under their ids. -/
structure ExactIndexes (s : State) : Prop where
  depositor : IndexedBy s.escrows (·.depositor) s.depositorIds
  beneficiary : IndexedBy s.escrows (·.beneficiary) s.beneficiaryIds
  keyed : Keyed s

theorem exactIndexes_start : ExactIndexes {} :=
  ⟨.empty fun _ => rfl, .empty fun _ => rfl, fun _ _ h => by simp at h⟩

theorem ExactIndexes.of_eq (h : ExactIndexes s) (he : s'.escrows = s.escrows)
    (hd : s'.depositorEscrows = s.depositorEscrows)
    (hb : s'.beneficiaryEscrows = s.beneficiaryEscrows) : ExactIndexes s' := by
  have hdep : s'.depositorIds = s.depositorIds := by
    funext a
    rw [State.depositorIds, State.depositorIds, hd]
  have hben : s'.beneficiaryIds = s.beneficiaryIds := by
    funext a
    rw [State.beneficiaryIds, State.beneficiaryIds, hb]
  exact ⟨hdep ▸ he ▸ h.depositor, hben ▸ he ▸ h.beneficiary, fun id e hs => h.keyed id e (he ▸ hs)⟩

theorem ExactIndexes.old (h : ExactIndexes s) (hs : s.escrows.lookup e'.id = some e)
    (ht : e.SameTerms e') : ExactIndexes (s.put e') :=
  ⟨h.depositor.insert_old hs ht.depositor, h.beneficiary.insert_old hs ht.beneficiary,
    h.keyed.put e'⟩

theorem index_depositorIds (a : Address) : (s.index e).depositorIds a =
    if a = e.depositor then s.depositorIds a ++ [e.id] else s.depositorIds a := by
  simp only [State.depositorIds, State.index, Store.lookup_insert_ite]
  split_ifs with h
  · rw [h, Option.getD_some]
  · rfl

theorem index_beneficiaryIds (a : Address) : (s.index e).beneficiaryIds a =
    if a = e.beneficiary then s.beneficiaryIds a ++ [e.id] else s.beneficiaryIds a := by
  simp only [State.beneficiaryIds, State.index, Store.lookup_insert_ite]
  split_ifs with h
  · rw [h, Option.getD_some]
  · rfl

theorem ExactIndexes.new (h : ExactIndexes s) (hs : s.escrows.lookup e.id = none) :
    ExactIndexes ((s.put e).index e) :=
  ⟨h.depositor.insert_new hs index_depositorIds, h.beneficiary.insert_new hs index_beneficiaryIds,
    h.keyed.put e⟩

/-- The escrows keep their terms. -/
def KeepsTerms (s s' : State) : Prop :=
  ∀ id e, s.escrows.lookup id = some e → ∃ e', s'.escrows.lookup id = some e' ∧ e.SameTerms e'

theorem Escrow.SameTerms.trans {e'' : Escrow} (h : e.SameTerms e') (h' : e'.SameTerms e'') :
    e.SameTerms e'' :=
  ⟨h'.id.trans h.id, h'.depositor.trans h.depositor, h'.beneficiary.trans h.beneficiary,
    h'.amount.trans h.amount, h'.paymentToken.trans h.paymentToken,
    h'.disputeWindow.trans h.disputeWindow⟩

theorem Escrow.SameTerms.symm (h : e.SameTerms e') : e'.SameTerms e :=
  ⟨h.id.symm, h.depositor.symm, h.beneficiary.symm, h.amount.symm, h.paymentToken.symm,
    h.disputeWindow.symm⟩

theorem keepsTerms_of_eq (h : s'.escrows = s.escrows) : KeepsTerms s s' :=
  fun _ e hs => ⟨e, h ▸ hs, .refl e⟩

theorem keepsTerms_put (h : ∀ e₀, s.escrows.lookup e.id = some e₀ → e₀.SameTerms e) :
    KeepsTerms s (s.put e) := by
  intro id e₀ hs
  rw [put_escrows, Store.lookup_insert_ite]
  split_ifs with hid
  · exact ⟨e, rfl, h e₀ (hid ▸ hs)⟩
  · exact ⟨e₀, hs, .refl e₀⟩

theorem Local.keepsTerms (h : Local env c s s') (hk : Keyed s) : KeepsTerms s s' := by
  cases h with
  | config _ he _ => exact keepsTerms_of_eq he
  | @dispute _ id _ e hs _ =>
    refine keepsTerms_put fun e₀ hs₀ => ?_
    have hid : (e.dispute env.now).id = id := hk id e hs
    rw [hid, hs] at hs₀
    cases hs₀
    exact e.sameTerms_dispute env.now

theorem Changes.exactIndexes (h : Changes env c s s') (hi : ExactIndexes s) : ExactIndexes s' := by
  cases h with
  | setup | window => exact hi.of_eq rfl rfl rfl
  | @dispute id _ e hs _ _ =>
    have hid : (e.dispute env.now).id = id := hi.keyed id e hs
    exact hi.old (hid ▸ hs) (e.sameTerms_dispute env.now)

theorem Changes.keepsTerms (h : Changes env c s s') (hk : Keyed s) : KeepsTerms s s' := by
  cases h with
  | setup | window => exact keepsTerms_of_eq rfl
  | @dispute id _ e hs _ _ =>
    refine keepsTerms_put fun e₀ hs₀ => ?_
    have hid : (e.dispute env.now).id = id := hk id e hs
    rw [hid, hs] at hs₀
    cases hs₀
    exact e.sameTerms_dispute env.now

theorem Changes.locks_eq (h : Changes env c s s') : s'.locks = s.locks := by
  cases h <;> rfl

/-! ## The invariant -/

abbrev CallFrame (me : Address) := Frame (Env me × Call) State Transfer Error

/-- The call in flight `f` pays the escrow `e` out, which it has read at `id`. -/
def Settling (f : CallFrame me) (id : String) (e : Escrow) : Prop :=
  ∃ p s', PaysOut f.label.1 f.label.2 id p e f.st f.req s' f.resume

/-- The indexes are exact; an escrow that is being paid out still has its terms, and one that is
    being created is not there yet, and alone. -/
structure Recorded (s : State) (fs : List (CallFrame me)) : Prop where
  indexes : ExactIndexes s
  inFlight : ∀ f ∈ fs, InFlight f
  settling : ∀ f ∈ fs, ∀ id e, Settling f id e →
    ∃ e₀, s.escrows.lookup id = some e₀ ∧ e₀.SameTerms e
  creating : ∀ f ∈ fs, ∀ id, Creating id f → s.escrows.lookup id = none ∧ .create ∈ s.locks
  alone : fs.Pairwise fun f g => ∀ id id', Creating id f → ¬ Creating id' g

section
variable {f : CallFrame me} {fs : List (CallFrame me)} {q : Transfer}
  {k : State → Act State Transfer Error Unit} {sent : List ((Env me × Call) × Transfer)}

/-- The storage may change as long as its indexes are exact, the escrows keep their terms, none is
    added, and the lock of `create_escrow` stays where it is held. -/
theorem Recorded.update (h : Recorded s fs) (hi : ExactIndexes s') (hk : KeepsTerms s s')
    (hnone : ∀ id, s.escrows.lookup id = none → s'.escrows.lookup id = none)
    (hl : .create ∈ s.locks → .create ∈ s'.locks) : Recorded s' fs where
  indexes := hi
  inFlight := h.inFlight
  settling f hf id e he := by
    obtain ⟨e₀, hs, ht⟩ := h.settling f hf id e he
    obtain ⟨e₁, hs₁, ht₁⟩ := hk id e₀ hs
    exact ⟨e₁, hs₁, ht₁.symm.trans ht⟩
  creating f hf id hc := (h.creating f hf id hc).imp (hnone id) hl
  alone := h.alone

theorem Recorded.tail (h : Recorded s (f :: fs)) : Recorded s fs where
  indexes := h.indexes
  inFlight := (List.forall_mem_cons.1 h.inFlight).2
  settling := (List.forall_mem_cons.1 h.settling).2
  creating := (List.forall_mem_cons.1 h.creating).2
  alone := (List.pairwise_cons.1 h.alone).2

theorem Recorded.finishes (h : Recorded s fs) (hf : Finishes (entryPoint env c) s () s') :
    Recorded s' fs := by
  have hc := finishes_changes hf
  refine h.update (hc.exactIndexes h.indexes) (hc.keepsTerms h.indexes.keyed) (fun id hnone => ?_)
    fun hl => hc.locks_eq ▸ hl
  cases hc with
  | setup | window => exact hnone
  | @dispute id₀ _ e hs _ _ =>
    rw [put_escrows, Store.lookup_insert_ite, if_neg]
    · exact hnone
    · rintro rfl
      rw [show (e.dispute env.now).id = id₀ from h.indexes.keyed id₀ e hs, hs] at hnone
      cases hnone

theorem Recorded.lock (h : Recorded s fs) (key : ReentrancyKey) : Recorded (s.lock key) fs :=
  h.update (h.indexes.of_eq rfl rfl rfl) (keepsTerms_of_eq rfl) (fun _ hnone => hnone)
    fun hl => Finset.mem_insert_of_mem hl

theorem Recorded.callOut (h : Recorded s fs) (hc : CallsOut (entryPoint env c) s q s' k) :
    Recorded s' (⟨(env, c), s, sent, q, k⟩ :: fs) := by
  rcases callsOut_cases hc with ⟨e, hce⟩ | ⟨id, p, e, hp⟩
  · obtain rfl := hce.locked
    have hu := h.lock .create
    refine ⟨hu.indexes, List.forall_mem_cons.2 ⟨Or.inl ⟨e, _, hce⟩, hu.inFlight⟩,
      List.forall_mem_cons.2 ⟨?_, hu.settling⟩, List.forall_mem_cons.2 ⟨?_, hu.creating⟩,
      List.pairwise_cons.2 ⟨fun g hg id id' _ hg' => ?_, hu.alone⟩⟩
    · rintro id e' ⟨p, _, hp⟩
      have hpay := hp.payout
      rw [show c = _ from hce.call] at hpay
      cases hpay
    · rintro id ⟨e', s'', rfl, hce'⟩
      exact ⟨hce'.fresh, Finset.mem_insert_self _ _⟩
    · exact hce.free (h.creating g hg id' hg').2
  · obtain rfl := hp.locked
    have hu := h.lock p.key
    refine ⟨hu.indexes, List.forall_mem_cons.2 ⟨Or.inr ⟨id, p, e, _, hp⟩, hu.inFlight⟩,
      List.forall_mem_cons.2 ⟨?_, hu.settling⟩, List.forall_mem_cons.2 ⟨?_, hu.creating⟩,
      List.pairwise_cons.2 ⟨fun g hg id id' hf => ?_, hu.alone⟩⟩
    · rintro id' e' ⟨p', _, hp'⟩
      exact ⟨e', hp'.stored, .refl e'⟩
    · intro id' hf
      exact absurd hf (PaysOut.not_creating (f := ⟨(env, c), s, sent, q, k⟩) hp)
    · exact absurd hf (PaysOut.not_creating (f := ⟨(env, c), s, sent, q, k⟩) hp)

/-- The transfer of a call that creates an escrow returns. -/
theorem Recorded.created (h : Recorded s (f :: fs))
    (hc : Creates f.label.1 f.label.2 e f.st f.req s' f.resume) :
    Recorded (((s.put e).index e).unlock .create) fs := by
  have hf : Creating e.id f := ⟨e, s', rfl, hc⟩
  have hnone := (h.creating f (.head _) e.id hf).1
  have halone := (List.pairwise_cons.1 h.alone).1
  have hkeeps : KeepsTerms s (s.put e) := keepsTerms_put fun e₀ hs => by
    cases hnone.symm.trans hs
  refine ⟨(h.indexes.new hnone).of_eq rfl rfl rfl, h.tail.inFlight, fun g hg id e' he => ?_,
    fun g hg id hg' => absurd hg' (halone g hg e.id id hf), h.tail.alone⟩
  obtain ⟨e₀, hs, ht⟩ := h.tail.settling g hg id e' he
  obtain ⟨e₁, hs₁, ht₁⟩ := hkeeps id e₀ hs
  exact ⟨e₁, hs₁, ht₁.symm.trans ht⟩

/-- The transfer of a payout returns; what it writes may be older than the record. -/
theorem Recorded.paid {p : Payout} {now : ℕ} (h : Recorded s (f :: fs))
    (hp : PaysOut f.label.1 f.label.2 id p e f.st f.req s' f.resume) :
    Recorded ((s.put (e.settle p.after now)).unlock p.key) fs := by
  obtain ⟨-, -, -, hkey⟩ := payout_spec hp.payout
  obtain ⟨e₀, hs, ht⟩ := h.settling f (.head _) id e ⟨p, s', hp⟩
  have hid : (e.settle p.after now).id = id := ht.id.trans (h.indexes.keyed id e₀ hs)
  have hterms : e₀.SameTerms (e.settle p.after now) := ht.trans (e.sameTerms_settle p.after now)
  refine h.tail.update ((h.indexes.old (hid.symm ▸ hs) hterms).of_eq rfl rfl rfl) ?_ ?_ ?_
  · refine keepsTerms_put fun e₁ hs₁ => ?_
    rw [hid, hs] at hs₁
    cases hs₁
    exact hterms
  · intro id' hnone
    rw [unlock_escrows, put_escrows, Store.lookup_insert_ite, if_neg]
    · exact hnone
    · rintro rfl
      rw [hid, hs] at hnone
      cases hnone
  · intro hl
    exact Finset.mem_erase.2 ⟨hkey.symm, hl⟩

end

theorem recorded_start : Recorded {} ([] : List (CallFrame me)) where
  indexes := exactIndexes_start
  inFlight _ h := by cases h
  settling _ h := by cases h
  creating _ h := by cases h
  alone := .nil

theorem recorded_keeps :
    Conf.Keeps (interface me) (fun _ _ => True) (fun s _ fs => Recorded s fs) where
  finish h _ hf := h.finishes hf
  callOut h _ hc := h.callOut hc
  ret {s h f fs s'} hi _ hr := by
    rcases hi.inFlight f (.head _) with ⟨e, _, hc⟩ | ⟨id, p, e, _, hp⟩
    · rw [hc.rest] at hr; cases hr
      exact hi.created hc
    · rw [hp.rest] at hr; cases hr
      exact hi.paid hp
  again {s h f fs q s' k} hi _ hr := by
    rcases hi.inFlight f (.head _) with ⟨e, _, hc⟩ | ⟨id, p, e, _, hp⟩
    · rw [hc.rest] at hr; cases hr
    · rw [hp.rest] at hr; cases hr

/-! ## Queries -/

/-- A query by party lists each escrow of the party once, and no others. -/
def ListsEscrows (query : Address → Fn (List String)) (party : Escrow → Address) (s : State) :
    Prop :=
  ∀ a, ∃ ids, Returns (query a) s ids s ∧ ids.Nodup ∧
    ∀ id, id ∈ ids ↔ ∃ e, Returns (getEscrow id) s e s ∧ party e = a

/-- **The lists of escrows are exact.** In every state that calls reach, from within transfers as
    well, the queries by depositor and by beneficiary list each escrow of the party once. -/
theorem escrow_lists_exact {tr : List (Event (Config me) (Move (Env me × Call)))} {σ : Config me}
    (h : CallTree me ⟨{}, [], []⟩ tr σ) :
    ListsEscrows getDepositorEscrows Escrow.depositor σ.st ∧
      ListsEscrows getBeneficiaryEscrows Escrow.beneficiary σ.st := by
  have hrec : Recorded σ.st σ.stack := recorded_keeps.run h recorded_start fun _ _ _ _ => trivial
  have hi := hrec.indexes
  have hmem {field : Escrow → Address} {index : Address → List String}
      (hx : IndexedBy σ.st.escrows field index) (a : Address) (id : String) :
      id ∈ index a ↔ ∃ e, Returns (getEscrow id) σ.st e σ.st ∧ field e = a := by
    simp only [hx.mem, getEscrow_returns, and_true]
  exact ⟨fun a => ⟨_, getDepositorEscrows_returns.2 ⟨rfl, rfl⟩, hi.depositor.nodup a,
      hmem hi.depositor a⟩,
    fun a => ⟨_, getBeneficiaryEscrows_returns.2 ⟨rfl, rfl⟩, hi.beneficiary.nodup a,
      hmem hi.beneficiary a⟩⟩

/-- The escrow of `nestedRefund`, which is paid out twice, is listed once. -/
theorem escrow_lists_exact_nested : ∃ tr σ, CallTree ⟨0⟩ ⟨{}, [], []⟩ tr σ ∧
    payouts σ.sent "deposit" = 2 ∧ ListsEscrows getDepositorEscrows Escrow.depositor σ.st ∧
    σ.st.depositorIds ⟨3⟩ = ["deposit"] := by
  have h := Conf.run_moves (interface ⟨0⟩) ⟨{}, [], []⟩ nestedRefund
  exact ⟨_, _, h, by decide, (escrow_lists_exact h).1, by decide⟩

end PaymentEscrow
