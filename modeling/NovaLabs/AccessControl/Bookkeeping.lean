/-
  The books on proposals: the pending list, the statistics and the counter.

  A proposal is entered when it is created, and taken off when it executes, is cancelled or expires.
  Each of these updates the records, the list and the statistics separately; in multisig mode they
  stay in step (`proposals_bookkept`).
-/
import NovaLabs.AccessControl.Multisig

namespace AccessControl

open Lib Soroban

variable {env : CallEnv} {s s' : State} {c : Call} {tr : List Ev} {id n : ℕ} {e : Ev}
  {p p' : PendingProposal}

/-! ## Events -/

/-- The call is a cancellation that passes its checks. -/
def cancelSucceeds (e : Ev) : Bool :=
  match e.inp.call with
  | .cancelProposal _ _ => succeeds (e.inp.call.run e.inp.env) e.pre
  | _ => false

/-- The number of successful cancellations. -/
def cancellations (tr : List Ev) : ℕ := tr.countP cancelSucceeds

/-- The call creates the proposal `id`. -/
def CreatesId (e : Ev) (id : ℕ) : Prop :=
  ∃ proposer action s', e.inp.call = .createProposal proposer action ∧
    Returns (createProposal e.inp.env proposer action) e.pre id s'

/-! ## States -/

/-- The records, the list and the statistics agree, after `n` cancellations. -/
structure Books (n : ℕ) (s : State) : Prop where
  nodup : s.pendingProposalsList.Nodup
  listed : ∀ id, id ∈ s.pendingProposalsList ↔
    ∃ p, s.proposals.lookup id = some p ∧ p.executed = false
  counted : s.proposalStats.pendingCount = s.pendingProposalsList.length
  accounted : s.proposalStats.totalCreated = s.proposalStats.totalExecuted +
    s.proposalStats.totalRejected + s.proposalStats.totalExpired + n + s.proposalStats.pendingCount

theorem length_filter_ne {l : List ℕ} (hl : l.Nodup) (h : id ∈ l) :
    (l.filter (· ≠ id)).length = l.length - 1 := by
  have he : l.filter (· ≠ id) = l.erase id := by
    rw [hl.erase_eq_filter]
    exact List.filter_congr fun b _ => by simp [bne, beq_eq_decide]
  rw [he, List.length_erase_of_mem h]

/-- A pending record is replaced by another pending one. -/
theorem Books.put (hb : Books n s) (hp : s.proposals.lookup id = some p)
    (he : p.executed = false) (he' : p'.executed = false) : Books n (s.put id p') where
  nodup := hb.nodup
  listed k := by
    change k ∈ s.pendingProposalsList ↔ _
    rw [hb.listed, put_proposals, Store.lookup_insert_ite]
    split_ifs with hk
    · subst hk
      exact ⟨fun _ => ⟨p', rfl, he'⟩, fun _ => ⟨p, hp, he⟩⟩
    · rfl
  counted := hb.counted
  accounted := hb.accounted

theorem Books.add (hb : Books n s) (hfresh : s.proposals.lookup p.id = none)
    (he : p.executed = false) : Books n (s.add p) where
  nodup := by
    have hnot : p.id ∉ s.pendingProposalsList := fun hmem => by
      obtain ⟨_, hp, -⟩ := (hb.listed _).1 hmem
      rw [hfresh] at hp; cases hp
    exact hb.nodup.append (List.nodup_singleton _) (by simpa using hnot)
  listed k := by
    change k ∈ s.pendingProposalsList ++ [p.id] ↔ _
    rw [List.mem_append, List.mem_singleton, hb.listed, add_proposals, Store.lookup_insert_ite]
    split_ifs with hk
    · exact ⟨fun _ => ⟨p, rfl, he⟩, fun _ => Or.inr hk⟩
    · simp [hk]
  counted := by
    change s.proposalStats.pendingCount + 1 = (s.pendingProposalsList ++ [p.id]).length
    rw [List.length_append, List.length_singleton, hb.counted]
  accounted := by
    change s.proposalStats.totalCreated + 1 = _ + (s.proposalStats.pendingCount + 1)
    rw [hb.accounted]
    rfl

/-- A pending proposal is taken off the list, and counted elsewhere. -/
theorem Books.unlist (stats : ProposalStats) {m : ℕ} (hb : Books n s)
    (hp : s.proposals.lookup id = some p) (he : p.executed = false)
    (hoff : ∀ k, (∃ p, s'.proposals.lookup k = some p ∧ p.executed = false) ↔
      k ≠ id ∧ ∃ p, s.proposals.lookup k = some p ∧ p.executed = false)
    (hlist : s'.pendingProposalsList = s.pendingProposalsList.filter (· ≠ id))
    (hstats : s'.proposalStats = { stats with pendingCount := stats.pendingCount - 1 })
    (hcount : stats.pendingCount = s.proposalStats.pendingCount)
    (hmoved : stats.totalCreated + (s.proposalStats.totalExecuted +
      s.proposalStats.totalRejected + s.proposalStats.totalExpired + n) + 1 =
      s.proposalStats.totalCreated + (stats.totalExecuted + stats.totalRejected +
        stats.totalExpired + m)) : Books m s' where
  nodup := by rw [hlist]; exact hb.nodup.filter _
  listed k := by
    rw [hlist, List.mem_filter, hb.listed, hoff, decide_eq_true_eq, and_comm]
  counted := by
    have hmem := (hb.listed id).2 ⟨p, hp, he⟩
    rw [hlist, hstats, length_filter_ne hb.nodup hmem, ← hb.counted, hcount]
  accounted := by
    have hpos := List.length_pos_of_mem ((hb.listed id).2 ⟨p, hp, he⟩)
    have hacc := hb.accounted
    have hcnt := hb.counted
    rw [hstats]
    dsimp only
    omega

theorem apply_list (s : State) (a : ProposalAction) :
    (s.apply a).pendingProposalsList = s.pendingProposalsList := by
  cases a with
  | addAdmin | removeAdmin => unfold State.apply; cases s.multiSigConfig <;> rfl
  | _ => rfl

theorem execute_stats (s : State) (id : ℕ) (p : PendingProposal) :
    (s.execute id p).proposalStats = { s.proposalStats with
      totalExecuted := s.proposalStats.totalExecuted + 1
      pendingCount := s.proposalStats.pendingCount - 1 } := by
  have h : (s.execute id p).proposalStats =
      { ((s.put id { p with executed := true }).apply p.action).proposalStats with
        totalExecuted :=
          ((s.put id { p with executed := true }).apply p.action).proposalStats.totalExecuted + 1
        pendingCount :=
          ((s.put id { p with executed := true }).apply p.action).proposalStats.pendingCount - 1 } :=
    rfl
  rw [h, apply_stats]
  rfl

theorem execute_list (s : State) (id : ℕ) (p : PendingProposal) :
    (s.execute id p).pendingProposalsList = s.pendingProposalsList.filter (· ≠ id) := by
  have h : (s.execute id p).pendingProposalsList =
      ((s.put id { p with executed := true }).apply p.action).pendingProposalsList.filter
        (· ≠ id) := rfl
  rw [h, apply_list]
  rfl

theorem Books.execute (hb : Books n s) (hp : s.proposals.lookup id = some p)
    (he : p.executed = false) : Books n (s.execute id p) := by
  refine hb.unlist { s.proposalStats with totalExecuted := s.proposalStats.totalExecuted + 1 } hp he
    (fun k => ?_) (execute_list s id p) (execute_stats s id p) rfl (by dsimp only; omega)
  rw [execute_proposals, Store.lookup_insert_ite]
  split_ifs with hk
  · simp [hk]
  · simp [hk]

/-- A removal counts as an expiry or as a cancellation. -/
theorem Books.drop (stats : ProposalStats) {m : ℕ} (hb : Books n s)
    (hp : s.proposals.lookup id = some p) (he : p.executed = false)
    (hcount : stats.pendingCount = s.proposalStats.pendingCount)
    (hmoved : stats.totalCreated + (s.proposalStats.totalExecuted +
      s.proposalStats.totalRejected + s.proposalStats.totalExpired + n) + 1 =
      s.proposalStats.totalCreated + (stats.totalExecuted + stats.totalRejected +
        stats.totalExpired + m)) : Books m (s.drop id stats) := by
  refine hb.unlist stats hp he (fun k => ?_) rfl rfl hcount hmoved
  rw [drop_proposals, Store.lookup_erase_ite]
  split_ifs with hk
  · simp [hk]
  · simp [hk]

/-! ## Steps -/

theorem Vote.books (h : Vote env s c id p s') (hs : Sound s) (hb : Books n s) : Books n s' := by
  cases h with
  | create _ _ _ _ hp =>
    subst hp
    exact hb.add hs.numbered.fresh rfl
  | approve hv => exact hb.put hv.stored hv.pending hv.pending

theorem Expired.books (h : Expired env s s') (hb : Books n s) : Books n s' := by
  induction h with
  | refl => exact hb
  | next _ hp he _ ih => exact ih.drop _ hp he rfl (by dsimp only; omega)

theorem cancellations_snoc (tr : List Ev) (e : Ev) :
    cancellations (tr ++ [e]) = cancellations tr + if cancelSucceeds e then 1 else 0 := by
  rw [cancellations, List.countP_append, List.countP_singleton]
  rfl

/-- A successful cancellation drops a pending proposal. -/
theorem cancelSucceeds_iff : cancelSucceeds e = true ↔ ∃ a id p,
    e.inp.call = .cancelProposal a id ∧ e.pre.proposals.lookup id = some p ∧ p.proposer = a ∧
      p.executed = false := by
  unfold cancelSucceeds
  cases hcall : e.inp.call with
  | cancelProposal a id =>
    simp only [succeeds_iff, Call.run, cancelProposal_returns]
    constructor
    · rintro ⟨_, _, p, hp, ha, he, -⟩
      exact ⟨a, id, p, rfl, hp, ha, he⟩
    · rintro ⟨_, _, p, heq, hp, ha, he⟩
      cases heq
      exact ⟨(), _, p, hp, ha, he, rfl⟩
  | _ => simp

theorem Books.step {i : Input} (hb : Books (cancellations tr) s) (hs : Sound s)
    (h : Steps s i s') : Books (cancellations (tr ++ [⟨s, i, s'⟩])) s' := by
  rw [cancellations_snoc]
  by_cases hc : cancelSucceeds ⟨s, i, s'⟩ = true
  · rw [if_pos hc]
    obtain ⟨a, id, p, hcall, hp, ha, he⟩ := cancelSucceeds_iff.1 hc
    have hret : Returns (i.call.run i.env) s () (s.drop id s.proposalStats) := by
      rw [show i.call = _ from hcall]
      exact cancelProposal_returns.2 ⟨p, hp, ha, he, rfl⟩
    rw [show s' = _ from h.trans hret.commit_eq]
    exact hb.drop _ hp he rfl (by omega)
  · rw [if_neg hc]
    rcases hs.toMultisigState.step (step_effect h) with ⟨_, rfl⟩ | hd | hp
    · exact ⟨hb.nodup, hb.listed, hb.counted, hb.accounted⟩
    · generalize i.call = c at hd
      cases hd <;> exact ⟨hb.nodup, hb.listed, hb.counted, hb.accounted⟩
    · generalize hcall : i.call = c at hp
      cases hp with
      | vote hv => exact hv.books hs hb
      | execute hv _ => exact (hv.books hs hb).execute hv.stored hv.pending
      | reject hv => exact hb.put hv.stored hv.pending hv.pending
      | cancel hp ha he => exact absurd (cancelSucceeds_iff.2 ⟨_, _, _, hcall, hp, ha, he⟩) hc
      | cleanup hx => exact hx.books hb

/-- A created proposal takes the number of the counter, which moves on. -/
theorem CreatesId.counter (h : CreatesId e id) (hst : Steps e.pre e.inp e.post) :
    id = e.pre.proposalCounter ∧ id < e.post.proposalCounter := by
  obtain ⟨proposer, action, s', hcall, hret⟩ := h
  have hrun : Returns (e.inp.call.run e.inp.env) e.pre () s' := by
    rw [hcall]; exact returns_ignore.2 ⟨id, hret⟩
  rw [show e.post = s' from hst.trans hrun.commit_eq]
  obtain ⟨rfl, c, -, ⟨-, rfl⟩ | ⟨-, -, rfl⟩⟩ := createProposal_returns.1 hret
  · exact ⟨rfl, Nat.lt_succ_self _⟩
  · rw [execute_counter]
    exact ⟨rfl, Nat.lt_succ_self _⟩

/-! ## Runs -/

/-- The books after the history `tr`: besides, the stored ids are below the counter, and no two
    calls create the same id. -/
structure Bookkept (tr : List Ev) (s : State) : Prop extends Books (cancellations tr) s where
  numbered : ∀ id p, s.proposals.lookup id = some p → id < s.proposalCounter
  distinct : tr.Pairwise fun e e' => ∀ id, CreatesId e id → ¬ CreatesId e' id

/-- **The books are in step, in every multisig run.** -/
theorem proposals_bookkept (h : MultisigRun tr s) : Bookkept tr s := by
  have hrun := h.induct (P := fun tr s => Books (cancellations tr) s ∧
      (∀ e ∈ tr, ∀ id, CreatesId e id → id < s.proposalCounter) ∧
        tr.Pairwise fun e e' => ∀ id, CreatesId e id → ¬ CreatesId e' id)
    (fun c _ => ⟨⟨List.nodup_nil, fun id => by simp [State.startMultisig], rfl, rfl⟩, by simp,
      .nil⟩)
    fun tr s i s' hs ⟨hb, hbelow, hd⟩ hst => ⟨hb.step hs hst, ?_, ?_⟩
  · obtain ⟨hs, hb, -, hd⟩ := hrun
    exact ⟨hb, hs.numbered, hd⟩
  · intro e he id hc
    rcases List.mem_append.1 he with he | he
    · exact (hbelow e he id hc).trans_le (hs.counter_le hs.numbered (step_effect hst))
    · rw [List.mem_singleton.1 he] at hc
      exact (hc.counter hst).2
  · refine List.pairwise_append.2 ⟨hd, List.pairwise_singleton _ _, fun e he e' he' id hc hc' => ?_⟩
    rw [List.mem_singleton.1 he'] at hc'
    have hlt := hbelow e he id hc
    rw [(hc'.counter hst).1] at hlt
    exact lt_irrefl _ hlt

/-- Two proposals; the first is cancelled, the second executes at once. -/
def cancelAndExecute : List Input :=
  callsAt [(0, .createProposal ⟨1⟩ .pause), (1, .cancelProposal ⟨1⟩ 0),
    (2, .createProposal ⟨2⟩ .unpause)]

theorem proposals_bookkept_cancelled : ∃ tr s, Bookkept tr s ∧ cancellations tr = 1 ∧
    s.proposalStats.totalCreated = 2 := by
  have hinit : (multisigStart [⟨1⟩, ⟨2⟩] 1).initialized = true := by decide
  exact ⟨_, _, proposals_bookkept (multisigRun_calls hinit cancelAndExecute), by decide, by decide⟩

end AccessControl
