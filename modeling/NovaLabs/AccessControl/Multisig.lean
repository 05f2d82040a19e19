/-
  The contract in multisig mode: what its calls can still do, and what happens to one proposal.

  From a successful `initialize_multisig` on, a call logs an access check, writes a role or the
  blacklist directly, or works on proposals (`MultisigState.step`).  Only the execution of a
  proposal changes the settings of the contract (`settings_change`).
-/
import NovaLabs.AccessControl.Steps

namespace AccessControl

open Lib Soroban

variable {env : CallEnv} {s s' : State} {c : Call}

/-! ## Parts of the storage -/

/-- Config, Paused, MultiSigConfig, EmergencyMode. -/
def State.settings (s : State) : AccessControlConfig × Bool × Option MultiSigConfig × Bool :=
  (s.config, s.paused, s.multiSigConfig, s.emergencyMode)

/-- Roles and blacklist. -/
def State.rights (s : State) : Store Address UserRole × Finset Address :=
  (s.userRole, s.blacklisted)

/-- What only initialisation and admin transfers write. -/
def State.control (s : State) : Bool × Option Address × Option PendingAdminTransfer :=
  (s.initialized, s.admin, s.pendingAdminTransfer)

theorem Vote.frame {id : ℕ} {p : PendingProposal} (h : Vote env s c id p s') :
    s'.settings = s.settings ∧ s'.rights = s.rights ∧ s'.control = s.control := by
  cases h <;> exact ⟨rfl, rfl, rfl⟩

theorem Expired.frame (h : Expired env s s') :
    s'.settings = s.settings ∧ s'.rights = s.rights ∧ s'.control = s.control := by
  induction h with
  | refl => exact ⟨rfl, rfl, rfl⟩
  | next _ _ _ _ ih => exact ih

theorem apply_control (s : State) (a : ProposalAction) : (s.apply a).control = s.control := by
  cases a with
  | addAdmin | removeAdmin => unfold State.apply; cases s.multiSigConfig <;> rfl
  | _ => rfl

theorem execute_control (s : State) (id : ℕ) (p : PendingProposal) :
    (s.execute id p).control = s.control :=
  apply_control (s.put id { p with executed := true }) p.action

theorem ProposalStep.control (h : ProposalStep env s c s') : s'.control = s.control := by
  cases h with
  | vote hv => exact hv.frame.2.2
  | execute hv _ => rw [execute_control]; exact hv.frame.2.2
  | reject => rfl
  | cancel => rfl
  | cleanup hx => exact hx.frame.2.2

/-- Work on proposals that executes none changes neither settings nor rights. -/
theorem ProposalStep.frame (h : ProposalStep env s c s') :
    (s'.settings = s.settings ∧ s'.rights = s.rights) ∨
      ∃ id p s₁, Vote env s c id p s₁ ∧ Executable env s₁ p ∧ s' = s₁.execute id p := by
  cases h with
  | vote hv => exact Or.inl ⟨hv.frame.1, hv.frame.2.1⟩
  | execute hv he => exact Or.inr ⟨_, _, _, hv, he, rfl⟩
  | reject => exact Or.inl ⟨rfl, rfl⟩
  | cancel => exact Or.inl ⟨rfl, rfl⟩
  | cleanup hx => exact Or.inl ⟨hx.frame.1, hx.frame.2.1⟩

/-- The multisig configuration after an action. -/
def ProposalAction.reconfigure (c : MultiSigConfig) : ProposalAction → MultiSigConfig
  | .updateMultisigConfig c' => c'
  | .addAdmin a => { c with admins := c.admins ++ [a] }
  | .removeAdmin a => { c with admins := c.admins.filter (· ≠ a) }
  | _ => c

theorem apply_multiSigConfig {c : MultiSigConfig} (h : s.multiSigConfig = some c)
    (a : ProposalAction) : (s.apply a).multiSigConfig = some (a.reconfigure c) := by
  cases a with
  | addAdmin | removeAdmin =>
    simp only [State.apply, h, Option.elim_some, State.assign, ProposalAction.reconfigure]
  | updateMultisigConfig => rfl
  | _ => exact h

/-! ## Multisig mode -/

structure MultisigState (s : State) : Prop where
  initialized : s.initialized = true
  enabled : ∃ c, s.multiSigConfig = some c
  noTransfer : s.pendingAdminTransfer = none

/-- The calls that are left in multisig mode. -/
theorem MultisigState.step (hs : MultisigState s) (h : Effect env s c s') :
    Logged s s' ∨ Direct env s c s' ∨ ProposalStep env s c s' := by
  obtain ⟨hi, ⟨_, hc⟩, ht⟩ := hs
  cases h with
  | log h => exact Or.inl h
  | direct h => exact Or.inr (Or.inl h)
  | proposal h => exact Or.inr (Or.inr h)
  | start hn => rw [hi] at hn; cases hn
  | startMultisig hn => rw [hi] at hn; cases hn
  | config _ _ _ _ hm => rw [hc] at hm; cases hm
  | proposeTransfer _ hm => rw [hc] at hm; cases hm
  | acceptTransfer _ hp => rw [ht] at hp; cases hp
  | cancelTransfer hp => rw [ht] at hp; cases hp

theorem Direct.frame (h : Direct env s c s') :
    s'.settings = s.settings ∧ s'.control = s.control ∧ s'.proposals = s.proposals ∧
      s'.proposalCounter = s.proposalCounter ∧ s'.proposalStats = s.proposalStats := by
  cases h <;> exact ⟨rfl, rfl, rfl, rfl, rfl⟩

theorem MultisigState.next (hs : MultisigState s) (h : Effect env s c s') : MultisigState s' := by
  have hcontrol : s'.control = s.control ∧ ∃ c, s'.multiSigConfig = some c := by
    rcases hs.step h with ⟨m, rfl⟩ | hd | hp
    · exact ⟨rfl, hs.enabled⟩
    · have hset := hd.frame.1
      simp only [State.settings, Prod.mk.injEq] at hset
      exact ⟨hd.frame.2.1, hset.2.2.1 ▸ hs.enabled⟩
    · refine ⟨hp.control, ?_⟩
      rcases hp.frame with ⟨hset, -⟩ | ⟨id, p, s₁, hv, -, rfl⟩
      · simp only [State.settings, Prod.mk.injEq] at hset
        exact hset.2.2.1 ▸ hs.enabled
      · have hset := hv.frame.1
        simp only [State.settings, Prod.mk.injEq] at hset
        obtain ⟨c, hc⟩ := hs.enabled
        exact ⟨_, apply_multiSigConfig (s := s₁.put id { p with executed := true })
          (hset.2.2.1.trans hc) p.action⟩
  simp only [State.control, Prod.mk.injEq] at hcontrol
  exact ⟨hcontrol.1.1.trans hs.initialized, hcontrol.2, hcontrol.1.2.2.trans hs.noTransfer⟩

/-! ## One proposal -/

/-- The ids in use are below the counter. -/
def Numbered (s : State) : Prop :=
  ∀ id p, s.proposals.lookup id = some p → id < s.proposalCounter

theorem Numbered.fresh (h : Numbered s) : s.proposals.lookup s.proposalCounter = none := by
  cases hp : s.proposals.lookup s.proposalCounter with
  | none => rfl
  | some p => exact absurd (h _ p hp) (lt_irrefl _)

/-- What a call from `s` to `s'` makes of the record at `id`. -/
inductive RecordStep (env : CallEnv) (s : State) (c : Call) (s' : State) (id : ℕ) :
    Option PendingProposal → Prop
  | same : RecordStep env s c s' id (s.proposals.lookup id)
  | vote {p s₁} : Vote env s c id p s₁ → s' = s₁ → RecordStep env s c s' id (some p)
  | execute {p s₁} : Vote env s c id p s₁ → Executable env s₁ p → s' = s₁.execute id p →
      RecordStep env s c s' id (some { p with executed := true })
  | reject {a p} : CanVote env s a id p → c = .rejectProposal a id →
      RecordStep env s c s' id (some (p.reject a))
  | remove {p} : s.proposals.lookup id = some p → p.executed = false →
      c = .cancelProposal p.proposer id ∨ p.expiry < env.now → RecordStep env s c s' id none

theorem Vote.proposals {id : ℕ} {p : PendingProposal} (h : Vote env s c id p s') :
    s'.proposals = s.proposals.insert id p := by
  cases h with
  | create _ _ _ _ hp => subst hp; rfl
  | approve => rfl

theorem Vote.stored {id : ℕ} {p : PendingProposal} (h : Vote env s c id p s') :
    s'.proposals.lookup id = some p := by
  rw [h.proposals, Finmap.lookup_insert]

theorem Vote.pending {id : ℕ} {p : PendingProposal} (h : Vote env s c id p s') :
    p.executed = false := by
  cases h with
  | create _ _ _ _ hp => subst hp; rfl
  | approve hv => exact hv.pending

theorem Vote.pre_pending {id : ℕ} {p p₀ : PendingProposal} (h : Vote env s c id p s')
    (hn : Numbered s) (hp : s.proposals.lookup id = some p₀) : p₀.executed = false := by
  cases h with
  | create => rw [hn.fresh] at hp; cases hp
  | approve hv => rw [hv.stored] at hp; cases hp; exact hv.pending

theorem Expired.lookup (h : Expired env s s') (id : ℕ) :
    s'.proposals.lookup id = s.proposals.lookup id ∨
      s'.proposals.lookup id = none ∧ ∃ p, s.proposals.lookup id = some p ∧ p.executed = false ∧
        p.expiry < env.now := by
  induction h with
  | refl => exact Or.inl rfl
  | @next s₁ id₁ p _ hp he hx ih =>
    rw [expire_proposals, Store.lookup_erase_ite]
    split_ifs with hid
    · subst hid
      rcases ih with ih | ⟨hn, -⟩
      · exact Or.inr ⟨rfl, p, ih ▸ hp, he, hx⟩
      · rw [hn] at hp; cases hp
    · exact ih

theorem ProposalStep.record (h : ProposalStep env s c s') (id : ℕ) :
    RecordStep env s c s' id (s'.proposals.lookup id) := by
  cases h with
  | @vote _ id₁ p _ hv =>
    rw [hv.proposals, Store.lookup_insert_ite]
    split_ifs with hid
    · subst hid; exact .vote hv rfl
    · exact .same
  | @execute _ id₁ p s₁ hv he =>
    rw [execute_proposals, hv.proposals, Store.lookup_insert_ite, Store.lookup_insert_ite]
    split_ifs with hid
    · subst hid; exact .execute hv he rfl
    · exact .same
  | @reject a id₁ p _ hv =>
    rw [put_proposals, Store.lookup_insert_ite]
    split_ifs with hid
    · subst hid; exact .reject hv rfl
    · exact .same
  | @cancel a id₁ p hp ha he =>
    rw [drop_proposals, Store.lookup_erase_ite]
    split_ifs with hid
    · subst hid; exact .remove hp he (Or.inl (ha ▸ rfl))
    · exact .same
  | cleanup hx =>
    rcases hx.lookup id with h | ⟨h, p, hp, he, hlate⟩ <;> rw [h]
    · exact .same
    · exact .remove hp he (Or.inr hlate)

theorem Effect.record (h : Effect env s c s') (id : ℕ) :
    RecordStep env s c s' id (s'.proposals.lookup id) := by
  cases h with
  | log h => obtain ⟨_, rfl⟩ := h; exact .same
  | direct h => rw [h.frame.2.2.1]; exact .same
  | proposal h => exact h.record id
  | _ => exact .same

theorem step_record {i : Input} (h : Steps s i s') (id : ℕ) :
    RecordStep i.env s i.call s' id (s'.proposals.lookup id) := (step_effect h).record id

/-- The call `e` executes the proposal `id`, whose record is then `p`. -/
structure Executes (e : Ev) (id : ℕ) (p : PendingProposal) : Prop where
  stored : e.post.proposals.lookup id = some p
  executed : p.executed = true
  before : ∀ p₀, e.pre.proposals.lookup id = some p₀ → p₀.executed = false

instance (e : Ev) (id : ℕ) (p : PendingProposal) : Decidable (Executes e id p) :=
  decidable_of_iff (e.post.proposals.lookup id = some p ∧ p.executed = true ∧
      (e.pre.proposals.lookup id).all (·.executed = false))
    ⟨fun ⟨h₁, h₂, h₃⟩ => ⟨h₁, h₂, fun p₀ hp => by simpa [hp] using h₃⟩,
      fun ⟨h₁, h₂, h₃⟩ => ⟨h₁, h₂, by
        cases hp : e.pre.proposals.lookup id with
        | none => rfl
        | some p₀ => simpa using h₃ p₀ hp⟩⟩

theorem Executes.cases {e : Ev} {id : ℕ} {p : PendingProposal} (hx : Executes e id p)
    (h : Steps e.pre e.inp e.post) :
    ∃ p₁ s₁, Vote e.inp.env e.pre e.inp.call id p₁ s₁ ∧ Executable e.inp.env s₁ p₁ ∧
      p = { p₁ with executed := true } ∧ e.post = s₁.execute id p₁ := by
  have hr := step_record h id
  rw [hx.stored] at hr
  have hexec := hx.executed
  generalize ho : some p = o at hr
  cases hr with
  | same => rw [hx.before p ho.symm] at hexec; cases hexec
  | vote hv => cases ho; rw [hv.pending] at hexec; cases hexec
  | execute hv he hs => cases ho; exact ⟨_, _, hv, he, rfl, hs⟩
  | reject hv => cases ho; rw [PendingProposal.reject, hv.pending] at hexec; cases hexec
  | remove => cases ho

theorem executes_execute {i : Input} {id : ℕ} {p : PendingProposal} {s₁ : State}
    (hn : Numbered s) (hv : Vote i.env s i.call id p s₁) :
    Executes ⟨s, i, s₁.execute id p⟩ id { p with executed := true } where
  stored := by simp
  executed := rfl
  before _ hp := hv.pre_pending hn hp

/-- Only the execution of a proposal changes the settings. -/
theorem settings_change (hs : MultisigState s) (hn : Numbered s) {i : Input} (h : Steps s i s')
    (hne : s'.settings ≠ s.settings) : ∃ id p, Executes ⟨s, i, s'⟩ id p := by
  rcases hs.step (step_effect h) with ⟨_, rfl⟩ | hd | hp
  · exact absurd rfl hne
  · exact absurd hd.frame.1 hne
  · rcases hp.frame with ⟨hset, -⟩ | ⟨id, p, s₁, hv, -, rfl⟩
    · exact absurd hset hne
    · exact ⟨id, _, executes_execute hn hv⟩

/-! ## Ids -/

theorem Vote.counter {id : ℕ} {p : PendingProposal} (h : Vote env s c id p s') (hn : Numbered s) :
    s.proposalCounter ≤ s'.proposalCounter ∧ id < s'.proposalCounter := by
  cases h with
  | create => exact ⟨Nat.le_succ _, Nat.lt_succ_self _⟩
  | approve hv => exact ⟨le_rfl, hn _ _ hv.stored⟩

theorem Expired.counter (h : Expired env s s') : s'.proposalCounter = s.proposalCounter := by
  induction h with
  | refl => rfl
  | next _ _ _ _ ih => exact ih

theorem ProposalStep.counter (h : ProposalStep env s c s') (hn : Numbered s) :
    s.proposalCounter ≤ s'.proposalCounter := by
  cases h with
  | vote hv => exact (hv.counter hn).1
  | execute hv => rw [execute_counter]; exact (hv.counter hn).1
  | reject => exact le_rfl
  | cancel => exact le_rfl
  | cleanup hx => exact hx.counter.ge

theorem MultisigState.counter_le (hs : MultisigState s) (hn : Numbered s) (h : Effect env s c s') :
    s.proposalCounter ≤ s'.proposalCounter := by
  rcases hs.step h with ⟨_, rfl⟩ | hd | hp
  · exact le_rfl
  · exact hd.frame.2.2.2.1.ge
  · exact hp.counter hn

theorem MultisigState.numbered (hs : MultisigState s) (hn : Numbered s) (h : Effect env s c s') :
    Numbered s' := by
  rcases hs.step h with ⟨_, rfl⟩ | hd | hp
  · exact hn
  · intro id p hid
    rw [hd.frame.2.2.1] at hid
    rw [hd.frame.2.2.2.1]; exact hn id p hid
  · intro id p hid
    have hr := hp.record id
    have hle := hp.counter hn
    rw [hid] at hr
    generalize ho : some p = o at hr
    cases hr with
    | same => exact (hn id p ho.symm).trans_le hle
    | vote hv hs => subst hs; exact (hv.counter hn).2
    | execute hv he hs => subst hs; rw [execute_counter]; exact (hv.counter hn).2
    | reject hv => exact (hn id _ hv.stored).trans_le hle
    | remove => cases ho

/-- What holds in every state of a multisig run. -/
structure Sound (s : State) : Prop extends MultisigState s where
  numbered : Numbered s

theorem Sound.step {i : Input} (hs : Sound s) (h : Steps s i s') : Sound s' :=
  ⟨hs.toMultisigState.next (step_effect h),
    hs.toMultisigState.numbered hs.numbered (step_effect h)⟩

theorem Sound.run {tr : List Ev} (hs : Sound s) (h : Run Steps s tr s') : Sound s' :=
  h.invariant' (fun _ _ _ hs hst => hs.step hst) hs

/-- What the steps between sound states preserve holds at the end of a run from one. -/
theorem Sound.invariant {tr : List Ev} {P : State → Prop} (hs : Sound s)
    (hstep : ∀ s i s', Sound s → P s → Steps s i s' → P s') (h : Run Steps s tr s') (h₀ : P s) :
    P s' :=
  (h.invariant' (P := fun s => Sound s ∧ P s)
    (fun _ _ _ ⟨hs, hp⟩ hst => ⟨hs.step hst, hstep _ _ _ hs hp hst⟩) ⟨hs, h₀⟩).2

theorem sound_start {admins : List Address} {required : ℕ} {u : Unit}
    (h : Returns (Call.run env (.initializeMultisig admins required)) {} u s) :
    ∃ c, c.Sustainable ∧ s = State.startMultisig {} c ∧ Sound s := by
  obtain ⟨-, c, hc, -, rfl⟩ := initializeMultisig_returns h
  exact ⟨c, hc, rfl, ⟨rfl, ⟨c, rfl⟩, rfl⟩, fun id p hp => by simp [State.startMultisig] at hp⟩

/-- What the initial storage has and every step preserves, of the history and the state, holds of
    every multisig run. -/
theorem MultisigRun.induct {P : List Ev → State → Prop} {tr : List Ev} (h : MultisigRun tr s)
    (h₀ : ∀ c : MultiSigConfig, c.Sustainable → P [] (State.startMultisig {} c))
    (hstep : ∀ tr s i s', Sound s → P tr s → Steps s i s' → P (tr ++ [⟨s, i, s'⟩]) s') :
    Sound s ∧ P tr s := by
  obtain ⟨env, admins, required, s₀, hret, hr⟩ := h
  obtain ⟨c, hc, rfl, hs⟩ := sound_start hret
  exact hr.history (P := fun tr s => Sound s ∧ P tr s)
    (fun tr s i s' ⟨hs, hp⟩ hst => ⟨hs.step hst, hstep tr s i s' hs hp hst⟩) ⟨hs, h₀ c hc⟩

theorem MultisigRun.sound {tr : List Ev} (h : MultisigRun tr s) : Sound s :=
  (h.induct (P := fun _ _ => True) (fun _ _ => trivial) fun _ _ _ _ _ _ _ => trivial).1

/-- The states of a multisig run are reached by multisig runs. -/
theorem MultisigRun.split {tr₁ tr₂ : List Ev} {e : Ev} (h : MultisigRun (tr₁ ++ e :: tr₂) s) :
    MultisigRun tr₁ e.pre ∧ Steps e.pre e.inp e.post ∧ Run Steps e.post tr₂ s := by
  obtain ⟨env, admins, required, s₀, h₀, hr⟩ := h
  obtain ⟨h₁, h₂, h₃⟩ := hr.split
  exact ⟨⟨env, admins, required, s₀, h₀, h₁⟩, h₂, h₃⟩

theorem MultisigRun.snoc {tr : List Ev} (h : MultisigRun tr s) (i : Input) :
    MultisigRun (tr ++ [⟨s, i, AccessControl.next s i⟩]) (AccessControl.next s i) := by
  obtain ⟨env, admins, required, s₀, h₀, hr⟩ := h
  exact ⟨env, admins, required, s₀, h₀, hr.snoc rfl⟩

theorem MultisigRun.head {tr₁ tr₂ : List Ev} {e : Ev} (h : MultisigRun (tr₁ ++ e :: tr₂) s) :
    MultisigRun (tr₁ ++ [e]) e.post := by
  obtain ⟨h₁, hs, -⟩ := h.split
  have h₂ := h₁.snoc e.inp
  rwa [show AccessControl.next e.pre e.inp = e.post from hs.symm] at h₂

/-! ## Replays -/

/-- Calls at given times, without authorisations and without token contracts. -/
def callsAt (cs : List (ℕ × Call)) : List Input :=
  cs.map fun c => ⟨⟨c.1, ∅, fun _ _ => none⟩, c.2⟩

/-- The storage after `initialize_multisig` at time 0. -/
def multisigStart (admins : List Address) (required : ℕ) : State :=
  (callsAt [(0, .initializeMultisig admins required)]).foldl next {}

theorem multisigRun_calls {admins : List Address} {required : ℕ}
    (h : (multisigStart admins required).initialized = true) (is : List Input) :
    MultisigRun (eventsFrom next (multisigStart admins required) is)
      (is.foldl next (multisigStart admins required)) := by
  rcases commit_cases (Call.run ⟨0, ∅, fun _ _ => none⟩ (.initializeMultisig admins required)) {}
    with ⟨_, hr⟩ | ⟨-, hr⟩
  · exact ⟨_, _, _, _, hr, run_calls _ is⟩
  · rw [show multisigStart admins required = {} from hr] at h
    cases h

end AccessControl
