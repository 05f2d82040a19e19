/-
  Whether those who change the contract authorised it.

  Every change passes a check of the address that the call names as its caller
  (`Effect.entitled`), but no function asks for that address's authorisation.  Changes are
  authorised in the runs in which callers are who they say they are (`callers_authenticated`).
-/
import NovaLabs.AccessControl.Multisig

namespace AccessControl

open Lib Soroban

/-- What only entitled callers may change. -/
def State.guarded (s : State) : (Store Address UserRole × Finset Address) × AccessControlConfig ×
    Bool × Option Address × Option PendingAdminTransfer × Option MultiSigConfig ×
    Store ℕ PendingProposal :=
  (s.rights, s.config, s.paused, s.admin, s.pendingAdminTransfer, s.multiSigConfig, s.proposals)

/-- The contract treats the address as entitled to the change that the call makes. -/
def Entitled (s : State) (a : Address) : Call → Prop
  | .acceptAdminTransfer _ => ∃ t, s.pendingAdminTransfer = some t ∧ t.proposedAdmin = a
  | .cancelProposal _ id => ∃ p, s.proposals.lookup id = some p ∧ p.proposer = a
  | _ => s.IsAdmin a

variable {env : CallEnv} {s s' : State} {c : Call} {tr : List Ev} {id : ℕ} {p : PendingProposal}

/-! ## Every change passes a check of the named caller -/

theorem Direct.entitled (h : Direct env s c s') : ∃ a, c.caller = some a ∧ Entitled s a c := by
  cases h with
  | setRole _ _ _ ha | removeRole ha | blacklistUser ha | unblacklistUser ha => exact ⟨_, rfl, ha⟩

theorem Vote.entitled (h : Vote env s c id p s') : ∃ a, c.caller = some a ∧ Entitled s a c := by
  cases h with
  | create ha => exact ⟨_, rfl, ha⟩
  | approve hv => exact ⟨_, rfl, hv.admin⟩

theorem ProposalStep.entitled (h : ProposalStep env s c s') (hc : c ≠ .cleanupExpiredProposals) :
    ∃ a, c.caller = some a ∧ Entitled s a c := by
  cases h with
  | vote hv => exact hv.entitled
  | execute hv => exact hv.entitled
  | reject hv => exact ⟨_, rfl, hv.admin⟩
  | cancel hp ha => exact ⟨_, rfl, _, hp, ha⟩
  | cleanup => exact absurd rfl hc

theorem ConfigCall.entitled {a : Address} (h : ConfigCall a c) (ha : s.IsAdmin a) :
    ∃ a, c.caller = some a ∧ Entitled s a c := by
  cases h <;> exact ⟨a, rfl, ha⟩

theorem Effect.entitled (h : Effect env s c s') (hi : s.initialized = true)
    (hc : c ≠ .cleanupExpiredProposals) (hne : s'.guarded ≠ s.guarded) :
    ∃ a, c.caller = some a ∧ Entitled s a c := by
  cases h with
  | log h => obtain ⟨_, rfl⟩ := h; exact absurd rfl hne
  | start hn => rw [hi] at hn; cases hn
  | startMultisig hn => rw [hi] at hn; cases hn
  | direct h => exact h.entitled
  | config _ _ _ h _ ha => exact h.entitled ha
  | proposeTransfer _ _ ha => exact ⟨_, rfl, ha⟩
  | acceptTransfer _ ht ha => exact ⟨_, rfl, _, ht, ha⟩
  | cancelTransfer _ ha => exact ⟨_, rfl, ha⟩
  | proposal h => exact h.entitled hc

/-! ## Runs -/

theorem Effect.initialized (h : Effect env s c s') (hi : s.initialized = true) :
    s'.initialized = true := by
  cases h with
  | log h => obtain ⟨_, rfl⟩ := h; exact hi
  | direct h =>
    have hcontrol := h.frame.2.1
    simp only [State.control, Prod.mk.injEq] at hcontrol
    exact hcontrol.1.trans hi
  | proposal h =>
    have hcontrol := h.control
    simp only [State.control, Prod.mk.injEq] at hcontrol
    exact hcontrol.1.trans hi
  | start | startMultisig => rfl
  | _ => exact hi

/-- A run of calls after a successful `initialize` or `initialize_multisig`. -/
def InitializedRun (tr : List Ev) (s : State) : Prop :=
  ∃ (i : Input) (s₀ : State), ((∃ admin, i.call = .initializeContract admin) ∨
      ∃ admins requiredSignatures, i.call = .initializeMultisig admins requiredSignatures) ∧
    Returns (i.call.run i.env) {} () s₀ ∧ Run Steps s₀ tr s

/-- The contract is initialised before every call of the run. -/
theorem InitializedRun.initialized (h : InitializedRun tr s) :
    ∀ e ∈ tr, Steps e.pre e.inp e.post ∧ e.pre.initialized = true := by
  obtain ⟨i, s₀, hinit, hret, hr⟩ := h
  have h₀ : s₀.initialized = true := by
    rcases hinit with ⟨admin, hcall⟩ | ⟨admins, required, hcall⟩ <;> rw [hcall] at hret
    · rw [(initializeContract_returns hret).2]; rfl
    · obtain ⟨-, c, -, -, rfl⟩ := initializeMultisig_returns hret; rfl
  intro e he
  obtain ⟨tr₁, tr₂, rfl⟩ := List.append_of_mem he
  obtain ⟨hr₁, hst, -⟩ := hr.split
  exact ⟨hst, hr₁.invariant' (P := fun s => s.initialized = true)
    (fun _ _ _ hi hst => (step_effect hst).initialized hi) h₀⟩

/-- Someone entitled to it authorises each change but the removal of expired proposals. -/
def Authenticated (tr : List Ev) : Prop :=
  ∀ e ∈ tr, e.inp.call ≠ .cleanupExpiredProposals → e.post.guarded ≠ e.pre.guarded →
    ∃ a ∈ e.inp.env.auths, Entitled e.pre a e.inp.call

/-- Where the call names an entitled address as its caller, an entitled address authorised it. -/
def CallerAuthorises (e : Ev) : Prop :=
  ∀ a, e.inp.call.caller = some a → Entitled e.pre a e.inp.call →
    ∃ b ∈ e.inp.env.auths, Entitled e.pre b e.inp.call

/-- **Changes are authorised where callers are.** -/
theorem callers_authenticated (h : InitializedRun tr s) (hC : ∀ e ∈ tr, CallerAuthorises e) :
    Authenticated tr := by
  intro e he hc hne
  obtain ⟨hst, hi⟩ := h.initialized e he
  obtain ⟨a, ha, hent⟩ := (step_effect hst).entitled hi hc hne
  exact hC e he a ha hent

/-- An admin makes someone else an admin, in a call that the addresses `auths` authorise. -/
def promotion (auths : Finset Address) : List Input :=
  [⟨⟨1, auths, fun _ _ => none⟩, .setRole ⟨1⟩ ⟨9⟩ .admin⟩]

def adminStart : State := (callsAt [(0, .initializeContract ⟨1⟩)]).foldl next {}

theorem promotion_run (auths : Finset Address) :
    InitializedRun (eventsFrom next adminStart (promotion auths))
      ((promotion auths).foldl next adminStart) :=
  ⟨⟨⟨0, ∅, fun _ _ => none⟩, .initializeContract ⟨1⟩⟩, _, Or.inl ⟨_, rfl⟩, rfl, run_calls _ _⟩

theorem callers_authenticated_promotion :
    Authenticated (eventsFrom next adminStart (promotion {⟨1⟩})) := by
  refine callers_authenticated (promotion_run _) fun e he a ha hent => ?_
  obtain rfl := List.mem_singleton.1 he
  cases ha
  exact ⟨⟨1⟩, by decide, hent⟩

/-- **Anyone who names the admin makes an admin.** -/
theorem promotion_unauthorised : ¬ ∀ tr s, InitializedRun tr s → Authenticated tr := by
  intro hall
  obtain ⟨a, ha, -⟩ := hall _ _ (promotion_run ∅) _ (.head _) (by rintro ⟨⟩)
    fun h => absurd (congrArg (fun g => g.1.1.lookup ⟨9⟩) h) (by decide)
  exact Finset.notMem_empty a ha

end AccessControl
