/-
  Proposals and the history of a multisig run.

  Every stored proposal is attested by the history: the call that created it, under the
  configuration then in force, and for each approval the call that recorded it, when the approver
  was an admin (`Attested`).  So whatever executes was sanctioned (`Sanctioned`), and once.
-/
import NovaLabs.AccessControl.Multisig

namespace AccessControl

open Lib Soroban

/-! ## Events -/

/-- The call `e` creates the proposal `id`, under the configuration `cfg`; the terms of the record
    `p` come from there. -/
structure Creates (e : Ev) (id : ℕ) (cfg : MultiSigConfig) (p : PendingProposal) : Prop where
  call : e.inp.call = .createProposal p.proposer p.action
  inForce : e.pre.multiSigConfig = some cfg
  fresh : e.pre.proposals.lookup id = none
  stored : ∃ p₀, e.post.proposals.lookup id = some p₀
  required : p.requiredSignatures = cfg.getRequiredSignatures p.action.classifyType
  expiry : p.expiry = e.inp.env.now + cfg.proposalExpiryDuration
  timeLock : p.timeLockUntil = if p.action.classifyType.requiresTimeLock
    then some (e.inp.env.now + cfg.timeLockDuration) else none

/-- The call `e` records the approval of the proposal `id` by `a`, then an admin. -/
structure Approves (e : Ev) (id : ℕ) (a : Address) : Prop where
  before : ∀ p, e.pre.proposals.lookup id = some p → a ∉ p.approvals
  after : ∃ p, e.post.proposals.lookup id = some p ∧ a ∈ p.approvals
  member : ∃ cfg, e.pre.multiSigConfig = some cfg ∧ a ∈ cfg.admins

/-- The history `tr` accounts for the record `p` at `id`. -/
structure Attested (tr : List Ev) (id : ℕ) (p : PendingProposal) : Prop where
  nodup : p.approvals.Nodup
  created : ∃ e ∈ tr, ∃ cfg, Creates e id cfg p
  approved : ∀ a ∈ p.approvals, ∃ e ∈ tr, Approves e id a

variable {env : CallEnv} {s s' : State} {c : Call} {tr tr' tr₁ tr₂ : List Ev} {id : ℕ}
  {p : PendingProposal} {e : Ev}

theorem Attested.mono (h : Attested tr id p) (ht : tr ⊆ tr') : Attested tr' id p where
  nodup := h.nodup
  created := by
    obtain ⟨e, he, hc⟩ := h.created
    exact ⟨e, ht he, hc⟩
  approved a ha := by
    obtain ⟨e, he, hc⟩ := h.approved a ha
    exact ⟨e, ht he, hc⟩

/-- Rejections and execution do not touch what is attested. -/
theorem Attested.update (h : Attested tr id p) (rejections : List Address) (executed : Bool) :
    Attested tr id { p with rejections, executed } where
  nodup := h.nodup
  created := by
    obtain ⟨e, he, cfg, hc⟩ := h.created
    exact ⟨e, he, cfg, hc.call, hc.inForce, hc.fresh, hc.stored, hc.required, hc.expiry,
      hc.timeLock⟩
  approved := h.approved

theorem isAdmin_iff {cfg : MultiSigConfig} (h : s.multiSigConfig = some cfg) {a : Address} :
    s.IsAdmin a ↔ a ∈ cfg.admins := by
  simp [State.IsAdmin, h]

/-- A vote attests the record that it leaves, executed or not. -/
theorem Vote.attested {s₁ : State} (hv : Vote env s c id p s₁) (hs : Sound s)
    (ho : ∀ p₀, s.proposals.lookup id = some p₀ → Attested tr id p₀) {p' : PendingProposal}
    (hpost : s'.proposals.lookup id = some p') (happ : p'.approvals = p.approvals) :
    Attested (tr ++ [⟨s, ⟨env, c⟩, s'⟩]) id p := by
  obtain ⟨cfg, hcfg⟩ := hs.enabled
  cases hv with
  | @create proposer action c _ ha hc _ _ hp =>
    subst hp
    refine ⟨List.nodup_singleton _, ⟨_, List.mem_concat_self, c, rfl, hc, hs.numbered.fresh,
      ⟨p', hpost⟩, rfl, rfl, rfl⟩, fun a hmem => ⟨_, List.mem_concat_self, fun p₀ hp₀ => ?_,
        ⟨p', hpost, happ ▸ hmem⟩, c, hc, ?_⟩⟩
    · rw [hs.numbered.fresh] at hp₀; cases hp₀
    · rw [List.mem_singleton.1 hmem]; exact (isAdmin_iff hc).1 ha
  | @approve a _ p₀ hp =>
    have hatt := (ho p₀ hp.stored).mono
      (List.subset_append_left tr [⟨s, ⟨env, .approveProposal a id⟩, s'⟩])
    refine ⟨?_, ?_, fun b hmem => ?_⟩
    · exact hatt.nodup.append (List.nodup_singleton a) (by simpa using hp.notApproved)
    · obtain ⟨e, he, cfg, hc⟩ := hatt.created
      exact ⟨e, he, cfg, hc.call, hc.inForce, hc.fresh, hc.stored, hc.required, hc.expiry,
        hc.timeLock⟩
    · rcases List.mem_append.1 hmem with hb | hb
      · exact hatt.approved b hb
      · obtain rfl := List.mem_singleton.1 hb
        refine ⟨_, List.mem_concat_self, fun p₁ hp₁ => ?_, ⟨p', hpost, happ ▸ hmem⟩, cfg, hcfg,
          (isAdmin_iff hcfg).1 hp.admin⟩
        rw [hp.stored] at hp₁; cases hp₁
        exact hp.notApproved

/-! ## The invariant of runs -/

/-- The history accounts for every stored proposal. -/
def Recorded (tr : List Ev) (s : State) : Prop :=
  ∀ id p, s.proposals.lookup id = some p → Attested tr id p

theorem Recorded.step {i : Input} (hr : Recorded tr s) (hs : Sound s) (h : Steps s i s') :
    Recorded (tr ++ [⟨s, i, s'⟩]) s' := by
  intro id p hp
  have hrec := step_record h id
  rw [hp] at hrec
  have hsub := List.subset_append_left tr [⟨s, i, s'⟩]
  generalize ho : some p = o at hrec
  cases hrec with
  | same => exact (hr id p ho.symm).mono hsub
  | vote hv => cases ho; exact hv.attested hs (hr id) hp rfl
  | execute hv =>
    cases ho
    exact (hv.attested hs (hr id) hp rfl).update _ _
  | reject hv => cases ho; exact ((hr id _ hv.stored).mono hsub).update _ _
  | remove => cases ho

theorem MultisigRun.recorded (h : MultisigRun tr s) : Recorded tr s :=
  (h.induct (fun c _ id p hp => by simp [State.startMultisig] at hp)
    fun _ _ _ _ hs hr hst => hr.step hs hst).2

/-! ## Executions -/

/-- What entitles the call `e` to execute the proposal `id`, with the record `p`, after the history
    `tr`. -/
structure Sanctioned (tr : List Ev) (e : Ev) (id : ℕ) (p : PendingProposal) : Prop where
  /-- the approvals are distinct, and each approver was an admin when it approved -/
  nodup : p.approvals.Nodup
  approved : ∀ a ∈ p.approvals, ∃ e' ∈ tr, Approves e' id a
  /-- they are as many as the configuration at creation asks for, and its time-lock has passed -/
  created : ∃ e₀ ∈ tr, ∃ cfg, Creates e₀ id cfg p ∧
    cfg.getRequiredSignatures p.action.classifyType ≤ p.approvals.length ∧
    (p.action.classifyType = .critical ∨ p.action.classifyType = .timeLocked →
      e₀.inp.env.now + cfg.timeLockDuration ≤ e.inp.env.now)
  inTime : e.inp.env.now ≤ p.expiry

theorem Executes.sanctioned (hx : Executes e id p) (h : MultisigRun (tr₁ ++ e :: tr₂) s) :
    Sanctioned (tr₁ ++ [e]) e id p := by
  have hatt := h.head.recorded id p hx.stored
  obtain ⟨p₁, s₁, -, hexec, rfl, -⟩ := hx.cases h.split.2.1
  obtain ⟨e₀, he₀, cfg, hc⟩ := hatt.created
  refine ⟨hatt.nodup, hatt.approved, ⟨e₀, he₀, cfg, hc, hc.required ▸ hexec.signed, fun ht => ?_⟩,
    hexec.inTime⟩
  have hlock := hexec.unlocked
  have hreq : p₁.action.classifyType.requiresTimeLock = true := by
    rcases ht with ht | ht <;>
      · change p₁.action.classifyType = _ at ht
        rw [ht]; rfl
  rw [timeLockPassed, show p₁.timeLockUntil = _ from hc.timeLock, if_pos hreq] at hlock
  simpa using hlock

/-- An executed proposal keeps its record. -/
theorem executed_run (h : Run Steps s tr s') (hs : Sound s)
    (hp : s.proposals.lookup id = some p) (he : p.executed = true) :
    s'.proposals.lookup id = some p := by
  refine hs.invariant (P := fun s => s.proposals.lookup id = some p)
    (fun s i s' hs hp hst => ?_) h hp
  have hrec := step_record hst id
  generalize s'.proposals.lookup id = o at hrec ⊢
  cases hrec with
  | same => exact hp
  | vote hv => rw [hv.pre_pending hs.numbered hp] at he; cases he
  | execute hv => rw [hv.pre_pending hs.numbered hp] at he; cases he
  | reject hv => rw [hv.stored] at hp; cases hp; rw [hv.pending] at he; cases he
  | remove hp' he' => rw [hp'] at hp; cases hp; rw [he'] at he; cases he

theorem executes_once (h : MultisigRun (tr₁ ++ e :: tr₂) s) (hx : Executes e id p) :
    ∀ e' ∈ tr₂, ∀ p', ¬ Executes e' id p' := by
  intro e' he' p' hx'
  obtain ⟨-, -, h₂⟩ := h.split
  obtain ⟨tr₃, tr₄, rfl⟩ := List.append_of_mem he'
  have hlater := executed_run h₂.split.1 h.head.sound hx.stored hx.executed
  have hexec := hx.executed
  rw [hx'.before p hlater] at hexec
  cases hexec

theorem apply_settings {t : State} (h : s.settings = t.settings) (a : ProposalAction) :
    (s.apply a).settings = (t.apply a).settings := by
  simp only [State.settings, Prod.mk.injEq] at h
  obtain ⟨h₁, h₂, h₃, h₄⟩ := h
  cases a with
  | addAdmin | removeAdmin =>
    unfold State.apply
    rw [h₃]
    cases t.multiSigConfig <;> simp [State.settings, State.assign, h₁, h₂, h₃, h₄]
  | _ => simp [State.apply, State.settings, State.assign, h₁, h₂, h₃, h₄]

/-- An execution makes the settings those that the action asks for. -/
theorem Executes.settings (hx : Executes e id p) (h : Steps e.pre e.inp e.post) :
    e.post.settings = (e.pre.apply p.action).settings := by
  obtain ⟨p₁, s₁, hv, -, rfl, hpost⟩ := hx.cases h
  rw [hpost]
  exact apply_settings (s := s₁.put id { p₁ with executed := true }) (t := e.pre) hv.frame.1
    p₁.action

/-- Config, Paused, MultiSigConfig and EmergencyMode change only in executions that the history
    sanctions, and no proposal is executed twice. -/
structure MultisigSafety (tr : List Ev) : Prop where
  change : ∀ tr₁ e tr₂, tr = tr₁ ++ e :: tr₂ → e.post.settings ≠ e.pre.settings →
    ∃ id p, Executes e id p ∧ Sanctioned (tr₁ ++ [e]) e id p ∧
      e.post.settings = (e.pre.apply p.action).settings
  once : ∀ tr₁ e tr₂ id p, tr = tr₁ ++ e :: tr₂ → Executes e id p →
    ∀ e' ∈ tr₂, ∀ p', ¬ Executes e' id p'

/-- **Multisig safety.** -/
theorem multisig_safety (h : MultisigRun tr s) : MultisigSafety tr where
  change tr₁ e tr₂ htr hne := by
    subst htr
    obtain ⟨h₁, hs, -⟩ := h.split
    obtain ⟨id, p, hx⟩ :=
      settings_change h₁.sound.toMultisigState h₁.sound.numbered hs hne
    exact ⟨id, p, hx, hx.sanctioned h, hx.settings hs⟩
  once tr₁ e tr₂ id p htr hx := by
    subst htr; exact executes_once h hx

/-- Three admins, of whom two pause the contract after the time-lock. -/
theorem multisig_safety_pause : ∃ tr s, MultisigSafety tr ∧ tr.length = 2 ∧ s.paused = true ∧
    Run Steps (multisigStart [⟨1⟩, ⟨2⟩, ⟨3⟩] 1) tr s :=
  let calls := callsAt [(0, .createProposal ⟨1⟩ .pause), (86400, .approveProposal ⟨2⟩ 0)]
  ⟨_, _, multisig_safety (multisigRun_calls (by decide) calls), rfl, by decide, run_calls _ calls⟩

end AccessControl
