/-
  Whether rejections remove a proposal.

  The vote that crosses the threshold removes the proposal and then returns an error, which the
  interface turns into a panic, so the removal is taken back.  While a proposal is in time, only
  its proposer's cancellation removes it (`rejection_effective`).
-/
import NovaLabs.AccessControl.Execution

namespace AccessControl

open Lib Soroban

variable {s s' : State} {tr tr₀ : List Ev} {id : ℕ} {p : PendingProposal} {i : Input}

/-! ## How a record goes, and that it stays away -/

/-- The call `i` is its proposer's cancellation of the proposal `id`, in time to be one. -/
def Cancels (s : State) (i : Input) (id : ℕ) : Prop :=
  ∃ p, s.proposals.lookup id = some p ∧ p.executed = false ∧
    i.call = .cancelProposal p.proposer id

/-- A proposal in time stays stored through any call but a cancellation. -/
theorem stored_step (h : Steps s i s') (hn : Numbered s) (hp : s.proposals.lookup id = some p)
    (ht : i.env.now ≤ p.expiry) (hc : ¬ Cancels s i id) :
    ∃ q, s'.proposals.lookup id = some q ∧ q.expiry = p.expiry := by
  have hrec := step_record h id
  generalize s'.proposals.lookup id = o at hrec
  have hvote {q : PendingProposal} {s₁ : State} (hv : Vote i.env s i.call id q s₁) :
      q.expiry = p.expiry := by
    generalize i.call = c at hv
    cases hv with
    | create => rw [hn.fresh] at hp; cases hp
    | approve hv => rw [hv.stored] at hp; cases hp; rfl
  cases hrec with
  | same => exact ⟨p, hp, rfl⟩
  | vote hv => exact ⟨_, rfl, hvote hv⟩
  | execute hv => have he := hvote hv; exact ⟨_, rfl, he⟩
  | reject hv => rw [hv.stored] at hp; cases hp; exact ⟨_, rfl, rfl⟩
  | remove hp' he hwhy =>
    rw [hp'] at hp; cases hp
    rcases hwhy with hcall | hlate
    · exact absurd ⟨p, hp', he, hcall⟩ hc
    · exact absurd hlate (not_lt.2 ht)

theorem counter_run (h : Run Steps s tr s') (hs : Sound s) :
    s.proposalCounter ≤ s'.proposalCounter :=
  hs.invariant (P := fun t => s.proposalCounter ≤ t.proposalCounter)
    (fun _ _ _ ht hle hst => hle.trans (ht.counter_le ht.numbered (step_effect hst))) h le_rfl

/-- An id that was given away and is not stored stays so. -/
theorem gone_step (h : Steps s i s') (hid : id < s.proposalCounter)
    (hp : s.proposals.lookup id = none) : s'.proposals.lookup id = none := by
  have hrec := step_record h id
  generalize s'.proposals.lookup id = o at hrec ⊢
  have hvote {q : PendingProposal} {s₁ : State} (hv : Vote i.env s i.call id q s₁) : False := by
    generalize i.call = c at hv
    cases hv with
    | create => exact lt_irrefl _ hid
    | approve hv => rw [hv.stored] at hp; cases hp
  cases hrec with
  | same => exact hp
  | vote hv => exact (hvote hv).elim
  | execute hv => exact (hvote hv).elim
  | reject hv => rw [hv.stored] at hp; cases hp
  | remove => rfl

theorem gone_run (h : Run Steps s tr s') (hs : Sound s) (hid : id < s.proposalCounter)
    (hp : s.proposals.lookup id = none) : s'.proposals.lookup id = none := by
  induction h with
  | nil => exact hp
  | snoc hr hst ih => exact gone_step hst (hid.trans_le (counter_run hr hs)) ih

/-! ## Rejections -/

/-- The calls `tr`, from `s` on and while the proposal `p` at `id` is in time, include rejections
    of it by more admins that have not approved it than it may survive. -/
structure OverRejected (s : State) (tr : List Ev) (id : ℕ) (p : PendingProposal) : Prop where
  stored : s.proposals.lookup id = some p
  pending : p.executed = false
  inTime : ∀ e ∈ tr, e.inp.env.now ≤ p.expiry
  votes : ∃ cfg, s.multiSigConfig = some cfg ∧ ∃ rejecters : List Address, rejecters.Nodup ∧
    cfg.rejectionThreshold < rejecters.length ∧ ∀ a ∈ rejecters, a ∈ cfg.admins ∧
      a ∉ p.approvals ∧ ∃ e ∈ tr, e.inp.call = .rejectProposal a id

/-- The proposal `id` is not stored, and no later call executes it. -/
structure Rejected (s : State) (id : ℕ) : Prop where
  gone : s.proposals.lookup id = none
  never : ∀ tr s', Run Steps s tr s' → ∀ e ∈ tr, ∀ p, ¬ Executes e id p

theorem rejected_iff (hs : Sound s) (hid : id < s.proposalCounter) :
    Rejected s id ↔ s.proposals.lookup id = none := by
  refine ⟨Rejected.gone, fun hp => ⟨hp, fun tr s' hr e he q hx => ?_⟩⟩
  obtain ⟨tr₁, tr₂, rfl⟩ := List.append_of_mem he
  obtain ⟨hr₁, hst, -⟩ := hr.split
  have hgone := gone_run (hr₁.snoc hst) hs hid hp
  rw [hx.stored] at hgone
  cases hgone

/-- A proposal in time is stored until it is cancelled. -/
theorem stored_run (h : Run Steps s tr s') (hs : Sound s) (hp : s.proposals.lookup id = some p)
    (ht : ∀ e ∈ tr, e.inp.env.now ≤ p.expiry) (hc : ∀ e ∈ tr, ¬ Cancels e.pre e.inp id) :
    ∃ q, s'.proposals.lookup id = some q := by
  have hrun := h.invariant
    (P := fun s => Sound s ∧ ∃ q, s.proposals.lookup id = some q ∧ q.expiry = p.expiry)
    (C := fun e => e.inp.env.now ≤ p.expiry ∧ ¬ Cancels e.pre e.inp id)
    (fun e ⟨hs, q, hq, hexp⟩ hst ⟨ht, hc⟩ => ?_) ⟨hs, p, hp, rfl⟩ fun e he => ⟨ht e he, hc e he⟩
  · obtain ⟨q, hq, -⟩ := hrun.2
    exact ⟨q, hq⟩
  · rw [← hexp]
    exact ⟨hs.step hst, stored_step hst hs.numbered hq (hexp ▸ ht) hc⟩

theorem Cancels.gone (h : Cancels s i id) (hst : Steps s i s') :
    s'.proposals.lookup id = none := by
  obtain ⟨p, hp, he, hcall⟩ := h
  have hret : Returns (i.call.run i.env) s () (s.drop id s.proposalStats) := by
    rw [hcall]; exact cancelProposal_returns.2 ⟨p, hp, rfl, he, rfl⟩
  rw [hst, next, hret.commit_eq, drop_proposals, Finmap.lookup_erase]

/-- **Rejections over the threshold remove a proposal exactly where its proposer cancels it.** -/
theorem rejection_effective (h : MultisigRun tr₀ s) (hv : OverRejected s tr id p)
    (hr : Run Steps s tr s') : Rejected s' id ↔ ∃ e ∈ tr, Cancels e.pre e.inp id := by
  have hid := h.sound.numbered id p hv.stored
  constructor
  · intro hrej
    by_contra hc
    obtain ⟨q, hq⟩ := stored_run hr h.sound hv.stored hv.inTime fun e he hce => hc ⟨e, he, hce⟩
    rw [hrej.gone] at hq
    cases hq
  · rintro ⟨e, he, hc⟩
    obtain ⟨tr₁, tr₂, rfl⟩ := List.append_of_mem he
    obtain ⟨hr₁, hst, hr₂⟩ := hr.split
    have hid₁ := hid.trans_le (counter_run (hr₁.snoc hst) h.sound)
    have hs₂ := h.sound.run (hr₁.snoc hst)
    exact (rejected_iff (h.sound.run hr) (hid.trans_le (counter_run hr h.sound))).2
      (gone_run hr₂ hs₂ hid₁ (hc.gone hst))

/-- The second and the third of three admins reject a proposal of the first. -/
def rejections : List (ℕ × Call) := [(1, .rejectProposal ⟨2⟩ 0), (1, .rejectProposal ⟨3⟩ 0)]

theorem overRejected_pause {cs : List (ℕ × Call)} (h : ∀ c ∈ cs, c.1 ≤ 604800) :
    OverRejected (pauseApproved [])
      (eventsFrom next (pauseApproved []) (callsAt (rejections ++ cs))) 0 (pauseProposal [⟨1⟩]) where
  stored := by decide
  pending := rfl
  inTime e he := by
    obtain ⟨c, hc, hce⟩ := List.mem_map.1 (inp_mem_of_eventsFrom he)
    rw [← hce]
    rcases List.mem_append.1 hc with hc | hc
    · exact (by decide : ∀ c ∈ rejections, c.1 ≤ 604800) c hc
    · exact h c hc
  votes := by
    refine ⟨threeAdmins, rfl, [⟨2⟩, ⟨3⟩], by decide, by decide, ?_⟩
    intro a ha
    simp only [List.mem_cons, List.not_mem_nil, or_false] at ha
    rcases ha with rfl | rfl
    · exact ⟨by decide, by decide, _, .head _, rfl⟩
    · exact ⟨by decide, by decide, _, .tail _ (.head _), rfl⟩

def cancelCalls : List Input := callsAt (rejections ++ [(2, .cancelProposal ⟨1⟩ 0)])

/-- The proposer cancels after the rejections. -/
theorem rejection_effective_cancelled : ∃ tr, tr.map Event.inp = cancelCalls ∧
    OverRejected (pauseApproved []) tr 0 (pauseProposal [⟨1⟩]) ∧
    Run Steps (pauseApproved []) tr (cancelCalls.foldl next (pauseApproved [])) ∧
    Rejected (cancelCalls.foldl next (pauseApproved [])) 0 :=
  have hv : OverRejected (pauseApproved []) (eventsFrom next (pauseApproved []) cancelCalls) 0
      (pauseProposal [⟨1⟩]) := overRejected_pause (by decide)
  have hr := run_calls (pauseApproved []) cancelCalls
  ⟨_, map_inp_eventsFrom _ _ _, hv, hr,
    (rejection_effective (multisigRun_calls (by decide) _) hv hr).2
      ⟨_, .tail _ (.tail _ (.head _)), { pauseProposal [⟨1⟩] with rejections := [⟨2⟩] },
        by decide, rfl, rfl⟩⟩

/-- **Two rejections by the other two of three admins leave the proposal stored.** -/
theorem rejected_stays : ¬ ∀ tr₀ s tr s' id p, MultisigRun tr₀ s → OverRejected s tr id p →
    Run Steps s tr s' → Rejected s' id := by
  intro hall
  have hrej := hall _ _ _ _ 0 _ (multisigRun_calls (by decide) _) (overRejected_pause (by simp))
    (run_calls _ (callsAt (rejections ++ [])))
  exact absurd hrej.gone (by decide)

end AccessControl
