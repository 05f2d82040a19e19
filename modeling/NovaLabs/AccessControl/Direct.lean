/-
  Roles and blacklist in multisig mode.

  Four actions of proposals write them, and so do four calls of a single admin (`Direct`), which
  multisig mode does not disable.  Every change goes through a proposal exactly in the runs in
  which no such call writes (`rights_by_proposal`).
-/
import NovaLabs.AccessControl.History

namespace AccessControl

open Lib Soroban

/-- The actions that write roles or the blacklist. -/
def ProposalAction.WritesRights : ProposalAction → Prop
  | .setRole _ _ | .addAdmin _ | .removeAdmin _ | .batchBlacklist _ => True
  | _ => False

/-- Roles and blacklist change only in executions that the history sanctions. -/
def RightsByProposal (tr : List Ev) : Prop :=
  ∀ tr₁ e tr₂, tr = tr₁ ++ e :: tr₂ → e.post.rights ≠ e.pre.rights →
    ∃ id p, Executes e id p ∧ p.action.WritesRights ∧ Sanctioned (tr₁ ++ [e]) e id p

/-- What a direct call writes differs from what is stored. -/
def Call.Overwrites (s : State) : Call → Prop
  | .setRole _ user role => s.userRole.lookup user ≠ some role
  | .removeRole _ user => s.userRole.lookup user ≠ some .guest
  | .blacklistUser _ user => user ∉ s.blacklisted
  | .unblacklistUser _ user => user ∈ s.blacklisted
  | _ => False

/-- The call passes the checks of `set_role`, `remove_role`, `blacklist_user` or
    `unblacklist_user`, and writes something new. -/
def DirectWrite (e : Ev) : Prop :=
  e.inp.call.Overwrites e.pre ∧ ∃ s', Direct e.inp.env e.pre e.inp.call s'

variable {env : CallEnv} {s s' : State} {c : Call} {tr : List Ev} {e : Ev} {id : ℕ}
  {p : PendingProposal}

theorem apply_rights {a : ProposalAction} (h : ¬ a.WritesRights) :
    (s.apply a).rights = s.rights := by
  cases a with
  | setRole | addAdmin | removeAdmin | batchBlacklist => exact absurd trivial h
  | _ => rfl

/-- A direct call executes no proposal. -/
theorem Direct.not_executes (h : Direct e.inp.env e.pre e.inp.call e.post) :
    ¬ Executes e id p := by
  intro hx
  have hstored := hx.stored
  rw [h.frame.2.2.1] at hstored
  have hexec := hx.executed
  rw [hx.before p hstored] at hexec
  cases hexec

theorem assign_rights {user : Address} {role : UserRole} :
    (s.assign user role).rights ≠ s.rights ↔ s.userRole.lookup user ≠ some role := by
  simp only [State.rights, State.assign, ne_eq, Prod.mk.injEq, and_true, Store.insert_eq_self]

theorem Direct.overwrites (h : Direct env s c s') : s'.rights ≠ s.rights ↔ c.Overwrites s := by
  cases h with
  | setRole => exact assign_rights
  | removeRole => exact assign_rights
  | blacklistUser =>
    simp only [State.rights, State.ban, ne_eq, Prod.mk.injEq, true_and, Finset.insert_eq_self,
      Call.Overwrites]
  | unblacklistUser =>
    simp only [State.rights, State.unban, ne_eq, Prod.mk.injEq, true_and, Finset.erase_eq_self,
      Call.Overwrites, not_not]

/-- **Roles and blacklist change by proposals only, exactly where no direct call writes.** -/
theorem rights_by_proposal (h : MultisigRun tr s) :
    RightsByProposal tr ↔ ∀ e ∈ tr, ¬ DirectWrite e := by
  constructor
  · rintro hr e he ⟨hw, s', hd⟩
    obtain ⟨tr₁, tr₂, rfl⟩ := List.append_of_mem he
    have hpost : e.post = s' := h.split.2.1.trans hd.returns.commit_eq
    subst hpost
    obtain ⟨id, p, hx, -⟩ := hr tr₁ e tr₂ rfl (hd.overwrites.2 hw)
    exact hd.not_executes hx
  · rintro hn tr₁ e tr₂ rfl hne
    obtain ⟨h₁, hs, -⟩ := h.split
    rcases h₁.sound.toMultisigState.step (step_effect hs) with ⟨_, hl⟩ | hd | hp
    · exact absurd (by rw [hl]; rfl) hne
    · exact absurd ⟨hd.overwrites.1 hne, e.post, hd⟩ (hn e (by simp))
    · rcases hp.frame with ⟨-, hrights⟩ | ⟨id, p, s₁, hv, -, hpost⟩
      · exact absurd hrights hne
      · have hx : Executes e id { p with executed := true } := by
          have hx := executes_execute h₁.sound.numbered hv
          rwa [← hpost] at hx
        refine ⟨id, _, hx, ?_, hx.sanctioned h⟩
        by_contra hw
        refine hne ?_
        rw [hpost, ← hv.frame.2.1]
        exact apply_rights (s := s₁.put id { p with executed := true }) hw

theorem rights_by_proposal_setRole : ∃ tr s, RightsByProposal tr ∧ tr.length = 2 ∧
    getRole s ⟨3⟩ = .member ∧ Run Steps (multisigStart [⟨1⟩, ⟨2⟩] 2) tr s := by
  let calls := callsAt [(0, .createProposal ⟨1⟩ (.setRole ⟨3⟩ .member)),
    (1, .approveProposal ⟨2⟩ 0)]
  refine ⟨_, _, (rights_by_proposal (multisigRun_calls (by decide) calls)).2 ?_, rfl, by decide,
    run_calls _ calls⟩
  rintro e (_ | ⟨_, _ | ⟨_, he⟩⟩) ⟨hw, -⟩
  · exact hw
  · exact hw
  · cases he

/-- **One admin of three, two of whom have to approve, makes anyone an admin.** -/
theorem rights_not_by_proposal : ¬ ∀ tr s, MultisigRun tr s → RightsByProposal tr := by
  intro hall
  have hinit : (multisigStart [⟨1⟩, ⟨2⟩, ⟨3⟩] 2).initialized = true := by decide
  have h := multisigRun_calls hinit (callsAt [(1, .setRole ⟨1⟩ ⟨9⟩ .admin)])
  obtain ⟨id, p, hx, -⟩ := hall _ _ h [] _ [] rfl fun hr =>
    absurd (congrArg (fun r => r.1.lookup ⟨9⟩) hr) (by decide)
  refine Direct.not_executes ?_ hx
  exact .setRole rfl rfl (by decide) ((isAdmin_iff rfl).2 (by decide)) fun hm =>
    absurd hm.1 (by decide)

end AccessControl
