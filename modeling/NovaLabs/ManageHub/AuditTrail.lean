/-
  The audit trail of the versions of tokens.

  Every new version of a token goes with a snapshot of the old one and a record in the history, in
  single upgrades, batches and rollbacks alike; all other calls leave version, snapshots and history
  alone.  So the history tells the versions that a token has had, and a rollback finds in a snapshot
  what the token was when it left a version.
-/
import NovaLabs.ManageHub.TokenChanges

namespace ManageHub

open Lib Soroban

variable {me : Address}

/-! ## Leaving a version -/

/-- The token is `old`, and then is at another version. -/
def Leaves (s s' : State) (id : TokenId) (old : MembershipToken) : Prop :=
  s.get (.token id) = some old ∧
    ∃ token, s'.get (.token id) = some token ∧ token.currentVersion ≠ old.currentVersion

/-- The states that a call leads through: a batch of upgrades takes its tokens one by one. -/
def stage (ev : Ev me) (k : ℕ) : State :=
  match ev.inp.call with
  | .batchUpgradeTokens admin tokenIds label newExpiryDate =>
    commit (batchUpgradeTokens ev.inp.env admin (tokenIds.take k) label newExpiryDate) ev.pre.state
  | _ => if k = 0 then ev.pre.state else ev.post.state

/-- The token was `old` when it left the version of that. -/
def Left (tr : List (Ev me)) (id : TokenId) (old : MembershipToken) : Prop :=
  ∃ ev ∈ tr, ∃ k, Leaves (stage ev k) (stage ev (k + 1)) id old

theorem left_snoc {tr : List (Ev me)} {ev : Ev me} {id : TokenId} {old : MembershipToken} :
    Left (tr ++ [ev]) id old ↔
      Left tr id old ∨ ∃ k, Leaves (stage ev k) (stage ev (k + 1)) id old := by
  constructor
  · rintro ⟨ev', hev, hk⟩
    rcases List.mem_append.1 hev with hev | hev
    · exact Or.inl ⟨ev', hev, hk⟩
    · obtain rfl := List.mem_singleton.1 hev
      exact Or.inr hk
  · rintro (⟨ev', hev, hk⟩ | hk)
    · exact ⟨ev', List.mem_append_left _ hev, hk⟩
    · exact ⟨ev, List.mem_append_right _ (.head _), hk⟩

/-! ## Changes of versions -/

/-- The snapshot has what the token is. -/
structure TokenVersionSnapshot.Of (snapshot : TokenVersionSnapshot) (token : MembershipToken) :
    Prop where
  expiryDate : snapshot.expiryDate = token.expiryDate
  status : snapshot.status = token.status
  tierId : snapshot.tierId = token.tierId

/-- The token goes from `token` to its next version `updated`. -/
structure Advances (s s' : State) (id : TokenId) (token updated : MembershipToken)
    (snapshot : TokenVersionSnapshot) (record : UpgradeRecord) : Prop where
  stored : s.get (.token id) = some token
  upgradable : token.upgradable = true
  version : updated.currentVersion = token.currentVersion + 1
  captured : snapshot.Of token
  recorded : record.fromVersion = token.currentVersion ∧ record.toVersion = updated.currentVersion
  tokens : ∀ id', s'.get (.token id') = if id' = id then some updated else s.get (.token id')
  snapshots : ∀ id' v, s'.get (.versionSnapshot id' v) =
    if id' = id ∧ v = token.currentVersion then some snapshot else s.get (.versionSnapshot id' v)
  upgrades : ∀ id', s'.upgrades id' =
    if id' = id then s.upgrades id ++ [record] else s.upgrades id'

/-- No token goes to another version. -/
structure KeepsVersions (s s' : State) : Prop where
  tokens : TokensChange s s'
  snapshots : ∀ id v, s'.get (.versionSnapshot id v) = s.get (.versionSnapshot id v)
  upgrades : ∀ id, s'.upgrades id = s.upgrades id

/-- At most one token goes to its next version. -/
def VersionStep (s s' : State) : Prop :=
  KeepsVersions s s' ∨ ∃ id token updated snapshot record,
    Advances s s' id token updated snapshot record

section
variable {env : HubEnv me} {s s' : State} {admin : Address} {id : TokenId}
  {token updated : MembershipToken} {label : Option String} {expiry : Option ℕ}
  {isRollback : Bool}

/-- The version of a token, 0 if there is none. -/
def State.versionOf (s : State) (id : TokenId) : ℕ :=
  (s.get (.token id)).elim 0 (·.currentVersion)

theorem versionOf_some (h : s.get (.token id) = some token) :
    s.versionOf id = token.currentVersion := by
  rw [State.versionOf, h, Option.elim_some]

theorem TokenChange.version_eq {o o' : Option MembershipToken} (h : TokenChange o o') :
    o'.elim 0 (·.currentVersion) = o.elim 0 (·.currentVersion) := by
  cases h <;> rfl

theorem TokensChange.versionOf_eq (h : TokensChange s s') (id : TokenId) :
    s'.versionOf id = s.versionOf id := by
  have hid := h id
  unfold State.versionOf
  generalize s'.get (.token id) = o at hid
  induction hid with
  | refl => rfl
  | tail _ hc ih => rw [hc.version_eq, ih]

theorem KeepsVersions.rfl : KeepsVersions s s :=
  ⟨TokensChange.rfl, fun _ _ => Eq.refl _, fun _ => Eq.refl _⟩

theorem advances_versioned (ht : s.get (.token id) = some token) (hv : token.upgradable = true)
    (hu : updated.currentVersion = token.currentVersion + 1) :
    Advances s (s.versioned env admin id token updated label isRollback) id token updated
      (captureSnapshot env token label)
      (upgradeRecord env admin id token updated label isRollback) where
  stored := ht
  upgradable := hv
  version := hu
  captured := ⟨rfl, rfl, rfl⟩
  recorded := ⟨rfl, rfl⟩
  tokens _ := versioned_token
  snapshots _ _ := versioned_snapshot
  upgrades _ := versioned_upgrades

theorem versionStep_upgraded : VersionStep s (s.upgraded env admin label expiry id) := by
  unfold State.upgraded
  cases h : (s.get (.token id)).filter (·.upgradable) with
  | none => exact Or.inl .rfl
  | some token =>
    obtain ⟨ht, hv⟩ := Option.filter_eq_some_iff.1 h
    exact Or.inr ⟨id, token, _, _, _, advances_versioned ht hv rfl⟩

theorem KeepsVersions.not_leaves (h : KeepsVersions s s') {old : MembershipToken} :
    ¬ Leaves s s' id old := by
  rintro ⟨ho, token, ht, hne⟩
  have hv := h.tokens.versionOf_eq id
  rw [versionOf_some ho, versionOf_some ht] at hv
  exact hne hv

theorem Advances.leaves {snapshot : TokenVersionSnapshot} {record : UpgradeRecord}
    (h : Advances s s' id token updated snapshot record) {id' : TokenId} {old : MembershipToken} :
    Leaves s s' id' old ↔ id' = id ∧ old = token := by
  constructor
  · rintro ⟨ho, token', ht, hne⟩
    rw [h.tokens] at ht
    split_ifs at ht with he
    · subst he
      exact ⟨rfl, Option.some.inj (ho.symm.trans h.stored)⟩
    · rw [ho] at ht
      exact absurd (congrArg _ (Option.some.inj ht)).symm hne
  · rintro ⟨rfl, rfl⟩
    refine ⟨h.stored, updated, by rw [h.tokens, if_pos rfl], ?_⟩
    rw [h.version]
    exact Nat.succ_ne_self _

end

/-! ## The stages of a call -/

section
variable {w w' : World} {i : Input me} {expiry : Option ℕ} {ids : List TokenId}

/-- A batch upgrades its tokens one after the other, or none at all. -/
theorem commit_batchUpgradeTokens (env : HubEnv me) (s : State) (admin : Address)
    (label : Option String) (expiry : Option ℕ) :
    (∀ ids, commit (batchUpgradeTokens env admin ids label expiry) s =
        ids.foldl (fun s => s.upgraded env admin label expiry) s) ∨
      ∀ ids, commit (batchUpgradeTokens env admin ids label expiry) s = s := by
  by_cases hb : ∃ config, Batchable env s admin config
  · refine Or.inl fun ids => ?_
    obtain ⟨results, hr⟩ := batchUpgradeTokens_returns.2 ⟨hb, rfl⟩
    exact hr.commit_eq
  · exact Or.inr fun ids => commit_eq_self fun results _ hr =>
      hb (batchUpgradeTokens_returns.1 ⟨results, hr⟩).1

theorem stage_zero : stage ⟨w, i, w'⟩ 0 = w.state := by
  unfold stage
  split
  · rename_i admin ids label expiry hc
    rcases commit_batchUpgradeTokens i.env w.state admin label expiry with hb | hb <;> exact hb _
  · rfl

/-- A call comes to its end. -/
theorem Step.exists_stage_eq (h : Step w i w') :
    ∃ K, ∀ k, K ≤ k → stage ⟨w, i, w'⟩ k = w'.state := by
  unfold stage
  split
  · rename_i admin ids label expiry hc
    refine ⟨ids.length, fun k hk => ?_⟩
    rw [List.take_of_length_le hk, ← commit_ignore]
    exact (h.state_eq (by rw [show i.call = _ from hc]; rfl)).symm
  · exact ⟨1, fun k hk => if_neg (Nat.one_le_iff_ne_zero.1 hk)⟩

theorem versionStep_take (env : HubEnv me) (s : State) (admin : Address) (label : Option String)
    (expiry : Option ℕ) (ids : List TokenId) (k : ℕ) :
    VersionStep (commit (batchUpgradeTokens env admin (ids.take k) label expiry) s)
      (commit (batchUpgradeTokens env admin (ids.take (k + 1)) label expiry) s) := by
  rcases commit_batchUpgradeTokens env s admin label expiry with hb | hb
  · rw [hb, hb, List.take_add_one, List.foldl_append]
    cases ids[k]? with
    | none => exact Or.inl .rfl
    | some id => exact versionStep_upgraded
  · rw [hb, hb]
    exact Or.inl .rfl

/-- A call that is no batch takes at most one token to its next version. -/
theorem Step.versionStep_single (h : Step w i w')
    (hb : ∀ admin ids label expiry, i.call ≠ .batchUpgradeTokens admin ids label expiry) :
    VersionStep w.state w'.state := by
  by_cases hok : i.ok w = true
  swap
  · rw [h.state_eq_of_not_ok hok]
    exact Or.inl .rfl
  cases hc : i.call with
  | batchUpgradeTokens admin ids label expiry => exact absurd hc (hb admin ids label expiry)
  | upgradeToken caller id label expiry tierId status =>
    obtain ⟨n, hr⟩ := returns_ignore.1 ((h.ok_iff_returns (by rw [hc]; rfl)).1 hok)
    obtain ⟨config, admin, token, hup, -, hs⟩ := upgradeToken_returns.1 hr
    rw [hs]
    exact Or.inr ⟨id, token, _, _, _, advances_versioned hup.stored hup.version rfl⟩
  | rollbackTokenUpgrade admin id target =>
    obtain ⟨n, hr⟩ := returns_ignore.1 ((h.ok_iff_returns (by rw [hc]; rfl)).1 hok)
    obtain ⟨config, token, snapshot, hroll, -, hs⟩ := rollbackTokenUpgrade_returns.1 hr
    rw [hs]
    exact Or.inr ⟨id, token, _, _, _, advances_versioned hroll.stored hroll.version rfl⟩
  | _ =>
    refine Or.inl ⟨h.tokensChange (by rw [hc]; rfl), fun _ _ => h.frame (by rw [hc]; simp),
      fun id => ?_⟩
    rw [State.upgrades, h.frame (k := .upgradeHistory id) (by rw [hc]; simp), State.upgrades]

/-- The step lemma: at most one token goes to its next version in each stage of a call. -/
theorem Step.versionStep (h : Step w i w') (k : ℕ) :
    VersionStep (stage ⟨w, i, w'⟩ k) (stage ⟨w, i, w'⟩ (k + 1)) := by
  unfold stage
  split
  · exact versionStep_take ..
  · rename_i hb
    cases k with
    | zero => exact h.versionStep_single hb
    | succ k => exact Or.inl .rfl

end

/-! ## The invariant -/

/-- What version, history and snapshots of each token say, where `L id old` tells that the token was
    `old` when it left the version of that. -/
structure Audit (L : TokenId → MembershipToken → Prop) (s : State) : Prop where
  version : ∀ id, s.versionOf id = (s.upgrades id).length
  bounded : ∀ id, s.versionOf id < 2 ^ 32
  records : ∀ id k record, (s.upgrades id)[k]? = some record →
    record.fromVersion = k ∧ record.toVersion = k + 1
  snapshots : ∀ id v, (s.get (.versionSnapshot id v)).isSome ↔ v < s.versionOf id
  left : ∀ id old, L id old → ∃ snapshot,
    s.get (.versionSnapshot id old.currentVersion) = some snapshot ∧ snapshot.Of old
  came : ∀ id v, v < s.versionOf id → ∃ old, L id old ∧ old.currentVersion = v

/-- The snapshots stored stay as they are. -/
def KeepsSnapshots (s s' : State) : Prop :=
  ∀ id v snapshot, s.get (.versionSnapshot id v) = some snapshot →
    s'.get (.versionSnapshot id v) = some snapshot

theorem snoc_getElem? {α : Type} {l : List α} {a b : α} {k : ℕ} (h : (l ++ [a])[k]? = some b) :
    l[k]? = some b ∨ (k = l.length ∧ b = a) := by
  rcases Nat.lt_trichotomy k l.length with hk | rfl | hk
  · rw [List.getElem?_append_left hk] at h
    exact Or.inl h
  · rw [List.getElem?_concat_length, Option.some.injEq] at h
    exact Or.inr ⟨rfl, h.symm⟩
  · rw [List.getElem?_eq_none (by simpa using Nat.succ_le_of_lt hk)] at h
    cases h

section
variable {s s' : State} {L L' : TokenId → MembershipToken → Prop} {id : TokenId}
  {token updated : MembershipToken} {snapshot : TokenVersionSnapshot} {record : UpgradeRecord}

theorem audit_empty (h : s = ∅) : Audit (fun _ _ => False) s where
  version _ := by rw [h]; rfl
  bounded _ := by rw [h]; exact Nat.two_pow_pos 32
  records _ _ _ hr := by
    rw [h] at hr
    cases hr
  snapshots _ _ := by
    rw [h]
    exact iff_of_false (by simp) (Nat.not_lt_zero _)
  left _ _ hl := hl.elim
  came _ _ hv := by
    rw [h] at hv
    exact absurd hv (Nat.not_lt_zero _)

theorem Audit.congr (h : Audit L s) (hL : ∀ id old, L id old ↔ L' id old) : Audit L' s where
  version := h.version
  bounded := h.bounded
  records := h.records
  snapshots := h.snapshots
  left id old hl := h.left id old ((hL id old).2 hl)
  came id v hv := (h.came id v hv).imp fun old => And.imp_left (hL id old).1

theorem Audit.keeps (h : Audit L s) (hk : KeepsVersions s s') : Audit L s' where
  version id := by rw [hk.tokens.versionOf_eq, hk.upgrades, h.version]
  bounded id := by
    rw [hk.tokens.versionOf_eq]
    exact h.bounded id
  records id := by
    rw [hk.upgrades]
    exact h.records id
  snapshots id v := by
    rw [hk.tokens.versionOf_eq, hk.snapshots]
    exact h.snapshots id v
  left id old hl := by
    rw [hk.snapshots]
    exact h.left id old hl
  came id v hv := by
    rw [hk.tokens.versionOf_eq] at hv
    exact h.came id v hv

theorem Advances.versionOf_eq (ha : Advances s s' id token updated snapshot record)
    (id' : TokenId) :
    s'.versionOf id' = if id' = id then token.currentVersion + 1 else s.versionOf id' := by
  rw [State.versionOf, ha.tokens]
  split_ifs
  · rw [Option.elim_some, ha.version]
  · rfl

/-- A new version of a token keeps the snapshots, since there is none yet of the old one. -/
theorem Audit.keepsSnapshots (h : Audit L s) (ha : Advances s s' id token updated snapshot record) :
    KeepsSnapshots s s' := by
  intro id' v snapshot' hs
  rw [ha.snapshots, if_neg, hs]
  rintro ⟨rfl, rfl⟩
  have hv := (h.snapshots id' _).1 (Option.isSome_iff_exists.2 ⟨_, hs⟩)
  rw [versionOf_some ha.stored] at hv
  exact lt_irrefl _ hv

/-- A new version of a token, whose old one it leaves. -/
theorem Audit.advances (h : Audit L s) (ha : Advances s s' id token updated snapshot record) :
    Audit (fun id' old => L id' old ∨ (id' = id ∧ old = token)) s' where
  version id' := by
    rw [ha.versionOf_eq, ha.upgrades]
    split_ifs with he
    · rw [List.length_append, List.length_singleton, ← h.version, versionOf_some ha.stored]
    · exact h.version id'
  bounded id' := by
    rw [ha.versionOf_eq]
    split_ifs
    · exact of_decide_eq_true ha.upgradable
    · exact h.bounded id'
  records id' k record' hr := by
    rw [ha.upgrades] at hr
    split_ifs at hr with he
    · rcases snoc_getElem? hr with hr | ⟨rfl, rfl⟩
      · exact h.records id k record' hr
      · rw [ha.recorded.1, ha.recorded.2, ha.version, ← h.version, versionOf_some ha.stored]
        exact ⟨rfl, rfl⟩
    · exact h.records id' k record' hr
  snapshots id' v := by
    rw [ha.versionOf_eq, ha.snapshots]
    by_cases he : id' = id
    · subst he
      rw [if_pos rfl, Nat.lt_succ_iff_lt_or_eq, ← versionOf_some ha.stored, ← h.snapshots]
      split_ifs with hv
      · exact iff_of_true rfl (Or.inr hv.2)
      · exact (or_iff_left fun hv' => hv ⟨rfl, hv'⟩).symm
    · rw [if_neg he, if_neg fun hv => he hv.1]
      exact h.snapshots id' v
  left id' old hl := by
    rcases hl with hl | ⟨rfl, rfl⟩
    · obtain ⟨snapshot', hs, hof⟩ := h.left id' old hl
      exact ⟨snapshot', h.keepsSnapshots ha _ _ _ hs, hof⟩
    · exact ⟨snapshot, by rw [ha.snapshots, if_pos ⟨rfl, rfl⟩], ha.captured⟩
  came id' v hv := by
    rw [ha.versionOf_eq] at hv
    split_ifs at hv with he
    · rw [Nat.lt_succ_iff_lt_or_eq, ← versionOf_some ha.stored, ← he] at hv
      rcases hv with hv | rfl
      · exact (h.came id' v hv).imp fun old => And.imp_left Or.inl
      · exact ⟨token, Or.inr ⟨he, rfl⟩, (versionOf_some (he ▸ ha.stored)).symm⟩
    · exact (h.came id' v hv).imp fun old => And.imp_left Or.inl

/-- What is left in one stage. -/
theorem Audit.versionStep (h : Audit L s) (hv : VersionStep s s') :
    Audit (fun id old => L id old ∨ Leaves s s' id old) s' ∧ KeepsSnapshots s s' := by
  rcases hv with hk | ⟨id, token, updated, snapshot, record, ha⟩
  · refine ⟨(h.keeps hk).congr fun id old => (or_iff_left hk.not_leaves).symm, fun id v x hs => ?_⟩
    rwa [hk.snapshots]
  · exact ⟨(h.advances ha).congr fun id old => or_congr_right ha.leaves.symm, h.keepsSnapshots ha⟩

end

/-! ## Steps -/

section
variable {w w' : World} {i : Input me} {L : TokenId → MembershipToken → Prop}

theorem Step.audit_stage (h : Step w i w') (ha : Audit L w.state) (k : ℕ) :
    Audit (fun id old => L id old ∨ ∃ j < k,
        Leaves (stage ⟨w, i, w'⟩ j) (stage ⟨w, i, w'⟩ (j + 1)) id old) (stage ⟨w, i, w'⟩ k) ∧
      KeepsSnapshots w.state (stage ⟨w, i, w'⟩ k) := by
  induction k with
  | zero =>
    rw [stage_zero]
    exact ⟨ha.congr fun id old => by simp, fun _ _ _ hs => hs⟩
  | succ k ih =>
    obtain ⟨ha', hk'⟩ := ih.1.versionStep (h.versionStep k)
    refine ⟨ha'.congr fun id old => ?_, fun id v x hs => hk' id v x (ih.2 id v x hs)⟩
    rw [or_assoc]
    refine or_congr_right ?_
    constructor
    · rintro (⟨j, hj, hl⟩ | hl)
      · exact ⟨j, hj.trans (Nat.lt_succ_self k), hl⟩
      · exact ⟨k, Nat.lt_succ_self k, hl⟩
    · rintro ⟨j, hj, hl⟩
      rcases Nat.lt_succ_iff_lt_or_eq.1 hj with hj | rfl
      · exact Or.inl ⟨j, hj, hl⟩
      · exact Or.inr hl

/-- The step lemma. -/
theorem Step.audit (h : Step w i w') (ha : Audit L w.state) :
    Audit (fun id old => L id old ∨ ∃ k,
        Leaves (stage ⟨w, i, w'⟩ k) (stage ⟨w, i, w'⟩ (k + 1)) id old) w'.state ∧
      KeepsSnapshots w.state w'.state := by
  obtain ⟨K, hK⟩ := h.exists_stage_eq
  obtain ⟨ha', hk'⟩ := h.audit_stage ha K
  rw [hK K le_rfl] at ha' hk'
  refine ⟨ha'.congr fun id old => or_congr_right ?_, hk'⟩
  constructor
  · rintro ⟨j, -, hl⟩
    exact ⟨j, hl⟩
  · rintro ⟨j, hl⟩
    refine ⟨j, not_le.1 fun hj => ?_, hl⟩
    rw [hK j hj, hK (j + 1) (hj.trans j.le_succ)] at hl
    exact KeepsVersions.rfl.not_leaves hl

end

/-! ## Runs -/

/-- The admin can roll the token back, to any version it has had. -/
structure MayRollBack (env : HubEnv me) (s : State) (admin : Address) (id : TokenId)
    (token : MembershipToken) : Prop where
  authorised : admin ∈ env.auths ∧ s.get .admin = some admin
  limit : ∃ config, s.get .upgradeConfig = some config ∧ (config.maxRollbacks > 0 →
    ((s.upgrades id).filter (·.isRollback)).length < config.maxRollbacks)
  upgradable : token.upgradable = true

/-- The versions, histories and snapshots of all tokens after the events `tr`, and what a rollback
    does then. -/
structure AuditTrail (tr : List (Ev me)) (w : World) : Prop where
  versions : ∀ id token, w.state.get (.token id) = some token →
    token.currentVersion = (w.state.upgrades id).length
  records : ∀ id k record, (w.state.upgrades id)[k]? = some record →
    record.fromVersion = k ∧ record.toVersion = k + 1
  snapshots : ∀ id token, w.state.get (.token id) = some token → ∀ v,
    (w.state.get (.versionSnapshot id v)).isSome ↔ v < token.currentVersion
  immutable : ∀ ev ∈ tr, KeepsSnapshots ev.pre.state w.state
  rollback : ∀ (i : Input me) w' admin id v token, Step w i w' →
    i.call = .rollbackTokenUpgrade admin id v → w.state.get (.token id) = some token →
    v < token.currentVersion →
      (i.ok w = true ↔ MayRollBack i.env w.state admin id token) ∧
      (∃ old, Left tr id old ∧ old.currentVersion = v) ∧
      ∀ old, Left tr id old → old.currentVersion = v → i.ok w = true →
        w'.state.get (.token id) = some
          { token with
            expiryDate := old.expiryDate
            status := old.status
            tierId := old.tierId
            currentVersion := token.currentVersion + 1 }

section
variable {w₀ w w' : World} {tr : List (Ev me)} {i : Input me}

theorem audit_of_run (h₀ : w₀.state = ∅) (h : Run Step w₀ tr w) :
    Audit (Left tr) w.state ∧ ∀ ev ∈ tr, KeepsSnapshots ev.pre.state w.state := by
  refine h.history (P := fun tr w => Audit (Left tr) w.state ∧
    ∀ ev ∈ tr, KeepsSnapshots ev.pre.state w.state) (fun tr w i w' hp hs => ?_) ⟨?_, ?_⟩
  · obtain ⟨ha, hk⟩ := hs.audit hp.1
    refine ⟨ha.congr fun id old => left_snoc.symm, fun ev hev => ?_⟩
    rcases List.mem_append.1 hev with hev | hev
    · exact fun id v x hx => hk id v x (hp.2 ev hev id v x hx)
    · obtain rfl := List.mem_singleton.1 hev
      exact hk
  · refine (audit_empty h₀).congr fun id old => ?_
    simp [Left]
  · exact fun _ hev => absurd hev List.not_mem_nil

/-- A rollback to a version that the token has had goes through exactly if the admin may roll the
    token back. -/
theorem Audit.ok_rollback_iff {L : TokenId → MembershipToken → Prop} (ha : Audit L w.state)
    (h : Step w i w') {admin : Address} {id : TokenId} {v : ℕ} {token : MembershipToken}
    (hc : i.call = .rollbackTokenUpgrade admin id v) (ht : w.state.get (.token id) = some token)
    (hv : v < token.currentVersion) :
    i.ok w = true ↔ MayRollBack i.env w.state admin id token := by
  have he : entryPoint i.env i.call = liftM (ignore (rollbackTokenUpgrade i.env admin id v)) := by
    rw [hc]
    rfl
  constructor
  · intro hok
    obtain ⟨n, hr⟩ := returns_ignore.1 ((h.ok_iff_returns he).1 hok)
    obtain ⟨config, token', snapshot, hroll, -, -⟩ := rollbackTokenUpgrade_returns.1 hr
    obtain rfl := Option.some.inj (ht.symm.trans hroll.stored)
    exact ⟨hroll.authorised, ⟨config, hroll.configured, fun hm =>
      (lt_min_iff.1 (hroll.limit hm)).2⟩, hroll.version⟩
  · rintro ⟨hauth, ⟨config, hcfg, hlimit⟩, hup⟩
    rw [← versionOf_some ht, ← ha.snapshots] at hv
    obtain ⟨snapshot, hs⟩ := Option.isSome_iff_exists.1 hv
    have hlen : ((w.state.upgrades id).filter (·.isRollback)).length < 2 ^ 32 :=
      (List.length_filter_le _ _).trans_lt (ha.version id ▸ ha.bounded id)
    have hroll : Rollbackable i.env w.state admin id v config token snapshot :=
      ⟨hauth, hcfg, fun hm => lt_min hlen (hlimit hm), ht, hs, hup⟩
    exact (h.of_code he (returns_ignore.2
      ⟨_, rollbackTokenUpgrade_returns.2 ⟨config, token, snapshot, hroll, rfl, rfl⟩⟩)).1

/-- A rollback gives the token what it had when it left the version. -/
theorem Audit.rollback {L : TokenId → MembershipToken → Prop} (ha : Audit L w.state)
    (h : Step w i w') {admin : Address} {id : TokenId} {v : ℕ} {token old : MembershipToken}
    (hc : i.call = .rollbackTokenUpgrade admin id v) (ht : w.state.get (.token id) = some token)
    (hl : L id old) (hv : old.currentVersion = v) (hok : i.ok w = true) :
    w'.state.get (.token id) = some
      { token with
        expiryDate := old.expiryDate
        status := old.status
        tierId := old.tierId
        currentVersion := token.currentVersion + 1 } := by
  obtain ⟨n, hr⟩ := returns_ignore.1 ((h.ok_iff_returns (by rw [hc]; rfl)).1 hok)
  obtain ⟨config, token', snapshot, hroll, -, hs⟩ := rollbackTokenUpgrade_returns.1 hr
  obtain rfl := Option.some.inj (ht.symm.trans hroll.stored)
  obtain ⟨snapshot', hs', hof⟩ := ha.left id old hl
  rw [hv] at hs'
  obtain rfl := Option.some.inj (hroll.snapshot.symm.trans hs')
  rw [hs, versioned_token, if_pos rfl, MembershipToken.applySnapshot, hof.expiryDate, hof.status,
    hof.tierId]

end

/-- **In every run from the empty storage, the version of each token is the length of its history,
    whose records go from each version to the next; the snapshots are those of the versions before
    the current one and stay as they are; and a rollback gives a token back what it had when it left
    the version, and nothing else but a new version.** -/
theorem audit_trail {w₀ w : World} {tr : List (Ev me)} (h₀ : w₀.state = ∅)
    (h : Run Step w₀ tr w) : AuditTrail tr w := by
  obtain ⟨ha, hk⟩ := audit_of_run h₀ h
  refine ⟨fun id token ht => ?_, ha.records, fun id token ht v => ?_, hk,
    fun i w' admin id v token hs hc ht hv => ⟨ha.ok_rollback_iff hs hc ht hv, ?_,
      fun old hl hv hok => ha.rollback hs hc ht hl hv hok⟩⟩
  · rw [← ha.version, versionOf_some ht]
  · rw [ha.snapshots, versionOf_some ht]
  · exact ha.came id v (versionOf_some ht ▸ hv)

/-- The token of `⟨2⟩` is upgraded, twice more in one batch, and rolled back to its version 1. -/
def auditCalls : List (Input ⟨0⟩) :=
  issueCalls ++ [hubCall 3 (.setUpgradeConfig ⟨1⟩ ⟨true, true, 0⟩),
    hubCall 4 (.upgradeToken ⟨1⟩ 1 none (some 500) none none),
    hubCall 5 (.batchUpgradeTokens ⟨1⟩ [1, 1] none (some 700)),
    hubCall 6 (.rollbackTokenUpgrade ⟨1⟩ 1 1)]

theorem audit_trail_rolled_back :
    AuditTrail (eventsFrom next start auditCalls) (auditCalls.foldl next start) ∧
      ((auditCalls.foldl next start).state.get (.token 1)).map
        (fun token => (token.currentVersion, token.expiryDate)) = some (4, 500) :=
  ⟨audit_trail rfl (run_calls auditCalls (by decide)), by decide⟩

end ManageHub
