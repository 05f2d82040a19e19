/-
  What the metadata calls do: when they go through, and whose metadata they write.

  None of them looks at a pause.  Each write counts the version of the metadata up, so what is
  written is never what was there before.
-/
import NovaLabs.ManageHub.Interface

namespace ManageHub

open Lib Soroban

variable {me : Address}

/-! ## Versions -/

/-- The version of a token's metadata, from 1 on; 0 without metadata. -/
def metadataVersion (s : State) (id : TokenId) : ℕ := (s.get (.metadata id)).elim 0 (·.version)

/-- The metadata of `id` are written once, and those of the other tokens are left alone. -/
structure WroteMetadata (id : TokenId) (s s' : State) : Prop where
  version : metadataVersion s' id = metadataVersion s id + 1
  others : ∀ id' ≠ id, s'.get (.metadata id') = s.get (.metadata id')

section
variable {s s₁ s' : State} {id id' : TokenId}

theorem WroteMetadata.version_eq (h : WroteMetadata id s s') :
    metadataVersion s' id' = metadataVersion s id' + if id = id' then 1 else 0 := by
  split_ifs with he
  · subst he
    exact h.version
  · rw [metadataVersion, h.others id' (Ne.symm he), metadataVersion, add_zero]

theorem WroteMetadata.ne (h : WroteMetadata id s s') :
    s'.get (.metadata id) ≠ s.get (.metadata id) := fun he => by
  have hv := h.version
  rw [metadataVersion, metadataVersion, he] at hv
  omega

/-- The index before the metadata, and the history after them, do not matter. -/
theorem wroteMetadata_of_put {metadata : TokenMetadata}
    (h : SameOff [Kind.metadataIndex] s s₁) (hv : metadata.version = metadataVersion s id + 1)
    (h' : SameOff [Kind.metadataHistory] (s₁.put (.metadata id) metadata) s') :
    WroteMetadata id s s' where
  version := by
    have hm : s'.get (.metadata id) = some metadata :=
      (h' (.metadata id) (by simp)).trans get_put_self
    rw [metadataVersion, hm]
    exact hv
  others id' hne := by
    have hm : s'.get (.metadata id') = (s₁.put (.metadata id) metadata).get (.metadata id') :=
      h' (.metadata id') (by simp)
    rw [hm, get_put_ne (by simpa using hne)]
    exact h (.metadata id') (by simp)

end

/-! ## The index -/

section
variable {key : String} {value : MetadataValue} {id : TokenId} {attributes : Attributes}
  {update : MetadataUpdate}

instance : Total (addToMetadataIndex key value id) := by unfold addToMetadataIndex; infer_instance

instance : Total (removeFromMetadataIndex key value id) := by
  unfold removeFromMetadataIndex; infer_instance

instance : Total (addAllToIndex attributes id) := by unfold addAllToIndex; infer_instance

instance : Total (removeAllFromIndex attributes id) := by unfold removeAllFromIndex; infer_instance

instance : Total (appendMetadataHistory id update) := by
  unfold appendMetadataHistory; infer_instance

end

/-! ## Setting -/

/-- A description and attributes may be set for a token: it exists, whoever must authorise that
    has, and the limits are kept. -/
structure MetadataSettable (env : HubEnv me) (s : State) (p : BatchUpdateParams) : Prop where
  authorised : ∃ token, s.get (.token p.id) = some token ∧
    (0 < env.sequence → token.user ∈ env.auths)
  valid : ∀ version lastUpdated updatedBy,
    validateMetadata ⟨p.description, p.attributes, version, lastUpdated, updatedBy⟩ = true

section
variable {env : HubEnv me} {s s' : State} {u : Unit} {admin : Address} {p : BatchUpdateParams}

/-- The admin's authorisation is never needed. -/
theorem authMetadata_returns {token : MembershipToken} :
    Returns (authMetadata env admin token) s u s' ↔
      (0 < env.sequence → token.user ∈ env.auths) ∧ s' = s := by
  simp only [authMetadata, ne_eq, not_true_eq_false, and_false, if_false, returns_runIf,
    returns_requireAuth, gt_iff_lt]
  by_cases h : 0 < env.sequence <;> simp [h]

/-- The version that is set next. -/
theorem elim_version (o : Option TokenMetadata) :
    o.elim 1 (·.version + 1) = o.elim 0 (·.version) + 1 := by
  cases o <;> rfl

theorem internalSetTokenMetadata_passes :
    (∃ s', Returns (internalSetTokenMetadata env admin p.id p.description p.attributes) s () s') ↔
      MetadataSettable env s p ∧ metadataVersion s p.id + 1 < 2 ^ 32 := by
  simp only [internalSetTokenMetadata, returns_bind_of_reads fun _ _ => loadToken_returns,
    returns_bind_of_checks fun _ _ => authMetadata_returns, returns_load_bind, elim_version,
    returns_checked_bind, returns_failIf_bind, not_not]
  constructor
  · rintro ⟨s', token, ht, hauth, hn, hv, -⟩
    exact ⟨⟨⟨token, ht, hauth⟩, fun _ _ _ => hv⟩, hn⟩
  · rintro ⟨⟨⟨token, ht, hauth⟩, hv⟩, hn⟩
    exact ⟨_, token, ht, hauth, hn, hv _ _ _, (exists_returns _ s).choose_spec⟩

/-- Behind its checks, a call writes the metadata at the next version, and appends an entry. -/
theorem internalSetTokenMetadata_stores
    (h : Returns (internalSetTokenMetadata env admin p.id p.description p.attributes) s u s') :
    ∃ user, ∃ s₁ : State, SameOff [Kind.metadataIndex] s s₁ ∧
      Returns (appendMetadataHistory p.id
        ⟨metadataVersion s p.id + 1, env.now, user, p.description, p.attributes⟩)
        (s₁.put (.metadata p.id)
          ⟨p.description, p.attributes, metadataVersion s p.id + 1, env.now, user⟩) u s' := by
  simp only [internalSetTokenMetadata, returns_bind_of_reads fun _ _ => loadToken_returns,
    returns_bind_of_checks fun _ _ => authMetadata_returns, returns_load_bind, elim_version,
    returns_checked_bind, returns_failIf_bind, not_not] at h
  obtain ⟨token, -, -, -, -, h⟩ := h
  obtain ⟨_, s₁, h₁, h⟩ := returns_bind.1 h
  obtain ⟨_, s₂, h₂, h⟩ := returns_bind.1 h
  exact ⟨token.user, s₂, (Only.returns h₁).trans (Only.returns h₂), returns_store_bind.1 h⟩

theorem internalSetTokenMetadata_writes
    (h : Returns (internalSetTokenMetadata env admin p.id p.description p.attributes) s u s') :
    WroteMetadata p.id s s' := by
  obtain ⟨user, s₁, h₁, hr⟩ := internalSetTokenMetadata_stores h
  exact wroteMetadata_of_put h₁ rfl (Only.returns hr)

theorem MetadataSettable.congr {s₁ : State} (h : MetadataSettable env s p)
    (ht : s₁.get (.token p.id) = s.get (.token p.id)) : MetadataSettable env s₁ p :=
  ⟨ht ▸ h.authorised, h.valid⟩

end

/-! ## Batches -/

/-- A batch may be set: each item may, and no version overflows. -/
structure BatchSettable (env : HubEnv me) (s : State) (params : List BatchUpdateParams) :
    Prop where
  items : ∀ p ∈ params, MetadataSettable env s p
  versions : ∀ p ∈ params,
    metadataVersion s p.id + (params.map (·.id)).count p.id < 2 ^ 32

section
variable {env : HubEnv me} {s s₁ s' : State} {u : Unit} {admin : Address} {p : BatchUpdateParams}
  {params : List BatchUpdateParams} {id : TokenId}

theorem BatchSettable.head (h : BatchSettable env s (p :: params)) :
    MetadataSettable env s p ∧ metadataVersion s p.id + 1 < 2 ^ 32 := by
  refine ⟨h.items p (.head _), ?_⟩
  have hv := h.versions p (.head _)
  rw [List.map_cons, List.count_cons_self] at hv
  omega

/-- A batch goes on after its first item as it would have without it, but for the version. -/
theorem batchSettable_cons (h : Returns (internalSetTokenMetadata env admin p.id p.description
    p.attributes) s u s₁) :
    BatchSettable env s (p :: params) ↔ BatchSettable env s₁ params := by
  obtain ⟨hp, hn⟩ := internalSetTokenMetadata_passes.1 ⟨s₁, h⟩
  have hw := internalSetTokenMetadata_writes h
  have ht (id : TokenId) : s₁.get (.token id) = s.get (.token id) :=
    get_eq_of_returns [.metadata, .metadataIndex, .metadataHistory] h (by simp)
  have hv (q : BatchUpdateParams) :
      metadataVersion s₁ q.id + (params.map (·.id)).count q.id =
        metadataVersion s q.id + ((p :: params).map (·.id)).count q.id := by
    rw [hw.version_eq, List.map_cons, List.count_cons]
    simp only [beq_iff_eq]
    omega
  constructor
  · rintro ⟨hi, hc⟩
    exact ⟨fun q hq => (hi q (.tail _ hq)).congr (ht _),
      fun q hq => hv q ▸ hc q (.tail _ hq)⟩
  · rintro ⟨hi, hc⟩
    refine ⟨List.forall_mem_cons.2 ⟨hp, fun q hq => (hi q hq).congr (ht _).symm⟩,
      List.forall_mem_cons.2 ⟨?_, fun q hq => hv q ▸ hc q hq⟩⟩
    rw [List.map_cons, List.count_cons_self]
    by_cases hm : p.id ∈ params.map (·.id)
    · obtain ⟨q, hq, he⟩ := List.mem_map.1 hm
      have hq := hv q ▸ hc q hq
      rwa [he, List.map_cons, List.count_cons_self] at hq
    · rwa [List.count_eq_zero_of_not_mem hm]

/-- The items of a batch, one after the other. -/
theorem forM_passes : (∃ s', Returns (params.forM fun p =>
    internalSetTokenMetadata env admin p.id p.description p.attributes) s () s') ↔
      BatchSettable env s params := by
  induction params generalizing s with
  | nil => exact ⟨fun _ => ⟨by simp, by simp⟩, fun _ => ⟨s, rfl⟩⟩
  | cons p params ih =>
    simp only [returns_forM_cons]
    constructor
    · rintro ⟨s', s₁, h₁, h⟩
      exact (batchSettable_cons h₁).2 (ih.1 ⟨s', h⟩)
    · intro h
      obtain ⟨s₁, h₁⟩ := internalSetTokenMetadata_passes.2 h.head
      obtain ⟨s', h'⟩ := ih.2 ((batchSettable_cons h₁).1 h)
      exact ⟨s', s₁, h₁, h'⟩

/-- A batch writes the metadata of its tokens, and of no others. -/
theorem forM_writes (id : TokenId) (h : Returns (params.forM fun p =>
    internalSetTokenMetadata env admin p.id p.description p.attributes) s u s') :
    metadataVersion s' id = metadataVersion s id + (params.map (·.id)).count id ∧
      (id ∉ params.map (·.id) → s'.get (.metadata id) = s.get (.metadata id)) := by
  induction params generalizing s with
  | nil =>
    obtain ⟨-, rfl⟩ := returns_pure.1 h
    exact ⟨rfl, fun _ => rfl⟩
  | cons p params ih =>
    obtain ⟨s₁, h₁, h'⟩ := returns_forM_cons.1 h
    have hw := internalSetTokenMetadata_writes h₁
    obtain ⟨hv, hs⟩ := ih h'
    rw [List.map_cons]
    constructor
    · rw [hv, hw.version_eq, List.count_cons]
      simp only [beq_iff_eq]
      omega
    · intro hn
      rw [List.mem_cons, not_or] at hn
      rw [hs hn.2, hw.others id hn.1]

end

/-! ## Updates and removals -/

/-- The attributes with all updates. -/
def Attributes.update (attributes : Attributes) (updates : List (String × MetadataValue)) :
    Attributes := updates.foldl (fun attributes e => attributes.set e.1 e.2) attributes

/-- The attributes of a token may be updated: the owner has authorised that, and the limits are
    kept. -/
structure AttributesUpdatable (env : HubEnv me) (s : State) (id : TokenId) (updates : Attributes)
    (token : MembershipToken) (metadata : TokenMetadata) : Prop where
  stored : s.get (.token id) = some token ∧ s.get (.metadata id) = some metadata
  authorised : token.user ∈ env.auths
  attributes : ∀ e ∈ updates.entries, validateAttribute e.1 e.2 = true
  valid : validateMetadata
    { metadata with attributes := metadata.attributes.update updates.entries } = true
  version : metadata.version + 1 < 2 ^ 32

/-- Attributes of a token may be removed: the owner has authorised that. -/
structure AttributesRemovable (env : HubEnv me) (s : State) (id : TokenId)
    (token : MembershipToken) (metadata : TokenMetadata) : Prop where
  stored : s.get (.token id) = some token ∧ s.get (.metadata id) = some metadata
  authorised : token.user ∈ env.auths
  version : metadata.version + 1 < 2 ^ 32

section
variable {env : HubEnv me} {s s' : State} {u : Unit} {id : TokenId} {updates : Attributes}
  {attributes attributes' : Attributes}

theorem loadMetadata_returns {metadata : TokenMetadata} :
    Returns (loadMetadata id) s metadata s' ↔ s.get (.metadata id) = some metadata ∧ s' = s := by
  simp only [loadMetadata, returns_load_bind, returns_okOr]

theorem updateAttribute_passes {e : String × MetadataValue} :
    (∃ s', Returns (updateAttribute id attributes e) s attributes' s') ↔
      validateAttribute e.1 e.2 = true ∧ attributes' = attributes.set e.1 e.2 := by
  simp only [updateAttribute, returns_failIf_bind, not_not]
  constructor
  · rintro ⟨s', hv, h⟩
    obtain ⟨_, _, -, h⟩ := returns_bind.1 h
    obtain ⟨_, _, -, h⟩ := returns_bind.1 h
    exact ⟨hv, (returns_pure.1 h).1⟩
  · rintro ⟨hv, rfl⟩
    obtain ⟨s₁, h₁⟩ := exists_returns
      ((attributes.get e.1).elim (pure ()) (removeFromMetadataIndex e.1 · id)) s
    obtain ⟨s₂, h₂⟩ := exists_returns (addToMetadataIndex e.1 e.2 id) s₁
    exact ⟨s₂, hv, returns_bind.2 ⟨_, _, h₁, returns_bind.2 ⟨_, _, h₂, returns_pure.2 ⟨rfl, rfl⟩⟩⟩⟩

theorem updateAttributes_passes (id : TokenId) (attributes : Attributes)
    {l : List (String × MetadataValue)} :
    (∃ s', Returns (l.foldlM (updateAttribute id) attributes) s attributes' s') ↔
      (∀ e ∈ l, validateAttribute e.1 e.2 = true) ∧ attributes' = attributes.update l :=
  returns_foldlM (p := fun e : String × MetadataValue => validateAttribute e.1 e.2 = true)
    (h := fun (attributes : Attributes) e => attributes.set e.1 e.2)
    fun _ _ _ _ => updateAttribute_passes

theorem updateTokenMetadata_passes :
    (∃ s', Returns (updateTokenMetadata env id updates) s () s') ↔
      ∃ token metadata, AttributesUpdatable env s id updates token metadata := by
  simp only [updateTokenMetadata, returns_bind_of_reads fun _ _ => loadToken_returns,
    returns_bind_of_reads fun _ _ => loadMetadata_returns, returns_requireAuth_bind]
  constructor
  · rintro ⟨s', token, ht, metadata, hm, hauth, h⟩
    obtain ⟨attributes, s₁, h₁, h⟩ := returns_bind.1 h
    obtain ⟨ha, rfl⟩ := (updateAttributes_passes _ _).1 ⟨s₁, h₁⟩
    simp only [returns_failIf_bind, not_not, returns_checked_bind] at h
    exact ⟨token, metadata, ⟨ht, hm⟩, hauth, ha, h.1, h.2.1⟩
  · rintro ⟨token, metadata, ⟨ht, hm⟩, hauth, ha, hv, hn⟩
    obtain ⟨s₁, h₁⟩ := (updateAttributes_passes (s := s) id metadata.attributes).2 ⟨ha, rfl⟩
    exact (exists_returns _ s₁).imp fun s' h' => ⟨token, ht, metadata, hm, hauth,
      returns_bind.2 ⟨_, s₁, h₁, returns_failIf_bind.2 ⟨not_not.2 hv,
        returns_checked_bind.2 ⟨hn, h'⟩⟩⟩⟩

/-- Behind its checks, an update writes the attributes at the next version, and appends an entry. -/
theorem updateTokenMetadata_stores (h : Returns (updateTokenMetadata env id updates) s u s') :
    ∃ metadata user, ∃ s₁ : State, s.get (.metadata id) = some metadata ∧
      SameOff [Kind.metadataIndex] s s₁ ∧
      Returns (appendMetadataHistory id
        ⟨metadata.version + 1, env.now, user, metadata.description, updates⟩)
        (s₁.put (.metadata id) ⟨metadata.description, metadata.attributes.update updates.entries,
          metadata.version + 1, env.now, user⟩) u s' := by
  simp only [updateTokenMetadata, returns_bind_of_reads fun _ _ => loadToken_returns,
    returns_bind_of_reads fun _ _ => loadMetadata_returns, returns_requireAuth_bind] at h
  obtain ⟨token, -, metadata, hm, -, hr⟩ := h
  obtain ⟨attributes, s₁, h₁, hr⟩ := returns_bind.1 hr
  obtain ⟨-, rfl⟩ := (updateAttributes_passes _ _).1 ⟨s₁, h₁⟩
  obtain ⟨-, hr⟩ := returns_failIf_bind.1 hr
  obtain ⟨-, hr⟩ := returns_checked_bind.1 hr
  exact ⟨metadata, token.user, s₁, hm, Only.returns h₁, returns_store_bind.1 hr⟩

theorem updateTokenMetadata_writes (h : Returns (updateTokenMetadata env id updates) s u s') :
    WroteMetadata id s s' := by
  obtain ⟨metadata, user, s₁, hm, h₁, hr⟩ := updateTokenMetadata_stores h
  refine wroteMetadata_of_put h₁ ?_ (Only.returns hr)
  rw [metadataVersion, hm, Option.elim_some]

theorem removeAttribute_passes {key : String} :
    (∃ s', Returns (removeAttribute id attributes key) s attributes' s') ↔
      True ∧ attributes' = attributes.remove key := by
  simp only [removeAttribute, true_and]
  constructor
  · rintro ⟨s', h⟩
    obtain ⟨_, _, -, h⟩ := returns_bind.1 h
    exact (returns_pure.1 h).1
  · rintro rfl
    obtain ⟨s₁, h₁⟩ := exists_returns
      ((attributes.get key).elim (pure ()) (removeFromMetadataIndex key · id)) s
    exact ⟨s₁, returns_bind.2 ⟨_, _, h₁, returns_pure.2 ⟨rfl, rfl⟩⟩⟩

theorem removeAttributes_passes (id : TokenId) (attributes : Attributes) (l : List String) :
    ∃ s', Returns (l.foldlM (removeAttribute id) attributes) s (l.foldl (·.remove ·) attributes) s' :=
  (returns_foldlM (p := fun _ => True) (h := fun (attributes : Attributes) key =>
    attributes.remove key) fun _ _ _ _ => removeAttribute_passes).2 ⟨fun _ _ => trivial, rfl⟩

theorem removeMetadataAttributes_passes {keys : List String} :
    (∃ s', Returns (removeMetadataAttributes env id keys) s () s') ↔
      ∃ token metadata, AttributesRemovable env s id token metadata := by
  simp only [removeMetadataAttributes, returns_bind_of_reads fun _ _ => loadToken_returns,
    returns_bind_of_reads fun _ _ => loadMetadata_returns, returns_requireAuth_bind]
  constructor
  · rintro ⟨s', token, ht, metadata, hm, hauth, h⟩
    obtain ⟨attributes, s₁, -, h⟩ := returns_bind.1 h
    exact ⟨token, metadata, ⟨ht, hm⟩, hauth, (returns_checked_bind.1 h).1⟩
  · rintro ⟨token, metadata, ⟨ht, hm⟩, hauth, hn⟩
    obtain ⟨s₁, h₁⟩ := removeAttributes_passes (s := s) id metadata.attributes keys
    exact (exists_returns _ s₁).imp fun s' h' => ⟨token, ht, metadata, hm, hauth,
      returns_bind.2 ⟨_, s₁, h₁, returns_checked_bind.2 ⟨hn, h'⟩⟩⟩

theorem removeMetadataAttributes_writes {keys : List String}
    (h : Returns (removeMetadataAttributes env id keys) s u s') : WroteMetadata id s s' := by
  simp only [removeMetadataAttributes, returns_bind_of_reads fun _ _ => loadToken_returns,
    returns_bind_of_reads fun _ _ => loadMetadata_returns, returns_requireAuth_bind] at h
  obtain ⟨token, -, metadata, hm, -, hr⟩ := h
  obtain ⟨attributes, s₁, h₁, hr⟩ := returns_bind.1 hr
  obtain ⟨-, hr⟩ := returns_checked_bind.1 hr
  obtain rfl := returns_store.1 hr
  refine wroteMetadata_of_put (Only.returns h₁) ?_ SameOff.rfl
  rw [metadataVersion, hm, Option.elim_some]

end

section
variable {env : HubEnv me} {s s' : State} {u : Unit} {id : TokenId} {p : BatchUpdateParams}
  {params : List BatchUpdateParams}

theorem setTokenMetadata_passes :
    (∃ s', Returns (setTokenMetadata env p.id p.description p.attributes) s () s') ↔
      (s.get .admin).isSome ∧ MetadataSettable env s p ∧ metadataVersion s p.id + 1 < 2 ^ 32 := by
  simp only [setTokenMetadata, returns_bind_of_reads fun _ _ => getAdmin_returns,
    Option.isSome_iff_exists]
  constructor
  · rintro ⟨s', admin, ha, h⟩
    exact ⟨⟨admin, ha⟩, internalSetTokenMetadata_passes.1 ⟨s', h⟩⟩
  · rintro ⟨⟨admin, ha⟩, h⟩
    exact (internalSetTokenMetadata_passes.2 h).imp fun s' h' => ⟨admin, ha, h'⟩

theorem batchUpdate_passes :
    (∃ s', Returns (batchUpdate env params) s () s') ↔
      (0 < params.length ∧ params.length ≤ 50) ∧ (s.get .admin).isSome ∧
        BatchSettable env s params := by
  simp only [batchUpdate, validateBatchSize, batchSetTokenMetadata, returns_failIf_bind,
    returns_bind_of_reads fun _ _ => getAdmin_returns, Option.isSome_iff_exists, not_or, not_lt,
    ← Nat.pos_iff_ne_zero]
  constructor
  · rintro ⟨s', hl, admin, ha, h⟩
    exact ⟨hl, ⟨admin, ha⟩, forM_passes.1 ⟨s', h⟩⟩
  · rintro ⟨hl, ⟨admin, ha⟩, h⟩
    exact (forM_passes.2 h).imp fun s' h' => ⟨hl, admin, ha, h'⟩

/-- What is written once is written for one token. -/
theorem WroteMetadata.ne_iff {tokenId : TokenId} (h : WroteMetadata tokenId s s') :
    s'.get (.metadata id) ≠ s.get (.metadata id) ↔ tokenId = id := by
  constructor
  · intro hne
    by_contra he
    exact hne (h.others id (Ne.symm he))
  · rintro rfl
    exact h.ne

theorem setTokenMetadata_writes
    (h : Returns (setTokenMetadata env p.id p.description p.attributes) s u s') :
    WroteMetadata p.id s s' := by
  simp only [setTokenMetadata, returns_bind_of_reads fun _ _ => getAdmin_returns] at h
  obtain ⟨admin, -, hr⟩ := h
  exact internalSetTokenMetadata_writes hr

theorem batchUpdate_ne_iff (h : Returns (batchUpdate env params) s u s') :
    s'.get (.metadata id) ≠ s.get (.metadata id) ↔ id ∈ params.map (·.id) := by
  simp only [batchUpdate, validateBatchSize, batchSetTokenMetadata, returns_failIf_bind,
    returns_bind_of_reads fun _ _ => getAdmin_returns] at h
  obtain ⟨-, admin, -, hr⟩ := h
  obtain ⟨hv, hs⟩ := forM_writes id hr
  constructor
  · exact fun hne => by_contra fun hm => hne (hs hm)
  · intro hm he
    rw [metadataVersion, he, ← metadataVersion] at hv
    have hc := List.count_pos_iff.2 hm
    omega

end

/-! ## Steps -/

/-- The call goes through, and writes the metadata of the token. -/
def WritesMetadata (env : HubEnv me) (s : State) (id : TokenId) : Call → Prop
  | .setTokenMetadata tokenId description attributes =>
    tokenId = id ∧ (s.get .admin).isSome ∧
      MetadataSettable env s ⟨tokenId, description, attributes⟩ ∧
      metadataVersion s tokenId + 1 < 2 ^ 32
  | .batchUpdate params =>
    id ∈ params.map (·.id) ∧ (0 < params.length ∧ params.length ≤ 50) ∧ (s.get .admin).isSome ∧
      BatchSettable env s params
  | .updateTokenMetadata tokenId updates =>
    tokenId = id ∧ ∃ token metadata, AttributesUpdatable env s tokenId updates token metadata
  | .removeMetadataAttributes tokenId _ =>
    tokenId = id ∧ ∃ token metadata, AttributesRemovable env s tokenId token metadata
  | _ => False

/-- The metadata of a token change by the calls that write them. -/
theorem Step.metadata_iff {w w' : World} {i : Input me} {id : TokenId} (h : Step w i w') :
    w'.state.get (.metadata id) ≠ w.state.get (.metadata id) ↔
      WritesMetadata i.env w.state id i.call := by
  have hn : ¬ w.state.get (.metadata id) ≠ w.state.get (.metadata id) := not_not.2 rfl
  cases hc : i.call with
  | setTokenMetadata tokenId description attributes =>
    exact h.effect_iff (by rw [hc]; rfl) (·.get (.metadata id) ≠ _) hn
      (setTokenMetadata_passes (p := ⟨tokenId, description, attributes⟩))
      fun _ hr => (setTokenMetadata_writes (p := ⟨tokenId, description, attributes⟩) hr).ne_iff
  | batchUpdate params =>
    exact h.effect_iff (by rw [hc]; rfl) (·.get (.metadata id) ≠ _) hn batchUpdate_passes
      fun _ hr => batchUpdate_ne_iff hr
  | updateTokenMetadata tokenId updates =>
    exact h.effect_iff (by rw [hc]; rfl) (·.get (.metadata id) ≠ _) hn updateTokenMetadata_passes
      fun _ hr => (updateTokenMetadata_writes hr).ne_iff
  | removeMetadataAttributes tokenId keys =>
    exact h.effect_iff (by rw [hc]; rfl) (·.get (.metadata id) ≠ _) hn
      removeMetadataAttributes_passes fun _ hr => (removeMetadataAttributes_writes hr).ne_iff
  | _ => exact iff_of_false (not_not.2 (h.frame (by rw [hc]; simp))) not_false

end ManageHub
