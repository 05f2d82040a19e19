/-
  The index of the metadata by attribute over whole runs.

  The index is the inverse of the attributes of all tokens.  Each call writes the entries of one
  token (`Reindexes`): it takes out all of them and enters new ones, or follows each change of an
  attribute.
-/
import NovaLabs.ManageHub.MetadataCalls

namespace ManageHub

open Lib Soroban

variable {me : Address}

/-! ## The invariant -/

/-- A token is found by an attribute, once, exactly if its metadata have it. -/
structure IndexExact (s : State) : Prop where
  mem : ∀ key value id, id ∈ queryTokensByAttribute s key value ↔
    ∃ metadata, s.get (.metadata id) = some metadata ∧ metadata.attributes.get key = some value
  nodup : ∀ key value, (queryTokensByAttribute s key value).Nodup

/-- The attributes by which `id` is found are now those with `R`; the other tokens are found as
    before. -/
structure Reindexes (id : TokenId) (R : String → MetadataValue → Prop) (s s' : State) : Prop where
  self : ∀ key value, id ∈ queryTokensByAttribute s' key value ↔ R key value
  others : ∀ id' ≠ id, ∀ key value,
    id' ∈ queryTokensByAttribute s' key value ↔ id' ∈ queryTokensByAttribute s key value
  nodup : (∀ key value, (queryTokensByAttribute s key value).Nodup) →
    ∀ key value, (queryTokensByAttribute s' key value).Nodup

section
variable {s s₁ s' : State} {u : Unit} {id tokenId : TokenId} {key key' : String}
  {value value' : MetadataValue} {R R' : String → MetadataValue → Prop}
  {attributes attributes' : Attributes}

theorem Reindexes.trans (h : Reindexes id R s s₁) (h' : Reindexes id R' s₁ s') :
    Reindexes id R' s s' where
  self := h'.self
  others id' hne key value := (h'.others id' hne key value).trans (h.others id' hne key value)
  nodup hn := h'.nodup (h.nodup hn)

theorem Reindexes.congr (h : Reindexes id R s s') (hR : ∀ key value, R key value ↔ R' key value) :
    Reindexes id R' s s' :=
  ⟨fun key value => (h.self key value).trans (hR key value), h.others, h.nodup⟩

theorem Reindexes.rfl (h : ∀ key value, id ∈ queryTokensByAttribute s key value ↔ R key value) :
    Reindexes id R s s :=
  ⟨h, fun _ _ _ _ => Iff.rfl, fun hn => hn⟩

theorem query_congr (h : s'.get (.metadataIndex key value) = s.get (.metadataIndex key value)) :
    queryTokensByAttribute s' key value = queryTokensByAttribute s key value := by
  rw [queryTokensByAttribute, h, queryTokensByAttribute]

theorem query_put {l : List TokenId} :
    queryTokensByAttribute (s.put (.metadataIndex key value) l) key' value' =
      if key' = key ∧ value' = value then l else queryTokensByAttribute s key' value' := by
  split_ifs with h
  · rw [h.1, h.2, queryTokensByAttribute, get_put_self, Option.getD_some]
  · exact query_congr (get_put_ne (by simpa using h))

theorem query_del :
    queryTokensByAttribute (s.del (.metadataIndex key value)) key' value' =
      if key' = key ∧ value' = value then [] else queryTokensByAttribute s key' value' := by
  split_ifs with h
  · rw [h.1, h.2, queryTokensByAttribute, get_del_self, Option.getD_none]
  · exact query_congr (get_del_ne (by simpa using h))

/-- One entry of the index is written. -/
theorem reindexes_of_entry {l : List TokenId}
    (hq : ∀ key' value', queryTokensByAttribute s' key' value' =
      if key' = key ∧ value' = value then l else queryTokensByAttribute s key' value')
    (hm : ∀ id' ≠ id, id' ∈ l ↔ id' ∈ queryTokensByAttribute s key value)
    (hn : (queryTokensByAttribute s key value).Nodup → l.Nodup) :
    Reindexes id (fun key' value' => if key' = key ∧ value' = value then id ∈ l
      else id ∈ queryTokensByAttribute s key' value') s s' where
  self key' value' := by rw [hq]; split_ifs <;> rfl
  others id' hne key' value' := by
    rw [hq]
    split_ifs with he
    · rw [he.1, he.2, hm id' hne]
    · rfl
  nodup h key' value' := by
    rw [hq]
    split_ifs
    · exact hn (h key value)
    · exact h key' value'

theorem addToMetadataIndex_reindexes (h : Returns (addToMetadataIndex key value id) s u s') :
    Reindexes id (fun key' value' => (key' = key ∧ value' = value) ∨
      id ∈ queryTokensByAttribute s key' value') s s' := by
  simp only [addToMetadataIndex, returns_load_bind, returns_runIf, returns_store] at h
  rcases h with ⟨hn, rfl⟩ | ⟨hm, rfl⟩
  · refine (reindexes_of_entry (fun _ _ => query_put) (fun id' hne => ?_) fun hnd => ?_).congr
      fun key' value' => ?_
    · rw [List.mem_append, List.mem_singleton, or_iff_left hne]
      rfl
    · rw [← List.concat_eq_append]
      exact hnd.concat hn
    · split_ifs with he <;> simp [he]
  · refine .rfl fun key' value' => ⟨Or.inr, ?_⟩
    rintro (⟨rfl, rfl⟩ | h)
    · exact not_not.1 hm
    · exact h

theorem removeFromMetadataIndex_reindexes
    (h : Returns (removeFromMetadataIndex key value id) s u s') :
    Reindexes id (fun key' value' => ¬ (key' = key ∧ value' = value) ∧
      id ∈ queryTokensByAttribute s key' value') s s' := by
  have hq (key' : String) (value' : MetadataValue) : queryTokensByAttribute s' key' value' =
      if key' = key ∧ value' = value then (queryTokensByAttribute s key value).filter (· ≠ id)
      else queryTokensByAttribute s key' value' := by
    simp only [removeFromMetadataIndex, returns_load_bind, returns_runIf, returns_ite,
      returns_store, returns_remove] at h
    rcases h with ⟨-, ⟨he, rfl⟩ | ⟨-, rfl⟩⟩ | ⟨hn, rfl⟩
    · rw [query_del, ← he]
      rfl
    · exact query_put
    · rw [Option.not_isSome_iff_eq_none] at hn
      split_ifs with he
      · rw [he.1, he.2, queryTokensByAttribute, hn]
        rfl
      · rfl
  refine (reindexes_of_entry hq (fun id' hne => ?_) fun hnd => hnd.filter _).congr
    fun key' value' => ?_
  · simp [hne]
  · split_ifs with he <;> simp [he]

theorem forM_addToMetadataIndex_reindexes {l : List (String × MetadataValue)}
    (h : Returns (l.forM fun e => addToMetadataIndex e.1 e.2 id) s u s') :
    Reindexes id (fun key value => (key, value) ∈ l ∨ id ∈ queryTokensByAttribute s key value)
      s s' := by
  induction l generalizing s with
  | nil =>
    obtain ⟨-, rfl⟩ := returns_pure.1 h
    exact .rfl fun key value => by simp
  | cons e l ih =>
    obtain ⟨s₁, h₁, h₂⟩ := returns_forM_cons.1 h
    have hr := addToMetadataIndex_reindexes h₁
    refine (hr.trans (ih h₂)).congr fun key value => ?_
    rw [hr.self, List.mem_cons, ← Prod.mk.injEq, or_left_comm, or_assoc]

theorem forM_removeFromMetadataIndex_reindexes {l : List (String × MetadataValue)}
    (h : Returns (l.forM fun e => removeFromMetadataIndex e.1 e.2 id) s u s') :
    Reindexes id (fun key value => (key, value) ∉ l ∧ id ∈ queryTokensByAttribute s key value)
      s s' := by
  induction l generalizing s with
  | nil =>
    obtain ⟨-, rfl⟩ := returns_pure.1 h
    exact .rfl fun key value => by simp
  | cons e l ih =>
    obtain ⟨s₁, h₁, h₂⟩ := returns_forM_cons.1 h
    have hr := removeFromMetadataIndex_reindexes h₁
    refine (hr.trans (ih h₂)).congr fun key value => ?_
    rw [hr.self, List.mem_cons, ← Prod.mk.injEq, not_or, and_left_comm, and_assoc]

/-- The index has the attributes of `id` exactly. -/
def IndexedBy (s : State) (id : TokenId) (attributes : Attributes) : Prop :=
  ∀ key value, id ∈ queryTokensByAttribute s key value ↔ attributes.get key = some value

/-- One attribute gives way to another value, or none. -/
theorem removeOld_reindexes (hs : IndexedBy s id attributes)
    (h : Returns ((attributes.get key).elim (pure ()) (removeFromMetadataIndex key · id)) s u s') :
    Reindexes id (fun key' value => (attributes.remove key).get key' = some value) s s' := by
  cases hg : attributes.get key with
  | none =>
    rw [hg] at h
    obtain ⟨-, rfl⟩ := returns_pure.1 h
    refine .rfl fun key' value => (hs key' value).trans ?_
    rw [SortedMap.get_remove]
    split_ifs with he
    · simp [he, hg]
    · rfl
  | some old =>
    rw [hg] at h
    refine (removeFromMetadataIndex_reindexes h).congr fun key' value => ?_
    rw [hs, SortedMap.get_remove]
    split_ifs with he
    · subst he
      rw [hg, Option.some.injEq]
      simp [eq_comm]
    · simp [he]

theorem updateAttribute_reindexes {e : String × MetadataValue} (hs : IndexedBy s id attributes)
    (h : Returns (updateAttribute id attributes e) s attributes' s') :
    Reindexes id (fun key value => attributes'.get key = some value) s s' := by
  obtain ⟨-, h⟩ := returns_failIf_bind.1 h
  obtain ⟨_, s₁, h₁, h⟩ := returns_bind.1 h
  obtain ⟨_, s₂, h₂, h⟩ := returns_bind.1 h
  obtain ⟨rfl, rfl⟩ := returns_pure.1 h
  have hr := removeOld_reindexes hs h₁
  refine (hr.trans (addToMetadataIndex_reindexes h₂)).congr fun key value => ?_
  rw [hr.self, SortedMap.get_remove, SortedMap.get_set]
  split_ifs with he
  · simp [he, eq_comm]
  · simp [he]

theorem removeAttribute_reindexes (hs : IndexedBy s id attributes)
    (h : Returns (removeAttribute id attributes key) s attributes' s') :
    Reindexes id (fun key value => attributes'.get key = some value) s s' := by
  obtain ⟨_, s₁, h₁, h⟩ := returns_bind.1 h
  obtain ⟨rfl, rfl⟩ := returns_pure.1 h
  exact removeOld_reindexes hs h₁

/-- The index follows the attributes through a loop that changes both. -/
theorem foldlM_reindexes {α : Type} {g : Attributes → α → Fn Attributes} {l : List α}
    (hg : ∀ attributes a s attributes' s', IndexedBy s id attributes →
      Returns (g attributes a) s attributes' s' →
      Reindexes id (fun key value => attributes'.get key = some value) s s')
    (hs : IndexedBy s id attributes) (h : Returns (l.foldlM g attributes) s attributes' s') :
    Reindexes id (fun key value => attributes'.get key = some value) s s' :=
  h.foldlM_keeps (P := fun (attributes : Attributes) t =>
      Reindexes id (fun key value => attributes.get key = some value) s t)
    (fun b a t b' t' hr hstep => hr.trans (hg b a t b' t' hr.self hstep)) (.rfl hs)

end

/-! ## Calls -/

section
variable {env : HubEnv me} {s s₁ s' : State} {u : Unit} {id : TokenId} {admin : Address}
  {p : BatchUpdateParams} {attributes updates : Attributes} {metadata : TokenMetadata}

theorem IndexExact.congr (h : IndexExact s)
    (hi : ∀ key value, s'.get (.metadataIndex key value) = s.get (.metadataIndex key value))
    (hm : ∀ id, s'.get (.metadata id) = s.get (.metadata id)) : IndexExact s' where
  mem key value id := by
    rw [query_congr (hi key value), hm]
    exact h.mem key value id
  nodup key value := by
    rw [query_congr (hi key value)]
    exact h.nodup key value

theorem IndexExact.indexedBy (h : IndexExact s) (hm : s.get (.metadata id) = some metadata) :
    IndexedBy s id metadata.attributes := by
  intro key value
  rw [h.mem, hm]
  simp

/-- The metadata of a token are stored after its entries of the index. -/
theorem IndexExact.put (h : IndexExact s)
    (hr : Reindexes id (fun key value => metadata.attributes.get key = some value) s s₁)
    (ho : SameOff [Kind.metadataIndex] s s₁) : IndexExact (s₁.put (.metadata id) metadata) where
  mem key value id' := by
    rw [query_congr (get_put_ne (by simp))]
    by_cases he : id' = id
    · rw [he, get_put_self, hr.self]
      simp
    · have hm : s₁.get (.metadata id') = s.get (.metadata id') := ho (.metadata id') (by simp)
      rw [get_put_ne (by simpa using he), hm, hr.others id' he]
      exact h.mem key value id'
  nodup key value := by
    rw [query_congr (get_put_ne (by simp))]
    exact hr.nodup h.nodup key value

theorem IndexExact.appendMetadataHistory {update : MetadataUpdate} (h : IndexExact s)
    (hr : Returns (appendMetadataHistory id update) s u s') : IndexExact s' :=
  h.congr (fun _ _ => get_eq_of_returns [.metadataHistory] hr (by simp))
    fun _ => get_eq_of_returns [.metadataHistory] hr (by simp)

theorem IndexExact.internalSet (h : IndexExact s)
    (hr : Returns (internalSetTokenMetadata env admin p.id p.description p.attributes) s u s') :
    IndexExact s' := by
  simp only [internalSetTokenMetadata, returns_bind_of_reads fun _ _ => loadToken_returns,
    returns_bind_of_checks fun _ _ => authMetadata_returns, returns_load_bind,
    returns_checked_bind, returns_failIf_bind] at hr
  obtain ⟨token, -, -, -, -, hr⟩ := hr
  obtain ⟨_, s₁, h₁, hr⟩ := returns_bind.1 hr
  obtain ⟨_, s₂, h₂, hr⟩ := returns_bind.1 hr
  have hnone : Reindexes p.id (fun _ _ => False) s s₁ := by
    cases hm : s.get (.metadata p.id) with
    | none =>
      rw [hm] at h₁
      obtain ⟨-, rfl⟩ := returns_pure.1 h₁
      refine .rfl fun key value => ?_
      rw [h.mem, hm]
      simp
    | some metadata =>
      rw [hm] at h₁
      refine (forM_removeFromMetadataIndex_reindexes h₁).congr fun key value => ?_
      rw [h.indexedBy hm, SortedMap.get_eq_some]
      exact iff_of_false (fun hn => hn.1 hn.2) not_false
  have hall : Reindexes p.id (fun key value => p.attributes.get key = some value) s s₂ := by
    refine (hnone.trans (forM_addToMetadataIndex_reindexes h₂)).congr fun key value => ?_
    rw [hnone.self, or_false, SortedMap.get_eq_some]
  have ho : SameOff [Kind.metadataIndex] s s₂ := (Only.returns h₁).trans (Only.returns h₂)
  exact (IndexExact.put h hall ho).appendMetadataHistory (returns_store_bind.1 hr)

theorem IndexExact.set (h : IndexExact s)
    (hr : Returns (setTokenMetadata env p.id p.description p.attributes) s u s') :
    IndexExact s' := by
  simp only [setTokenMetadata, returns_bind_of_reads fun _ _ => getAdmin_returns] at hr
  obtain ⟨admin, -, hr⟩ := hr
  exact h.internalSet hr

theorem IndexExact.batch {params : List BatchUpdateParams} (h : IndexExact s)
    (hr : Returns (batchUpdate env params) s u s') : IndexExact s' := by
  simp only [batchUpdate, batchSetTokenMetadata, returns_reads_bind] at hr
  obtain ⟨_, -, admin, -, hr⟩ := hr
  exact hr.forM_keeps (fun p s s' hs hr => hs.internalSet hr) h

theorem IndexExact.update (h : IndexExact s)
    (hr : Returns (updateTokenMetadata env id updates) s u s') : IndexExact s' := by
  simp only [updateTokenMetadata, returns_bind_of_reads fun _ _ => loadToken_returns,
    returns_bind_of_reads fun _ _ => loadMetadata_returns, returns_requireAuth_bind] at hr
  obtain ⟨token, -, metadata, hm, -, hr⟩ := hr
  obtain ⟨attributes, s₁, h₁, hr⟩ := returns_bind.1 hr
  obtain ⟨-, hr⟩ := returns_failIf_bind.1 hr
  obtain ⟨-, hr⟩ := returns_checked_bind.1 hr
  have hall := foldlM_reindexes (fun _ _ _ _ _ hs h => updateAttribute_reindexes hs h)
    (h.indexedBy hm) h₁
  exact (IndexExact.put h hall (Only.returns h₁)).appendMetadataHistory (returns_store_bind.1 hr)

theorem IndexExact.removeAttributes {keys : List String} (h : IndexExact s)
    (hr : Returns (removeMetadataAttributes env id keys) s u s') : IndexExact s' := by
  simp only [removeMetadataAttributes, returns_bind_of_reads fun _ _ => loadToken_returns,
    returns_bind_of_reads fun _ _ => loadMetadata_returns, returns_requireAuth_bind] at hr
  obtain ⟨token, -, metadata, hm, -, hr⟩ := hr
  obtain ⟨attributes, s₁, h₁, hr⟩ := returns_bind.1 hr
  obtain ⟨-, hr⟩ := returns_checked_bind.1 hr
  obtain rfl := returns_store.1 hr
  have hall := foldlM_reindexes (fun _ _ _ _ _ hs h => removeAttribute_reindexes hs h)
    (h.indexedBy hm) h₁
  exact IndexExact.put h hall (Only.returns h₁)

end

/-! ## Runs -/

/-- The step lemma. -/
theorem Step.indexExact {w w' : World} {i : Input me} (h : Step w i w')
    (hx : IndexExact w.state) : IndexExact w'.state := by
  cases hc : i.call with
  | setTokenMetadata id description attributes =>
    exact h.of_returns (by rw [hc]; rfl) hx fun s' hr =>
      hx.set (p := ⟨id, description, attributes⟩) hr
  | batchUpdate params =>
    exact h.of_returns (by rw [hc]; rfl) hx fun s' hr => hx.batch hr
  | updateTokenMetadata id updates =>
    exact h.of_returns (by rw [hc]; rfl) hx fun s' hr => hx.update hr
  | removeMetadataAttributes id keys =>
    exact h.of_returns (by rw [hc]; rfl) hx fun s' hr => hx.removeAttributes hr
  | _ =>
    exact hx.congr (fun _ _ => h.frame (by rw [hc]; simp)) fun _ => h.frame (by rw [hc]; simp)

/-- **In every reachable state, a query by an attribute finds the tokens whose metadata have it,
    each once.** -/
theorem metadata_index_exact {w₀ w : World} {tr : List (Ev me)} (h₀ : w₀.state = ∅)
    (h : Run Step w₀ tr w) : IndexExact w.state := by
  refine h.invariant' (P := fun w => IndexExact w.state) (fun _ _ _ hx hs => hs.indexExact hx) ?_
  rw [h₀]
  exact ⟨fun key value id => by simp [queryTokensByAttribute], fun _ _ => .nil⟩

/-- A token gets two attributes; one of them changes, and the other is removed, twice. -/
def metadataCalls : List (Input ⟨0⟩) :=
  issueCalls ++ [
    hubCall 3 (.setTokenMetadata 1 "" ((SortedMap.set ∅ "level" (.number 1)).set "open"
      (.boolean true))),
    hubCall 4 (.updateTokenMetadata 1 (SortedMap.set ∅ "level" (.number 2))),
    hubCall 5 (.removeMetadataAttributes 1 ["open", "open"])]

theorem metadata_index_exact_changed : IndexExact (metadataCalls.foldl next start).state :=
  metadata_index_exact rfl (run_calls metadataCalls (by decide))

example : queryTokensByAttribute (metadataCalls.foldl next start).state "level" (.number 2) = [1] := by
  decide

end ManageHub
