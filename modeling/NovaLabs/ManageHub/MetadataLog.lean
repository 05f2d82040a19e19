/-
  The history of the metadata over whole runs.

  A call that sets or updates the metadata of a token appends what it changes to the history, at the
  version that it gives.  From the changes, and how each call made them, the attributes can be
  computed again.  A removal of attributes gives a version as well, but appends nothing.
-/
import NovaLabs.ManageHub.MetadataCalls

namespace ManageHub

open Lib Soroban

variable {me : Address}

/-! ## Complete histories -/

/-- `get_metadata_history`. -/
def getMetadataHistory (s : State) (id : TokenId) : List MetadataUpdate :=
  (s.get (.metadataHistory id)).getD []

/-- The attributes of a token; none without metadata. -/
def State.attributesOf (s : State) (id : TokenId) : Attributes :=
  (s.get (.metadata id)).elim ∅ (·.attributes)

/-- How the changes of an entry are made: they replace all attributes, or are merged. -/
inductive MetadataWrite where
  | set
  | update

/-- The attributes after the changes. -/
def MetadataWrite.apply (attributes changes : Attributes) : MetadataWrite → Attributes
  | .set => changes
  | .update => attributes.update changes.entries

/-- The attributes after the changes of all entries, from none. -/
def replayMetadata (writes : List MetadataWrite) (history : List MetadataUpdate) : Attributes :=
  (writes.zip history).foldl (fun attributes e => e.1.apply attributes e.2.changes) ∅

/-- The history has one entry a version, made in the given ways, and yields the attributes. -/
structure HistoryComplete (s : State) (id : TokenId) (writes : List MetadataWrite) : Prop where
  versions : (getMetadataHistory s id).map (·.version) = List.range' 1 (metadataVersion s id)
  known : writes.length = (getMetadataHistory s id).length
  replayed : replayMetadata writes (getMetadataHistory s id) = s.attributesOf id

/-- The metadata of `id` are written once, and the changes are the next entry of its history. -/
structure LogsMetadata (id : TokenId) (write : MetadataWrite) (s s' : State) : Prop where
  wrote : WroteMetadata id s s'
  entry : ∃ update, getMetadataHistory s' id = getMetadataHistory s id ++ [update] ∧
    update.version = metadataVersion s' id ∧
      s'.attributesOf id = write.apply (s.attributesOf id) update.changes
  others : ∀ id' ≠ id, s'.get (.metadataHistory id') = s.get (.metadataHistory id')

section
variable {s s' : State} {id : TokenId} {write : MetadataWrite}
  {writes : List MetadataWrite}

theorem attributesOf_congr (h : s'.get (.metadata id) = s.get (.metadata id)) :
    s'.attributesOf id = s.attributesOf id := congrArg (Option.elim · ∅ _) h

theorem metadataVersion_congr (h : s'.get (.metadata id) = s.get (.metadata id)) :
    metadataVersion s' id = metadataVersion s id := congrArg (Option.elim · 0 _) h

theorem getMetadataHistory_congr
    (h : s'.get (.metadataHistory id) = s.get (.metadataHistory id)) :
    getMetadataHistory s' id = getMetadataHistory s id := congrArg (Option.getD · []) h

theorem replay_snoc {history : List MetadataUpdate} {update : MetadataUpdate}
    (h : writes.length = history.length) :
    replayMetadata (writes ++ [write]) (history ++ [update]) =
      write.apply (replayMetadata writes history) update.changes := by
  rw [replayMetadata, List.zip_append h, List.foldl_append]
  rfl

theorem HistoryComplete.congr (h : HistoryComplete s id writes)
    (hm : s'.get (.metadata id) = s.get (.metadata id))
    (hh : s'.get (.metadataHistory id) = s.get (.metadataHistory id)) :
    HistoryComplete s' id writes := by
  obtain ⟨hv, hw, hr⟩ := h
  exact ⟨by rwa [getMetadataHistory_congr hh, metadataVersion_congr hm],
    by rwa [getMetadataHistory_congr hh],
    by rwa [getMetadataHistory_congr hh, attributesOf_congr hm]⟩

/-- The next entry keeps a history complete. -/
theorem HistoryComplete.logs (h : HistoryComplete s id writes)
    (hl : LogsMetadata id write s s') : HistoryComplete s' id (writes ++ [write]) := by
  obtain ⟨update, hh, hv, ha⟩ := hl.entry
  refine ⟨?_, ?_, ?_⟩
  · rw [hh, List.map_append, h.versions, List.map_singleton, hv, hl.wrote.version,
      List.range'_1_concat, Nat.add_comm 1]
  · rw [hh, List.length_append, List.length_append, h.known]
    rfl
  · rw [hh, replay_snoc h.known, h.replayed, ha]

/-- A complete history has as many entries as there are versions. -/
theorem HistoryComplete.length_eq (h : HistoryComplete s id writes) :
    (getMetadataHistory s id).length = metadataVersion s id := by
  rw [← List.length_map (·.version), h.versions, List.length_range']

end

/-! ## Calls -/

section
variable {env : HubEnv me} {s s₁ s' : State} {u : Unit} {id : TokenId} {updates : Attributes}
  {metadata : TokenMetadata} {update : MetadataUpdate} {write : MetadataWrite}

theorem appendMetadataHistory_returns :
    Returns (appendMetadataHistory id update) s u s' ↔
      s' = s.put (.metadataHistory id) (getMetadataHistory s id ++ [update]) := by
  simp only [appendMetadataHistory, returns_load_bind, returns_store, getMetadataHistory]

/-- The index before the metadata does not matter. -/
theorem logsMetadata_of_put (h : SameOff [Kind.metadataIndex] s s₁)
    (hv : metadata.version = metadataVersion s id + 1)
    (hu : update.version = metadata.version)
    (ha : metadata.attributes = write.apply (s.attributesOf id) update.changes)
    (h' : Returns (appendMetadataHistory id update) (s₁.put (.metadata id) metadata) u s') :
    LogsMetadata id write s s' := by
  have hh (id' : TokenId) : (s₁.put (.metadata id) metadata).get (.metadataHistory id') =
      s.get (.metadataHistory id') := by
    rw [get_put_ne (by simp)]
    exact h (.metadataHistory id') (by simp)
  have hm : s'.get (.metadata id) = some metadata := by
    rw [appendMetadataHistory_returns.1 h', get_put_ne (by simp), get_put_self]
  refine ⟨wroteMetadata_of_put h hv (Only.returns h'), ⟨update, ?_, ?_, ?_⟩, fun id' hne => ?_⟩
  · rw [appendMetadataHistory_returns.1 h', getMetadataHistory, get_put_self, Option.getD_some,
      getMetadataHistory_congr (hh id)]
  · rw [metadataVersion, hm]
    exact hu
  · rw [State.attributesOf, hm]
    exact ha
  · rw [appendMetadataHistory_returns.1 h', get_put_ne (by simpa using hne), hh id']

theorem internalSetTokenMetadata_logs {admin : Address} {p : BatchUpdateParams}
    (h : Returns (internalSetTokenMetadata env admin p.id p.description p.attributes) s u s') :
    LogsMetadata p.id .set s s' := by
  obtain ⟨user, s₁, h₁, hr⟩ := internalSetTokenMetadata_stores h
  exact logsMetadata_of_put h₁ rfl rfl rfl hr

theorem setTokenMetadata_logs {description : String} {attributes : Attributes}
    (h : Returns (setTokenMetadata env id description attributes) s u s') :
    LogsMetadata id .set s s' := by
  simp only [setTokenMetadata, returns_bind_of_reads fun _ _ => getAdmin_returns] at h
  obtain ⟨admin, -, hr⟩ := h
  exact internalSetTokenMetadata_logs (p := ⟨id, description, attributes⟩) hr

theorem updateTokenMetadata_logs (h : Returns (updateTokenMetadata env id updates) s u s') :
    LogsMetadata id .update s s' := by
  obtain ⟨metadata, user, s₁, hm, h₁, hr⟩ := updateTokenMetadata_stores h
  refine logsMetadata_of_put h₁ ?_ rfl ?_ hr
  · rw [metadataVersion, hm, Option.elim_some]
  · rw [State.attributesOf, hm]
    rfl

/-- A removal leaves all histories alone. -/
theorem removeMetadataAttributes_history {keys : List String} {id' : TokenId}
    (h : Returns (removeMetadataAttributes env id keys) s u s') :
    s'.get (.metadataHistory id') = s.get (.metadataHistory id') :=
  get_eq_of_returns [.metadata, .metadataIndex] h (by simp)

end

/-! ## Runs -/

/-- How the call writes the metadata of the token, where it goes through. -/
def Call.metadataWrites (id : TokenId) : Call → List MetadataWrite
  | .setTokenMetadata tokenId _ _ => if tokenId = id then [.set] else []
  | .batchUpdate params => List.replicate ((params.map (·.id)).count id) .set
  | .updateTokenMetadata tokenId _ => if tokenId = id then [.update] else []
  | _ => []

/-- How the metadata of the token are written in some events. -/
def writesAlong (id : TokenId) (tr : List (Ev me)) : List MetadataWrite :=
  tr.flatMap fun ev => if ev.inp.ok ev.pre = true then ev.inp.call.metadataWrites id else []

/-- The call goes through, and removes attributes of the token. -/
def RemovesAttributes (id : TokenId) (ev : Ev me) : Prop :=
  ev.inp.ok ev.pre = true ∧ ∃ keys, ev.inp.call = .removeMetadataAttributes id keys

/-- The history is complete until attributes are removed, and behind the version from then on. -/
structure MetadataLog (s : State) (id : TokenId) (writes : List MetadataWrite) (removed : Prop) :
    Prop where
  complete : ¬ removed → HistoryComplete s id writes
  behind : removed → (getMetadataHistory s id).length < metadataVersion s id

section
variable {env : HubEnv me} {s s' : State} {u : Unit} {id tokenId : TokenId} {write : MetadataWrite}
  {writes : List MetadataWrite} {removed : Prop}

theorem MetadataLog.congr (h : MetadataLog s id writes removed)
    (hm : s'.get (.metadata id) = s.get (.metadata id))
    (hh : s'.get (.metadataHistory id) = s.get (.metadataHistory id)) :
    MetadataLog s' id writes removed where
  complete hn := (h.complete hn).congr hm hh
  behind hr := by
    rw [getMetadataHistory_congr hh, metadataVersion_congr hm]
    exact h.behind hr

theorem MetadataLog.logs (h : MetadataLog s id writes removed) (hl : LogsMetadata id write s s') :
    MetadataLog s' id (writes ++ [write]) removed where
  complete hn := (h.complete hn).logs hl
  behind hr := by
    obtain ⟨update, hh, -⟩ := hl.entry
    rw [hh, List.length_append, hl.wrote.version]
    exact Nat.add_lt_add_right (h.behind hr) 1

theorem MetadataLog.logs_if (h : MetadataLog s id writes removed)
    (hl : LogsMetadata tokenId write s s') :
    MetadataLog s' id (writes ++ if tokenId = id then [write] else []) removed := by
  split_ifs with he
  · subst he
    exact h.logs hl
  · rw [List.append_nil]
    exact h.congr (hl.wrote.others id (Ne.symm he)) (hl.others id (Ne.symm he))

/-- A removal counts a version up, without an entry. -/
theorem MetadataLog.removes (h : MetadataLog s id writes removed) (hw : WroteMetadata id s s')
    (hh : s'.get (.metadataHistory id) = s.get (.metadataHistory id)) :
    MetadataLog s' id writes True where
  complete hn := absurd trivial hn
  behind _ := by
    rw [getMetadataHistory_congr hh, hw.version, Nat.lt_succ_iff]
    by_cases hr : removed
    · exact (h.behind hr).le
    · exact (h.complete hr).length_eq.le

theorem MetadataLog.batch {admin : Address} {params : List BatchUpdateParams}
    (h : MetadataLog s id writes removed) (hr : Returns (params.forM fun p =>
      internalSetTokenMetadata env admin p.id p.description p.attributes) s u s') :
    MetadataLog s' id (writes ++ List.replicate ((params.map (·.id)).count id) .set) removed := by
  induction params generalizing s writes with
  | nil =>
    obtain ⟨-, rfl⟩ := returns_pure.1 hr
    rw [List.map_nil, List.count_nil, List.replicate_zero, List.append_nil]
    exact h
  | cons p params ih =>
    obtain ⟨s₁, h₁, h'⟩ := returns_forM_cons.1 hr
    have hp := ih (h.logs_if (internalSetTokenMetadata_logs h₁)) h'
    rw [List.map_cons, List.count_cons, Nat.add_comm, List.replicate_add, ← List.append_assoc]
    simp only [beq_iff_eq]
    split_ifs at hp ⊢ with he <;> exact hp

end

section
variable {w w' : World} {i : Input me} {tr : List (Ev me)} {id : TokenId}

/-- The step lemma. -/
theorem Step.metadataLog (h : Step w i w')
    (hl : MetadataLog w.state id (writesAlong id tr) (∃ ev ∈ tr, RemovesAttributes id ev)) :
    MetadataLog w'.state id (writesAlong id (tr ++ [⟨w, i, w'⟩]))
      (∃ ev ∈ tr ++ [⟨w, i, w'⟩], RemovesAttributes id ev) := by
  have hsame (hn : ¬ RemovesAttributes id ⟨w, i, w'⟩) :
      (∃ ev ∈ tr ++ [⟨w, i, w'⟩], RemovesAttributes id ev) ↔ ∃ ev ∈ tr, RemovesAttributes id ev := by
    simp [or_and_right, exists_or, hn]
  rw [writesAlong, List.flatMap_append, List.flatMap_singleton, ← writesAlong]
  by_cases hok : i.ok w = true
  swap
  · rw [hsame fun hr => hok hr.1, if_neg hok, List.append_nil, h.state_eq_of_not_ok hok]
    exact hl
  rw [if_pos hok]
  cases hc : i.call with
  | setTokenMetadata tokenId description attributes =>
    rw [hsame fun ⟨_, keys, he⟩ => by cases hc.symm.trans he]
    exact hl.logs_if (setTokenMetadata_logs ((h.ok_iff_returns (by rw [hc]; rfl)).1 hok))
  | updateTokenMetadata tokenId updates =>
    rw [hsame fun ⟨_, keys, he⟩ => by cases hc.symm.trans he]
    exact hl.logs_if (updateTokenMetadata_logs ((h.ok_iff_returns (by rw [hc]; rfl)).1 hok))
  | batchUpdate params =>
    rw [hsame fun ⟨_, keys, he⟩ => by cases hc.symm.trans he]
    have hr := (h.ok_iff_returns (by rw [hc]; rfl)).1 hok
    simp only [batchUpdate, validateBatchSize, batchSetTokenMetadata, returns_failIf_bind,
      returns_bind_of_reads fun _ _ => getAdmin_returns] at hr
    obtain ⟨-, admin, -, hr⟩ := hr
    exact hl.batch hr
  | removeMetadataAttributes tokenId keys =>
    have hr := (h.ok_iff_returns (by rw [hc]; rfl)).1 hok
    rw [show (Call.removeMetadataAttributes tokenId keys).metadataWrites id = [] from rfl,
      List.append_nil]
    by_cases he : tokenId = id
    · subst he
      rw [iff_true_intro (⟨_, List.mem_append_right _ (.head _), hok, keys, hc⟩ :
        ∃ ev ∈ tr ++ [⟨w, i, w'⟩], RemovesAttributes tokenId ev)]
      exact hl.removes (removeMetadataAttributes_writes hr) (removeMetadataAttributes_history hr)
    · rw [hsame fun ⟨_, keys, he'⟩ => by cases hc.symm.trans he'; exact he rfl]
      exact hl.congr ((removeMetadataAttributes_writes hr).others id (Ne.symm he))
        (removeMetadataAttributes_history hr)
  | _ =>
    have hnone : i.call.metadataWrites id = [] := by rw [hc]; rfl
    rw [hsame fun ⟨_, keys, he⟩ => (by rw [hc] at he; cases he), ← hc, hnone, List.append_nil]
    exact hl.congr (h.frame (by rw [hc]; simp)) (h.frame (by rw [hc]; simp))

theorem metadataLog_of_run {w₀ : World} (h₀ : w₀.state = ∅) (h : Run Step w₀ tr w) :
    MetadataLog w.state id (writesAlong id tr) (∃ ev ∈ tr, RemovesAttributes id ev) := by
  induction h with
  | nil =>
    rw [h₀]
    have hempty : HistoryComplete (∅ : State) id [] :=
      ⟨by simp [getMetadataHistory, metadataVersion], rfl, rfl⟩
    refine ⟨fun _ => hempty, ?_⟩
    rintro ⟨_, hm, _⟩
    cases hm
  | snoc _ hstep ih => exact hstep.metadataLog ih

/-- **In every run, the history of the metadata of a token is complete exactly as long as none of
    its attributes have been removed.** -/
theorem metadata_history_complete_iff {w₀ : World} (h₀ : w₀.state = ∅) (h : Run Step w₀ tr w)
    (id : TokenId) : HistoryComplete w.state id (writesAlong id tr) ↔
      ∀ ev ∈ tr, ¬ RemovesAttributes id ev := by
  have hl : MetadataLog w.state id _ _ := metadataLog_of_run h₀ h
  constructor
  · intro hc ev hev hr
    exact (hl.behind ⟨ev, hev, hr⟩).ne hc.length_eq
  · exact fun hn => hl.complete fun ⟨ev, hev, hr⟩ => hn ev hev hr

end

/-- A token gets an attribute, and another one. -/
def describeCalls : List (Input ⟨0⟩) :=
  issueCalls ++ [hubCall 3 (.setTokenMetadata 1 "" (SortedMap.set ∅ "level" (.number 1))),
    hubCall 4 (.updateTokenMetadata 1 (SortedMap.set ∅ "open" (.boolean true)))]

theorem metadata_history_complete_updated :
    HistoryComplete (describeCalls.foldl next start).state 1
      (writesAlong 1 (eventsFrom next start describeCalls)) :=
  (metadata_history_complete_iff rfl (run_calls describeCalls (by decide)) 1).2 (by
    rintro ev hev ⟨-, keys, hc⟩
    simp only [describeCalls, issueCalls, List.cons_append, List.nil_append, eventsFrom,
      List.mem_cons, List.not_mem_nil, or_false] at hev
    rcases hev with rfl | rfl | rfl | rfl <;> cases hc)

/-- The second attribute is removed. -/
def forgetCalls : List (Input ⟨0⟩) :=
  describeCalls ++ [hubCall 5 (.removeMetadataAttributes 1 ["open"])]

/-- The metadata are at version 3, and the history has the versions 1 and 2. -/
theorem metadata_history_gap :
    Run Step start (eventsFrom next start forgetCalls) (forgetCalls.foldl next start) ∧
    metadataVersion (forgetCalls.foldl next start).state 1 = 3 ∧
    (getMetadataHistory (forgetCalls.foldl next start).state 1).map (·.version) = [1, 2] ∧
    ∀ writes, ¬ HistoryComplete (forgetCalls.foldl next start).state 1 writes :=
  ⟨run_calls _ (by decide), by decide, by decide, fun _ h => absurd h.versions (by decide)⟩

end ManageHub
