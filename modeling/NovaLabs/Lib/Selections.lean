/-
  Searches in two stores that agree on the entries that are selected: they have the same results.
-/
import NovaLabs.Lib.Searches
import NovaLabs.Lib.Transactions

namespace Lib

namespace Store
variable {K V M : Type} [DecidableEq K] {s s' : Store K V} {selects : K → V → Bool} {k : K} {v : V}

/-- A search by the key finds its entry. -/
theorem findOne_key {choice : Option K} {found : Option (K × V)}
    (h : s.findOne (fun k' _ => k' = k) choice = some found) :
    found = (s.lookup k).map (k, ·) := by
  cases found with
  | none =>
    cases hv : s.lookup k with
    | none => rfl
    | some v =>
      have hne := findOne_none h hv
      exact absurd (decide_eq_true rfl) hne
  | some e =>
    obtain ⟨hv, hk⟩ := findOne_some h
    rw [← of_decide_eq_true hk, hv, Option.map_some]

/-- Entries that are changed in place. -/
theorem lookup_changes_union (s : Store K V) (f : K → V → Option V) (k : K) :
    (Storage.changes s f ∪ s).lookup k = (s.lookup k).map fun v => (f k v).getD v := by
  rw [Storage.lookup_union, Storage.lookup_changes]
  cases s.lookup k with
  | none => rfl
  | some v =>
    rw [Option.bind_some, Option.map_some]
    cases f k v <;> rfl

/-- The selected entries of the one store are those of the other. -/
def Agree (s s' : Store K V) (selects : K → V → Bool) : Prop :=
  ∀ k v, selects k v → (s.lookup k = some v ↔ s'.lookup k = some v)

namespace Agree

theorem symm (h : s.Agree s' selects) : s'.Agree s selects := fun k v hv => (h k v hv).symm

theorem mono {selects' : K → V → Bool} (h : s.Agree s' selects)
    (hle : ∀ k v, selects' k v → selects k v) : s.Agree s' selects' :=
  fun k v hv => h k v (hle k v hv)

/-- Where all entries of a key are selected, the stores agree on it. -/
theorem lookup_eq (h : s.Agree s' selects) (hall : ∀ v, selects k v) :
    s.lookup k = s'.lookup k :=
  Option.ext fun v => h k v (hall v)

theorem filter_lookup (h : s.Agree s' selects) (k : K) :
    (s.lookup k).filter (selects k) = (s'.lookup k).filter (selects k) := by
  refine Option.ext fun v => ?_
  rw [Option.filter_eq_some_iff, Option.filter_eq_some_iff]
  exact ⟨fun ⟨hv, hs⟩ => ⟨(h k v hs).1 hv, hs⟩, fun ⟨hv, hs⟩ => ⟨(h k v hs).2 hv, hs⟩⟩

theorem matching_eq (h : s.Agree s' selects) : s.matching selects = s'.matching selects := by
  ext k
  rw [mem_matching, mem_matching]
  exact exists_congr fun v => and_congr_left fun hv => h k v hv

theorem count_eq (h : s.Agree s' selects) : s.count selects = s'.count selects := by
  rw [count, h.matching_eq, count]

theorem findMany_eq (h : s.Agree s' selects) (order : List K) :
    s.findMany selects order = s'.findMany selects order := by
  unfold findMany
  rw [h.matching_eq]
  split_ifs with horder
  · refine congrArg some (List.filterMap_congr fun k hk => ?_)
    -- the keys are those of selected entries
    rw [← List.mem_toFinset, horder.2, mem_matching] at hk
    obtain ⟨v, hv, hs⟩ := hk
    rw [hv, (h k v hs).2 hv]
  · rfl

theorem findOne_eq (h : s.Agree s' selects) (choice : Option K) :
    s.findOne selects choice = s'.findOne selects choice := by
  cases choice with
  | none => rw [findOne, h.matching_eq, findOne]
  | some k =>
    have hfilter (s : Store K V) : s.findOne selects (some k) =
        ((s.lookup k).filter (selects k)).map fun v => some (k, v) := by
      simp only [findOne]
      cases s.lookup k with
      | none => rfl
      | some v =>
        rw [Option.filter_some, Option.bind_some]
        split_ifs <;> rfl
    rw [hfilter, hfilter, h.filter_lookup]

theorem total_eq [AddCommMonoid M] {f : V → M} (h : s.Agree s' selects) :
    (s.total fun k v => if selects k v then f v else 0) =
      s'.total fun k v => if selects k v then f v else 0 := by
  have helim (o : Option V) (k : K) : (o.elim 0 fun v => if selects k v then f v else 0) =
      (o.filter (selects k)).elim 0 f := by
    cases o with
    | none => rfl
    | some v =>
      rw [Option.filter_some, Option.elim_some]
      split_ifs <;> rfl
  refine Storage.total_congr fun k => ?_
  rw [helim, helim, h.filter_lookup]

/-- The same entry is written in both. -/
theorem insert (h : s.Agree s' selects) (k : K) (v : V) :
    Agree (Finmap.insert k v s) (Finmap.insert k v s') selects := by
  intro k' v' hs
  rw [lookup_insert_ite, lookup_insert_ite]
  split_ifs
  · exact Iff.rfl
  · exact h k' v' hs

/-- An entry that is not selected takes the place of none, or of another that is not. -/
theorem insert_left (h : s.Agree s' selects) (hnew : ¬ selects k v)
    (hold : ∀ old, s.lookup k = some old → ¬ selects k old) :
    Agree (Finmap.insert k v s) s' selects := by
  intro k' v' hs
  rw [lookup_insert_ite]
  split_ifs with hk
  · subst hk
    constructor
    · rintro ⟨⟩
      exact absurd hs hnew
    · intro hv'
      exact absurd hs (hold v' ((h k' v' hs).2 hv'))
  · exact h k' v' hs

theorem erase (h : s.Agree s' selects) (k : K) :
    Agree (Finmap.erase k s) (Finmap.erase k s') selects := by
  intro k' v' hs
  rw [lookup_erase_ite, lookup_erase_ite]
  split_ifs
  · exact Iff.rfl
  · exact h k' v' hs

section
variable {t t' : Store K V} {f : K → V → V}

/-- The entries of both are changed in the same way. -/
theorem map (h : s.Agree s' selects) (ht : ∀ k, t.lookup k = (s.lookup k).map (f k))
    (ht' : ∀ k, t'.lookup k = (s'.lookup k).map (f k))
    (hf : ∀ k v, selects k (f k v) = selects k v) : t.Agree t' selects := by
  intro k v hs
  rw [ht, ht', Option.map_eq_some_iff, Option.map_eq_some_iff]
  refine exists_congr fun v' => and_congr_left fun he => ?_
  rw [← he, hf] at hs
  exact h k v' hs

/-- Entries are changed that are not selected. -/
theorem map_left (h : s.Agree s' selects) (ht : ∀ k, t.lookup k = (s.lookup k).map (f k))
    (hf : ∀ k v, selects k (f k v) = selects k v) (hkeep : ∀ k v, selects k v → f k v = v) :
    t.Agree s' selects := by
  intro k v hs
  rw [← h k v hs, ht, Option.map_eq_some_iff]
  constructor
  · rintro ⟨v', hv', rfl⟩
    rw [hf] at hs
    rwa [hkeep k v' hs]
  · intro hv
    exact ⟨v, hv, hkeep k v hs⟩

end

end Agree

end Store

end Lib
