/-
  Searches in stores, by conditions on columns.

  A condition whose value is null is left out, so that a search without conditions finds any entry.
-/
import NovaLabs.Lib.Store

namespace Lib

/-- A condition on a column, as the options of a search have it. -/
inductive Condition (α : Type) where
  | equal (a : α)
  | isNull
  | null

namespace Condition
variable {α : Type} [DecidableEq α]

/-- The value of the column is admitted. -/
def admits : Condition α → Option α → Bool
  | equal a, value => value = some a
  | isNull, value => value = none
  | null, _ => true

/-- The condition that a column has a value that may be missing. -/
def ofNullable : Option α → Condition α
  | some a => equal a
  | none => null

@[simp] theorem admits_equal {a : α} {value : Option α} :
    (equal a).admits value = true ↔ value = some a := decide_eq_true_iff

@[simp] theorem admits_isNull {value : Option α} :
    (isNull : Condition α).admits value = true ↔ value = none := decide_eq_true_iff

@[simp] theorem admits_null (value : Option α) : (null : Condition α).admits value = true := rfl

@[simp] theorem admits_ofNullable {o : Option α} {a : α} :
    (ofNullable o).admits (some a) = true ↔ ∀ b ∈ o, b = a := by
  cases o with
  | none => exact ⟨fun _ => nofun, fun _ => rfl⟩
  | some b =>
    rw [ofNullable, admits_equal, Option.some.injEq]
    exact ⟨fun h b' hb' => Option.some.inj (hb'.symm.trans (congrArg some h.symm)),
      fun h => (h b rfl).symm⟩

end Condition

namespace Store
variable {K V : Type} [DecidableEq K] {s : Store K V} {selects : K → V → Bool} {k : K} {v : V}

/-- The keys of the selected entries. -/
def matching (s : Store K V) (selects : K → V → Bool) : Finset K :=
  s.keys.filter fun k => (s.lookup k).any (selects k)

theorem mem_matching : k ∈ s.matching selects ↔ ∃ v, s.lookup k = some v ∧ selects k v := by
  rw [matching, Finset.mem_filter, Finmap.mem_keys, ← Finmap.lookup_isSome, Option.any_eq_true]
  exact ⟨fun h => h.2, fun ⟨v, hv, h⟩ => ⟨hv ▸ rfl, v, hv, h⟩⟩

/-- One of the selected entries, the chosen one, or none where there are none. -/
def findOne (s : Store K V) (selects : K → V → Bool) : Option K → Option (Option (K × V))
  | some k => (s.lookup k).bind fun v => if selects k v then some (some (k, v)) else none
  | none => if s.matching selects = ∅ then some none else none

theorem findOne_some {choice : Option K} (h : s.findOne selects choice = some (some (k, v))) :
    s.lookup k = some v ∧ selects k v := by
  cases choice with
  | none => cases (Option.ite_none_right_eq_some.1 h).2
  | some k' =>
    obtain ⟨v', hv', h⟩ := Option.bind_eq_some_iff.1 h
    obtain ⟨hselects, heq⟩ := Option.ite_none_right_eq_some.1 h
    cases heq
    exact ⟨hv', hselects⟩

theorem findOne_none {choice : Option K} (h : s.findOne selects choice = some none)
    (hv : s.lookup k = some v) : ¬ selects k v := by
  cases choice with
  | none =>
    obtain ⟨hempty, -⟩ := Option.ite_none_right_eq_some.1 h
    exact fun hselects => Finset.notMem_empty k (hempty ▸ mem_matching.2 ⟨v, hv, hselects⟩)
  | some k' =>
    obtain ⟨v', -, h⟩ := Option.bind_eq_some_iff.1 h
    cases (Option.ite_none_right_eq_some.1 h).2

/-- Any selected entry may be found. -/
theorem findOne_choice (hv : s.lookup k = some v) (h : selects k v) :
    s.findOne selects (some k) = some (some (k, v)) :=
  Option.bind_eq_some_iff.2 ⟨v, hv, if_pos h⟩

theorem findOne_nothing (h : ∀ k v, s.lookup k = some v → ¬ selects k v) :
    s.findOne selects none = some none := by
  refine if_pos (Finset.eq_empty_iff_forall_notMem.2 fun k hk => ?_)
  obtain ⟨v, hv, hselects⟩ := mem_matching.1 hk
  exact h k v hv hselects

/-- A search is answered. -/
theorem exists_findOne (s : Store K V) (selects : K → V → Bool) :
    ∃ choice found, s.findOne selects choice = some found := by
  by_cases h : ∃ k v, s.lookup k = some v ∧ selects k v
  · obtain ⟨k, v, hv, hselects⟩ := h
    exact ⟨some k, _, findOne_choice hv hselects⟩
  · exact ⟨none, _, findOne_nothing fun k v hv hselects => h ⟨k, v, hv, hselects⟩⟩

/-- The selected entries, in the given order. -/
def findMany (s : Store K V) (selects : K → V → Bool) (order : List K) : Option (List (K × V)) :=
  if order.Nodup ∧ order.toFinset = s.matching selects then
    some (order.filterMap fun k => (s.lookup k).map (k, ·))
  else none

theorem mem_findMany {order : List K} {found : List (K × V)}
    (h : s.findMany selects order = some found) :
    (k, v) ∈ found ↔ s.lookup k = some v ∧ selects k v := by
  obtain ⟨⟨-, horder⟩, heq⟩ := Option.ite_none_right_eq_some.1 h
  cases heq
  have hmem : k ∈ order ↔ ∃ v, s.lookup k = some v ∧ selects k v := by
    rw [← List.mem_toFinset, horder, mem_matching]
  rw [List.mem_filterMap]
  constructor
  · rintro ⟨k', hk', hv⟩
    obtain ⟨v', hv', heq⟩ := Option.map_eq_some_iff.1 hv
    cases heq
    obtain ⟨v'', hv'', hselects⟩ := hmem.1 hk'
    obtain rfl := Option.some.inj (hv'.symm.trans hv'')
    exact ⟨hv', hselects⟩
  · rintro ⟨hv, hselects⟩
    exact ⟨k, hmem.2 ⟨v, hv, hselects⟩, by rw [hv, Option.map_some]⟩

theorem exists_findMany (s : Store K V) (selects : K → V → Bool) :
    ∃ order found, s.findMany selects order = some found :=
  ⟨(s.matching selects).toList, _, if_pos ⟨Finset.nodup_toList _, Finset.toList_toFinset _⟩⟩

/-- How many entries are selected. -/
def count (s : Store K V) (selects : K → V → Bool) : ℕ := (s.matching selects).card

/-! ## Unique columns -/

/-- No two entries have the same value in the column. -/
def Unique {A : Type} (s : Store K V) (column : V → Option A) : Prop :=
  ∀ k k' v v' a, s.lookup k = some v → s.lookup k' = some v' → column v = some a →
    column v' = some a → k = k'

namespace Unique
variable {A : Type} {column : V → Option A} {new old : V}

theorem empty : (∅ : Store K V).Unique column := by
  intro k k' v v' a hv
  rw [Finmap.lookup_empty] at hv
  cases hv

/-- An entry is written whose value no other entry has. -/
theorem insert (h : s.Unique column)
    (hnew : ∀ k' v' a, s.lookup k' = some v' → column new = some a → column v' = some a → k' = k) :
    Unique (Finmap.insert k new s) column := by
  intro k₁ k₂ v₁ v₂ a h₁ h₂ ha₁ ha₂
  rw [lookup_insert_ite] at h₁ h₂
  split_ifs at h₁ with hk₁ <;> split_ifs at h₂ with hk₂
  · exact hk₁.trans hk₂.symm
  · cases h₁
    exact hk₁.trans (hnew k₂ v₂ a h₂ ha₁ ha₂).symm
  · cases h₂
    exact (hnew k₁ v₁ a h₁ ha₂ ha₁).trans hk₂.symm
  · exact h k₁ k₂ v₁ v₂ a h₁ h₂ ha₁ ha₂

/-- An entry keeps its value, or loses it. -/
theorem replace (h : s.Unique column) (hold : s.lookup k = some old)
    (hkeep : ∀ a, column new = some a → column old = some a) :
    Unique (Finmap.insert k new s) column :=
  h.insert fun k' v' a hv' ha ha' => h k' k v' old a hv' hold ha' (hkeep a ha)

end Unique

end Store

end Lib
