/-
  A store with transactions under READ COMMITTED.

  A transaction sees what is committed, under its own writes.  The rows that it has written or
  locked are closed to the other sessions until it ends.  A write outside a transaction is committed
  at once.  Where every write changes a row in an allowed way, given the rows that its transaction
  has locked, the committed rows change in allowed ways only, and so does what other sessions see
  (`Change.stored`, `Change.view`).
-/
import NovaLabs.Lib.Store
import Mathlib.Data.Finmap
import Mathlib.Algebra.BigOperators.Group.Finset.Piecewise
import Mathlib.Data.Fintype.EquivFin
import Mathlib.Data.Finset.Preimage

namespace Lib

namespace Storage

theorem nodupKeys_filterMap {K : Type} {V : K → Type} (m : Multiset (Sigma V))
    (f : ∀ k, V k → Option (V k)) (h : m.NodupKeys) :
    (m.filterMap fun e => (f e.1 e.2).map (Sigma.mk e.1)).NodupKeys := by
  induction m using Quot.inductionOn with
  | h l =>
    refine List.nodupKeys_iff_pairwise.2 (List.Pairwise.filterMap _ ?_
      (List.nodupKeys_iff_pairwise.1 h))
    intro e e' hne b hb b' hb'
    obtain ⟨_, -, rfl⟩ := Option.map_eq_some_iff.1 hb
    obtain ⟨_, -, rfl⟩ := Option.map_eq_some_iff.1 hb'
    exact hne

variable {K : Type} {V : K → Type} [DecidableEq K] {s s' : Storage V} {k : K}

theorem lookup_union (s s' : Storage V) (k : K) :
    (s ∪ s').lookup k = (s.lookup k).or (s'.lookup k) := by
  by_cases hk : k ∈ s
  · obtain ⟨v, hv⟩ := Finmap.mem_iff.1 hk
    rw [Finmap.lookup_union_left hk, hv, Option.some_or]
  · rw [Finmap.lookup_union_right hk, Finmap.lookup_eq_none.2 hk, Option.none_or]

/-- The entries that `f` gives a new value, with this value. -/
def changes (s : Storage V) (f : ∀ k, V k → Option (V k)) : Storage V :=
  ⟨_, nodupKeys_filterMap s.entries f s.nodupKeys⟩

theorem lookup_changes (s : Storage V) (f : ∀ k, V k → Option (V k)) (k : K) :
    (s.changes f).lookup k = (s.lookup k).bind (f k) := by
  refine Option.ext fun v => ?_
  rw [Option.bind_eq_some_iff, Finmap.lookup_eq_some_iff, changes, Multiset.mem_filterMap]
  constructor
  · rintro ⟨⟨k', v'⟩, he, hv⟩
    obtain ⟨v'', hf, hv⟩ := Option.map_eq_some_iff.1 hv
    cases hv
    exact ⟨v', Finmap.lookup_eq_some_iff.2 he, hf⟩
  · rintro ⟨v', he, hf⟩
    exact ⟨⟨k, v'⟩, Finmap.lookup_eq_some_iff.1 he, Option.map_eq_some_iff.2 ⟨v, hf, rfl⟩⟩

/-- Of infinitely many keys, one is free. -/
theorem exists_fresh {I : Type} [Infinite I] (f : I → K) (hf : Function.Injective f)
    (s : Storage V) : ∃ i, s.lookup (f i) = none := by
  obtain ⟨i, hi⟩ := Infinite.exists_notMem_finset (s.keys.preimage f hf.injOn)
  exact ⟨i, Finmap.lookup_eq_none.2 fun h => hi (Finset.mem_preimage.2 (Finmap.mem_keys.2 h))⟩

/-- All entries have the property. -/
def All (s : Storage V) (p : ∀ k, V k → Bool) : Prop := ∀ k ∈ s.keys, (s.lookup k).all (p k)

instance (s : Storage V) (p : ∀ k, V k → Bool) : Decidable (s.All p) :=
  inferInstanceAs (Decidable (∀ k ∈ s.keys, _))

theorem all_iff {p : ∀ k, V k → Bool} : s.All p ↔ ∀ k v, s.lookup k = some v → p k v := by
  constructor
  · intro h k v hv
    have hk := h k (Finmap.mem_keys.2 (Finmap.mem_of_lookup_eq_some hv))
    rwa [hv, Option.all_some] at hk
  · intro h k _
    exact (Option.all_eq_true _ _).2 fun v hv => h k v hv

theorem total_le_total {f f' : ∀ k, V k → ℕ}
    (h : ∀ k, (s'.lookup k).elim 0 (f' k) ≤ (s.lookup k).elim 0 (f k)) :
    total s' f' ≤ total s f := by
  rw [total_eq_sum s f Finset.subset_union_left, total_eq_sum s' f' Finset.subset_union_right]
  exact Finset.sum_le_sum fun k _ => h k

theorem total_ne_zero {f : ∀ k, V k → ℕ} :
    total s f ≠ 0 ↔ ∃ k v, s.lookup k = some v ∧ f k v ≠ 0 := by
  rw [total, ne_eq, Finset.sum_eq_zero_iff]
  push Not
  constructor
  · rintro ⟨k, -, hk⟩
    cases hv : s.lookup k with
    | none => exact absurd (by rw [hv, Option.elim_none]) hk
    | some v =>
      rw [hv, Option.elim_some] at hk
      exact ⟨k, v, hv, hk⟩
  · rintro ⟨k, v, hv, hk⟩
    refine ⟨k, Finmap.mem_keys.2 (Finmap.mem_of_lookup_eq_some hv), ?_⟩
    rwa [hv, Option.elim_some]

/-- Where one part may grow by `c`, and no other part grows. -/
theorem total_le_total_add {f f' : ∀ k, V k → ℕ} (k₀ : K) (c : ℕ)
    (h : ∀ k, (s'.lookup k).elim 0 (f' k) ≤ (s.lookup k).elim 0 (f k) + if k = k₀ then c else 0) :
    total s' f' ≤ total s f + c := by
  rw [total_eq_sum s f Finset.subset_union_left, total_eq_sum s' f' Finset.subset_union_right]
  calc _ ≤ ∑ k ∈ s.keys ∪ s'.keys,
        ((s.lookup k).elim 0 (f k) + if k = k₀ then c else 0) := Finset.sum_le_sum fun k _ => h k
    _ ≤ ∑ k ∈ s.keys ∪ s'.keys, (s.lookup k).elim 0 (f k) + c := by
      rw [Finset.sum_add_distrib, Finset.sum_ite_eq']
      split_ifs <;> omega

end Storage

/-- What an open transaction has written, and the rows that it has locked. -/
structure Transaction {K : Type} (V : K → Type) where
  written : Storage V := ∅
  locked : Finset K := ∅

/-- The committed rows, and the open transactions by session. -/
structure Server {K : Type} (V : K → Type) where
  stored : Storage V := ∅
  active : Store ℕ (Transaction V) := ∅

section
variable {K : Type} {V : K → Type} [DecidableEq K]

/-- The transaction keeps other sessions from the row. -/
def Transaction.Owns (x : Transaction V) (k : K) : Prop := k ∈ x.written ∨ k ∈ x.locked

instance (x : Transaction V) (k : K) : Decidable (x.Owns k) :=
  inferInstanceAs (Decidable (_ ∨ _))

namespace Server

/-- The rows that session `t` sees. -/
def view (s : Server V) (t : ℕ) : Storage V :=
  match s.active.lookup t with
  | some x => x.written ∪ s.stored
  | none => s.stored

/-- The rows that session `t` has locked. -/
def locks (s : Server V) (t : ℕ) : Finset K := (s.active.lookup t).elim ∅ (·.locked)

/-- No other session keeps session `t` from the row. -/
def Free (s : Server V) (t : ℕ) (k : K) : Prop :=
  ∀ t' ∈ s.active.keys, t' ≠ t → ∀ x ∈ s.active.lookup t', ¬ x.Owns k

instance (s : Server V) (t : ℕ) (k : K) : Decidable (s.Free t k) :=
  inferInstanceAs (Decidable (∀ t' ∈ s.active.keys, _ → ∀ x ∈ _, _))

def begin (s : Server V) (t : ℕ) : Option (Server V) :=
  match s.active.lookup t with
  | some _ => none
  | none => some { s with active := s.active.insert t {} }

def commit (s : Server V) (t : ℕ) : Option (Server V) :=
  (s.active.lookup t).map fun x =>
    { stored := x.written ∪ s.stored, active := s.active.erase t }

def rollback (s : Server V) (t : ℕ) : Option (Server V) :=
  (s.active.lookup t).map fun _ => { s with active := s.active.erase t }

/-- `SELECT ... FOR UPDATE`. -/
def lock (s : Server V) (t : ℕ) (k : K) : Option (Server V) :=
  if s.Free t k then
    (s.active.lookup t).map fun x =>
      { s with active := s.active.insert t { x with locked := insert k x.locked } }
  else none

/-- The store with new rows of session `t`. -/
def put (s : Server V) (t : ℕ) (rows : Storage V) : Server V :=
  match s.active.lookup t with
  | some x => { s with active := s.active.insert t { x with written := rows ∪ x.written } }
  | none => { s with stored := rows ∪ s.stored }

def write (s : Server V) (t : ℕ) (rows : Storage V) : Option (Server V) :=
  if ∀ k ∈ rows.keys, s.Free t k then some (s.put t rows) else none

end Server

/-! ## Allowed changes -/

/-- Which new values a row may get, by the rows that the writer has locked and the row's old value.
    Locks allow more, and a change may be made in several steps. -/
structure Discipline (V : K → Type) where
  allows : Finset K → ∀ k, Option (V k) → V k → Prop
  mono : ∀ {l l' k o v}, l ⊆ l' → allows l k o v → allows l' k o v
  trans : ∀ {l k o v v'}, allows l k o v → allows l k (some v) v' → allows l k o v'

/-- No restriction on new values. -/
def Discipline.free : Discipline V where
  allows _ _ _ _ := True
  mono _ _ := trivial
  trans _ _ := trivial

/-- The row stays as it is, or gets an allowed value. -/
def Discipline.Moves (D : Discipline V) (l : Finset K) (k : K) (o o' : Option (V k)) : Prop :=
  o' = o ∨ ∃ v, o' = some v ∧ D.allows l k o v

/-- Transactions own different rows, and have written allowed values. -/
structure Server.Sound (D : Discipline V) (s : Server V) : Prop where
  apart : ∀ {t t' x x' k}, t ≠ t' → s.active.lookup t = some x → s.active.lookup t' = some x' →
    x.Owns k → ¬ x'.Owns k
  allowed : ∀ {t x k v}, s.active.lookup t = some x → x.written.lookup k = some v →
    D.allows x.locked k (s.stored.lookup k) v

/-- What session `t` can do to the store. -/
inductive Server.Change (D : Discipline V) (s : Server V) (t : ℕ) : Server V → Prop
  | same : Change D s t s
  | begin : s.active.lookup t = none →
      Change D s t { s with active := s.active.insert t {} }
  | commit {x} : s.active.lookup t = some x →
      Change D s t { stored := x.written ∪ s.stored, active := s.active.erase t }
  | rollback {x} : s.active.lookup t = some x →
      Change D s t { s with active := s.active.erase t }
  | lock {x k} : s.active.lookup t = some x → s.Free t k →
      Change D s t
        { s with active := s.active.insert t { x with locked := insert k x.locked } }
  | write {rows} : (∀ k ∈ rows.keys, s.Free t k) →
      (∀ k v, rows.lookup k = some v → D.allows (s.locks t) k ((s.view t).lookup k) v) →
      Change D s t (s.put t rows)

namespace Server
variable {D : Discipline V} {s s' : Server V} {t t' : ℕ} {k : K} {x : Transaction V}

theorem view_none (h : s.active.lookup t = none) : s.view t = s.stored := by
  rw [view, h]

theorem lookup_view (h : s.active.lookup t = some x) (k : K) :
    (s.view t).lookup k = (x.written.lookup k).or (s.stored.lookup k) := by
  rw [view, h]
  exact Storage.lookup_union _ _ _

omit [DecidableEq K] in
theorem locks_none (h : s.active.lookup t = none) : s.locks t = ∅ := by
  rw [locks, h, Option.elim_none]

omit [DecidableEq K] in
theorem locks_some (h : s.active.lookup t = some x) : s.locks t = x.locked := by
  rw [locks, h, Option.elim_some]

omit [DecidableEq K] in
theorem free_iff : s.Free t k ↔ ∀ t' x, t' ≠ t → s.active.lookup t' = some x → ¬ x.Owns k := by
  constructor
  · intro h t' x ht hx
    exact h t' (Finmap.mem_keys.2 (Finmap.mem_iff.2 ⟨x, hx⟩)) ht x hx
  · intro h t' _ ht x hx
    exact h t' x ht hx

theorem put_active (h : s.active.lookup t = some x) (rows : Storage V) :
    s.put t rows =
      { s with active := s.active.insert t { x with written := rows ∪ x.written } } := by
  rw [put, h]

theorem put_none (h : s.active.lookup t = none) (rows : Storage V) :
    s.put t rows = { s with stored := rows ∪ s.stored } := by
  rw [put, h]

theorem put_empty (s : Server V) (t : ℕ) : s.put t ∅ = s := by
  cases h : s.active.lookup t with
  | none => rw [put_none h, Finmap.empty_union]
  | some x => rw [put_active h, Finmap.empty_union, Store.insert_eq_self.2 h]

/-! ### When the steps go through -/

omit [DecidableEq K] in
theorem begin_eq_some : s.begin t = some s' ↔
    s.active.lookup t = none ∧ s' = { s with active := s.active.insert t {} } := by
  unfold begin
  cases s.active.lookup t <;> simp [eq_comm]

theorem commit_eq_some : s.commit t = some s' ↔ ∃ x, s.active.lookup t = some x ∧
    s' = { stored := x.written ∪ s.stored, active := s.active.erase t } := by
  rw [commit, Option.map_eq_some_iff]
  exact exists_congr fun x => and_congr_right fun _ => eq_comm

omit [DecidableEq K] in
theorem rollback_eq_some : s.rollback t = some s' ↔ ∃ x, s.active.lookup t = some x ∧
    s' = { s with active := s.active.erase t } := by
  rw [rollback, Option.map_eq_some_iff]
  exact exists_congr fun x => and_congr_right fun _ => eq_comm

theorem lock_eq_some : s.lock t k = some s' ↔ s.Free t k ∧ ∃ x, s.active.lookup t = some x ∧
    s' = { s with active := s.active.insert t { x with locked := insert k x.locked } } := by
  unfold lock
  split_ifs with hfree <;> simp [hfree, eq_comm]

theorem write_eq_some {rows : Storage V} : s.write t rows = some s' ↔
    (∀ k ∈ rows.keys, s.Free t k) ∧ s' = s.put t rows := by
  unfold write
  split_ifs with hfree
  · simp only [Option.some.injEq, eq_comm, and_iff_right hfree]
  · simp [hfree]

/-! ### What a session sees after its own steps -/

theorem view_begin (h : s.active.lookup t = none) :
    ({ s with active := s.active.insert t {} } : Server V).view t = s.view t := by
  simp only [view, h, Finmap.lookup_insert, Finmap.empty_union]

theorem view_commit (h : s.active.lookup t = some x) :
    ({ stored := x.written ∪ s.stored, active := s.active.erase t } : Server V).view t =
      s.view t := by
  simp only [view, h, Finmap.lookup_erase]

theorem view_rollback :
    ({ s with active := s.active.erase t } : Server V).view t = s.stored := by
  simp only [view, Finmap.lookup_erase]

theorem view_lock (h : s.active.lookup t = some x) :
    ({ s with active := s.active.insert t { x with locked := insert k x.locked } } :
      Server V).view t = s.view t := by
  simp only [view, h, Finmap.lookup_insert]

theorem lookup_view_put (s : Server V) (t : ℕ) (rows : Storage V) (k : K) :
    ((s.put t rows).view t).lookup k = (rows.lookup k).or ((s.view t).lookup k) := by
  cases h : s.active.lookup t with
  | none =>
    rw [put_none h, view_none (s := s) h, view_none (by exact h), Storage.lookup_union]
  | some x =>
    rw [put_active h, lookup_view h, lookup_view (Finmap.lookup_insert _), Storage.lookup_union,
      Option.or_assoc]

theorem locks_put (s : Server V) (t : ℕ) (rows : Storage V) : (s.put t rows).locks t = s.locks t := by
  cases h : s.active.lookup t with
  | none => rw [put_none h, locks, locks]
  | some x => rw [put_active h, locks, locks, h, Finmap.lookup_insert]; rfl

/-- A row is committed, or written by an open transaction. -/
def Holds (s : Server V) (k : K) (v : V k) : Prop :=
  s.stored.lookup k = some v ∨
    ∃ t x, s.active.lookup t = some x ∧ x.written.lookup k = some v

theorem holds_of_view {v : V k} (h : (s.view t).lookup k = some v) : s.Holds k v := by
  cases hx : s.active.lookup t with
  | none => exact Or.inl (view_none hx ▸ h)
  | some x =>
    rw [lookup_view hx] at h
    cases hw : x.written.lookup k with
    | none =>
      rw [hw, Option.none_or] at h
      exact Or.inl h
    | some v' =>
      rw [hw, Option.some_or] at h
      exact Or.inr ⟨t, x, hx, hw.trans h⟩

theorem holds_idle {rows : Storage V} {v : V k} :
    ({ stored := rows } : Server V).Holds k v ↔ rows.lookup k = some v := by
  refine ⟨fun h => h.resolve_right ?_, Or.inl⟩
  rintro ⟨t, x, hx, -⟩
  cases hx

/-! ### What steps change -/

/-- A session changes no transaction but its own. -/
theorem Change.active (h : Change D s t s') (ht : t' ≠ t) :
    s'.active.lookup t' = s.active.lookup t' := by
  cases h with
  | same => rfl
  | begin | lock => exact Finmap.lookup_insert_of_ne _ ht
  | commit | rollback => exact Finmap.lookup_erase_ne ht
  | write =>
    cases hx : s.active.lookup t with
    | none => rw [put_none hx]
    | some x => rw [put_active hx]; exact Finmap.lookup_insert_of_ne _ ht

theorem Change.locks (h : Change D s t s') (ht : t' ≠ t) : s'.locks t' = s.locks t' := by
  rw [Server.locks, Server.locks, h.active ht]

/-- The committed rows change in allowed ways. -/
theorem Change.stored (h : Change D s t s') (hs : s.Sound D) (k : K) :
    D.Moves (s.locks t) k (s.stored.lookup k) (s'.stored.lookup k) := by
  cases h with
  | same | begin | rollback | lock => exact Or.inl rfl
  | @commit x hx =>
    rw [locks_some hx, Storage.lookup_union]
    cases hk : x.written.lookup k with
    | none => exact Or.inl rfl
    | some v => exact Or.inr ⟨v, rfl, hs.allowed hx hk⟩
  | @write rows _ hrows =>
    cases hx : s.active.lookup t with
    | some x => rw [put_active hx]; exact Or.inl rfl
    | none =>
      rw [put_none hx, Storage.lookup_union]
      cases hk : rows.lookup k with
      | none => exact Or.inl rfl
      | some v =>
        have hv := hrows k v hk
        rw [view_none hx] at hv
        exact Or.inr ⟨v, rfl, hv⟩

/-- A session with an open transaction commits what it sees, or nothing. -/
theorem Change.stored_eq (h : Change D s t s') (hx : s.active.lookup t = some x) :
    s'.stored = s.stored ∨ s'.stored = s.view t := by
  cases h with
  | same | begin | rollback | lock => exact Or.inl rfl
  | @commit x' hx' =>
    rw [view, hx']
    exact Or.inr rfl
  | write =>
    rw [put_active hx]
    exact Or.inl rfl

omit [DecidableEq K] in
theorem mem_locks : k ∈ s.locks t ↔ ∃ x, s.active.lookup t = some x ∧ k ∈ x.locked := by
  cases hx : s.active.lookup t with
  | none => simp [locks_none hx]
  | some x => simp [locks_some hx]

theorem Sound.locks_apart (hs : s.Sound D) (ht : t ≠ t') (hk : k ∈ s.locks t) :
    k ∉ s.locks t' := by
  intro hk'
  obtain ⟨x, hx, hk⟩ := mem_locks.1 hk
  obtain ⟨x', hx', hk'⟩ := mem_locks.1 hk'
  exact hs.apart ht hx hx' (Or.inr hk) (Or.inr hk')

/-- What a session sees are allowed values of the committed rows. -/
theorem Sound.moves_view (hs : s.Sound D) (t : ℕ) (k : K) :
    D.Moves (s.locks t) k (s.stored.lookup k) ((s.view t).lookup k) := by
  cases hx : s.active.lookup t with
  | none =>
    rw [view_none hx]
    exact Or.inl rfl
  | some x =>
    rw [lookup_view hx, locks_some hx]
    cases hk : x.written.lookup k with
    | none => exact Or.inl rfl
    | some v => exact Or.inr ⟨v, rfl, hs.allowed hx hk⟩

/-- What other sessions see changes in allowed ways. -/
theorem Change.view (h : Change D s t s') (hs : s.Sound D) (ht : t' ≠ t) (k : K) :
    D.Moves (s.locks t) k ((s.view t').lookup k) ((s'.view t').lookup k) := by
  cases hx : s.active.lookup t' with
  | none =>
    rw [view_none hx, view_none ((h.active ht).trans hx)]
    exact h.stored hs k
  | some x =>
    rw [lookup_view hx, lookup_view ((h.active ht).trans hx)]
    cases x.written.lookup k with
    | some v => exact Or.inl rfl
    | none => exact h.stored hs k

/-- A row that one session owns is changed by no other. -/
theorem Change.kept (h : Change D s t s') (hs : s.Sound D) (ht : t' ≠ t)
    (hx : s.active.lookup t' = some x) (hk : x.Owns k) :
    s'.stored.lookup k = s.stored.lookup k := by
  cases h with
  | same | begin | rollback | lock => rfl
  | @commit y hy =>
    have hno : k ∉ y.written := fun hmem => hs.apart ht hx hy hk (Or.inl hmem)
    rw [Storage.lookup_union, Finmap.lookup_eq_none.2 hno, Option.none_or]
  | @write rows hfree _ =>
    cases hy : s.active.lookup t with
    | some y => rw [put_active hy]
    | none =>
      have hno : k ∉ rows := fun hmem =>
        free_iff.1 (hfree k (Finmap.mem_keys.2 hmem)) t' x ht hx hk
      rw [put_none hy, Storage.lookup_union, Finmap.lookup_eq_none.2 hno, Option.none_or]

/-- A session comes to own rows that no other session owns. -/
theorem Change.owned (h : Change D s t s') (hx : s'.active.lookup t = some x) (hk : x.Owns k) :
    (∃ x₀, s.active.lookup t = some x₀ ∧ x₀.Owns k) ∨ s.Free t k := by
  cases h with
  | same => exact Or.inl ⟨x, hx, hk⟩
  | begin =>
    rw [Finmap.lookup_insert, Option.some.injEq] at hx
    subst hx
    rcases hk with hk | hk
    · exact absurd hk Finmap.notMem_empty
    · exact absurd hk (Finset.notMem_empty k)
  | commit | rollback => rw [Finmap.lookup_erase] at hx; cases hx
  | @lock x₀ k' hx₀ hfree =>
    rw [Finmap.lookup_insert, Option.some.injEq] at hx
    subst hx
    rcases hk with hk | hk
    · exact Or.inl ⟨x₀, hx₀, Or.inl hk⟩
    · rcases Finset.mem_insert.1 hk with rfl | hk
      · exact Or.inr hfree
      · exact Or.inl ⟨x₀, hx₀, Or.inr hk⟩
  | @write rows hfree _ =>
    cases hx₀ : s.active.lookup t with
    | none => rw [put_none hx₀, hx₀] at hx; cases hx
    | some x₀ =>
      rw [put_active hx₀, Finmap.lookup_insert, Option.some.injEq] at hx
      subst hx
      rcases hk with hk | hk
      · rcases Finmap.mem_union.1 hk with hk | hk
        · exact Or.inr (hfree k (Finmap.mem_keys.2 hk))
        · exact Or.inl ⟨x₀, hx₀.symm ▸ rfl, Or.inl hk⟩
      · exact Or.inl ⟨x₀, hx₀.symm ▸ rfl, Or.inr hk⟩

/-- The rows that a transaction has written are allowed values of the committed ones. -/
theorem Change.written (h : Change D s t s') (hs : s.Sound D) {v : V k}
    (hx : s'.active.lookup t = some x) (hk : x.written.lookup k = some v) :
    D.allows x.locked k (s'.stored.lookup k) v := by
  cases h with
  | same => exact hs.allowed hx hk
  | begin =>
    rw [Finmap.lookup_insert, Option.some.injEq] at hx
    subst hx
    rw [Finmap.lookup_empty] at hk
    cases hk
  | commit | rollback => rw [Finmap.lookup_erase] at hx; cases hx
  | @lock x₀ k' hx₀ hfree =>
    rw [Finmap.lookup_insert, Option.some.injEq] at hx
    subst hx
    exact D.mono (Finset.subset_insert _ _) (hs.allowed hx₀ hk)
  | @write rows hfree hrows =>
    cases hx₀ : s.active.lookup t with
    | none => rw [put_none hx₀, hx₀] at hx; cases hx
    | some x₀ =>
      rw [put_active hx₀] at hx ⊢
      rw [Finmap.lookup_insert, Option.some.injEq] at hx
      subst hx
      rw [Storage.lookup_union] at hk
      cases hr : rows.lookup k with
      | none =>
        rw [hr, Option.none_or] at hk
        have hv : D.allows x₀.locked k (s.stored.lookup k) v := hs.allowed hx₀ hk
        exact hv
      | some v' =>
        rw [hr, Option.some_or, Option.some.injEq] at hk
        subst hk
        have hv := hrows k v' hr
        rw [locks_some hx₀, lookup_view hx₀] at hv
        cases hw : x₀.written.lookup k with
        | none => rwa [hw, Option.none_or] at hv
        | some w =>
          rw [hw, Option.some_or] at hv
          have hw' : D.allows x₀.locked k (s.stored.lookup k) w := hs.allowed hx₀ hw
          exact D.trans hw' hv

/-- **Allowed writes keep a store sound.** -/
theorem Change.sound (h : Change D s t s') (hs : s.Sound D) : s'.Sound D where
  apart {t₁ t₂ x₁ x₂ k} hne h₁ h₂ hk₁ hk₂ := by
    have hown {t' x' x k} (ht : t' ≠ t) (hx : s'.active.lookup t = some x) (hk : x.Owns k)
        (hx' : s'.active.lookup t' = some x') : ¬ x'.Owns k := by
      rw [h.active ht] at hx'
      rcases h.owned hx hk with ⟨x₀, hx₀, hk₀⟩ | hfree
      · exact hs.apart ht.symm hx₀ hx' hk₀
      · exact free_iff.1 hfree t' x' ht hx'
    by_cases ht₁ : t₁ = t
    · subst ht₁
      exact hown hne.symm h₁ hk₁ h₂ hk₂
    · by_cases ht₂ : t₂ = t
      · subst ht₂
        exact hown hne h₂ hk₂ h₁ hk₁
      · rw [h.active ht₁] at h₁
        rw [h.active ht₂] at h₂
        exact hs.apart hne h₁ h₂ hk₁ hk₂
  allowed {t' x k v} hx hk := by
    by_cases ht : t' = t
    · subst ht
      exact h.written hs hx hk
    · rw [h.active ht] at hx
      rw [h.kept hs ht hx (Or.inl (Finmap.mem_iff.2 ⟨v, hk⟩))]
      exact hs.allowed hx hk

theorem sound_idle (s : Storage V) : Sound D { stored := s } where
  apart _ h := by cases h
  allowed h := by cases h

end Server

end

end Lib
