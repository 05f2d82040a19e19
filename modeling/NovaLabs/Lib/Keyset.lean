/-
  Keyset pagination: pages of the keys after a cursor, in ascending order, where the next cursor is
  the last key of a page.
-/
import Mathlib.Data.Finset.Sort

namespace Lib

variable {K : Type} [LinearOrder K] {s : Finset K} {c c' k : K} {n : ℕ}

/-- The keys after the cursor, in ascending order. -/
def after (s : Finset K) (c : K) : List K := (s.filter (c < ·)).sort

/-- The first `n` keys after the cursor. -/
def page (s : Finset K) (c : K) (n : ℕ) : List K := (after s c).take n

theorem mem_after : k ∈ after s c ↔ k ∈ s ∧ c < k := by
  rw [after, Finset.mem_sort, Finset.mem_filter]

theorem length_after_le (s : Finset K) (c : K) : (after s c).length ≤ s.card := by
  rw [after, Finset.length_sort]
  exact Finset.card_filter_le _ _

theorem after_nodup : (after s c).Nodup := Finset.sort_nodup _ _

/-- After the last key of a page come the keys after the page. -/
theorem after_append {l r : List K} (h : after s c = l ++ c' :: r) : after s c' = r := by
  have hsorted : (l ++ c' :: r).SortedLT := h ▸ Finset.sortedLT_sort _
  obtain ⟨-, hr, hlr⟩ := List.pairwise_append.1 hsorted.pairwise
  obtain ⟨hc', hr⟩ := List.pairwise_cons.1 hr
  refine (Finset.sortedLT_sort _).eq_of_mem_iff hr.sortedLT fun k => ?_
  rw [Finset.mem_sort, Finset.mem_filter]
  constructor
  · rintro ⟨hk, hlt⟩
    have hmem : c' ∈ after s c := h ▸ by simp
    have hk : k ∈ l ++ c' :: r := h ▸ mem_after.2 ⟨hk, (mem_after.1 hmem).2.trans hlt⟩
    rcases List.mem_append.1 hk with hk | hk
    · exact absurd (hlr k hk c' (.head _)) hlt.asymm
    · exact (List.mem_cons.1 hk).resolve_left hlt.ne'
  · intro hk
    have hmem : k ∈ after s c := h ▸ by simp [hk]
    exact ⟨(mem_after.1 hmem).1, hc' k hk⟩

/-- The page, and the keys after its last one, are the keys after the cursor. -/
theorem page_append (h : (page s c n).getLast? = some c') :
    after s c = page s c n ++ after s c' := by
  obtain ⟨l, hl⟩ := List.getLast?_eq_some_iff.1 h
  have hsplit : after s c = l ++ c' :: (after s c).drop n := by
    conv_lhs => rw [← List.take_append_drop n (after s c), ← page, hl]
    rw [List.append_assoc]
    rfl
  rw [after_append hsplit, page, List.take_append_drop]

theorem page_eq_nil (hn : 0 < n) : page s c n = [] ↔ after s c = [] := by
  rw [page, List.take_eq_nil_iff, or_iff_right hn.ne']

/-- A page that is not full is the last one. -/
theorem after_of_short (h : (page s c n).length < n) : after s c = page s c n := by
  rw [page, List.length_take, min_lt_iff, or_iff_right (lt_irrefl n)] at h
  exact (List.take_of_length_le h.le).symm

end Lib
