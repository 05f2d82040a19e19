/-
  Two ways to pair the openings of a list with its closings.

  An element opens or closes.  A pass with one pending opening pairs neighbours (`neighbours`), a
  search forward from each opening finds the first closing after it (`firstLater`).  The first are
  among the second, and the two agree exactly if no opening that another one directly precedes is
  followed by a closing.
-/
import Mathlib.Data.List.Pairwise
import Mathlib.Tactic.SplitIfs

namespace Lib

variable {α : Type} (opens : α → Bool)

/-- Each opening that a closing directly follows, with this closing. -/
def neighbours : List α → List (α × α)
  | a :: b :: l =>
    if opens a && !opens b then (a, b) :: neighbours (b :: l) else neighbours (b :: l)
  | _ => []

/-- Each opening with the first closing after it, if there is one. -/
def firstLater : List α → List (α × α)
  | [] => []
  | a :: l =>
    (if opens a then (l.find? (!opens ·)).map (a, ·) else none).toList ++ firstLater l

variable {opens} {a b : α} {l : List α}

theorem neighbours_cons_opening (hb : opens b = true) :
    neighbours opens (a :: b :: l) = neighbours opens (b :: l) := by
  rw [neighbours, hb, Bool.not_true, Bool.and_false, if_neg Bool.false_ne_true]

theorem neighbours_cons_closing (ha : opens a = false) :
    neighbours opens (a :: l) = neighbours opens l := by
  cases l with
  | nil => rfl
  | cons b l => rw [neighbours, ha, Bool.false_and, if_neg Bool.false_ne_true]

theorem neighbours_cons_pair (ha : opens a = true) (hb : opens b = false) :
    neighbours opens (a :: b :: l) = (a, b) :: neighbours opens l := by
  rw [neighbours, ha, hb, Bool.not_false, Bool.and_true, if_pos rfl, neighbours_cons_closing hb]

theorem firstLater_cons_closing (ha : opens a = false) :
    firstLater opens (a :: l) = firstLater opens l := by
  rw [firstLater, ha, if_neg Bool.false_ne_true, Option.toList_none, List.nil_append]

theorem firstLater_cons_some (ha : opens a = true) (hf : l.find? (!opens ·) = some b) :
    firstLater opens (a :: l) = (a, b) :: firstLater opens l := by
  rw [firstLater, if_pos ha, hf, Option.map_some, Option.toList_some, List.singleton_append]

theorem firstLater_cons_none (ha : opens a = true) (hf : l.find? (!opens ·) = none) :
    firstLater opens (a :: l) = firstLater opens l := by
  rw [firstLater, if_pos ha, hf, Option.map_none, Option.toList_none, List.nil_append]

theorem firstLater_cons_pair (ha : opens a = true) (hb : opens b = false) :
    firstLater opens (a :: b :: l) = (a, b) :: firstLater opens (b :: l) :=
  firstLater_cons_some ha (List.find?_cons_of_pos (by rw [hb, Bool.not_false]))

/-! ## Neighbours -/

theorem mem_neighbours {x : α × α} : x ∈ neighbours opens l ↔
    opens x.1 = true ∧ opens x.2 = false ∧ ∃ l₁ l₂, l = l₁ ++ x.1 :: x.2 :: l₂ := by
  induction l with
  | nil => simp [neighbours]
  | cons a l ih =>
    have hcons : (∃ l₁ l₂, a :: l = l₁ ++ x.1 :: x.2 :: l₂) ↔
        (∃ l₂, a :: l = x.1 :: x.2 :: l₂) ∨ ∃ l₁ l₂, l = l₁ ++ x.1 :: x.2 :: l₂ := by
      constructor
      · rintro ⟨_ | ⟨c, l₁⟩, l₂, he⟩
        · exact Or.inl ⟨l₂, he⟩
        · exact Or.inr ⟨l₁, l₂, (List.cons.inj he).2⟩
      · rintro (⟨l₂, he⟩ | ⟨l₁, l₂, he⟩)
        · exact ⟨[], l₂, he⟩
        · exact ⟨a :: l₁, l₂, by rw [he, List.cons_append]⟩
    rw [hcons]
    cases l with
    | nil => simp [neighbours]
    | cons b l =>
      rw [neighbours]
      have hhead : (∃ l₂, a :: b :: l = x.1 :: x.2 :: l₂) ↔ x = (a, b) := by
        constructor
        · rintro ⟨l₂, he⟩
          simp only [List.cons.injEq] at he
          rw [he.1, he.2.1]
        · rintro rfl
          exact ⟨l, rfl⟩
      rw [hhead]
      by_cases hab : (opens a && !opens b) = true
      · rw [if_pos hab, List.mem_cons, ih]
        simp only [Bool.and_eq_true, Bool.not_eq_true'] at hab
        constructor
        · rintro (rfl | ⟨h₁, h₂, h⟩)
          · exact ⟨hab.1, hab.2, Or.inl rfl⟩
          · exact ⟨h₁, h₂, Or.inr h⟩
        · rintro ⟨h₁, h₂, h | h⟩
          · exact Or.inl h
          · exact Or.inr ⟨h₁, h₂, h⟩
      · rw [if_neg hab, ih]
        refine and_congr_right fun h₁ => and_congr_right fun h₂ => ⟨Or.inr, ?_⟩
        rintro (rfl | h)
        · simp [h₁, h₂] at hab
        · exact h

/-- Where the list is sorted, each pair ends before the next one begins. -/
theorem neighbours_pairwise {R : α → α → Prop} (h : l.Pairwise R) :
    (neighbours opens l).Pairwise fun x y => R x.2 y.1 := by
  induction l with
  | nil => exact .nil
  | cons a l ih =>
    cases l with
    | nil => exact .nil
    | cons b l =>
      have ht := ih (List.pairwise_cons.1 h).2
      rw [neighbours]
      split_ifs with hab
      · refine List.pairwise_cons.2 ⟨fun x hx => ?_, ht⟩
        simp only [Bool.and_eq_true, Bool.not_eq_true'] at hab
        -- `b` opens no pair, so `x` begins after it
        rw [neighbours_cons_closing hab.2] at hx
        obtain ⟨-, -, l₁, l₂, he⟩ := mem_neighbours.1 hx
        exact (List.pairwise_cons.1 (List.pairwise_cons.1 h).2).1 _ (by simp [he])
      · exact ht

/-- There are no neighbours exactly if no opening is followed by a closing. -/
theorem neighbours_eq_nil :
    neighbours opens l = [] ↔ l.Pairwise fun a b => opens a = true → opens b = true := by
  induction l with
  | nil => simp [neighbours]
  | cons a l ih =>
    rw [List.pairwise_cons]
    rcases ha : opens a with _ | _
    · rw [neighbours_cons_closing ha, ih]
      simp
    · cases l with
      | nil => simp [neighbours]
      | cons b l =>
        rcases hb : opens b with _ | _
        · rw [neighbours_cons_pair ha hb]
          simp [hb]
        · rw [neighbours_cons_opening hb, ih]
          refine ⟨fun h => ⟨fun c hc _ => ?_, h⟩, And.right⟩
          rcases List.mem_cons.1 hc with rfl | hc
          · exact hb
          · exact (List.pairwise_cons.1 h).1 c hc hb

/-! ## Agreement -/

/-- The neighbours are among the pairs of openings with the first closings after them. -/
theorem neighbours_sublist_firstLater : (neighbours opens l).Sublist (firstLater opens l) := by
  induction l with
  | nil => exact .slnil
  | cons a l ih =>
    rcases ha : opens a with _ | _
    · rwa [neighbours_cons_closing ha, firstLater_cons_closing ha]
    · cases l with
      | nil => simp [neighbours]
      | cons b l =>
        rcases hb : opens b with _ | _
        · rw [neighbours_cons_pair ha hb, firstLater_cons_pair ha hb,
            ← neighbours_cons_closing hb]
          exact ih.cons_cons _
        · rw [neighbours_cons_opening hb]
          exact ih.trans (List.sublist_append_right _ _)

/-- No opening that another one directly precedes is followed by a closing. -/
def Alternating (opens : α → Bool) (l : List α) : Prop :=
  ∀ l₁ a b l₂, l = l₁ ++ a :: b :: l₂ → opens a = true → opens b = true →
    ∀ c ∈ l₂, opens c = true

theorem alternating_cons : Alternating opens (a :: l) ↔
    (∀ b l₂, l = b :: l₂ → opens a = true → opens b = true → ∀ c ∈ l₂, opens c = true) ∧
      Alternating opens l := by
  constructor
  · intro h
    refine ⟨fun b l₂ he => h [] a b l₂ (by rw [he, List.nil_append]), fun l₁ c d l₂ he => ?_⟩
    exact h (a :: l₁) c d l₂ (by rw [he, List.cons_append])
  · rintro ⟨hhead, htail⟩ (_ | ⟨c, l₁⟩) d e l₂ he
    · obtain ⟨rfl, rfl⟩ := List.cons.inj he
      exact hhead e l₂ rfl
    · exact htail l₁ d e l₂ (List.cons.inj he).2

/-- **The two ways to pair agree exactly on the alternating lists.** -/
theorem firstLater_eq_neighbours :
    firstLater opens l = neighbours opens l ↔ Alternating opens l := by
  induction l with
  | nil => simp [firstLater, neighbours, Alternating]
  | cons a l ih =>
    rw [alternating_cons]
    rcases ha : opens a with _ | _
    · rw [neighbours_cons_closing ha, firstLater_cons_closing ha, ih]
      simp
    · cases l with
      | nil => simp [firstLater, neighbours, Alternating]
      | cons b l =>
        rcases hb : opens b with _ | _
        · rw [neighbours_cons_pair ha hb, firstLater_cons_pair ha hb,
            ← neighbours_cons_closing hb, List.cons_inj_right, ih]
          simp [hb]
        · have hfind : (b :: l).find? (!opens ·) = l.find? (!opens ·) := by simp [hb]
          rw [neighbours_cons_opening hb]
          cases hf : l.find? (!opens ·) with
          | none =>
            rw [firstLater_cons_none ha (hfind.trans hf), ih]
            have hall : ∀ c ∈ l, opens c = true := by simpa using hf
            refine ⟨fun h => ⟨fun c l₂ he _ _ => ?_, h⟩, And.right⟩
            obtain ⟨-, rfl⟩ := List.cons.inj he
            exact hall
          | some c =>
            rw [firstLater_cons_some ha (hfind.trans hf)]
            constructor
            · -- there is one pair more than there are neighbours
              intro he
              have hsub : (neighbours opens (b :: l)).Sublist (firstLater opens (b :: l)) :=
                neighbours_sublist_firstLater
              have hlen := hsub.length_le
              rw [← he, List.length_cons] at hlen
              exact absurd hlen (Nat.not_succ_le_self _)
            · rintro ⟨h, -⟩
              have hc := h b l rfl rfl hb c (List.mem_of_find?_eq_some hf)
              have hnot := List.find?_some hf
              simp [hc] at hnot

end Lib
