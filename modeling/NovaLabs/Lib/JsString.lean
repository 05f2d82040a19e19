/-
  Strings of UTF-16 code units, as JavaScript has them: trimming, and texts that differ in their white
  space only.
-/
import NovaLabs.Lib.Pattern
import Mathlib.Data.List.Chain
import Mathlib.Data.List.DropRight
import Mathlib.Data.List.Infix

namespace Lib

abbrev JsString := List UInt16

instance : LawfulBEq JsString := inferInstanceAs (LawfulBEq (List UInt16))

/-- The code unit of a character below U+10000. -/
def codeUnit (c : Char) : UInt16 := c.toNat.toUInt16

namespace JsString

/-- A text of characters below U+10000. -/
def of (text : String) : JsString := text.toList.map codeUnit

/-- `\s`: white space and line terminators. -/
def isSpace (c : UInt16) : Bool :=
  9 ≤ c ∧ c ≤ 13 ∨ c = 32 ∨ c = 0xA0 ∨ c = 0x1680 ∨ 0x2000 ≤ c ∧ c ≤ 0x200A ∨ c = 0x2028 ∨
    c = 0x2029 ∨ c = 0x202F ∨ c = 0x205F ∨ c = 0x3000 ∨ c = 0xFEFF

def trim (s : JsString) : JsString := (s.dropWhile isSpace).rdropWhile isSpace

/-- A text that white space neither begins nor ends is trimmed. -/
theorem trim_eq_self {s : JsString} (hhead : s.head?.any isSpace = false)
    (hlast : s.getLast?.any isSpace = false) : trim s = s := by
  have hdrop : s.dropWhile isSpace = s := by
    cases s with
    | nil => rfl
    | cons c s => exact List.dropWhile_cons_of_neg (Bool.eq_false_iff.1 hhead)
  rw [trim, hdrop, List.rdropWhile_eq_self_iff]
  intro hs
  rw [List.getLast?_eq_getLast_of_ne_nil hs] at hlast
  exact Bool.eq_false_iff.1 hlast

end JsString

/-! ## Runs of blanks -/

section
variable {α : Type} {p : α → Bool} {s s' u v r : List α} {b c : α}

/-- The texts are the same, but for the lengths of the runs of blanks and the blanks in them. -/
inductive SameButBlanks (p : α → Bool) : List α → List α → Prop
  | nil : SameButBlanks p [] []
  | keep {c : α} {s r : List α} : ¬ p c → SameButBlanks p s r → SameButBlanks p (c :: s) (c :: r)
  | blanks {w w' s r : List α} : w ≠ [] → w' ≠ [] → (∀ c ∈ w, p c) → (∀ c ∈ w', p c) →
      SameButBlanks p s r → SameButBlanks p (w ++ s) (w' ++ r)

namespace SameButBlanks

theorem symm (h : SameButBlanks p s r) : SameButBlanks p r s := by
  induction h with
  | nil => exact .nil
  | keep hc _ ih => exact .keep hc ih
  | blanks hw hw' hall hall' _ ih => exact .blanks hw' hw hall' hall ih

/-- Characters other than blanks stay, in their places. -/
theorem split (h : SameButBlanks p s r) (hs : s = u ++ c :: v) (hc : ¬ p c) :
    ∃ u' v', r = u' ++ c :: v' ∧ SameButBlanks p u u' ∧ SameButBlanks p v v' := by
  induction h generalizing u with
  | nil => simp at hs
  | @keep c' s r hc' h ih =>
    cases u with
    | nil =>
      obtain ⟨rfl, rfl⟩ := List.cons.inj hs
      exact ⟨[], r, rfl, .nil, h⟩
    | cons d u =>
      obtain ⟨rfl, rfl⟩ := List.cons.inj hs
      obtain ⟨u', v', rfl, hu, hv⟩ := ih rfl
      exact ⟨c' :: u', v', rfl, .keep hc' hu, hv⟩
  | @blanks w w' s r hw hw' hall hall' h ih =>
    rcases List.append_eq_append_iff.1 hs with ⟨a, rfl, rfl⟩ | ⟨a, rfl, ha⟩
    · obtain ⟨u', v', rfl, hu, hv⟩ := ih rfl
      exact ⟨w' ++ u', v', by rw [List.append_assoc], .blanks hw hw' hall hall' hu, hv⟩
    · cases a with
      | nil =>
        obtain ⟨u', v', rfl, hu, hv⟩ := ih (u := []) ha.symm
        exact ⟨w' ++ u', v', by rw [List.append_assoc],
          by simpa using SameButBlanks.blanks hw hw' hall hall' hu, hv⟩
      | cons d a =>
        obtain ⟨rfl, -⟩ := List.cons.inj ha
        exact absurd (hall c (by simp)) hc

theorem eq_nil (h : SameButBlanks p [] r) : r = [] := by
  generalize hs : ([] : List α) = s at h
  cases h with
  | nil => rfl
  | keep => cases hs
  | blanks hw => exact absurd (List.append_eq_nil_iff.1 hs.symm).1 hw

/-- A word without blanks stays. -/
theorem word {w : List α} (hw : ∀ c ∈ w, ¬ p c) (h : SameButBlanks p (w ++ s) r) :
    ∃ r', r = w ++ r' ∧ SameButBlanks p s r' := by
  induction w generalizing r with
  | nil => exact ⟨r, rfl, h⟩
  | cons c w ih =>
    obtain ⟨hc, hw⟩ := List.forall_mem_cons.1 hw
    obtain ⟨u', v', rfl, hu, hv⟩ := h.split (u := []) rfl hc
    obtain rfl := hu.eq_nil
    obtain ⟨r', rfl, hr⟩ := ih hw hv
    exact ⟨r', rfl, hr⟩

theorem all_blank (h : SameButBlanks p s r) (hs : ∀ c ∈ s, p c) : ∀ c ∈ r, p c := by
  induction h with
  | nil => exact nofun
  | keep hc => exact absurd (hs _ (.head _)) hc
  | blanks _ _ _ hall' _ ih =>
    exact List.forall_mem_append.2 ⟨hall', ih (List.forall_mem_append.1 hs).2⟩

theorem not_mem (h : SameButBlanks p s r) (hc : ¬ p c) (hs : c ∉ s) : c ∉ r := by
  intro hr
  obtain ⟨u, v, hr⟩ := List.append_of_mem hr
  obtain ⟨u', v', rfl, -⟩ := h.symm.split hr hc
  exact hs (by simp)

theorem head (h : SameButBlanks p s r) : s.head?.any p = r.head?.any p := by
  cases h with
  | nil => rfl
  | keep => rfl
  | @blanks w w' s r hw hw' hall hall' h =>
    obtain ⟨c, w, rfl⟩ := List.exists_cons_of_ne_nil hw
    obtain ⟨c', w', rfl⟩ := List.exists_cons_of_ne_nil hw'
    exact (hall c (.head _)).trans (hall' c' (.head _)).symm

theorem last (h : SameButBlanks p s r) : s.getLast?.any p = r.getLast?.any p := by
  induction h with
  | nil => rfl
  | @keep c s r hc h ih =>
    rw [List.getLast?_cons, List.getLast?_cons]
    cases s with
    | nil => rw [h.eq_nil]
    | cons d s =>
      cases r with
      | nil => cases h.symm.eq_nil
      | cons d' r => simpa [List.getLast?_cons] using ih
  | @blanks w w' s r hw hw' hall hall' h ih =>
    have hlast {w : List α} (hw : w ≠ []) (hall : ∀ c ∈ w, p c) : w.getLast?.any p = true := by
      rw [List.getLast?_eq_getLast_of_ne_nil hw]
      exact hall _ (List.getLast_mem hw)
    rw [List.getLast?_append, List.getLast?_append]
    cases s with
    | nil =>
      rw [h.eq_nil]
      exact (hlast hw hall).trans (hlast hw' hall').symm
    | cons d s =>
      cases r with
      | nil => cases h.symm.eq_nil
      | cons d' r => simpa [List.getLast?_cons] using ih

end SameButBlanks

/-! ## Squeezing -/

/-- Two blanks or more. -/
def Pattern.run (p : α → Bool) : Pattern α := .seq (.one p) (.seq (.one p) (.many p))

/-- Replace each run of blanks but single ones by one blank. -/
def squeeze (p : α → Bool) (b : α) (s : List α) : List α := (Pattern.run p).replaceAll [b] s

theorem head_spans (s : List α) :
    (Pattern.spans p s).head? = some (s.takeWhile p, s.dropWhile p) := by
  induction s with
  | nil => rfl
  | cons c s ih =>
    rw [Pattern.spans, List.takeWhile_cons, List.dropWhile_cons]
    by_cases hc : p c
    · rw [if_pos hc, if_pos hc, if_pos hc, List.head?_append, List.head?_map, ih]
      rfl
    · rw [if_neg hc, if_neg hc, if_neg hc]
      rfl

/-- The run at the start of a text is matched whole. -/
theorem firstMatch_run (s : List α) : (Pattern.run p).firstMatch (c :: s) =
    if p c ∧ s.head?.any p then some ((c :: s).takeWhile p) else none := by
  split_ifs with h
  · obtain ⟨hc, hd⟩ := h
    obtain ⟨d, hd, hpd⟩ := (Option.any_eq_true _ _).1 hd
    obtain ⟨s, rfl⟩ := List.head?_eq_some_iff.1 hd
    simp only [Pattern.firstMatch, Pattern.run, Pattern.attempts, hc, hpd, if_true,
      List.flatMap_cons, List.flatMap_nil, List.append_nil, List.map_map, List.head?_map,
      head_spans, Option.map_some, List.takeWhile_cons]
    rfl
  · rw [Pattern.firstMatch_none]
    rintro m r hm ⟨_, _, rfl, ⟨c, rfl, hc⟩, _, _, rfl, ⟨d, rfl, hd⟩, -⟩
    obtain ⟨rfl, rfl⟩ := List.cons.inj hm
    exact h ⟨hc, hd⟩

theorem run_nonempty : ¬ (Pattern.run p).Matches [] := by
  rintro ⟨_, _, h, ⟨_, rfl, -⟩, -⟩
  cases h

theorem squeeze_same (hb : p b) (s : List α) : SameButBlanks p s (squeeze p b s) := by
  refine Pattern.replaceAll_induction run_nonempty .nil (fun c m s hm ih => ?_)
    (fun c s hm ih => ?_) s
  · rw [List.cons_append, firstMatch_run] at hm
    obtain ⟨-, hm⟩ := Option.ite_none_right_eq_some.1 hm
    have hall : ∀ d ∈ c :: m, p d := fun d hd => List.mem_takeWhile_imp (Option.some.inj hm ▸ hd)
    exact .blanks (List.cons_ne_nil _ _) (List.cons_ne_nil _ _) hall (by simpa using hb) ih
  · by_cases hc : p c
    · exact .blanks (List.cons_ne_nil c []) (List.cons_ne_nil c []) (by simpa using hc)
        (by simpa using hc) ih
    · exact .keep hc ih

/-- After squeezing no two blanks are next to each other. -/
theorem squeeze_chain (hb : p b) (s : List α) :
    (squeeze p b s).IsChain fun c d => ¬ (p c ∧ p d) := by
  refine Pattern.replaceAll_induction (P := fun _ r => r.IsChain fun c d => ¬ (p c ∧ p d))
    run_nonempty .nil (fun c m s hm ih => ?_) (fun c s hm ih => ?_) s
  · have hhead := (squeeze_same hb s).head
    rw [List.cons_append, firstMatch_run, ← List.cons_append] at hm
    obtain ⟨-, hm⟩ := Option.ite_none_right_eq_some.1 hm
    have hrest : ((c :: m) ++ s).dropWhile p = s := by
      have h := List.takeWhile_append_dropWhile (p := p) (l := (c :: m) ++ s)
      rw [Option.some.inj hm] at h
      exact List.append_cancel_left h
    have hs : s.head?.any p = false := by
      have h := List.head?_dropWhile_not p ((c :: m) ++ s)
      rw [hrest] at h
      cases s with
      | nil => rfl
      | cons d s => simpa using h
    refine List.isChain_cons.2 ⟨fun d hd hdp => ?_, ih⟩
    rw [hs] at hhead
    exact absurd (hhead.trans ((Option.any_eq_true _ _).2 ⟨d, hd, hdp.2⟩)) Bool.false_ne_true
  · have hhead := (squeeze_same hb s).head
    refine List.isChain_cons.2 ⟨fun d hd hdp => ?_, ih⟩
    rw [firstMatch_run, ite_eq_right_iff] at hm
    have hsome := hm ⟨hdp.1, hhead.trans ((Option.any_eq_true _ _).2 ⟨d, hd, hdp.2⟩)⟩
    cases hsome

/-- A text without two blanks next to each other is squeezed. -/
theorem squeeze_eq_self (h : s.IsChain fun c d => ¬ (p c ∧ p d)) : squeeze p b s = s := by
  refine Pattern.replaceAll_eq_self ?_
  rintro _ ⟨u, v, rfl⟩ ⟨_, _, rfl, ⟨c, rfl, hc⟩, _, m, rfl, ⟨d, rfl, hd⟩, -⟩
  have hcd : ([c] ++ ([d] ++ m) ++ v) = c :: d :: (m ++ v) := by simp
  rw [List.append_assoc, hcd] at h
  exact List.isChain_iff_forall_rel_of_append_cons_cons.1 h rfl ⟨hc, hd⟩

end

end Lib
