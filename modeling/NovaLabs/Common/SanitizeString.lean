/-
  The `SanitizeString` transform (backend/src/common/transformers/sanitize-string.transformer.ts), and
  when its output is clean.

  A script tag ends with the first `>` in it, so that the scan cuts a text in one way only
  (`Outside.unique`).  Squeezing blanks neither makes nor breaks a tag, and keeps blanks at the ends.
-/
import NovaLabs.Lib.JsString

namespace Common

open Lib JsString

/-! ## The transform -/

/-- `[\u0000-\u001F\u007F]`. -/
def isControl (c : UInt16) : Bool := c ≤ 0x1F ∨ c = 0x7F

/-- The letters of `script`, in either case. -/
def scriptLetters : List (UInt16 → Bool) :=
  [('s', 'S'), ('c', 'C'), ('r', 'R'), ('i', 'I'), ('p', 'P'), ('t', 'T')].map
    fun (lower, upper) c => c = codeUnit lower ∨ c = codeUnit upper

/-- `<\s*\/?\s*script[^>]*>`, whatever the case. -/
def scriptTag : Pattern UInt16 :=
  .seq (.one (· = codeUnit '<')) <| .seq (.many isSpace) <| .seq (.opt (.one (· = codeUnit '/'))) <|
    .seq (.many isSpace) <| .seq (.classes scriptLetters) <|
      .seq (.many (· ≠ codeUnit '>')) (.one (· = codeUnit '>'))

/-- `SanitizeString`, of a string. -/
def sanitizeString (value : JsString) : JsString :=
  let trimmed := trim value
  let printable := trimmed.filter fun c => ¬ isControl c
  let untagged := scriptTag.replaceAll [] printable
  squeeze isSpace (codeUnit ' ') untagged

/-! ## Script tags -/

/-- What may stand between `<` and the name of a tag. -/
def Gap (gap : JsString) : Prop :=
  (∀ c ∈ gap, isSpace c) ∨
    ∃ a b, gap = a ++ codeUnit '/' :: b ∧ (∀ c ∈ a, isSpace c) ∧ ∀ c ∈ b, isSpace c

/-- The parts of a tag. -/
theorem matches_scriptTag {m : JsString} : scriptTag.Matches m ↔ ∃ gap name d,
    m = codeUnit '<' :: (gap ++ (name ++ (d ++ [codeUnit '>']))) ∧ Gap gap ∧
      List.Forall₂ (fun p c => p c) scriptLetters name ∧ codeUnit '>' ∉ d := by
  constructor
  · rintro ⟨_, _, rfl, ⟨_, rfl, h₁⟩, a, _, rfl, ha, sl, _, rfl, hsl, b, _, rfl, hb, name, _, rfl,
      hname, d, _, rfl, hd, _, rfl, h₂⟩
    obtain rfl := of_decide_eq_true h₁
    obtain rfl := of_decide_eq_true h₂
    refine ⟨a ++ (sl ++ b), name, d, by simp, ?_, Pattern.matches_classes.1 hname,
      fun hmem => of_decide_eq_true (hd _ hmem) rfl⟩
    rcases hsl with ⟨c, rfl, hc⟩ | rfl
    · obtain rfl := of_decide_eq_true hc
      exact Or.inr ⟨a, b, rfl, ha, hb⟩
    · exact Or.inl (List.forall_mem_append.2 ⟨ha, hb⟩)
  · rintro ⟨gap, name, d, rfl, hgap, hname, hd⟩
    have hend : ((Pattern.many (· ≠ codeUnit '>')).seq (.one (· = codeUnit '>'))).Matches
        (d ++ [codeUnit '>']) :=
      ⟨d, _, rfl, fun c hc => decide_eq_true fun h => hd (h ▸ hc), _, rfl, decide_eq_true rfl⟩
    rcases hgap with hgap | ⟨a, b, rfl, ha, hb⟩
    · exact ⟨[_], _, rfl, ⟨_, rfl, decide_eq_true rfl⟩, gap, _, rfl, hgap, [], _, rfl, Or.inr rfl,
        [], _, rfl, nofun, name, _, rfl, Pattern.matches_classes.2 hname, hend⟩
    · exact ⟨[_], _, rfl, ⟨_, rfl, decide_eq_true rfl⟩, a, _, List.append_assoc .., ha,
        [codeUnit '/'], _, rfl, Or.inl ⟨_, rfl, decide_eq_true rfl⟩, b, _, rfl, hb, name, _, rfl,
        Pattern.matches_classes.2 hname, hend⟩

/-- The letters of the name are neither blanks nor `>`. -/
theorem name_letters {name : JsString} (h : List.Forall₂ (fun p c => p c) scriptLetters name) :
    ∀ c ∈ name, ¬ isSpace c ∧ c ≠ codeUnit '>' := by
  have hletters : ∀ p ∈ scriptLetters, ∀ c, p c → ¬ isSpace c ∧ c ≠ codeUnit '>' := by
    intro p hp c hc
    obtain ⟨⟨lower, upper⟩, hpair, rfl⟩ := List.mem_map.1 hp
    have hclosed : ∀ x ∈ [('s', 'S'), ('c', 'C'), ('r', 'R'), ('i', 'I'), ('p', 'P'), ('t', 'T')],
        (¬ isSpace (codeUnit x.1) ∧ codeUnit x.1 ≠ codeUnit '>') ∧
          ¬ isSpace (codeUnit x.2) ∧ codeUnit x.2 ≠ codeUnit '>' := by decide
    rcases of_decide_eq_true hc with rfl | rfl
    · exact (hclosed _ hpair).1
    · exact (hclosed _ hpair).2
  intro c hc
  obtain ⟨i, hi, rfl⟩ := List.getElem_of_mem hc
  have hlen := h.length_eq
  exact hletters _ (List.getElem_mem _) _ (h.get (by omega) hi)

/-- A tag ends with the only `>` in it. -/
theorem tag_end {m : JsString} (h : scriptTag.Matches m) :
    ∃ u, m = u ++ [codeUnit '>'] ∧ codeUnit '>' ∉ u := by
  obtain ⟨gap, name, d, rfl, hgap, hname, hd⟩ := matches_scriptTag.1 h
  refine ⟨codeUnit '<' :: (gap ++ (name ++ d)), by simp, ?_⟩
  have hblank {a : JsString} (ha : ∀ c ∈ a, isSpace c) : codeUnit '>' ∉ a :=
    fun hmem => absurd (ha _ hmem) (by decide)
  simp only [List.mem_cons, List.mem_append, not_or]
  refine ⟨by decide, ?_, fun hmem => (name_letters hname _ hmem).2 rfl, hd⟩
  rcases hgap with hgap | ⟨a, b, rfl, ha, hb⟩
  · exact hblank hgap
  · simp only [List.mem_cons, List.mem_append, not_or]
    exact ⟨hblank ha, by decide, hblank hb⟩

/-- At the start of a text there is one tag at most. -/
theorem tag_unique {m m' s s' : JsString} (hm : scriptTag.Matches m) (hm' : scriptTag.Matches m')
    (h : m ++ s = m' ++ s') : m = m' ∧ s = s' := by
  obtain ⟨u, rfl, hu⟩ := tag_end hm
  obtain ⟨u', rfl, hu'⟩ := tag_end hm'
  have htake {u s : JsString} (hu : codeUnit '>' ∉ u) :
      ((u ++ [codeUnit '>']) ++ s).takeWhile (· ≠ codeUnit '>') = u := by
    have hall : ∀ c ∈ u, decide (c ≠ codeUnit '>') := fun c hc =>
      decide_eq_true fun heq => hu (heq ▸ hc)
    rw [List.append_assoc, List.takeWhile_append_of_pos hall, List.singleton_append,
      List.takeWhile_cons_of_neg (by simp), List.append_nil]
  obtain rfl : u = u' := (htake hu).symm.trans (h ▸ htake hu')
  exact ⟨rfl, List.append_cancel_left h⟩

theorem tag_nonempty : ¬ scriptTag.Matches [] := by
  intro h
  obtain ⟨_, _, _, hnil, -⟩ := matches_scriptTag.1 h
  cases hnil

/-- The text has a script tag in it. -/
def HasTag (s : JsString) : Prop := ∃ m, m <:+: s ∧ scriptTag.Matches m

/-- Whether a text has a tag does not depend on the lengths of its runs of blanks. -/
theorem HasTag.same {s r : JsString} (hs : HasTag s) (h : SameButBlanks isSpace s r) :
    HasTag r := by
  obtain ⟨_, ⟨u, v, rfl⟩, hm⟩ := hs
  obtain ⟨gap, name, d, rfl, hgap, hname, hd⟩ := matches_scriptTag.1 hm
  have htext : u ++ codeUnit '<' :: (gap ++ (name ++ (d ++ [codeUnit '>']))) ++ v =
      u ++ codeUnit '<' :: (gap ++ (name ++ (d ++ codeUnit '>' :: v))) := by simp
  obtain ⟨u', r₁, rfl, -, h₁⟩ := h.split htext (by decide)
  have hgap' : ∃ gap' r₂, r₁ = gap' ++ r₂ ∧ Gap gap' ∧
      SameButBlanks isSpace (name ++ (d ++ codeUnit '>' :: v)) r₂ := by
    obtain ⟨c, name, rfl⟩ := List.exists_cons_of_ne_nil (l := name) (by rintro rfl; cases hname)
    have hc := (name_letters hname c (.head _)).1
    obtain ⟨gap', r₂, rfl, hgap', h₂⟩ := h₁.split rfl hc
    refine ⟨gap', c :: r₂, rfl, ?_, .keep hc h₂⟩
    rcases hgap with hgap | ⟨a, b, rfl, ha, hb⟩
    · exact Or.inl (hgap'.all_blank hgap)
    · obtain ⟨a', b', rfl, ha', hb'⟩ := hgap'.split rfl (by decide)
      exact Or.inr ⟨a', b', rfl, ha'.all_blank ha, hb'.all_blank hb⟩
  obtain ⟨gap', r₂, rfl, hgap', h₂⟩ := hgap'
  obtain ⟨r₃, rfl, h₃⟩ := h₂.word fun c hc => (name_letters hname c hc).1
  obtain ⟨d', v', rfl, hd', -⟩ := h₃.split rfl (by decide)
  refine ⟨_, ⟨u', v', ?_⟩, matches_scriptTag.2 ⟨gap', name, d', rfl, hgap', hname,
    hd'.not_mem (by decide) hd⟩⟩
  simp

/-! ## What lies outside of the tags -/

/-- What is left of a text without its script tags, from left to right. -/
inductive Outside : JsString → JsString → Prop
  | nil : Outside [] []
  | tag {m s r : JsString} : scriptTag.Matches m → Outside s r → Outside (m ++ s) r
  | char {c : UInt16} {s r : JsString} : (∀ m, m <+: c :: s → ¬ scriptTag.Matches m) →
      Outside s r → Outside (c :: s) (c :: r)

theorem outside_replaceAll (s : JsString) : Outside s (scriptTag.replaceAll [] s) := by
  refine Pattern.replaceAll_induction tag_nonempty .nil (fun c m s hm ih => ?_)
    (fun c s hm ih => ?_) s
  · obtain ⟨_, -, hmatch⟩ := Pattern.firstMatch_some hm
    exact .tag hmatch ih
  · refine .char (fun m ⟨r, hr⟩ => ?_) ih
    exact Pattern.firstMatch_none.1 hm m r hr.symm

theorem Outside.unique {s r r' : JsString} (h : Outside s r) (h' : Outside s r') : r = r' := by
  induction h generalizing r' with
  | nil =>
    generalize hs : ([] : JsString) = s at h'
    cases h' with
    | nil => rfl
    | tag hm => exact absurd ((List.append_eq_nil_iff.1 hs.symm).1 ▸ hm) tag_nonempty
    | char => cases hs
  | @tag m s r hm h ih =>
    generalize hs : m ++ s = s' at h'
    cases h' with
    | nil => exact absurd ((List.append_eq_nil_iff.1 hs).1 ▸ hm) tag_nonempty
    | tag hm' h' =>
      obtain ⟨rfl, rfl⟩ := tag_unique hm hm' hs
      exact ih h'
    | char hno => exact absurd hm (hno m ⟨s, hs⟩)
  | @char c s r hno h ih =>
    generalize hs : c :: s = s' at h'
    cases h' with
    | nil => cases hs
    | tag hm' => exact absurd hm' (hno _ ⟨_, hs.symm⟩)
    | char _ h' =>
      obtain ⟨rfl, rfl⟩ := List.cons.inj hs
      exact congrArg (c :: ·) (ih h')

/-! ## Clean output -/

/-- A text without control characters, script tags, blanks at its ends, and blanks in a row. -/
structure Clean (s : JsString) : Prop where
  printable : ∀ c ∈ s, ¬ isControl c
  untagged : ¬ HasTag s
  head : s.head?.any isSpace = false
  last : s.getLast?.any isSpace = false
  single : s.IsChain fun c d => ¬ (isSpace c ∧ isSpace d)

/-- The transform leaves a clean text as it is. -/
theorem sanitizeString_of_clean {s : JsString} (h : Clean s) : sanitizeString s = s := by
  have htrim : trim s = s := trim_eq_self h.head h.last
  have hfilter : s.filter (fun c => ¬ isControl c) = s :=
    List.filter_eq_self.2 fun c hc => decide_eq_true (h.printable c hc)
  have htags : scriptTag.replaceAll [] s = s :=
    Pattern.replaceAll_eq_self fun m hm hmatch => h.untagged ⟨m, hm, hmatch⟩
  rw [sanitizeString, htrim, hfilter, htags]
  exact squeeze_eq_self h.single

/-- The text of an input: trimmed, and then without its control characters. -/
def printableText (value : JsString) : JsString := (trim value).filter fun c => ¬ isControl c

/-- What lies outside of the script tags of an input neither begins nor ends with a blank, and does
    not make up another script tag. -/
def TagsApart (value : JsString) : Prop :=
  ∃ rest, Outside (printableText value) rest ∧ ¬ HasTag rest ∧
    rest.head?.any isSpace = false ∧ rest.getLast?.any isSpace = false

/-- **The output of the transform is clean, and is left as it is by it, exactly if what lies outside of
    the script tags of the input has no blanks at its ends and no script tag in it.** -/
theorem sanitizeString_clean_iff (value : JsString) :
    (Clean (sanitizeString value) ∧
      sanitizeString (sanitizeString value) = sanitizeString value) ↔ TagsApart value := by
  have hout := outside_replaceAll (printableText value)
  have hsame := squeeze_same (b := codeUnit ' ') (show isSpace (codeUnit ' ') by decide)
    (scriptTag.replaceAll [] (printableText value))
  constructor
  · rintro ⟨hclean, -⟩
    exact ⟨_, hout, fun htag => hclean.untagged (htag.same hsame), hsame.head.trans hclean.head,
      hsame.last.trans hclean.last⟩
  · rintro ⟨rest, hrest, htag, hhead, hlast⟩
    obtain rfl := hrest.unique hout
    have hclean : Clean (sanitizeString value) := by
      refine ⟨fun c hc => ?_, fun h => htag (h.same hsame.symm), hsame.head.symm.trans hhead,
        hsame.last.symm.trans hlast, squeeze_chain (by decide) _⟩
      rcases Pattern.mem_replaceAll hc with hc | hc
      · have hmem := (Pattern.mem_replaceAll hc).resolve_right List.not_mem_nil
        exact of_decide_eq_true (List.mem_filter.1 hmem).2
      · rw [List.mem_singleton.1 hc]
        decide
    exact ⟨hclean, sanitizeString_of_clean hclean⟩

/-- A tag inside of a tag: what is left is a tag. -/
theorem sanitizeString_nested : ¬ ∀ value, Clean (sanitizeString value) ∧
    sanitizeString (sanitizeString value) = sanitizeString value := by
  intro hclaim
  have houtput : sanitizeString (of "<scr<script>ipt>") = of "<script>" := by decide
  have htag : scriptTag.Matches (of "<script>") := by decide
  have hclean := (hclaim (of "<scr<script>ipt>")).1
  rw [houtput] at hclean
  exact hclean.untagged ⟨_, List.infix_rfl, htag⟩

end Common
