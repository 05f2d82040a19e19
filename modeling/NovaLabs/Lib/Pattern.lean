/-
  Regular expressions over classes of characters, as a backtracking matcher runs them.

  `attempts` lists the ways in which a pattern matches at the start of a text, in the order in which
  the matcher tries them; `replaceAll` scans a text and replaces what the first attempt matches.
-/
import Mathlib.Data.List.Forall2
import Mathlib.Logic.Basic

namespace Lib

/-- A character of a class, as many characters of a class as there are, a pattern or nothing, or one
    pattern after the other. -/
inductive Pattern (α : Type)
  | one (p : α → Bool)
  | many (p : α → Bool)
  | opt (x : Pattern α)
  | seq (x y : Pattern α)

namespace Pattern
variable {α : Type}

/-- The texts that a pattern stands for. -/
def Matches : Pattern α → List α → Prop
  | one p, m => ∃ c, m = [c] ∧ p c
  | many p, m => ∀ c ∈ m, p c
  | opt x, m => x.Matches m ∨ m = []
  | seq x y, m => ∃ m₁ m₂, m = m₁ ++ m₂ ∧ x.Matches m₁ ∧ y.Matches m₂

/-- The starts of a text in a class, the longest first, each with what comes after it. -/
def spans (p : α → Bool) : List α → List (List α × List α)
  | [] => [([], [])]
  | c :: s => (if p c then (spans p s).map fun (m, r) => (c :: m, r) else []) ++ [([], c :: s)]

/-- The matches at the start of a text, in the order of the attempts. -/
def attempts : Pattern α → List α → List (List α × List α)
  | one _, [] => []
  | one p, c :: s => if p c then [([c], s)] else []
  | many p, s => spans p s
  | opt x, s => x.attempts s ++ [([], s)]
  | seq x y, s => (x.attempts s).flatMap fun (m, r) =>
      (y.attempts r).map fun (m', r') => (m ++ m', r')

theorem mem_spans {p : α → Bool} {s m r : List α} :
    (m, r) ∈ spans p s ↔ s = m ++ r ∧ ∀ c ∈ m, p c := by
  induction s generalizing m with
  | nil =>
    rw [spans, List.mem_singleton, Prod.mk.injEq, List.nil_eq_append_iff]
    constructor
    · rintro ⟨rfl, rfl⟩
      exact ⟨⟨rfl, rfl⟩, nofun⟩
    · exact And.left
  | cons c s ih =>
    rw [spans, List.mem_append, List.mem_singleton, Prod.mk.injEq]
    constructor
    · rintro (h | ⟨rfl, rfl⟩)
      · split_ifs at h with hc
        · obtain ⟨⟨m', r'⟩, hm', heq⟩ := List.mem_map.1 h
          cases heq
          obtain ⟨rfl, hall⟩ := ih.1 hm'
          exact ⟨rfl, List.forall_mem_cons.2 ⟨hc, hall⟩⟩
        · cases h
      · exact ⟨rfl, nofun⟩
    · rintro ⟨h, hall⟩
      cases m with
      | nil => exact Or.inr ⟨rfl, h.symm⟩
      | cons c' m =>
        obtain ⟨rfl, rfl⟩ := List.cons.inj h
        obtain ⟨hc, hall⟩ := List.forall_mem_cons.1 hall
        rw [if_pos hc]
        exact Or.inl (List.mem_map.2 ⟨(m, r), ih.2 ⟨rfl, hall⟩, rfl⟩)

/-- **The attempts are the matches at the start of the text.** -/
theorem mem_attempts {x : Pattern α} {s m r : List α} :
    (m, r) ∈ x.attempts s ↔ s = m ++ r ∧ x.Matches m := by
  induction x generalizing s m r with
  | one p =>
    cases s with
    | nil =>
      refine iff_of_false List.not_mem_nil ?_
      rintro ⟨hnil, c, rfl, -⟩
      cases hnil
    | cons c s =>
      rw [attempts]
      constructor
      · intro h
        split_ifs at h with hc
        · obtain ⟨rfl, rfl⟩ := Prod.mk.inj (List.mem_singleton.1 h)
          exact ⟨rfl, c, rfl, hc⟩
        · cases h
      · rintro ⟨h, c', rfl, hc⟩
        obtain ⟨rfl, rfl⟩ := List.cons.inj h
        rw [if_pos hc]
        exact List.mem_singleton.2 rfl
  | many p => exact mem_spans
  | opt x ih =>
    rw [attempts, List.mem_append, List.mem_singleton, ih, Prod.mk.injEq, Matches]
    constructor
    · rintro (⟨hs, hm⟩ | ⟨rfl, rfl⟩)
      · exact ⟨hs, Or.inl hm⟩
      · exact ⟨rfl, Or.inr rfl⟩
    · rintro ⟨hs, hm | rfl⟩
      · exact Or.inl ⟨hs, hm⟩
      · exact Or.inr ⟨rfl, hs.symm⟩
  | seq x y ihx ihy =>
    rw [attempts, List.mem_flatMap]
    constructor
    · rintro ⟨⟨m₁, r₁⟩, h₁, h⟩
      obtain ⟨⟨m₂, r₂⟩, h₂, heq⟩ := List.mem_map.1 h
      cases heq
      obtain ⟨rfl, hm₁⟩ := ihx.1 h₁
      obtain ⟨rfl, hm₂⟩ := ihy.1 h₂
      exact ⟨(List.append_assoc ..).symm, m₁, m₂, rfl, hm₁, hm₂⟩
    · rintro ⟨rfl, m₁, m₂, rfl, hm₁, hm₂⟩
      exact ⟨(m₁, m₂ ++ r), ihx.2 ⟨List.append_assoc .., hm₁⟩,
        List.mem_map.2 ⟨(m₂, r), ihy.2 ⟨rfl, hm₂⟩, rfl⟩⟩

/-! ## Tests -/

/-- The whole text matches (`^x$`). -/
def test (x : Pattern α) (s : List α) : Bool := (x.attempts s).any fun a => a.2.isEmpty

theorem test_iff {x : Pattern α} {s : List α} : x.test s ↔ x.Matches s := by
  rw [test, List.any_eq_true]
  constructor
  · rintro ⟨⟨m, r⟩, h, hr⟩
    obtain ⟨rfl, hm⟩ := mem_attempts.1 h
    obtain rfl : r = [] := List.isEmpty_iff.1 hr
    rwa [List.append_nil]
  · exact fun h => ⟨(s, []), mem_attempts.2 ⟨(List.append_nil s).symm, h⟩, rfl⟩

instance (x : Pattern α) : DecidablePred x.Matches := fun _ => decidable_of_iff _ test_iff

/-- A character of each class in turn. -/
def classes : List (α → Bool) → Pattern α
  | [] => .many fun _ => false
  | p :: ps => .seq (.one p) (classes ps)

theorem matches_classes {ps : List (α → Bool)} {m : List α} :
    (classes ps).Matches m ↔ List.Forall₂ (fun p c => p c) ps m := by
  induction ps generalizing m with
  | nil =>
    rw [List.forall₂_nil_left_iff, List.eq_nil_iff_forall_not_mem]
    exact forall₂_congr fun c hc => Bool.false_eq_true ▸ Iff.rfl
  | cons p ps ih =>
    rw [classes, Matches]
    constructor
    · rintro ⟨_, m, rfl, ⟨c, rfl, hc⟩, hm⟩
      exact .cons hc (ih.1 hm)
    · rintro (_ | ⟨hc, hm⟩)
      exact ⟨[_], _, rfl, ⟨_, rfl, hc⟩, ih.2 hm⟩

/-! ## Captures -/

/-- The ways in which patterns match one after the other at the start of a text, with what each of
    them matches. -/
def splits : List (Pattern α) → List α → List (List (List α) × List α)
  | [], s => [([], s)]
  | x :: xs, s => (x.attempts s).flatMap fun (m, r) =>
      (splits xs r).map fun (ms, r') => (m :: ms, r')

/-- What each pattern matches when together they match the whole text. -/
def captures (xs : List (Pattern α)) (s : List α) : Option (List (List α)) :=
  ((splits xs s).find? fun a => a.2.isEmpty).map Prod.fst

theorem mem_splits {xs : List (Pattern α)} {s r : List α} {ms : List (List α)} :
    (ms, r) ∈ splits xs s ↔ s = ms.flatten ++ r ∧ List.Forall₂ Matches xs ms := by
  induction xs generalizing s ms with
  | nil =>
    rw [splits, List.mem_singleton, Prod.mk.injEq, List.forall₂_nil_left_iff]
    constructor
    · rintro ⟨rfl, rfl⟩
      exact ⟨rfl, rfl⟩
    · rintro ⟨rfl, rfl⟩
      exact ⟨rfl, rfl⟩
  | cons x xs ih =>
    rw [splits, List.mem_flatMap]
    constructor
    · rintro ⟨⟨m, r₁⟩, h₁, h⟩
      obtain ⟨⟨ms, r₂⟩, h₂, heq⟩ := List.mem_map.1 h
      cases heq
      obtain ⟨rfl, hm⟩ := mem_attempts.1 h₁
      obtain ⟨rfl, hms⟩ := ih.1 h₂
      exact ⟨(List.append_assoc ..).symm, .cons hm hms⟩
    · rintro ⟨rfl, _ | ⟨hm, hms⟩⟩
      exact ⟨(_, _ ++ r), mem_attempts.2 ⟨List.append_assoc .., hm⟩,
        List.mem_map.2 ⟨(_, r), ih.2 ⟨rfl, hms⟩, rfl⟩⟩

theorem captures_some {xs : List (Pattern α)} {s : List α} {ms : List (List α)}
    (h : captures xs s = some ms) : s = ms.flatten ∧ List.Forall₂ Matches xs ms := by
  obtain ⟨⟨ms', r⟩, hfind, rfl⟩ := Option.map_eq_some_iff.1 h
  obtain ⟨hs, hms⟩ := mem_splits.1 (List.mem_of_find?_eq_some hfind)
  have hr := List.find?_some hfind
  obtain rfl : r = [] := List.isEmpty_iff.1 hr
  exact ⟨hs.trans (List.append_nil _), hms⟩

theorem captures_none {xs : List (Pattern α)} {s : List α} :
    captures xs s = none ↔ ∀ ms, List.Forall₂ Matches xs ms → s ≠ ms.flatten := by
  rw [captures, Option.map_eq_none_iff, List.find?_eq_none]
  constructor
  · rintro h ms hms rfl
    exact h (ms, []) (mem_splits.2 ⟨(List.append_nil _).symm, hms⟩) rfl
  · rintro h ⟨ms, r⟩ hmem hr
    obtain ⟨hs, hms⟩ := mem_splits.1 hmem
    obtain rfl : r = [] := List.isEmpty_iff.1 hr
    exact h ms hms (hs.trans (List.append_nil _))

/-! ## Replacement -/

/-- What the first attempt matches. -/
def firstMatch (x : Pattern α) (s : List α) : Option (List α) :=
  (x.attempts s).head?.map Prod.fst

theorem firstMatch_some {x : Pattern α} {s m : List α} (h : x.firstMatch s = some m) :
    ∃ r, s = m ++ r ∧ x.Matches m := by
  obtain ⟨⟨m', r⟩, hhead, rfl⟩ := Option.map_eq_some_iff.1 h
  exact ⟨r, mem_attempts.1 (List.mem_of_head? hhead)⟩

theorem firstMatch_none {x : Pattern α} {s : List α} :
    x.firstMatch s = none ↔ ∀ m r, s = m ++ r → ¬ x.Matches m := by
  rw [firstMatch, Option.map_eq_none_iff, List.head?_eq_none_iff, List.eq_nil_iff_forall_not_mem]
  constructor
  · exact fun h m r hs hm => h (m, r) (mem_attempts.2 ⟨hs, hm⟩)
  · rintro h ⟨m, r⟩ ha
    obtain ⟨hs, hm⟩ := mem_attempts.1 ha
    exact h m r hs hm

/-- Scan a text, of which the first `n` characters belong to a match already replaced. -/
def replaceFrom (x : Pattern α) (sub : List α) : ℕ → List α → List α
  | _, [] => []
  | n + 1, _ :: s => x.replaceFrom sub n s
  | 0, c :: s => match x.firstMatch (c :: s) with
    | some (_ :: m) => sub ++ x.replaceFrom sub m.length s
    | some [] | none => c :: x.replaceFrom sub 0 s

/-- Replace what the pattern matches, for a pattern that does not match the empty text. -/
def replaceAll (x : Pattern α) (sub : List α) (s : List α) : List α := x.replaceFrom sub 0 s

section
variable {x : Pattern α} {sub : List α}

theorem replaceFrom_eq (n : ℕ) (s : List α) :
    x.replaceFrom sub n s = x.replaceAll sub (s.drop n) := by
  induction n generalizing s with
  | zero => rfl
  | succ n ih =>
    cases s with
    | nil => rfl
    | cons c s => exact ih s

@[simp] theorem replaceAll_nil : x.replaceAll sub [] = [] := rfl

theorem replaceAll_hit {c : α} {m s : List α}
    (h : x.firstMatch (c :: m ++ s) = some (c :: m)) :
    x.replaceAll sub (c :: m ++ s) = sub ++ x.replaceAll sub s := by
  rw [List.cons_append] at h ⊢
  rw [replaceAll, replaceFrom, h]
  exact congrArg (sub ++ ·) ((replaceFrom_eq _ _).trans (by rw [List.drop_left]))

theorem replaceAll_miss {c : α} {s : List α} (h : x.firstMatch (c :: s) = none) :
    x.replaceAll sub (c :: s) = c :: x.replaceAll sub s := by
  rw [replaceAll, replaceFrom, h]
  rfl

/-- Replacement, match by match. -/
theorem replaceAll_induction {P : List α → List α → Prop} (hx : ¬ x.Matches [])
    (nil : P [] [])
    (hit : ∀ c m s, x.firstMatch (c :: m ++ s) = some (c :: m) → P s (x.replaceAll sub s) →
      P (c :: m ++ s) (sub ++ x.replaceAll sub s))
    (miss : ∀ c s, x.firstMatch (c :: s) = none → P s (x.replaceAll sub s) →
      P (c :: s) (c :: x.replaceAll sub s)) (s : List α) : P s (x.replaceAll sub s) := by
  generalize hn : s.length = n
  induction n using Nat.strongRecOn generalizing s with
  | _ n ih =>
    subst hn
    cases s with
    | nil => exact nil
    | cons c s =>
      cases h : x.firstMatch (c :: s) with
      | none =>
        rw [replaceAll_miss h]
        exact miss c s h (ih s.length (Nat.lt_succ_self _) s rfl)
      | some m =>
        obtain ⟨r, hs, hm⟩ := firstMatch_some h
        cases m with
        | nil => exact absurd hm hx
        | cons c' m =>
          rw [hs] at h ⊢
          rw [replaceAll_hit h]
          have hlt : r.length < (c :: s).length := by
            rw [hs, List.length_append, List.length_cons]
            omega
          exact hit c' m r h (ih r.length hlt r rfl)

theorem mem_replaceFrom {c : α} {n : ℕ} {s : List α} (h : c ∈ x.replaceFrom sub n s) :
    c ∈ s ∨ c ∈ sub := by
  induction s generalizing n with
  | nil => cases n <;> cases h
  | cons d s ih =>
    cases n with
    | succ n => exact (ih h).imp_left (.tail _)
    | zero =>
      rw [replaceFrom] at h
      split at h
      · rcases List.mem_append.1 h with h | h
        · exact Or.inr h
        · exact (ih h).imp_left (.tail _)
      all_goals
        rcases List.mem_cons.1 h with rfl | h
        · exact Or.inl (.head _)
        · exact (ih h).imp_left (.tail _)

/-- The characters of the result are those of the text and of the replacement. -/
theorem mem_replaceAll {c : α} {s : List α} (h : c ∈ x.replaceAll sub s) : c ∈ s ∨ c ∈ sub :=
  mem_replaceFrom h

/-- Where the pattern matches nowhere, nothing is replaced. -/
theorem replaceAll_eq_self {s : List α} (h : ∀ m, m <:+: s → ¬ x.Matches m) :
    x.replaceAll sub s = s := by
  induction s with
  | nil => rfl
  | cons c s ih =>
    have hnone : x.firstMatch (c :: s) = none := firstMatch_none.2 fun m r hs =>
      h m ⟨[], r, hs.symm⟩
    rw [replaceAll_miss hnone, ih fun m hm => h m (hm.trans (List.suffix_cons c s).isInfix)]

end

end Pattern

end Lib
