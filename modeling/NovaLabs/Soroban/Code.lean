/-
  Contract code: functions over a contract's storage that return a value or stop.

  Code stops with an error of the contract or by a panic.  What it wrote before it stopped stands
  until the host takes back the writes of the whole call (`commit`).
-/
import Mathlib.Algebra.Group.Nat.Defs

namespace Soroban

/-- How contract code stops early. -/
inductive Stop (E : Type) where
  | err (e : E)
  | panic
  deriving DecidableEq

/-- Code over the storage `S`, with errors `E`. -/
abbrev Code (S E α : Type) := ExceptT (Stop E) (StateM S) α

variable {S E α β : Type}

/-- The result of code on a storage, and the storage it leaves. -/
def exec (x : Code S E α) (s : S) : Except (Stop E) α × S := (ExceptT.run x).run s

/-- On `s`, the code `x` returns `a` and leaves `s'`. -/
def Returns (x : Code S E α) (s : S) (a : α) (s' : S) : Prop := exec x s = (.ok a, s')

/-- On `s`, the code `x` stops with `e`, the storage at `s'`. -/
def Stops (x : Code S E α) (s : S) (e : Stop E) (s' : S) : Prop := exec x s = (.error e, s')

/-- A call of `x`: an error or a panic takes back all it wrote. -/
def commit (x : Code S E α) (s : S) : S :=
  match exec x s with
  | (.ok _, s') => s'
  | (.error _, _) => s

/-- Whether code returns. -/
def succeeds (x : Code S E α) (s : S) : Bool :=
  match (exec x s).1 with
  | .ok _ => true
  | .error _ => false

/-- `if p { return Err(e) }`. -/
def failIf (p : Prop) [Decidable p] (e : E) : Code S E Unit :=
  if p then throw (.err e) else pure ()

/-- `if p { x }`. -/
def runIf (p : Prop) [Decidable p] (x : Code S E Unit) : Code S E Unit := if p then x else pure ()

/-- `o.ok_or(e)?`. -/
def okOr (o : Option α) (e : E) : Code S E α :=
  match o with
  | some a => pure a
  | none => throw (.err e)

/-- The host stops the call unless `p`. -/
def hostRequire (p : Prop) [Decidable p] : Code S E Unit :=
  if p then pure () else throw .panic

/-- The result `n` of unsigned arithmetic on `w` bits, with overflow checks. -/
def checked (w n : ℕ) : Code S E ℕ :=
  if n < 2 ^ w then pure n else throw .panic

/-- The difference `n - m` of unsigned numbers, with overflow checks. -/
def checkedSub (n m : ℕ) : Code S E ℕ :=
  if m ≤ n then pure (n - m) else throw .panic

/-- `x.unwrap_or(d)`. -/
def unwrapOr (x : Code S E α) (d : α) : Code S E α :=
  tryCatch x fun
    | .err _ => pure d
    | .panic => throw .panic

/-- `x.map_err(|_| e)`. -/
def mapErr (x : Code S E α) (e : E) : Code S E α :=
  tryCatch x fun
    | .err _ => throw (.err e)
    | .panic => throw .panic

/-- `x`, without its value. -/
def ignore (x : Code S E α) : Code S E Unit := x >>= fun _ => pure ()

/-! ## What returns -/

section
variable {s s' : S} {a : α} {b : β}

@[simp] theorem returns_pure {a' : α} :
    Returns (pure a' : Code S E α) s a s' ↔ a = a' ∧ s' = s := by
  constructor
  · intro h; cases h; exact ⟨rfl, rfl⟩
  · rintro ⟨rfl, rfl⟩; rfl

@[simp] theorem returns_throw {e : Stop E} : ¬ Returns (throw e : Code S E α) s a s' :=
  fun h => by cases h

theorem exec_bind (x : Code S E α) (f : α → Code S E β) (s : S) :
    exec (x >>= f) s = match exec x s with
      | (.ok a, s₁) => exec (f a) s₁
      | (.error e, s₁) => (.error e, s₁) := by
  simp only [exec, ExceptT.run_bind, StateT.run_bind]
  rcases (ExceptT.run x).run s with ⟨_ | a, s₁⟩ <;> rfl

@[simp] theorem returns_bind {x : Code S E α} {f : α → Code S E β} :
    Returns (x >>= f) s b s' ↔ ∃ a s₁, Returns x s a s₁ ∧ Returns (f a) s₁ b s' := by
  simp only [Returns, exec_bind]
  rcases hx : exec x s with ⟨e | a, s₁⟩
  · simp
  · simp only [Prod.mk.injEq, Except.ok.injEq]
    constructor
    · intro h; exact ⟨a, s₁, ⟨rfl, rfl⟩, h⟩
    · rintro ⟨_, _, ⟨rfl, rfl⟩, h⟩; exact h

@[simp] theorem returns_map {x : Code S E α} {f : α → β} :
    Returns (f <$> x) s b s' ↔ ∃ a, Returns x s a s' ∧ b = f a := by
  rw [← bind_pure_comp, returns_bind]
  simp only [returns_pure]
  constructor
  · rintro ⟨a, s₁, h, rfl, rfl⟩; exact ⟨a, h, rfl⟩
  · rintro ⟨a, h, rfl⟩; exact ⟨a, s', h, rfl, rfl⟩

@[simp] theorem returns_ignore {x : Code S E α} {u : Unit} :
    Returns (ignore x) s u s' ↔ ∃ a, Returns x s a s' := by
  simp only [ignore, returns_bind, returns_pure]
  constructor
  · rintro ⟨a, _, h, -, rfl⟩; exact ⟨a, h⟩
  · rintro ⟨a, h⟩; exact ⟨a, s', h, trivial, rfl⟩

@[simp] theorem returns_get {t : S} : Returns (get : Code S E S) s t s' ↔ t = s ∧ s' = s := by
  constructor
  · intro h; cases h; exact ⟨rfl, rfl⟩
  · rintro ⟨rfl, rfl⟩; rfl

theorem returns_get_bind {f : S → Code S E β} :
    Returns (get >>= f) s b s' ↔ Returns (f s) s b s' := by
  simp only [returns_bind, returns_get]
  constructor
  · rintro ⟨_, _, ⟨rfl, rfl⟩, h⟩; exact h
  · intro h; exact ⟨s, s, ⟨rfl, rfl⟩, h⟩

@[simp] theorem returns_modify {f : S → S} {u : Unit} :
    Returns (modify f : Code S E Unit) s u s' ↔ s' = f s := by
  constructor
  · intro h; cases h; rfl
  · rintro rfl; rfl

@[simp] theorem returns_failIf {p : Prop} [Decidable p] {e : E} {u : Unit} :
    Returns (failIf p e : Code S E Unit) s u s' ↔ ¬ p ∧ s' = s := by
  unfold failIf
  by_cases h : p <;> simp [h]

@[simp] theorem returns_hostRequire {p : Prop} [Decidable p] {u : Unit} :
    Returns (hostRequire p : Code S E Unit) s u s' ↔ p ∧ s' = s := by
  unfold hostRequire
  by_cases h : p <;> simp [h]

@[simp] theorem returns_okOr {o : Option α} {e : E} :
    Returns (okOr o e : Code S E α) s a s' ↔ o = some a ∧ s' = s := by
  cases o with
  | none => simp [okOr]
  | some a' => simp [okOr, eq_comm]

@[simp] theorem returns_checked {w n m : ℕ} :
    Returns (checked w n : Code S E ℕ) s m s' ↔ m = n ∧ n < 2 ^ w ∧ s' = s := by
  unfold checked
  by_cases h : n < 2 ^ w <;> simp [h]

@[simp] theorem returns_checkedSub {n m k : ℕ} :
    Returns (checkedSub n m : Code S E ℕ) s k s' ↔ k = n - m ∧ m ≤ n ∧ s' = s := by
  unfold checkedSub
  by_cases h : m ≤ n <;> simp [h]

theorem returns_ite {p : Prop} [Decidable p] {x y : Code S E α} :
    Returns (if p then x else y) s a s' ↔ (p ∧ Returns x s a s') ∨ (¬ p ∧ Returns y s a s') := by
  by_cases h : p <;> simp [h]

theorem returns_runIf {p : Prop} [Decidable p] {x : Code S E Unit} {u : Unit} :
    Returns (runIf p x) s u s' ↔ (p ∧ Returns x s u s') ∨ (¬ p ∧ s' = s) := by
  unfold runIf
  by_cases h : p <;> simp [h]

theorem exec_unwrapOr (x : Code S E α) (d : α) (s : S) :
    exec (unwrapOr x d) s = match exec x s with
      | (.error (.err _), s₁) => (.ok d, s₁)
      | r => r := by
  simp only [exec, unwrapOr, tryCatch, tryCatchThe, MonadExceptOf.tryCatch, ExceptT.tryCatch,
    ExceptT.run, ExceptT.mk, StateT.run_bind]
  rcases StateT.run x s with ⟨(_ | _) | a, s₁⟩ <;> rfl

theorem exec_mapErr (x : Code S E α) (e : E) (s : S) :
    exec (mapErr x e) s = match exec x s with
      | (.error (.err _), s₁) => (.error (.err e), s₁)
      | r => r := by
  simp only [exec, mapErr, tryCatch, tryCatchThe, MonadExceptOf.tryCatch, ExceptT.tryCatch,
    ExceptT.run, ExceptT.mk, StateT.run_bind]
  rcases StateT.run x s with ⟨(_ | _) | a, s₁⟩ <;> rfl

/-- `x.unwrap_or(d)` returns what `x` does, or `d` where `x` stops with an error. -/
theorem returns_unwrapOr {x : Code S E α} {d : α} :
    Returns (unwrapOr x d) s a s' ↔ Returns x s a s' ∨ (a = d ∧ ∃ e, Stops x s (.err e) s') := by
  simp only [Returns, Stops, exec_unwrapOr]
  rcases exec x s with ⟨(_ | _) | a', s₁⟩ <;> simp [eq_comm]

/-- `x.map_err(|_| e)` returns what `x` does. -/
@[simp] theorem returns_mapErr {x : Code S E α} {e : E} :
    Returns (mapErr x e) s a s' ↔ Returns x s a s' := by
  simp only [Returns, exec_mapErr]
  rcases exec x s with ⟨(_ | _) | a', s₁⟩ <;> simp

/-- Code that only reads passes its value on. -/
theorem returns_bind_of_reads {x : Code S E α} {f : α → Code S E β} {p : α → Prop}
    (hx : ∀ a s', Returns x s a s' ↔ p a ∧ s' = s) :
    Returns (x >>= f) s b s' ↔ ∃ a, p a ∧ Returns (f a) s b s' := by
  simp only [returns_bind, hx]
  constructor
  · rintro ⟨a, _, ⟨ha, rfl⟩, h⟩; exact ⟨a, ha, h⟩
  · rintro ⟨a, ha, h⟩; exact ⟨a, s, ⟨ha, rfl⟩, h⟩

theorem returns_bind_of_checks {x : Code S E Unit} {f : Unit → Code S E β} {p : Prop}
    (hx : ∀ u s', Returns x s u s' ↔ p ∧ s' = s) :
    Returns (x >>= f) s b s' ↔ p ∧ Returns (f ()) s b s' := by
  rw [returns_bind_of_reads hx]
  exact ⟨fun ⟨_, h⟩ => h, fun h => ⟨(), h⟩⟩

theorem returns_okOr_bind {o : Option α} {e : E} {f : α → Code S E β} :
    Returns (okOr o e >>= f) s b s' ↔ ∃ a, o = some a ∧ Returns (f a) s b s' :=
  returns_bind_of_reads fun _ _ => returns_okOr

theorem returns_failIf_bind {p : Prop} [Decidable p] {e : E} {f : Unit → Code S E β} :
    Returns (failIf p e >>= f) s b s' ↔ ¬ p ∧ Returns (f ()) s b s' :=
  returns_bind_of_checks fun _ _ => returns_failIf

theorem returns_runIf_bind_of_checks {p q : Prop} [Decidable p] {x : Code S E Unit}
    {f : Unit → Code S E β} (hx : ∀ u s', Returns x s u s' ↔ q ∧ s' = s) :
    Returns (runIf p x >>= f) s b s' ↔ (p → q) ∧ Returns (f ()) s b s' := by
  refine returns_bind_of_checks fun u s' => ?_
  rw [returns_runIf, hx]
  by_cases h : p <;> simp [h]

theorem returns_checked_bind {w n : ℕ} {f : ℕ → Code S E β} :
    Returns (checked w n >>= f) s b s' ↔ n < 2 ^ w ∧ Returns (f n) s b s' := by
  rw [returns_bind_of_reads (p := fun m => m = n ∧ n < 2 ^ w) fun _ _ => by
    rw [returns_checked, and_assoc]]
  constructor
  · rintro ⟨_, ⟨rfl, hn⟩, h⟩; exact ⟨hn, h⟩
  · rintro ⟨hn, h⟩; exact ⟨n, ⟨rfl, hn⟩, h⟩

theorem returns_checkedSub_bind {n m : ℕ} {f : ℕ → Code S E β} :
    Returns (checkedSub n m >>= f) s b s' ↔ m ≤ n ∧ Returns (f (n - m)) s b s' := by
  rw [returns_bind_of_reads (p := fun k => k = n - m ∧ m ≤ n) fun _ _ => by
    rw [returns_checkedSub, and_assoc]]
  constructor
  · rintro ⟨_, ⟨rfl, hm⟩, h⟩; exact ⟨hm, h⟩
  · rintro ⟨hm, h⟩; exact ⟨_, ⟨rfl, hm⟩, h⟩

theorem returns_forM_cons {g : α → Code S E Unit} {l : List α} {u : Unit} :
    Returns ((a :: l).forM g) s u s' ↔
      ∃ s₁, Returns (g a) s () s₁ ∧ Returns (l.forM g) s₁ u s' := by
  change Returns (g a >>= fun _ => l.forM g) s u s' ↔ _
  rw [returns_bind]
  exact ⟨fun ⟨⟨⟩, s₁, h⟩ => ⟨s₁, h⟩, fun ⟨s₁, h⟩ => ⟨(), s₁, h⟩⟩

/-- A loop that returns `h b a` from each `b` and `a`, if `a` has `p`, returns the fold of `h` if all
    elements have `p`. -/
theorem returns_foldlM {g : β → α → Code S E β} {p : α → Prop} {h : β → α → β}
    (hg : ∀ b a s b', (∃ s', Returns (g b a) s b' s') ↔ p a ∧ b' = h b a) {l : List α} {b' : β} :
    (∃ s', Returns (l.foldlM g b) s b' s') ↔ (∀ a ∈ l, p a) ∧ b' = l.foldl h b := by
  induction l generalizing b s with
  | nil => simp
  | cons a l ih =>
    simp only [List.foldlM_cons, returns_bind, List.forall_mem_cons, List.foldl_cons]
    constructor
    · rintro ⟨s', b₁, s₁, h₁, h₂⟩
      obtain ⟨ha, rfl⟩ := (hg b a s b₁).1 ⟨s₁, h₁⟩
      obtain ⟨hl, rfl⟩ := ih.1 ⟨s', h₂⟩
      exact ⟨⟨ha, hl⟩, rfl⟩
    · rintro ⟨⟨ha, hl⟩, rfl⟩
      obtain ⟨s₁, h₁⟩ := (hg b a s _).2 ⟨ha, rfl⟩
      obtain ⟨s', h₂⟩ := (ih (s := s₁)).2 ⟨hl, rfl⟩
      exact ⟨s', _, s₁, h₁, h₂⟩

/-- What each round of a loop keeps, of its value and the storage, holds after the loop. -/
theorem Returns.foldlM_keeps {g : β → α → Code S E β} {P : β → S → Prop} {l : List α} {b' : β}
    (hg : ∀ b a s b' s', P b s → Returns (g b a) s b' s' → P b' s')
    (h : Returns (l.foldlM g b) s b' s') (hP : P b s) : P b' s' := by
  induction l generalizing b s with
  | nil =>
    obtain ⟨rfl, rfl⟩ := returns_pure.1 h
    exact hP
  | cons a l ih =>
    rw [List.foldlM_cons] at h
    obtain ⟨b₁, s₁, h₁, h₂⟩ := returns_bind.1 h
    exact ih h₂ (hg b a s b₁ s₁ hP h₁)

/-- What each round of a loop keeps, of the storage, holds after the loop. -/
theorem Returns.forM_keeps {g : α → Code S E Unit} {P : S → Prop} {l : List α} {u : Unit}
    (hg : ∀ a s s', P s → Returns (g a) s () s' → P s') (h : Returns (l.forM g) s u s')
    (hP : P s) : P s' := by
  induction l generalizing s with
  | nil =>
    obtain ⟨-, rfl⟩ := returns_pure.1 h
    exact hP
  | cons a l ih =>
    obtain ⟨s₁, h₁, h₂⟩ := returns_forM_cons.1 h
    exact ih h₂ (hg a s s₁ hP h₁)

/-- A call either returns and keeps its writes, or changes nothing. -/
theorem commit_cases (x : Code S E α) (s : S) :
    (∃ a, Returns x s a (commit x s)) ∨ ((∀ a s', ¬ Returns x s a s') ∧ commit x s = s) := by
  unfold commit Returns
  rcases exec x s with ⟨_ | a, s₁⟩
  · exact Or.inr ⟨fun _ _ h => by simp at h, rfl⟩
  · exact Or.inl ⟨a, rfl⟩

/-- A call that does not return changes nothing. -/
theorem commit_eq_self {x : Code S E α} (h : ∀ a s', ¬ Returns x s a s') : commit x s = s := by
  rcases commit_cases x s with ⟨a, ha⟩ | ⟨-, he⟩
  · exact absurd ha (h a _)
  · exact he

theorem commit_ignore {x : Code S E α} : commit (ignore x) s = commit x s := by
  unfold commit ignore
  rw [exec_bind]
  rcases exec x s with ⟨_ | a, s₁⟩ <;> rfl

theorem succeeds_iff {x : Code S E α} : succeeds x s = true ↔ ∃ a s', Returns x s a s' := by
  unfold succeeds Returns
  rcases exec x s with ⟨_ | a, s₁⟩ <;> simp

/-- Code returns one value and one storage. -/
theorem Returns.unique {x : Code S E α} {a' : α} {s'' : S} (h : Returns x s a s')
    (h' : Returns x s a' s'') : a = a' ∧ s' = s'' := by
  have he := h.symm.trans h'
  simp only [Prod.mk.injEq, Except.ok.injEq] at he
  exact he

theorem Returns.commit_eq {x : Code S E α} (h : Returns x s a s') : commit x s = s' := by
  unfold commit; rw [h]

end

/-! ## What stops -/

section
variable {s s' : S} {e : Stop E}

@[simp] theorem not_stops_pure {a : α} : ¬ Stops (pure a : Code S E α) s e s' := fun h => by cases h

@[simp] theorem not_stops_get : ¬ Stops (get : Code S E S) s e s' := fun h => by cases h

@[simp] theorem not_stops_modify {f : S → S} : ¬ Stops (modify f : Code S E Unit) s e s' :=
  fun h => by cases h

@[simp] theorem stops_throw {e' : Stop E} :
    Stops (throw e' : Code S E α) s e s' ↔ e = e' ∧ s' = s := by
  constructor
  · intro h; cases h; exact ⟨rfl, rfl⟩
  · rintro ⟨rfl, rfl⟩; rfl

@[simp] theorem stops_bind {x : Code S E α} {f : α → Code S E β} :
    Stops (x >>= f) s e s' ↔
      Stops x s e s' ∨ ∃ a s₁, Returns x s a s₁ ∧ Stops (f a) s₁ e s' := by
  simp only [Stops, Returns, exec_bind]
  rcases hx : exec x s with ⟨e' | a, s₁⟩
  · simp
  · simp only [Prod.mk.injEq, Except.ok.injEq, reduceCtorEq, false_and, false_or]
    constructor
    · intro h; exact ⟨a, s₁, ⟨rfl, rfl⟩, h⟩
    · rintro ⟨_, _, ⟨rfl, rfl⟩, h⟩; exact h

@[simp] theorem stops_map {x : Code S E α} {f : α → β} :
    Stops (f <$> x) s e s' ↔ Stops x s e s' := by
  rw [← bind_pure_comp, stops_bind]
  simp

theorem Returns.not_stops {x : Code S E α} {a : α} {s₁ : S} (h : Returns x s a s₁) :
    ¬ Stops x s e s' := by
  intro hs
  rw [Returns, show exec x s = _ from hs] at h
  cases h

theorem stops_get_bind {f : S → Code S E β} :
    Stops (get >>= f) s e s' ↔ Stops (f s) s e s' := by
  simp only [stops_bind, not_stops_get, returns_get, false_or]
  constructor
  · rintro ⟨_, _, ⟨rfl, rfl⟩, h⟩; exact h
  · intro h; exact ⟨s, s, ⟨rfl, rfl⟩, h⟩

theorem stops_ite {p : Prop} [Decidable p] {x y : Code S E α} :
    Stops (if p then x else y) s e s' ↔ (p ∧ Stops x s e s') ∨ (¬ p ∧ Stops y s e s') := by
  by_cases h : p <;> simp [h]

@[simp] theorem stops_failIf {p : Prop} [Decidable p] {e' : E} :
    Stops (failIf p e' : Code S E Unit) s e s' ↔ p ∧ e = .err e' ∧ s' = s := by
  unfold failIf
  by_cases h : p <;> simp [h]

@[simp] theorem stops_okOr {o : Option α} {e' : E} :
    Stops (okOr o e' : Code S E α) s e s' ↔ o = none ∧ e = .err e' ∧ s' = s := by
  cases o <;> simp [okOr]

@[simp] theorem stops_checked {w n : ℕ} :
    Stops (checked w n : Code S E ℕ) s e s' ↔ ¬ n < 2 ^ w ∧ e = .panic ∧ s' = s := by
  unfold checked
  by_cases h : n < 2 ^ w <;> simp [h]

@[simp] theorem stops_hostRequire {p : Prop} [Decidable p] :
    Stops (hostRequire p : Code S E Unit) s e s' ↔ ¬ p ∧ e = .panic ∧ s' = s := by
  unfold hostRequire
  by_cases h : p <;> simp [h]

/-- Code that goes on after it has only read stops in what it reads or in what follows. -/
theorem stops_bind_of_reads {x : Code S E α} {f : α → Code S E β} {p : α → Prop}
    (hx : ∀ a s', Returns x s a s' ↔ p a ∧ s' = s) :
    Stops (x >>= f) s e s' ↔ Stops x s e s' ∨ ∃ a, p a ∧ Stops (f a) s e s' := by
  simp only [stops_bind, hx]
  refine or_congr_right ⟨?_, ?_⟩
  · rintro ⟨a, _, ⟨ha, rfl⟩, h⟩; exact ⟨a, ha, h⟩
  · rintro ⟨a, ha, h⟩; exact ⟨a, s, ⟨ha, rfl⟩, h⟩

theorem stops_failIf_bind {p : Prop} [Decidable p] {e' : E} {f : Unit → Code S E β} :
    Stops (failIf p e' >>= f) s e s' ↔
      (p ∧ e = .err e' ∧ s' = s) ∨ (¬ p ∧ Stops (f ()) s e s') := by
  rw [stops_bind_of_reads (p := fun _ => ¬ p) fun _ _ => returns_failIf, stops_failIf]
  exact or_congr_right ⟨fun ⟨_, h⟩ => h, fun h => ⟨(), h⟩⟩

theorem stops_okOr_bind {o : Option α} {e' : E} {f : α → Code S E β} :
    Stops (okOr o e' >>= f) s e s' ↔
      (o = none ∧ e = .err e' ∧ s' = s) ∨ ∃ a, o = some a ∧ Stops (f a) s e s' := by
  rw [stops_bind_of_reads fun _ _ => returns_okOr, stops_okOr]

theorem stops_checked_bind {w n : ℕ} {f : ℕ → Code S E β} :
    Stops (checked w n >>= f) s e s' ↔
      (2 ^ w ≤ n ∧ e = .panic ∧ s' = s) ∨ (n < 2 ^ w ∧ Stops (f n) s e s') := by
  rw [stops_bind_of_reads (p := fun m => m = n ∧ n < 2 ^ w) fun _ _ => by
    rw [returns_checked, and_assoc], stops_checked, Nat.not_lt]
  refine or_congr_right ⟨?_, ?_⟩
  · rintro ⟨_, ⟨rfl, hn⟩, h⟩; exact ⟨hn, h⟩
  · rintro ⟨hn, h⟩; exact ⟨n, ⟨rfl, hn⟩, h⟩

/-- `x.unwrap_or(d)` stops by a panic only. -/
theorem not_stops_unwrapOr {x : Code S E α} {d : α} {e' : E} :
    ¬ Stops (unwrapOr x d) s (.err e') s' := by
  simp only [Stops, exec_unwrapOr]
  rcases exec x s with ⟨(_ | _) | a, s₁⟩ <;> simp

end

/-! ## What always returns -/

/-- The code returns on every storage. -/
class Total (x : Code S E α) : Prop where
  returns : ∀ s, ∃ a s', Returns x s a s'

section
variable {x y : Code S E α} {f : α → Code S E β}

theorem exists_returns (z : Code S E Unit) [h : Total z] (s : S) : ∃ s', Returns z s () s' := by
  obtain ⟨⟨⟩, s', hr⟩ := h.returns s
  exact ⟨s', hr⟩

theorem Total.not_stops [h : Total x] {s s' : S} {e : Stop E} : ¬ Stops x s e s' := by
  obtain ⟨a, s₁, hr⟩ := h.returns s
  exact hr.not_stops

instance {a : α} : Total (pure a : Code S E α) := ⟨fun s => ⟨a, s, rfl⟩⟩

instance [hx : Total x] [hf : ∀ a, Total (f a)] : Total (x >>= f) where
  returns s := by
    obtain ⟨a, s₁, h₁⟩ := hx.returns s
    obtain ⟨b, s₂, h₂⟩ := (hf a).returns s₁
    exact ⟨b, s₂, returns_bind.2 ⟨a, s₁, h₁, h₂⟩⟩

instance {p : Prop} [Decidable p] [hx : Total x] [hy : Total y] :
    Total (if p then x else y) := by
  by_cases h : p
  · rwa [if_pos h]
  · rwa [if_neg h]

instance {p : Prop} [Decidable p] {z : Code S E Unit} [Total z] : Total (runIf p z) := by
  unfold runIf; infer_instance

instance {o : Option α} {z : Code S E β} [hz : Total z] [hf : ∀ a, Total (f a)] :
    Total (o.elim z f) := by
  cases o with
  | none => exact hz
  | some a => exact hf a

instance {l : List α} {g : α → Code S E Unit} [∀ a, Total (g a)] : Total (l.forM g) := by
  induction l with
  | nil => exact ⟨fun s => ⟨(), s, rfl⟩⟩
  | cons a l ih =>
    change Total (g a >>= fun _ => l.forM g)
    infer_instance

end

end Soroban
