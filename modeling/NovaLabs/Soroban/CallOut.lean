/-
  Entry points that call other contracts.

  An entry point runs code on the contract's storage up to a request to another contract, and goes
  on when the request has returned.  `Act` is the tree of what it may do; code is lifted to entry
  points, so both are written in one `do` block.  `Finishes`, `Refuses` and `CallsOut` say how an
  entry point starts out, and `Act.run` runs it against callees that do not call back.
-/
import NovaLabs.Soroban.Code

namespace Soroban

variable {S Q E W α β : Type}

/-- What an entry point does: it ends, or it requests `q` with its storage at `s` and continues
    from the storage it then finds. -/
inductive Act (S Q E α : Type) where
  | done (r : Except (Stop E) α) (s : S)
  | call (q : Q) (s : S) (k : S → Act S Q E α)

/-- Entry points over the storage `S`, with requests `Q`. -/
def Entry (S Q E α : Type) := S → Act S Q E α

/-- Continue with `f` once `x` has ended. -/
def Act.bind : Act S Q E α → (α → Entry S Q E β) → Act S Q E β
  | .done (.ok a) s, f => f a s
  | .done (.error e) s, _ => .done (.error e) s
  | .call q s k, f => .call q s fun t => (k t).bind f

instance : Monad (Entry S Q E) where
  pure a := fun s => .done (.ok a) s
  bind x f := fun s => (x s).bind f

instance : MonadLift (Code S E) (Entry S Q E) where
  monadLift x := fun s => .done (exec x s).1 (exec x s).2

/-- Request `q` from another contract. -/
def request (q : Q) : Entry S Q E Unit := fun s => .call q s fun t => .done (.ok ()) t

/-- `if p { request }`. -/
def requestIf (p : Prop) [Decidable p] (q : Q) : Entry S Q E Unit :=
  if p then request q else pure ()

/-- `x` ends on `s` without a request. -/
def Finishes (x : Entry S Q E α) (s : S) (a : α) (s' : S) : Prop := x s = .done (.ok a) s'

/-- `x` stops on `s` with `e` before any request, the storage at `s'`. -/
def Refuses (x : Entry S Q E α) (s : S) (e : Stop E) (s' : S) : Prop := x s = .done (.error e) s'

/-- `x` runs on `s` up to the request `q`, which finds the storage at `s'`. -/
def CallsOut (x : Entry S Q E α) (s : S) (q : Q) (s' : S) (k : S → Act S Q E α) : Prop :=
  x s = .call q s' k

section
variable {s s' : S} {a : α} {b : β} {q : Q} {k : S → Act S Q E β}

@[simp] theorem finishes_lift {x : Code S E α} :
    Finishes (liftM x : Entry S Q E α) s a s' ↔ Returns x s a s' := by
  change Act.done (exec x s).1 (exec x s).2 = Act.done _ _ ↔ _
  simp only [Act.done.injEq, Returns, Prod.ext_iff]

@[simp] theorem finishes_pure {a' : α} :
    Finishes (pure a' : Entry S Q E α) s a s' ↔ a = a' ∧ s' = s := by
  change Act.done _ _ = Act.done _ _ ↔ _
  simp [eq_comm]

@[simp] theorem finishes_bind {x : Entry S Q E α} {f : α → Entry S Q E β} :
    Finishes (x >>= f) s b s' ↔ ∃ a s₁, Finishes x s a s₁ ∧ Finishes (f a) s₁ b s' := by
  change (x s).bind f = _ ↔ _
  rcases hx : x s with ⟨e | a, s₁⟩ | ⟨q, s₁, k⟩
  · simp [Finishes, Act.bind, hx]
  · simp only [Finishes, Act.bind, hx, Act.done.injEq, Except.ok.injEq]
    constructor
    · intro h; exact ⟨a, s₁, ⟨rfl, rfl⟩, h⟩
    · rintro ⟨_, _, ⟨rfl, rfl⟩, h⟩; exact h
  · simp [Finishes, Act.bind, hx]

@[simp] theorem not_finishes_request {u : Unit} : ¬ Finishes (request q : Entry S Q E Unit) s u s' :=
  fun h => by cases h

@[simp] theorem not_callsOut_lift {x : Code S E β} :
    ¬ CallsOut (liftM x : Entry S Q E β) s q s' k := fun h => by cases h

@[simp] theorem not_callsOut_pure : ¬ CallsOut (pure b : Entry S Q E β) s q s' k :=
  fun h => by cases h

@[simp] theorem callsOut_request {q' : Q} {k : S → Act S Q E Unit} :
    CallsOut (request q' : Entry S Q E Unit) s q s' k ↔
      q = q' ∧ s' = s ∧ k = fun t => .done (.ok ()) t := by
  change Act.call _ _ _ = Act.call _ _ _ ↔ _
  simp [eq_comm]

@[simp] theorem callsOut_bind {x : Entry S Q E α} {f : α → Entry S Q E β} :
    CallsOut (x >>= f) s q s' k ↔
      (∃ a s₁, Finishes x s a s₁ ∧ CallsOut (f a) s₁ q s' k) ∨
      ∃ k', CallsOut x s q s' k' ∧ k = fun t => (k' t).bind f := by
  change (x s).bind f = _ ↔ _
  rcases hx : x s with ⟨e | a, s₁⟩ | ⟨q₁, s₁, k₁⟩
  · simp [Finishes, CallsOut, Act.bind, hx]
  · simp only [Finishes, CallsOut, Act.bind, hx, Act.done.injEq, Except.ok.injEq, reduceCtorEq,
      false_and]
    constructor
    · intro h; exact Or.inl ⟨a, s₁, ⟨rfl, rfl⟩, h⟩
    · rintro (⟨_, _, ⟨rfl, rfl⟩, h⟩ | ⟨_, h⟩)
      · exact h
      · exact h.elim
  · simp only [Act.bind, CallsOut, Finishes, hx, Act.call.injEq]
    constructor
    · rintro ⟨rfl, rfl, rfl⟩; exact Or.inr ⟨k₁, ⟨rfl, rfl, rfl⟩, rfl⟩
    · rintro (⟨_, _, h, -⟩ | ⟨_, ⟨rfl, rfl, rfl⟩, rfl⟩)
      · cases h
      · exact ⟨rfl, rfl, rfl⟩

section
variable {e : Stop E}

@[simp] theorem refuses_lift {x : Code S E α} :
    Refuses (liftM x : Entry S Q E α) s e s' ↔ Stops x s e s' := by
  change Act.done (exec x s).1 (exec x s).2 = Act.done _ _ ↔ _
  simp only [Act.done.injEq, Stops, Prod.ext_iff]

@[simp] theorem not_refuses_request : ¬ Refuses (request q : Entry S Q E Unit) s e s' :=
  fun h => by cases h

@[simp] theorem refuses_bind {x : Entry S Q E α} {f : α → Entry S Q E β} :
    Refuses (x >>= f) s e s' ↔
      Refuses x s e s' ∨ ∃ a s₁, Finishes x s a s₁ ∧ Refuses (f a) s₁ e s' := by
  change (x s).bind f = _ ↔ _
  rcases hx : x s with ⟨e₁ | a, s₁⟩ | ⟨q, s₁, k⟩
  · simp [Refuses, Finishes, Act.bind, hx]
  · simp only [Refuses, Finishes, Act.bind, hx, Act.done.injEq, Except.ok.injEq, reduceCtorEq,
      false_and, false_or]
    constructor
    · intro h; exact ⟨a, s₁, ⟨rfl, rfl⟩, h⟩
    · rintro ⟨_, _, ⟨rfl, rfl⟩, h⟩; exact h
  · simp [Refuses, Finishes, Act.bind, hx]

end

end

/-! ## Callees that do not call back -/

/-- Run against callees that change the world `W` or fail, and leave the storage alone. -/
def Act.run (callee : Q → W → Option W) : Act S Q E α → W → Option (α × S × W)
  | .done (.ok a) s, w => some (a, s, w)
  | .done (.error _) _, _ => none
  | .call q s k, w => (callee q w).bind fun w' => (k s).run callee w'

/-- A call of `x` in a world: if it fails, nothing changes. -/
def commitIn (callee : Q → W → Option W) (x : Entry S Q E α) (s : S) (w : W) : S × W :=
  match (x s).run callee w with
  | some (_, s', w') => (s', w')
  | none => (s, w)

/-- Code does not touch the world. -/
theorem commitIn_lift (callee : Q → W → Option W) (x : Code S E α) (s : S) (w : W) :
    commitIn callee (liftM x : Entry S Q E α) s w = (commit x s, w) := by
  unfold commitIn commit
  change (match (Act.done (exec x s).1 (exec x s).2).run callee w with
    | some (_, s', w') => (s', w')
    | none => (s, w)) = _
  rcases exec x s with ⟨e | a, s₁⟩ <;> rfl

/-- A call of `x` is refused, ends without a request, or makes one and goes on after it. -/
theorem commitIn_cases (callee : Q → W → Option W) (x : Entry S Q E α) (s : S) (w : W) :
    ((x s).run callee w = none ∧ commitIn callee x s w = (s, w)) ∨
      (∃ a s', Finishes x s a s' ∧ commitIn callee x s w = (s', w)) ∨
      ∃ q s₁ k w₁ a s' w', CallsOut x s q s₁ k ∧ callee q w = some w₁ ∧
        (k s₁).run callee w₁ = some (a, s', w') ∧ commitIn callee x s w = (s', w') := by
  unfold commitIn Finishes CallsOut
  rcases hx : x s with ⟨e | a, s₁⟩ | ⟨q, s₁, k⟩
  · exact Or.inl ⟨rfl, rfl⟩
  · exact Or.inr (Or.inl ⟨a, s₁, rfl, rfl⟩)
  · simp only [Act.run]
    rcases hq : callee q w with _ | w₁
    · exact Or.inl ⟨rfl, rfl⟩
    · simp only [Option.bind_some]
      rcases hk : (k s₁).run callee w₁ with _ | ⟨a, s', w'⟩
      · exact Or.inl ⟨rfl, rfl⟩
      · exact Or.inr (Or.inr ⟨q, s₁, k, w₁, a, s', w', rfl, hq, hk, rfl⟩)

/-! ## Whole calls -/

/-- On `s` and `w`, with all its requests, `x` returns `a` and leaves `s'` and `w'`. -/
def Completes (callee : Q → W → Option W) (x : Entry S Q E α) (s : S) (w : W) (a : α) (s' : S)
    (w' : W) : Prop := (x s).run callee w = some (a, s', w')

section
variable {callee : Q → W → Option W} {s s' : S} {w w' : W} {a : α} {b : β} {q : Q} {u : Unit}

theorem Act.run_bind (t : Act S Q E α) (f : α → Entry S Q E β) (w : W) :
    (t.bind f).run callee w = (t.run callee w).bind fun r => (f r.1 r.2.1).run callee r.2.2 := by
  induction t generalizing w with
  | done r s => rcases r with e | a <;> rfl
  | call q s k ih =>
    simp only [Act.bind, Act.run, Option.bind_assoc]
    congr 1
    funext w₁
    exact ih s w₁

@[simp] theorem completes_lift {x : Code S E α} :
    Completes callee (liftM x : Entry S Q E α) s w a s' w' ↔ Returns x s a s' ∧ w' = w := by
  change (Act.done (exec x s).1 (exec x s).2).run callee w = _ ↔ _
  rw [Returns]
  rcases exec x s with ⟨e | a', s₁⟩
  · simp [Act.run]
  · simp [Act.run, and_assoc, eq_comm]

@[simp] theorem completes_pure {a' : α} :
    Completes callee (pure a' : Entry S Q E α) s w a s' w' ↔ a = a' ∧ s' = s ∧ w' = w := by
  change some (a', s, w) = _ ↔ _
  simp [eq_comm]

@[simp] theorem completes_bind {x : Entry S Q E α} {f : α → Entry S Q E β} :
    Completes callee (x >>= f) s w b s' w' ↔
      ∃ a s₁ w₁, Completes callee x s w a s₁ w₁ ∧ Completes callee (f a) s₁ w₁ b s' w' := by
  change ((x s).bind f).run callee w = _ ↔ _
  simp only [Act.run_bind, Completes, Option.bind_eq_some_iff, Prod.exists]

@[simp] theorem completes_request :
    Completes callee (request q : Entry S Q E Unit) s w u s' w' ↔
      callee q w = some w' ∧ s' = s := by
  change (callee q w).bind (fun w' => some ((), s, w')) = _ ↔ _
  cases callee q w <;> simp [eq_comm, and_comm]

theorem completes_requestIf {p : Prop} [Decidable p] :
    Completes callee (requestIf p q : Entry S Q E Unit) s w u s' w' ↔
      s' = s ∧ ((p ∧ callee q w = some w') ∨ (¬ p ∧ w' = w)) := by
  unfold requestIf
  by_cases h : p <;> simp [h, and_comm]

/-- A call either completes and keeps its effects, or changes nothing. -/
theorem completes_or_eq (callee : Q → W → Option W) (x : Entry S Q E α) (s : S) (w : W) :
    (∃ a, Completes callee x s w a (commitIn callee x s w).1 (commitIn callee x s w).2) ∨
      ((∀ a s' w', ¬ Completes callee x s w a s' w') ∧ commitIn callee x s w = (s, w)) := by
  unfold commitIn Completes
  rcases (x s).run callee w with _ | ⟨a, s', w'⟩
  · exact Or.inr ⟨fun _ _ _ h => (Option.some_ne_none _ h.symm).elim, rfl⟩
  · exact Or.inl ⟨a, rfl⟩

/-- A call that completes ends without a request, or makes one and goes on after it. -/
theorem Completes.cases {x : Entry S Q E α} (h : Completes callee x s w a s' w') :
    (Finishes x s a s' ∧ w' = w) ∨ ∃ q s₁ k w₁, CallsOut x s q s₁ k ∧ callee q w = some w₁ ∧
      (k s₁).run callee w₁ = some (a, s', w') := by
  revert h
  unfold Completes Finishes CallsOut
  rcases x s with ⟨e | a', s₁⟩ | ⟨q, s₁, k⟩ <;> intro h
  · cases h
  · cases h; exact Or.inl ⟨rfl, rfl⟩
  · obtain ⟨w₁, hw, hk⟩ := Option.bind_eq_some_iff.1 h
    exact Or.inr ⟨q, s₁, k, w₁, rfl, hw, hk⟩

theorem Completes.commitIn_eq {x : Entry S Q E α} (h : Completes callee x s w a s' w') :
    commitIn callee x s w = (s', w') := by
  unfold commitIn; rw [h]

end

end Soroban
