/-
  Programs that query a shared store, and what holds however many of them are interleaved.

  A program makes one query at a time and goes on with the answer (`Process`).  A system runs any
  number of programs over one store: a step answers one query of one of them (`System.next`).  A
  protocol says which queries a program may make after the answers that it had (`Meets`).  What
  permitted queries preserve, of the store and of the stages the programs are in, holds in every run
  (`System.invariant`).
-/
import NovaLabs.Lib.Run
import Mathlib.Logic.Function.Basic
import Mathlib.Data.Option.Basic

namespace Lib

/-- A program: it ends with a value or an error, or makes a query and goes on with the answer. -/
inductive Process {Op : Type} (Answer : Op → Type) (ε α : Type) : Type
  | done (result : Except ε α)
  | ask (op : Op) (next : Answer op → Process Answer ε α)

namespace Process
variable {Op : Type} {Answer : Op → Type} {ε α β : Type}

def bind : Process Answer ε α → (α → Process Answer ε β) → Process Answer ε β
  | done (.ok a), f => f a
  | done (.error e), _ => done (.error e)
  | ask op next, f => ask op fun a => (next a).bind f

instance : Monad (Process Answer ε) where
  pure a := done (.ok a)
  bind := bind

theorem map_id (x : Process Answer ε α) : id <$> x = x := by
  induction x with
  | done r => cases r <;> rfl
  | ask op next ih => exact congrArg (ask op) (funext ih)

theorem bind_assoc {γ : Type} (x : Process Answer ε α) (f : α → Process Answer ε β)
    (g : β → Process Answer ε γ) : x >>= f >>= g = x >>= fun a => f a >>= g := by
  induction x with
  | done r => cases r <;> rfl
  | ask op next ih => exact congrArg (ask op) (funext ih)

instance : LawfulMonad (Process Answer ε) :=
  LawfulMonad.mk' _ map_id (fun _ _ => rfl) bind_assoc

/-- Make one query. -/
def query (op : Op) : Process Answer ε (Answer op) := ask op fun a => done (.ok a)

/-- Run a program, and return how it ends. -/
def attempt : Process Answer ε α → Process Answer ε (Except ε α)
  | done r => done (.ok r)
  | ask op next => ask op fun a => (next a).attempt

instance : MonadExcept ε (Process Answer ε) where
  throw e := done (.error e)
  tryCatch x handle := x.attempt >>= fun r => match r with
    | .ok a => done (.ok a)
    | .error e => handle e

/-- End with an error under a condition. -/
def failIf (c : Prop) [Decidable c] (e : ε) : Process Answer ε Unit :=
  if c then done (.error e) else done (.ok ())

/-- The value, or end with an error where there is none. -/
def okOr (o : Option α) (e : ε) : Process Answer ε α :=
  match o with
  | some a => done (.ok a)
  | none => done (.error e)

end Process

open Process

/-! ## Protocols -/

/-- The queries that a program may make at a stage, and the stage that an answer leads to. -/
structure Protocol {Op : Type} (Answer : Op → Type) (Q : Type) where
  permits : Q → Op → Prop
  after : Q → (op : Op) → Answer op → Q

section
variable {Op : Type} {Answer : Op → Type} {ε α β Q : Type} (P : Protocol Answer Q)

/-- From stage `q`, whatever the answers, the program makes permitted queries only, and ends as
    `post` says. -/
def Meets : Q → Process Answer ε α → (Q → Except ε α → Prop) → Prop
  | q, done r, post => post q r
  | q, ask op next, post => P.permits q op ∧ ∀ a, Meets (P.after q op a) (next a) post

variable {P} {q : Q} {x : Process Answer ε α} {post post' : Q → Except ε α → Prop}

theorem Meets.mono (h : Meets P q x post) (hpost : ∀ q r, post q r → post' q r) :
    Meets P q x post' := by
  induction x generalizing q with
  | done r => exact hpost q r h
  | ask op next ih => exact ⟨h.1, fun a => ih a (h.2 a)⟩

theorem meets_bind {f : α → Process Answer ε β} {post : Q → Except ε β → Prop} :
    Meets P q (x >>= f) post ↔ Meets P q x fun q r => match r with
      | .ok a => Meets P q (f a) post
      | .error e => post q (.error e) := by
  induction x generalizing q with
  | done r => cases r <;> exact Iff.rfl
  | ask op next ih => exact and_congr_right fun _ => forall_congr' fun a => ih a

theorem meets_attempt {post : Q → Except ε (Except ε α) → Prop} :
    Meets P q x.attempt post ↔ Meets P q x fun q r => post q (.ok r) := by
  induction x generalizing q with
  | done r => exact Iff.rfl
  | ask op next ih => exact and_congr_right fun _ => forall_congr' fun a => ih a

/-! ### Rules, by the form of the program -/

theorem Meets.seq {f : α → Process Answer ε β} {post : Q → Except ε β → Prop}
    {mid : Q → Except ε α → Prop} (h : Meets P q x mid)
    (hok : ∀ q a, mid q (.ok a) → Meets P q (f a) post)
    (herr : ∀ q e, mid q (.error e) → post q (.error e)) : Meets P q (x >>= f) post :=
  meets_bind.2 (h.mono fun q r hr => match r with
    | .ok a => hok q a hr
    | .error e => herr q e hr)

theorem Meets.query {op : Op} {f : Answer op → Process Answer ε β}
    {post : Q → Except ε β → Prop} (hp : P.permits q op)
    (h : ∀ a, Meets P (P.after q op a) (f a) post) : Meets P q (Process.query op >>= f) post :=
  ⟨hp, h⟩

theorem Meets.attempt {f : Except ε α → Process Answer ε β} {post : Q → Except ε β → Prop}
    {mid : Q → Except ε α → Prop} (h : Meets P q x mid)
    (hend : ∀ q r, mid q r → Meets P q (f r) post) : Meets P q (x.attempt >>= f) post := by
  have hx : Meets P q x.attempt fun q r => match r with
      | .ok r => mid q r
      | .error _ => False := meets_attempt.2 h
  exact hx.seq (fun q r hr => hend q r hr) fun _ _ hr => hr.elim

theorem Meets.failIf {c : Prop} [Decidable c] {e : ε} {f : Unit → Process Answer ε β}
    {post : Q → Except ε β → Prop} (hfail : c → post q (.error e))
    (h : ¬ c → Meets P q (f ()) post) : Meets P q (Process.failIf c e >>= f) post := by
  unfold Process.failIf
  split_ifs with hc
  · exact hfail hc
  · exact h hc

theorem Meets.okOr {o : Option α} {e : ε} {f : α → Process Answer ε β}
    {post : Q → Except ε β → Prop} (hnone : o = none → post q (.error e))
    (h : ∀ a, o = some a → Meets P q (f a) post) :
    Meets P q (Process.okOr o e >>= f) post := by
  cases o with
  | none => exact hnone rfl
  | some a => exact h a rfl

theorem Meets.ite {c : Prop} [Decidable c] {y : Process Answer ε α} (ht : c → Meets P q x post)
    (hf : ¬ c → Meets P q y post) : Meets P q (if c then x else y) post := by
  split_ifs with hc
  · exact ht hc
  · exact hf hc

/-- A loop whose rounds each preserve a property of the stage. -/
theorem Meets.foldlM {f : α → β → Process Answer ε α} {inv : Q → Prop}
    (h : ∀ q a b, inv q → Meets P q (f a b) fun q _ => inv q) {q : Q} (hq : inv q) (a : α)
    (bs : List β) : Meets P q (bs.foldlM f a) fun q _ => inv q := by
  induction bs generalizing q a with
  | nil => exact hq
  | cons b bs ih =>
    rw [List.foldlM_cons]
    exact (h q a b hq).seq (fun q a hq => ih hq a) fun _ _ hq => hq

/-! ### Queries that do not matter -/

/-- At the stage the queries are permitted, and lead to no other stage. -/
def Passes (P : Protocol Answer Q) (q : Q) (queries : Op → Bool) : Prop :=
  ∀ op, queries op → P.permits q op ∧ ∀ a, P.after q op a = q

theorem Meets.pass {queries : Op → Bool} (hP : Passes P q queries) {op : Op}
    {f : Answer op → Process Answer ε β} {post : Q → Except ε β → Prop} (hop : queries op)
    (h : ∀ a, Meets P q (f a) post) : Meets P q (Process.query op >>= f) post :=
  Meets.query (hP op hop).1 fun a => ((hP op hop).2 a).symm ▸ h a

/-- Where all queries pass, there is nothing to check. -/
theorem Meets.free (hP : Passes P q fun _ => true) (x : Process Answer ε β) :
    Meets P q x fun _ _ => True := by
  induction x with
  | done r => trivial
  | ask op next ih => exact ⟨(hP op rfl).1, fun a => ((hP op rfl).2 a).symm ▸ ih a⟩

end

/-! ### What programs ask -/

namespace Process
variable {Op : Type} {Answer : Op → Type} {ε α β Q : Type} {queries : Op → Bool}
  {x : Process Answer ε α}

/-- Whatever the answers, the program makes such queries only. -/
def Only (queries : Op → Bool) : Process Answer ε α → Prop
  | done _ => True
  | ask op next => queries op ∧ ∀ a, (next a).Only queries

theorem Only.mono {queries' : Op → Bool} (h : x.Only queries)
    (hq : ∀ op, queries op → queries' op) : x.Only queries' := by
  induction x with
  | done r => trivial
  | ask op next ih => exact ⟨hq op h.1, fun a => ih a (h.2 a)⟩

theorem Only.bind {f : α → Process Answer ε β} (h : x.Only queries)
    (hf : ∀ a, (f a).Only queries) : (x >>= f).Only queries := by
  induction x with
  | done r => exact match r with
    | .ok a => hf a
    | .error _ => trivial
  | ask op next ih => exact ⟨h.1, fun a => ih a (h.2 a)⟩

theorem Only.attempt (h : x.Only queries) : x.attempt.Only queries := by
  induction x with
  | done r => trivial
  | ask op next ih => exact ⟨h.1, fun a => ih a (h.2 a)⟩

theorem Only.query {op : Op} (hop : queries op) :
    (Process.query op : Process Answer ε _).Only queries := ⟨hop, fun _ => trivial⟩

theorem Only.failIf {c : Prop} [Decidable c] {e : ε} :
    (Process.failIf c e : Process Answer ε _).Only queries := by
  unfold Process.failIf
  split_ifs <;> trivial

theorem Only.okOr {o : Option α} {e : ε} : (Process.okOr o e : Process Answer ε _).Only queries := by
  cases o <;> trivial

theorem Only.ite {c : Prop} [Decidable c] {y : Process Answer ε α} (hx : x.Only queries)
    (hy : y.Only queries) : (if c then x else y).Only queries := by
  split_ifs
  · exact hx
  · exact hy

theorem Only.mapM {f : β → Process Answer ε α} (hf : ∀ b, (f b).Only queries) (bs : List β) :
    (bs.mapM f).Only queries := by
  induction bs with
  | nil => trivial
  | cons b bs ih =>
    rw [List.mapM_cons]
    exact (hf b).bind fun _ => ih.bind fun _ => trivial

/-- A program whose queries all pass stays at its stage. -/
theorem Only.meets {P : Protocol Answer Q} {q : Q} (h : x.Only queries)
    (hP : Passes P q queries) : Meets P q x fun q' _ => q' = q := by
  induction x with
  | done r => rfl
  | ask op next ih =>
    exact ⟨(hP op h.1).1, fun a => ((hP op h.1).2 a).symm ▸ ih a (h.2 a)⟩

/-- A program that makes such queries only, at whatever stage, if every stage permits them. -/
theorem Only.permitted {P : Protocol Answer Q} (h : x.Only queries)
    (hP : ∀ q op, queries op → P.permits q op) (q : Q) : Meets P q x fun _ _ => True := by
  induction x generalizing q with
  | done r => trivial
  | ask op next ih => exact ⟨hP q op h.1, fun a => ih a (h.2 a) _⟩

end Process

/-! ## Systems -/

/-- Programs over a store of type `σ`: what requests start, and how queries are answered.  A query
    is answered for a session, out of the store and of what the world adds; `none` says that it has
    to wait. -/
structure System {Op : Type} (Answer : Op → Type) (σ Req World ε α : Type) where
  program : Req → Process Answer ε α
  exec : ℕ → World → σ → (op : Op) → Option (Answer op × σ)

/-- The store, and what is left of the program of each session. -/
structure Pool {Op : Type} (Answer : Op → Type) (σ ε α : Type) where
  shared : σ
  procs : ℕ → Option (Process Answer ε α) := fun _ => none

/-- A request starts a session, or a session makes its next query. -/
inductive Turn (Req World : Type)
  | call (t : ℕ) (request : Req)
  | step (t : ℕ) (world : World)

section
variable {Op : Type} {Answer : Op → Type} {σ Req World ε α Q : Type}

namespace Pool

/-- Session `t` is about to make the query. -/
def Asks (p : Pool Answer σ ε α) (t : ℕ) (op : Op) : Prop := ∃ next, p.procs t = some (.ask op next)

theorem Asks.unique {p : Pool Answer σ ε α} {t : ℕ} {op op' : Op} (h : p.Asks t op)
    (h' : p.Asks t op') : op = op' := by
  obtain ⟨next, hp⟩ := h
  obtain ⟨next', hp'⟩ := h'
  cases hp.symm.trans hp'
  rfl

/-- The query that session `t` is about to make, if there is one. -/
def asked (p : Pool Answer σ ε α) (t : ℕ) : Option Op :=
  match p.procs t with
  | some (.ask op _) => some op
  | _ => none

theorem asks_of_asked {p : Pool Answer σ ε α} {t : ℕ} {op : Op} (h : p.asked t = some op) :
    p.Asks t op := by
  unfold asked at h
  split at h
  · next op' next hp =>
    obtain rfl := Option.some.inj h
    exact ⟨next, hp⟩
  · cases h

/-- Session `t` has ended. -/
def Ended (p : Pool Answer σ ε α) (t : ℕ) (r : Except ε α) : Prop := p.procs t = some (.done r)

/-- What session `t` has returned, if it has. -/
def returned (p : Pool Answer σ ε α) (t : ℕ) : Option α :=
  match p.procs t with
  | some (.done (.ok a)) => some a
  | _ => none

theorem returned_eq_some {p : Pool Answer σ ε α} {t : ℕ} {a : α} :
    p.returned t = some a ↔ p.Ended t (.ok a) := by
  unfold returned Ended
  split
  · next b h => rw [h, Option.some.injEq, Option.some.injEq, Process.done.injEq, Except.ok.injEq]
  · next h => exact ⟨nofun, fun h' => absurd h' (h a)⟩

end Pool

variable (S : System Answer σ Req World ε α)

def System.next (p : Pool Answer σ ε α) : Turn Req World → Option (Pool Answer σ ε α)
  | .call t r =>
    if (p.procs t).isNone then
      some { p with procs := Function.update p.procs t (some (S.program r)) }
    else none
  | .step t w =>
    match p.procs t with
    | some (.ask op next) => (S.exec t w p.shared op).map fun (a, s) =>
        { shared := s, procs := Function.update p.procs t (some (next a)) }
    | _ => none

def System.Steps (p : Pool Answer σ ε α) (i : Turn Req World) (p' : Pool Answer σ ε α) : Prop :=
  S.next p i = some p'

variable {S}

/-- What a turn does. -/
theorem System.Steps.cases {p p' : Pool Answer σ ε α} {i : Turn Req World} (h : S.Steps p i p') :
    (∃ t r, i = .call t r ∧ p.procs t = none ∧ p'.shared = p.shared ∧
      p'.procs = Function.update p.procs t (some (S.program r))) ∨
    ∃ t w op next a, i = .step t w ∧ p.procs t = some (.ask op next) ∧
      S.exec t w p.shared op = some (a, p'.shared) ∧
      p'.procs = Function.update p.procs t (some (next a)) := by
  cases i with
  | call t r =>
    simp only [System.Steps, System.next, Option.ite_none_right_eq_some, Option.isNone_iff_eq_none,
      Option.some.injEq] at h
    obtain ⟨hp, rfl⟩ := h
    exact Or.inl ⟨t, r, rfl, hp, rfl, rfl⟩
  | step t w =>
    simp only [System.Steps, System.next] at h
    split at h
    · next op next hp =>
      obtain ⟨⟨a, s⟩, hexec, rfl⟩ := Option.map_eq_some_iff.1 h
      exact Or.inr ⟨t, w, op, next, a, rfl, hp, hexec, rfl⟩
    · cases h

theorem System.Steps.asked {p p' : Pool Answer σ ε α} {t : ℕ} {w : World}
    (h : S.Steps p (.step t w) p') : (p.asked t).isSome := by
  rcases h.cases with ⟨_, _, hinp, -⟩ | ⟨_, _, op, next, a, hinp, hp, -⟩
  · cases hinp
  · cases hinp
    rw [Pool.asked, hp]
    rfl

/-- The query that the turn answers, if it answers one, has the property. -/
def OnQuery (P : ℕ → World → Op → Prop) (e : Event (Pool Answer σ ε α) (Turn Req World)) : Prop :=
  ∀ t w op, e.inp = .step t w → e.pre.Asks t op → P t w op

/-- The request that the turn starts, if it starts one, has the property. -/
def OnCall (P : Req → Prop) (e : Event (Pool Answer σ ε α) (Turn Req World)) : Prop :=
  ∀ t r, e.inp = .call t r → P r

instance (P : Req → Prop) [DecidablePred P] (e : Event (Pool Answer σ ε α) (Turn Req World)) :
    Decidable (OnCall P e) :=
  match h : e.inp with
  | .call _ r => decidable_of_iff (P r)
      ⟨fun hr _ _ h' => by cases h.symm.trans h'; exact hr, fun hr => hr _ _ h⟩
  | .step _ _ => isTrue fun _ _ h' => by cases h.symm.trans h'

section
variable (P : ℕ → World → Op → Prop) [∀ t w op, Decidable (P t w op)]
  (e : Event (Pool Answer σ ε α) (Turn Req World))

/-- Find the query that the turn answers, and test it. -/
def onQuery : Bool :=
  match e.inp with
  | .call _ _ => true
  | .step t w => match e.pre.procs t with
    | some (.ask op _) => decide (P t w op)
    | _ => true

theorem onQuery_iff : onQuery P e ↔ OnQuery P e := by
  obtain ⟨pre, inp, post⟩ := e
  cases inp with
  | call t r => exact ⟨fun _ _ _ _ h => (nomatch h), fun _ => rfl⟩
  | step t w =>
    constructor
    · rintro h _ _ op ⟨⟩ ⟨next, hnext⟩
      simp only [onQuery] at h
      rw [hnext] at h
      exact of_decide_eq_true h
    · intro h
      simp only [onQuery]
      split
      · next op next hnext => exact decide_eq_true (h t w op rfl ⟨next, hnext⟩)
      · rfl

instance : Decidable (OnQuery P e) := decidable_of_iff _ (onQuery_iff P e)

end

/-- The request has started session `t`. -/
def Called (tr : List (Event (Pool Answer σ ε α) (Turn Req World))) (t : ℕ) (r : Req) : Prop :=
  ∃ e ∈ tr, e.inp = .call t r

theorem called_snoc {tr : List (Event (Pool Answer σ ε α) (Turn Req World))}
    {e : Event (Pool Answer σ ε α) (Turn Req World)} {t : ℕ} {r : Req} :
    Called (tr ++ [e]) t r ↔ Called tr t r ∨ e.inp = .call t r := by
  simp only [Called, List.mem_append, List.mem_singleton, or_and_right, exists_or, exists_eq_left]

/-- Take turns in the given order, and list the events. -/
def System.play (S : System Answer σ Req World ε α) (p : Pool Answer σ ε α) :
    List (Turn Req World) →
      Option (List (Event (Pool Answer σ ε α) (Turn Req World)) × Pool Answer σ ε α)
  | [] => some ([], p)
  | i :: is => (S.next p i).bind fun p' =>
      (S.play p' is).map fun (tr, p'') => (⟨p, i, p'⟩ :: tr, p'')

theorem System.run_play {is : List (Turn Req World)} {p p' : Pool Answer σ ε α}
    {tr : List (Event (Pool Answer σ ε α) (Turn Req World))} (h : S.play p is = some (tr, p')) :
    Run S.Steps p tr p' := by
  induction is generalizing p tr with
  | nil =>
    cases h
    exact .nil
  | cons i is ih =>
    obtain ⟨p₁, hnext, h⟩ := Option.bind_eq_some_iff.1 h
    obtain ⟨⟨tr', p''⟩, hplay, heq⟩ := Option.map_eq_some_iff.1 h
    cases heq
    exact Run.cons hnext (ih hplay)

/-- The events answer the turns. -/
theorem System.map_inp_play {is : List (Turn Req World)} {p p' : Pool Answer σ ε α}
    {tr : List (Event (Pool Answer σ ε α) (Turn Req World))} (h : S.play p is = some (tr, p')) :
    tr.map Event.inp = is := by
  induction is generalizing p tr with
  | nil =>
    cases h
    rfl
  | cons i is ih =>
    obtain ⟨p₁, -, h⟩ := Option.bind_eq_some_iff.1 h
    obtain ⟨⟨tr', p''⟩, hplay, heq⟩ := Option.map_eq_some_iff.1 h
    cases heq
    rw [List.map_cons, ih hplay]

/-- What the turns all have, the inputs of the events have. -/
theorem System.forall_inp {is : List (Turn Req World)} {p p' : Pool Answer σ ε α}
    {tr : List (Event (Pool Answer σ ε α) (Turn Req World))} {P : Turn Req World → Prop}
    (h : S.play p is = some (tr, p')) (hP : ∀ i ∈ is, P i) : ∀ e ∈ tr, P e.inp :=
  fun e he => hP e.inp (System.map_inp_play h ▸ List.mem_map_of_mem he)

theorem System.called_play {is : List (Turn Req World)} {p p' : Pool Answer σ ε α}
    {tr : List (Event (Pool Answer σ ε α) (Turn Req World))} {t : ℕ} {r : Req}
    (h : S.play p is = some (tr, p')) : Called tr t r ↔ .call t r ∈ is := by
  rw [← System.map_inp_play h, List.mem_map]
  rfl

/-- Where one session is at a new stage. -/
theorem update_stage {qs : ℕ → Option Q} {t t' : ℕ} {q q' : Q}
    (h : Function.update qs t (some q) t' = some q') :
    (t' = t ∧ q' = q) ∨ (t' ≠ t ∧ qs t' = some q') := by
  by_cases ht : t' = t
  · rw [ht, Function.update_self, Option.some.injEq] at h
    exact Or.inl ⟨ht, h.symm⟩
  · rw [Function.update_of_ne ht] at h
    exact Or.inr ⟨ht, h⟩

/-- The sessions are at the stages `qs`: from there, what is left of their programs meets the
    protocol. -/
def Tracks (P : Protocol Answer Q) (post : Q → Except ε α → Prop) (p : Pool Answer σ ε α)
    (qs : ℕ → Option Q) : Prop :=
  ∀ t, Option.Rel (fun x q => Meets P q x post) (p.procs t) (qs t)

section
variable {P : Protocol Answer Q} {post : Q → Except ε α → Prop} {p p' : Pool Answer σ ε α}
  {qs : ℕ → Option Q} {t : ℕ}

theorem Tracks.none_iff (h : Tracks P post p qs) : p.procs t = none ↔ qs t = none := by
  have ht := h t
  generalize p.procs t = x, qs t = q at ht
  cases ht <;> simp

theorem Tracks.some (h : Tracks P post p qs) {x : Process Answer ε α} (hx : p.procs t = some x) :
    ∃ q, qs t = some q ∧ Meets P q x post := by
  have ht := h t
  rw [hx] at ht
  generalize hq : qs t = o at ht
  cases ht with
  | some hm => exact ⟨_, rfl, hm⟩

theorem Tracks.asks (h : Tracks P post p qs) {op : Op} (ha : p.Asks t op) :
    ∃ q, qs t = Option.some q ∧ P.permits q op := by
  obtain ⟨next, hp⟩ := ha
  obtain ⟨q, hq, hm⟩ := h.some hp
  exact ⟨q, hq, hm.1⟩

theorem Tracks.ended (h : Tracks P post p qs) {r : Except ε α} (ha : p.Ended t r) :
    ∃ q, qs t = Option.some q ∧ post q r := h.some ha

/-- A session at a stage has ended, as the stage says, or makes a permitted query. -/
theorem Tracks.ended_or_asks (h : Tracks P post p qs) {q : Q} (hq : qs t = Option.some q) :
    (∃ r, p.Ended t r ∧ post q r) ∨ ∃ op, p.Asks t op ∧ P.permits q op := by
  have ht := h t
  rw [hq] at ht
  generalize hp : p.procs t = o at ht
  cases ht with
  | @some x _ hm =>
    cases x with
    | done r => exact Or.inl ⟨r, hp, hm⟩
    | ask op next => exact Or.inr ⟨op, ⟨next, hp⟩, hm.1⟩

/-- A session at a stage that permits nothing has ended. -/
theorem Tracks.ended_of_stuck (h : Tracks P post p qs) {q : Q} (hq : qs t = Option.some q)
    (hstuck : ∀ op, ¬ P.permits q op) : ∃ r, p.Ended t r ∧ post q r :=
  (h.ended_or_asks hq).resolve_right fun ⟨op, _, hp⟩ => hstuck op hp

theorem Tracks.update (h : Tracks P post p qs) {x : Process Answer ε α} {q : Q}
    (hp : p'.procs = Function.update p.procs t (Option.some x)) (hm : Meets P q x post) :
    Tracks P post p' (Function.update qs t (Option.some q)) := by
  intro t'
  rw [hp]
  by_cases ht : t' = t
  · subst ht
    rw [Function.update_self, Function.update_self]
    exact .some hm
  · rw [Function.update_of_ne ht, Function.update_of_ne ht]
    exact h t'

end

/-- Nothing runs yet. -/
theorem Tracks.idle {P : Protocol Answer Q} {post : Q → Except ε α → Prop} {s : σ} :
    Tracks P post ({ shared := s } : Pool Answer σ ε α) fun _ => Option.none := fun _ => .none

/-- Session `t`, at stage `q`, has made a query, and goes on with the answer. -/
structure System.Answered (S : System Answer σ Req World ε α) (P : Protocol Answer Q)
    (post : Q → Except ε α → Prop) (e : Event (Pool Answer σ ε α) (Turn Req World))
    (qs : ℕ → Option Q) (t : ℕ) (w : World) (q : Q) (op : Op) (a : Answer op) : Prop where
  inp : e.inp = .step t w
  asked : ∃ next, e.pre.procs t = some (.ask op next) ∧
    e.post.procs = Function.update e.pre.procs t (some (next a))
  stage : qs t = some q
  permits : P.permits q op
  exec : S.exec t w e.pre.shared op = some (a, e.post.shared)
  before : Tracks P post e.pre qs
  after : Tracks P post e.post (Function.update qs t (some (P.after q op a)))

theorem System.Answered.asks {S : System Answer σ Req World ε α} {P : Protocol Answer Q}
    {post : Q → Except ε α → Prop} {e : Event (Pool Answer σ ε α) (Turn Req World)}
    {qs : ℕ → Option Q} {t : ℕ} {w : World} {q : Q} {op : Op} {a : Answer op}
    (h : S.Answered P post e qs t w q op a) : e.pre.Asks t op :=
  h.asked.imp fun _ hnext => hnext.1

theorem System.Answered.onQuery_iff {S : System Answer σ Req World ε α} {P : Protocol Answer Q}
    {post : Q → Except ε α → Prop} {e : Event (Pool Answer σ ε α) (Turn Req World)}
    {qs : ℕ → Option Q} {t : ℕ} {w : World} {q : Q} {op : Op} {a : Answer op}
    {C : ℕ → World → Op → Prop} (h : S.Answered P post e qs t w q op a) :
    OnQuery C e ↔ C t w op := by
  constructor
  · exact fun hC => hC t w op h.inp h.asks
  · intro hC t' w' op' hinp hasks
    cases h.inp.symm.trans hinp
    exact h.asks.unique hasks ▸ hC

/-- A turn starts a request, or answers a permitted query. -/
theorem System.Steps.answered {S : System Answer σ Req World ε α} {P : Protocol Answer Q}
    {post : Q → Except ε α → Prop} {e : Event (Pool Answer σ ε α) (Turn Req World)}
    {qs : ℕ → Option Q} (h : S.Steps e.pre e.inp e.post) (hqs : Tracks P post e.pre qs) :
    (∃ t r, e.inp = .call t r ∧ qs t = none ∧ e.post.shared = e.pre.shared ∧
      e.post.procs = Function.update e.pre.procs t (Option.some (S.program r))) ∨
    ∃ t w q op a, S.Answered P post e qs t w q op a := by
  rcases h.cases with ⟨t, r, hinp, hp, hs, hp'⟩ | ⟨t, w, op, next, a, hinp, hp, hexec, hp'⟩
  · exact Or.inl ⟨t, r, hinp, hqs.none_iff.1 hp, hs, hp'⟩
  · obtain ⟨q, hq, hm⟩ := hqs.some hp
    exact Or.inr ⟨t, w, q, op, a, hinp, ⟨next, hp, hp'⟩, hq, hm.1, hexec, hqs,
      hqs.update hp' (hm.2 a)⟩

/-- What every request and every permitted query preserve, of the history, the store and the stages
    of the sessions, holds in every run. -/
theorem System.invariant {P : Protocol Answer Q} {post : Q → Except ε α → Prop} {start : Req → Q}
    {J : List (Event (Pool Answer σ ε α) (Turn Req World)) → σ → (ℕ → Option Q) → Prop}
    {C : List (Event (Pool Answer σ ε α) (Turn Req World)) →
      Event (Pool Answer σ ε α) (Turn Req World) → Prop}
    {p₀ p : Pool Answer σ ε α} {tr : List (Event (Pool Answer σ ε α) (Turn Req World))}
    {qs₀ : ℕ → Option Q}
    (hprogram : ∀ r, Meets P (start r) (S.program r) post)
    (hcall : ∀ tr e t r qs, e.inp = .call t r → qs t = none → e.post.shared = e.pre.shared →
      C tr e → J tr e.pre.shared qs →
      J (tr ++ [e]) e.post.shared (Function.update qs t (some (start r))))
    (hstep : ∀ tr e qs t w q op a, S.Answered P post e qs t w q op a → C tr e →
      J tr e.pre.shared qs →
      J (tr ++ [e]) e.post.shared (Function.update qs t (some (P.after q op a))))
    (h : Run S.Steps p₀ tr p) (h₀ : Tracks P post p₀ qs₀) (hJ : J [] p₀.shared qs₀)
    (hC : Along C tr) : ∃ qs, Tracks P post p qs ∧ J tr p.shared qs := by
  induction h with
  | nil => exact ⟨qs₀, h₀, hJ⟩
  | @snoc tr p i p' _ hst ih =>
    obtain ⟨htr, hCe⟩ := along_snoc.1 hC
    obtain ⟨qs, hqs, hJ⟩ := ih htr
    rcases hst.answered (e := ⟨p, i, p'⟩) hqs with
      ⟨t, r, hinp, ht, hs, hp'⟩ | ⟨t, w, q, op, a, hans⟩
    · exact ⟨_, hqs.update hp' (hprogram r), hcall tr _ t r qs hinp ht hs hCe hJ⟩
    · exact ⟨_, hans.after, hstep tr _ qs t w q op a hans hCe hJ⟩

end

end Lib
