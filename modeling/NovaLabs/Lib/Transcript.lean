/-
  Transcripts: the queries that a program makes on given answers, in order, until it ends.
-/
import NovaLabs.Lib.Process

namespace Lib.Process

variable {Op : Type} {Answer : Op → Type} {ε α β : Type}

/-- The program ends with the result, after these queries and their answers. -/
inductive Transcript : Process Answer ε α → List (Σ op, Answer op) → Except ε α → Prop
  | done (result : Except ε α) : Transcript (.done result) [] result
  | ask (op : Op) (next : Answer op → Process Answer ε α) (a : Answer op)
      {tr : List (Σ op, Answer op)} {result : Except ε α} :
      Transcript (next a) tr result → Transcript (.ask op next) (⟨op, a⟩ :: tr) result

section
variable {x : Process Answer ε α} {op : Op} {next : Answer op → Process Answer ε α}
  {tr tr' : List (Σ op, Answer op)} {result : Except ε α}

theorem transcript_ask : Transcript (.ask op next) tr result ↔
    ∃ a tr', tr = ⟨op, a⟩ :: tr' ∧ Transcript (next a) tr' result := by
  constructor
  · rintro ⟨⟩
    exact ⟨_, _, rfl, ‹_›⟩
  · rintro ⟨a, tr', rfl, h⟩
    exact .ask op next a h

/-- A program that goes on after another one has ended goes on where that one's transcript ends. -/
theorem Transcript.bind_iff {f : α → Process Answer ε β} {a : α} {result : Except ε β}
    (h : Transcript x tr (.ok a)) :
    Transcript (x >>= f) (tr ++ tr') result ↔ Transcript (f a) tr' result := by
  generalize hr : Except.ok a = r at h
  induction h with
  | done r =>
    subst hr
    exact Iff.rfl
  | ask op next b h ih =>
    refine Iff.trans ?_ (ih hr)
    change Transcript (.ask op fun b => (next b).bind f) (⟨op, b⟩ :: (_ ++ tr')) result ↔ _
    rw [transcript_ask]
    constructor
    · rintro ⟨b', _, he, h'⟩
      cases he
      exact h'
    · exact fun h' => ⟨b, _, rfl, h'⟩

/-- A program that makes certain queries only has no others in its transcripts. -/
theorem Transcript.only {queries : Op → Bool} (h : Transcript x tr result)
    (hx : x.Only queries) : ∀ e ∈ tr, queries e.1 := by
  induction h with
  | done => simp
  | ask op next a _ ih => exact List.forall_mem_cons.2 ⟨hx.1, ih (hx.2 a)⟩

end

end Lib.Process
