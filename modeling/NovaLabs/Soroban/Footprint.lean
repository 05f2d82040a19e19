/-
  Code over a typed storage, and what it writes.

  A footprint is a list of kinds of keys.  `Only ks x` says that `x` leaves all other keys alone,
  whether it returns or stops; its instances follow the structure of the code, so that the
  footprint of a function is found from those of the functions it calls.
-/
import NovaLabs.Lib.Storage
import NovaLabs.Soroban.CallOut
import NovaLabs.Soroban.Host

namespace Soroban

open Lib

variable {K T E α β : Type} {V : K → Type} [DecidableEq K]

/-! ## Access to the storage -/

namespace Storage

/-- `storage().get(&key)`. -/
def load (k : K) : Code (Storage V) E (Option (V k)) := return (← get).lookup k

/-- `storage().set(&key, &v)`. -/
def store (k : K) (v : V k) : Code (Storage V) E Unit := modify (·.insert k v)

/-- `storage().remove(&key)`. -/
def remove (k : K) : Code (Storage V) E Unit := modify (·.erase k)

variable {k : K} {s s' : Storage V} {u : Unit}

theorem returns_load {o : Option (V k)} :
    @Returns _ E (no_index (Option (V k))) (load k) s o s' ↔ o = s.lookup k ∧ s' = s := by
  simp [load, and_comm]

theorem returns_store {v : V k} :
    Returns (store k v : Code _ E _) s u s' ↔ s' = s.insert k v := by
  simp [store]

theorem returns_remove : Returns (remove k : Code (Storage V) E _) s u s' ↔ s' = s.erase k := by
  simp [remove]

end Storage

/-! ## Footprints -/

/-- Keys of the type `K` have kinds of the type `T`. -/
class Kinded (K : Type) (T : outParam Type) where
  kind : K → T

/-- `k` is one of the kinds `ks`. -/
class In (k : T) (ks : List T) : Prop where
  mem : k ∈ ks

instance {k : T} {ks : List T} : In k (k :: ks) := ⟨.head _⟩

instance {k k' : T} {ks : List T} [h : In k ks] : In k (k' :: ks) := ⟨.tail _ h.mem⟩

variable [Kinded K T] {ks : List T}

/-- The storages have the same values under the keys of other kinds than `ks`. -/
def SameOff (ks : List T) (s s' : Storage V) : Prop :=
  ∀ k, Kinded.kind k ∉ ks → s'.lookup k = s.lookup k

theorem SameOff.rfl {s : Storage V} : SameOff ks s s := fun _ _ => Eq.refl _

theorem SameOff.trans {s s' s'' : Storage V} (h : SameOff ks s s') (h' : SameOff ks s' s'') :
    SameOff ks s s'' := fun k hk => (h' k hk).trans (h k hk)

/-- The code writes keys of the kinds `ks` only. -/
class Only (ks : List T) (x : Code (Storage V) E α) : Prop where
  same : ∀ s, SameOff ks s (exec x s).2

section
variable {x : Code (Storage V) E α} {f : α → Code (Storage V) E β}

theorem Only.returns [h : Only ks x] {s s' : Storage V} {a : α} (hr : Returns x s a s') :
    SameOff ks s s' := by
  have hs := h.same s
  rwa [show exec x s = _ from hr] at hs

/-- Code without a footprint leaves the storage as it is. -/
theorem Only.eq_of_returns [Only [] x] {s s' : Storage V} {a : α} (hr : Returns x s a s') :
    s' = s :=
  Finmap.ext_lookup fun k => Only.returns hr k List.not_mem_nil

/-- Code without a footprint passes its value on. -/
theorem returns_reads_bind [Only [] x] {s s' : Storage V} {b : β} :
    Returns (x >>= f) s b s' ↔ ∃ a, Returns x s a s ∧ Returns (f a) s b s' := by
  rw [returns_bind]
  constructor
  · rintro ⟨a, s₁, h, h'⟩
    obtain rfl := Only.eq_of_returns h
    exact ⟨a, h, h'⟩
  · rintro ⟨a, h, h'⟩
    exact ⟨a, s, h, h'⟩

theorem Only.eq_of_stops [h : Only [] x] {s s' : Storage V} {e : Stop E} (hs : Stops x s e s') :
    s' = s := by
  have hk := h.same s
  rw [show exec x s = _ from hs] at hk
  exact Finmap.ext_lookup fun k => hk k List.not_mem_nil

theorem only_of_exec (h : ∀ s, (exec x s).2 = s) : Only ks x :=
  ⟨fun s => by rw [h s]; exact SameOff.rfl⟩

instance {a : α} : Only ks (pure a : Code (Storage V) E α) := only_of_exec fun _ => rfl

instance {e : Stop E} : Only ks (throw e : Code (Storage V) E α) := only_of_exec fun _ => rfl

instance : Only ks (get : Code (Storage V) E (Storage V)) := only_of_exec fun _ => rfl

instance [hx : Only ks x] [hf : ∀ a, Only ks (f a)] : Only ks (x >>= f) where
  same s := by
    rw [exec_bind]
    have h := hx.same s
    rcases hr : exec x s with ⟨e | a, s₁⟩
    · rw [hr] at h; exact h
    · rw [hr] at h; exact h.trans ((hf a).same s₁)

instance {g : α → β} [hx : Only ks x] : Only ks (g <$> x) := by
  rw [← bind_pure_comp]; infer_instance

instance {p : Prop} [Decidable p] {y : Code (Storage V) E α} [hx : Only ks x] [hy : Only ks y] :
    Only ks (if p then x else y) := by
  split_ifs
  · exact hx
  · exact hy

instance {o : Option α} {e : E} : Only ks (okOr o e : Code (Storage V) E α) :=
  only_of_exec fun _ => by cases o <;> rfl

instance {p : Prop} [Decidable p] {e : E} : Only ks (failIf p e : Code (Storage V) E Unit) := by
  unfold failIf; infer_instance

instance {p : Prop} [Decidable p] : Only ks (hostRequire p : Code (Storage V) E Unit) := by
  unfold hostRequire; infer_instance

instance {p : Prop} [Decidable p] {y : Code (Storage V) E Unit} [Only ks y] :
    Only ks (runIf p y) := by
  unfold runIf; infer_instance

instance {w n : ℕ} : Only ks (checked w n : Code (Storage V) E ℕ) := by
  unfold checked; infer_instance

instance {n m : ℕ} : Only ks (checkedSub n m : Code (Storage V) E ℕ) := by
  unfold checkedSub; infer_instance

instance {me a : Address} {env : Env me} : Only ks (requireAuth env a : Code (Storage V) E Unit) := by
  unfold requireAuth; infer_instance

instance [Only ks x] : Only ks (ignore x) := by
  unfold ignore; infer_instance

instance {d : α} [h : Only ks x] : Only ks (unwrapOr x d) where
  same s := by
    have hs := h.same s
    rw [exec_unwrapOr]
    rcases hr : exec x s with ⟨(e | _) | a, s₁⟩ <;> rw [hr] at hs <;> exact hs

instance {e : E} [h : Only ks x] : Only ks (mapErr x e) where
  same s := by
    have hs := h.same s
    rw [exec_mapErr]
    rcases hr : exec x s with ⟨(e | _) | a, s₁⟩ <;> rw [hr] at hs <;> exact hs

instance {o : Option α} {y : Code (Storage V) E β} [hy : Only ks y] [hf : ∀ a, Only ks (f a)] :
    Only ks (o.elim y f) := by
  cases o with
  | none => exact hy
  | some a => exact hf a

instance {l : List α} {g : α → Code (Storage V) E Unit} [h : ∀ a, Only ks (g a)] :
    Only ks (l.forM g) := by
  induction l with
  | nil => exact only_of_exec fun _ => rfl
  | cons a l ih =>
    change Only ks (g a >>= fun _ => l.forM g)
    infer_instance

instance {l : List α} {b : β} {g : β → α → Code (Storage V) E β} [h : ∀ b a, Only ks (g b a)] :
    Only ks (l.foldlM g b) := by
  induction l generalizing b with
  | nil => exact only_of_exec fun _ => rfl
  | cons a l ih =>
    rw [List.foldlM_cons]
    infer_instance

end

/-! ## Footprints of entry points -/

/-- The entry point writes keys of the kinds `ks` only, whatever it calls. -/
class OnlyEntry {Q : Type} (ks : List T) (x : Entry (Storage V) Q E α) : Prop where
  same : ∀ {W : Type} {callee : Q → W → Option W} {s s' w w' a},
    Completes callee x s w a s' w' → SameOff ks s s'

section
variable {Q : Type} {x : Entry (Storage V) Q E α} {f : α → Entry (Storage V) Q E β}

instance {y : Code (Storage V) E α} [hy : Only ks y] :
    OnlyEntry ks (liftM y : Entry (Storage V) Q E α) where
  same h := hy.returns (completes_lift.1 h).1

instance {a : α} : OnlyEntry ks (pure a : Entry (Storage V) Q E α) where
  same h := by
    obtain ⟨-, rfl, -⟩ := completes_pure.1 h
    exact SameOff.rfl

instance {q : Q} : OnlyEntry ks (request q : Entry (Storage V) Q E Unit) where
  same h := by
    obtain ⟨-, rfl⟩ := completes_request.1 h
    exact SameOff.rfl

instance {p : Prop} [Decidable p] {q : Q} :
    OnlyEntry ks (requestIf p q : Entry (Storage V) Q E Unit) where
  same h := by
    obtain ⟨rfl, -⟩ := completes_requestIf.1 h
    exact SameOff.rfl

instance [hx : OnlyEntry ks x] [hf : ∀ a, OnlyEntry ks (f a)] : OnlyEntry ks (x >>= f) where
  same h := by
    obtain ⟨a, _, _, h₁, h₂⟩ := completes_bind.1 h
    exact (hx.same h₁).trans ((hf a).same h₂)

end

end Soroban
