/-
  The default hub (backend/src/hub/default-hub.service.ts), which each instance of the backend looks up
  or creates when it starts.

  Instances start at any time, so that several of them may find no default hub.  Names and slugs are
  unique, and who loses the race reads what the winner has stored.
-/
import NovaLabs.Lib.Process
import NovaLabs.Lib.Searches
import NovaLabs.Backend.Entities

namespace Hubs

open Lib Process
open Backend (Uuid)

structure Hub where
  name : String
  slug : String
  description : Option String := none
  isActive : Bool := true
  deriving DecidableEq

def defaultHubSlug := "default"

def defaultHub : Hub where
  name := "Default Hub"
  slug := defaultHubSlug
  description := some "Implicit tenant for rows created before explicit hub assignment."

/-- The table of hubs, and what each instance of the service has cached. -/
structure Deployment where
  hubs : Store Uuid Hub := ∅
  cachedHubId : ℕ → Option Uuid := fun _ => none

inductive Query where
  | findDefault
  | save (hub : Hub)
  | cache (instanceId : ℕ) (id : Uuid)

/-- A save answers with nothing where it fails. -/
@[reducible] def Answer : Query → Type
  | .findDefault | .save _ => Option Uuid
  | .cache _ _ => Unit

/-- What the world adds to an answer: the row that a search finds, the id of a new row, and whether the
    statement fails for a reason of its own. -/
structure World where
  row : Option Uuid := none
  id : Uuid := ""
  fails : Bool := false

def isDefault (_ : Uuid) (hub : Hub) : Bool := hub.slug = defaultHubSlug

/-- One of the unique indexes refuses the new row beside the row. -/
def clashes (new : Hub) (_ : Uuid) (hub : Hub) : Bool := hub.name = new.name ∨ hub.slug = new.slug

def exec (_ : ℕ) (w : World) (d : Deployment) : (q : Query) → Option (Answer q × Deployment)
  | .findDefault => (d.hubs.findOne isDefault w.row).map fun found => (found.map (·.1), d)
  | .save hub =>
    if w.fails ∨ d.hubs.matching (clashes hub) ≠ ∅ then some (none, d)
    else if d.hubs.lookup w.id = none then
      some (some w.id, { d with hubs := Finmap.insert w.id hub d.hubs })
    else none
  | .cache instanceId id =>
    some ((), { d with cachedHubId := Function.update d.cachedHubId instanceId (some id) })

/-- The error that a save has thrown. -/
inductive SaveError where
  | queryFailed

abbrev Proc (α : Type) := Process Answer SaveError α

def ask (q : Query) : Proc (Answer q) := Process.query q

def ensureDefaultHub (instanceId : ℕ) : Proc Uuid := do
  match ← ask .findDefault with
  | some existing =>
    ask (.cache instanceId existing)
    return existing
  | none =>
    match ← ask (.save defaultHub) with
    | some created =>
      ask (.cache instanceId created)
      return created
    | none =>
      let winner ← okOr (← ask .findDefault) .queryFailed
      ask (.cache instanceId winner)
      return winner

/-- Instances of the backend, over one database. -/
def booting : System Answer Deployment ℕ World SaveError Uuid where
  program := ensureDefaultHub
  exec := exec

abbrev Boot := Pool Answer Deployment SaveError Uuid

abbrev Ev := Event Boot (Turn ℕ World)

/-! ## The protocol of one call -/

inductive Stage where
  | called
  | absent
  | refused
  | known (id : Uuid)
  | failed
  deriving DecidableEq

def Stage.permits : Stage → Query → Prop
  | called, .findDefault | refused, .findDefault => True
  | absent, .save hub => hub = defaultHub
  | known id, .cache _ id' => id' = id
  | _, _ => False

def Stage.after : Stage → (q : Query) → Answer q → Stage
  | called, .findDefault, none => absent
  | called, .findDefault, some id | absent, .save _, some id
  | refused, .findDefault, some id => known id
  | absent, .save _, none => refused
  | known id, _, _ => known id
  | _, _, _ => failed

def Stage.ends : Stage → Except SaveError Uuid → Prop
  | known id, r => r = .ok id
  | failed, .error _ => True
  | _, _ => False

def protocol : Protocol Answer Stage := ⟨Stage.permits, Stage.after⟩

theorem ensureDefaultHub_meets {instanceId : ℕ} :
    Meets protocol .called (ensureDefaultHub instanceId) Stage.ends := by
  refine Meets.query trivial fun existing => ?_
  cases existing with
  | some existing => exact Meets.query rfl fun _ => rfl
  | none =>
    refine Meets.query rfl fun created => ?_
    cases created with
    | some created => exact Meets.query rfl fun _ => rfl
    | none =>
      refine Meets.query trivial fun winner => Meets.okOr (fun h => ?_) fun winner h => ?_
      · subst h
        trivial
      · subst h
        exact Meets.query rfl fun _ => rfl

/-! ## What a query does -/

/-- The default hub has the id. -/
def Deployment.HasDefault (d : Deployment) (id : Uuid) : Prop :=
  ∃ hub, d.hubs.lookup id = some hub ∧ hub.slug = defaultHubSlug

/-- A hub that keeps the default hub from being created: it has its name and another slug. -/
def Deployment.IsBlocked (d : Deployment) : Prop :=
  ∃ id hub, d.hubs.lookup id = some hub ∧ hub.name = defaultHub.name ∧ hub.slug ≠ defaultHubSlug

inductive Moves (w : World) (d : Deployment) : Stage → Query → Stage → Deployment → Prop
  | absent : (∀ id, ¬ d.HasDefault id) → Moves w d .called .findDefault .absent d
  | existing {id} : d.HasDefault id → Moves w d .called .findDefault (.known id) d
  | created : (∀ id hub, d.hubs.lookup id = some hub → ¬ clashes defaultHub id hub) →
      d.hubs.lookup w.id = none → Moves w d .absent (.save defaultHub) (.known w.id)
        { d with hubs := Finmap.insert w.id defaultHub d.hubs }
  | refused : (w.fails ∨ (∃ id, d.HasDefault id) ∨ d.IsBlocked) →
      Moves w d .absent (.save defaultHub) .refused d
  | lost : (∀ id, ¬ d.HasDefault id) → Moves w d .refused .findDefault .failed d
  | winner {id} : d.HasDefault id → Moves w d .refused .findDefault (.known id) d
  | cached {id instanceId} : Moves w d (.known id) (.cache instanceId id) (.known id)
      { d with cachedHubId := Function.update d.cachedHubId instanceId (some id) }

section
variable {w : World} {d d' : Deployment} {s s' : Stage} {q : Query} {a : Answer q} {id : Uuid}
  {t : ℕ}

theorem findDefault_cases {found : Option Uuid}
    (h : exec t w d .findDefault = some (found, d')) :
    d' = d ∧ ((found = none ∧ ∀ id, ¬ d.HasDefault id) ∨
      ∃ id, found = some id ∧ d.HasDefault id) := by
  obtain ⟨found, hfind, heq⟩ := Option.map_eq_some_iff.1 h
  cases heq
  refine ⟨rfl, ?_⟩
  cases found with
  | none =>
    refine Or.inl ⟨rfl, ?_⟩
    rintro id ⟨hub, hhub, hslug⟩
    exact Store.findOne_none hfind hhub (decide_eq_true hslug)
  | some found =>
    obtain ⟨hhub, hslug⟩ := Store.findOne_some hfind
    exact Or.inr ⟨found.1, rfl, found.2, hhub, of_decide_eq_true hslug⟩

theorem moves_of_exec (h : exec t w d q = some (a, d')) (hp : s.permits q) :
    Moves w d s q (s.after q a) d' := by
  cases s with
  | called =>
    cases q with
    | findDefault =>
      obtain ⟨rfl, ⟨rfl, hnone⟩ | ⟨id, rfl, hdefault⟩⟩ := findDefault_cases h
      · exact .absent hnone
      · exact .existing hdefault
    | _ => exact hp.elim
  | refused =>
    cases q with
    | findDefault =>
      obtain ⟨rfl, ⟨rfl, hnone⟩ | ⟨id, rfl, hdefault⟩⟩ := findDefault_cases h
      · exact .lost hnone
      · exact .winner hdefault
    | _ => exact hp.elim
  | absent =>
    cases q with
    | save hub =>
      obtain rfl : hub = defaultHub := hp
      simp only [exec] at h
      split_ifs at h with hrefuse hfree
      · cases h
        refine .refused ?_
        rcases hrefuse with hfails | hclash
        · exact Or.inl hfails
        obtain ⟨id, hid⟩ := Finset.nonempty_iff_ne_empty.2 hclash
        obtain ⟨hub, hhub, hclash⟩ := Store.mem_matching.1 hid
        by_cases hslug : hub.slug = defaultHubSlug
        · exact Or.inr (Or.inl ⟨id, hub, hhub, hslug⟩)
        · exact Or.inr (Or.inr ⟨id, hub, hhub, (of_decide_eq_true hclash).resolve_right hslug, hslug⟩)
      · cases h
        push Not at hrefuse
        refine .created (fun id hub hhub hclash => ?_) hfree
        exact Finset.notMem_empty id (hrefuse.2 ▸ Store.mem_matching.2 ⟨hub, hhub, hclash⟩)
    | _ => exact hp.elim
  | known id =>
    cases q with
    | cache instanceId id' =>
      obtain rfl : id' = id := hp
      cases h
      exact .cached
    | _ => exact hp.elim
  | failed => exact hp.elim

/-- Hubs stay as they are. -/
theorem Moves.kept (h : Moves w d s q s' d') {hub : Hub} (hhub : d.hubs.lookup id = some hub) :
    d'.hubs.lookup id = some hub := by
  cases h with
  | created _ hfree =>
    have hne : id ≠ w.id := by
      rintro rfl
      cases hfree.symm.trans hhub
    rwa [Finmap.lookup_insert_of_ne _ hne]
  | _ => exact hhub

/-- A new hub is the default hub, and there was none. -/
theorem Moves.new (h : Moves w d s q s' d') {hub : Hub} (hhub : d'.hubs.lookup id = some hub) :
    d.hubs.lookup id = some hub ∨ hub = defaultHub ∧ ∀ id', ¬ d.HasDefault id' := by
  cases h with
  | created hclash _ =>
    rw [Store.lookup_insert_ite] at hhub
    split_ifs at hhub with hid
    · refine Or.inr ⟨(Option.some.inj hhub).symm, ?_⟩
      rintro id' ⟨hub', hhub', hslug⟩
      exact hclash id' hub' hhub' (decide_eq_true (Or.inr hslug))
    · exact Or.inl hhub
  | _ => exact Or.inl hhub

theorem Moves.unique {column : Hub → String} (h : Moves w d s q s' d')
    (hcolumn : ∀ hub, column hub = column defaultHub → ∀ id, clashes defaultHub id hub)
    (hd : d.hubs.Unique fun hub => some (column hub)) :
    d'.hubs.Unique fun hub => some (column hub) := by
  cases h with
  | created hclash _ =>
    refine hd.insert fun id hub value hhub hnew hvalue => ?_
    exact absurd (hcolumn hub (Option.some.inj (hvalue.trans hnew.symm)) id) (hclash id hub hhub)
  | _ => exact hd

theorem Moves.hasDefault (h : Moves w d s q s' d') (hdefault : d.HasDefault id) :
    d'.HasDefault id := hdefault.imp fun _ hhub => ⟨h.kept hhub.1, hhub.2⟩

theorem Moves.known (h : Moves w d s q (.known id) d') :
    d'.HasDefault id ∨ s = .known id ∧ d'.hubs = d.hubs := by
  cases h with
  | existing hdefault | winner hdefault => exact Or.inl hdefault
  | created => exact Or.inl ⟨defaultHub, Finmap.lookup_insert _, rfl⟩
  | cached => exact Or.inr ⟨rfl, rfl⟩

theorem Moves.cached_hub {instanceId : ℕ} (h : Moves w d s q s' d')
    (hid : d'.cachedHubId instanceId = some id) :
    d.cachedHubId instanceId = some id ∨ s = .known id := by
  cases h with
  | cached =>
    rcases update_stage hid with ⟨-, rfl⟩ | ⟨-, hid⟩
    · exact Or.inr rfl
    · exact Or.inl hid
  | _ => exact Or.inl hid

theorem Moves.refuses (h : Moves w d s q .refused d') :
    d' = d ∧ (w.fails ∨ (∃ id, d.HasDefault id) ∨ d.IsBlocked) := by
  cases h with
  | refused hrefuse => exact ⟨rfl, hrefuse⟩

theorem Moves.fails (h : Moves w d s q .failed d') :
    d' = d ∧ s = .refused ∧ ∀ id, ¬ d.HasDefault id := by
  cases h with
  | lost hnone => exact ⟨rfl, rfl, hnone⟩

theorem Moves.isBlocked (h : Moves w d s q s' d') (hblocked : d.IsBlocked) : d'.IsBlocked :=
  hblocked.imp fun _ => Exists.imp fun _ hhub => ⟨h.kept hhub.1, hhub.2⟩

end

/-! ## What holds in every run -/

/-- A statement of the call `t` has failed for a reason of its own. -/
def Failed (tr : List Ev) (t : ℕ) : Prop := ∃ e ∈ tr, ∃ w, e.inp = .step t w ∧ w.fails

theorem Failed.snoc {tr : List Ev} {e : Ev} {t : ℕ} (h : Failed tr t) : Failed (tr ++ [e]) t :=
  h.imp fun _ h => ⟨List.mem_append_left _ h.1, h.2⟩

/-- What the calls know, and why a save was refused. -/
structure Agreed (hubs : Store Uuid Hub) (tr : List Ev) (d : Deployment) (qs : ℕ → Option Stage) :
    Prop where
  slug : d.hubs.Unique fun hub => some hub.slug
  name : d.hubs.Unique fun hub => some hub.name
  kept : ∀ id hub, hubs.lookup id = some hub → d.hubs.lookup id = some hub
  new : ∀ id hub, d.hubs.lookup id = some hub → hubs.lookup id = some hub ∨
    hub = defaultHub ∧ ∀ id', ¬ Deployment.HasDefault { hubs } id'
  known : ∀ t id, qs t = some (.known id) → d.HasDefault id
  cached : ∀ instanceId id, d.cachedHubId instanceId = some id → d.HasDefault id
  refused : ∀ t, qs t = some .refused → Failed tr t ∨ (∃ id, d.HasDefault id) ∨ d.IsBlocked
  failed : ∀ t, qs t = some .failed → Failed tr t ∨ d.IsBlocked

namespace Agreed
variable {hubs : Store Uuid Hub} {tr : List Ev} {e : Ev} {qs : ℕ → Option Stage} {t : ℕ} {w : World}
  {s : Stage} {q : Query} {a : Answer q} {d : Deployment}

theorem start (hslug : hubs.Unique fun hub => some hub.slug)
    (hname : hubs.Unique fun hub => some hub.name) : Agreed hubs [] { hubs } fun _ => none where
  slug := hslug
  name := hname
  kept _ _ h := h
  new _ _ h := Or.inl h
  known _ _ h := by cases h
  cached _ _ h := by cases h
  refused _ h := by cases h
  failed _ h := by cases h

theorem call (h : Agreed hubs tr d qs) :
    Agreed hubs (tr ++ [e]) d (Function.update qs t (some .called)) where
  slug := h.slug
  name := h.name
  kept := h.kept
  new := h.new
  known t' id hs := by
    rcases update_stage hs with ⟨-, ⟨⟩⟩ | ⟨-, hs⟩
    exact h.known t' id hs
  cached := h.cached
  refused t' hs := by
    rcases update_stage hs with ⟨-, ⟨⟩⟩ | ⟨-, hs⟩
    exact (h.refused t' hs).imp_left .snoc
  failed t' hs := by
    rcases update_stage hs with ⟨-, ⟨⟩⟩ | ⟨-, hs⟩
    exact (h.failed t' hs).imp_left .snoc

theorem step (h : Agreed hubs tr e.pre.shared qs)
    (hans : booting.Answered protocol Stage.ends e qs t w s q a) :
    Agreed hubs (tr ++ [e]) e.post.shared (Function.update qs t (some (s.after q a))) := by
  have hexec : exec t w e.pre.shared q = some (a, e.post.shared) := hans.exec
  have hmoves := moves_of_exec hexec hans.permits
  have hfailed (hfails : w.fails) : Failed (tr ++ [e]) t :=
    ⟨e, List.mem_append_right _ (.head _), w, hans.inp, hfails⟩
  have hdefault {id : Uuid} (hs : s = .known id) : e.post.shared.HasDefault id :=
    hmoves.hasDefault (h.known t id (hs ▸ hans.stage))
  exact {
    slug := hmoves.unique (fun _ h _ => decide_eq_true (Or.inr h)) h.slug
    name := hmoves.unique (fun _ h _ => decide_eq_true (Or.inl h)) h.name
    kept := fun id hub hhub => hmoves.kept (h.kept id hub hhub)
    new := fun id hub hhub => by
      rcases hmoves.new hhub with hhub | ⟨rfl, hnone⟩
      · exact h.new id hub hhub
      · refine Or.inr ⟨rfl, ?_⟩
        rintro id' ⟨hub', hhub', hslug⟩
        exact hnone id' ⟨hub', h.kept id' hub' hhub', hslug⟩
    known := fun t' id hs' => by
      rcases update_stage hs' with ⟨-, hs'⟩ | ⟨-, hs'⟩
      · exact (hs' ▸ hmoves).known.elim (fun h => h) fun hs => hdefault hs.1
      · exact hmoves.hasDefault (h.known t' id hs')
    cached := fun instanceId id hid => by
      rcases hmoves.cached_hub hid with hid | hs
      · exact hmoves.hasDefault (h.cached instanceId id hid)
      · exact hdefault hs
    refused := fun t' hs' => by
      rcases update_stage hs' with ⟨rfl, hrefused⟩ | ⟨-, hs'⟩
      · obtain ⟨hd, hrefuse⟩ := (hrefused ▸ hmoves).refuses
        rw [hd]
        exact hrefuse.imp_left hfailed
      · rcases h.refused t' hs' with hfails | ⟨id, hid⟩ | hblocked
        · exact Or.inl hfails.snoc
        · exact Or.inr (Or.inl ⟨id, hmoves.hasDefault hid⟩)
        · exact Or.inr (Or.inr (hmoves.isBlocked hblocked))
    failed := fun t' hs' => by
      rcases update_stage hs' with ⟨rfl, hfail⟩ | ⟨-, hs'⟩
      · obtain ⟨hd, rfl, hnone⟩ := (hfail ▸ hmoves).fails
        rcases h.refused _ hans.stage with hfails | ⟨id, hid⟩ | hblocked
        · exact Or.inl hfails.snoc
        · exact absurd hid (hnone id)
        · exact Or.inr (hd ▸ hblocked)
      · exact (h.failed t' hs').imp .snoc hmoves.isBlocked }

end Agreed

/-- **However many instances start at once, they agree: what each returns or has cached is the id of
    the one default hub.  No hub is changed, and none is created but this one, where there was none.
    A call fails only where a statement of its own does, or another hub has the name.** -/
theorem default_hub_agreed {hubs : Store Uuid Hub} {tr : List Ev} {p : Boot}
    (hslug : hubs.Unique fun hub => some hub.slug) (hname : hubs.Unique fun hub => some hub.name)
    (h : Run booting.Steps { shared := { hubs } } tr p) :
    (∀ id id', p.shared.HasDefault id → p.shared.HasDefault id' → id = id') ∧
    (∀ t id, p.Ended t (.ok id) → p.shared.HasDefault id) ∧
    (∀ instanceId id, p.shared.cachedHubId instanceId = some id → p.shared.HasDefault id) ∧
    (∀ id hub, hubs.lookup id = some hub → p.shared.hubs.lookup id = some hub) ∧
    (∀ id hub, p.shared.hubs.lookup id = some hub → hubs.lookup id = some hub ∨
      hub = defaultHub ∧ ∀ id', ¬ Deployment.HasDefault { hubs } id') ∧
    ∀ t error, p.Ended t (.error error) → Failed tr t ∨ Deployment.IsBlocked { hubs } := by
  obtain ⟨qs, hqs, hJ⟩ := System.invariant (S := booting) (P := protocol) (J := Agreed hubs)
    (C := fun _ _ => True) (fun _ => ensureDefaultHub_meets)
    (fun _ _ _ _ _ _ _ hshared _ hJ => hshared ▸ hJ.call)
    (fun _ _ _ _ _ _ _ _ hans _ hJ => hJ.step hans) h .idle (.start hslug hname)
    (along_iff_forall.2 fun _ _ => trivial)
  have hreturned {t : ℕ} {id : Uuid} (hend : p.Ended t (.ok id)) : p.shared.HasDefault id := by
    obtain ⟨s, hs, hends⟩ := hqs.ended hend
    cases s with
    | known id' =>
      cases hends
      exact hJ.known t _ hs
    | _ => exact hends.elim
  refine ⟨?_, fun _ _ => hreturned, hJ.cached, hJ.kept, hJ.new, fun t error hend => ?_⟩
  · rintro id id' ⟨hub, hhub, hslug⟩ ⟨hub', hhub', hslug'⟩
    exact hJ.slug id id' hub hub' defaultHubSlug hhub hhub' (congrArg some hslug)
      (congrArg some hslug')
  · obtain ⟨s, hs, hends⟩ := hqs.ended hend
    cases s with
    | failed =>
      refine (hJ.failed t hs).imp_right ?_
      rintro ⟨id, hub, hhub, hname, hslug⟩
      rcases hJ.new id hub hhub with hhub | ⟨rfl, -⟩
      · exact ⟨id, hub, hhub, hname, hslug⟩
      · exact absurd rfl hslug
    | known => cases hends
    | _ => exact hends.elim

/-- Two instances that both find no default hub: the second one cannot save its own, and returns that
    of the first. -/
theorem default_hub_agreed_race : ∃ tr p, Run booting.Steps { shared := {} } tr p ∧
    (p.returned 1).isSome ∧ p.returned 1 = p.returned 0 := by
  have hplay : (booting.play { shared := {} }
      [.call 0 0, .call 1 1, .step 0 {}, .step 1 {}, .step 0 { id := "h" }, .step 1 { id := "i" },
        .step 1 { row := some "h" }, .step 0 {}, .step 1 {}]).any fun x =>
      (x.2.returned 0).isSome ∧ (x.2.returned 1).isSome := by
    decide
  obtain ⟨⟨tr, p⟩, hplay, hfacts⟩ := (Option.any_eq_true _ _).1 hplay
  obtain ⟨hfirst, hsecond⟩ := of_decide_eq_true hfacts
  obtain ⟨id, hid⟩ := Option.isSome_iff_exists.1 hfirst
  obtain ⟨id', hid'⟩ := Option.isSome_iff_exists.1 hsecond
  obtain ⟨hunique, hreturned, -⟩ :=
    default_hub_agreed Store.Unique.empty Store.Unique.empty (System.run_play hplay)
  refine ⟨tr, p, System.run_play hplay, hsecond, ?_⟩
  rw [hid, hid', hunique id' id (hreturned 1 id' (Pool.returned_eq_some.1 hid'))
    (hreturned 0 id (Pool.returned_eq_some.1 hid))]

end Hubs
