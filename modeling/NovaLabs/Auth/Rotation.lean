/-
  Rotation of refresh tokens.

  The rows of a family have the versions 1, 2, ...  The next one is stored after the one before it
  has been consumed, and by the unique index only once.  So each token is exchanged at most once, and
  a family has at most one row that is live.
-/
import NovaLabs.Auth.RefreshProtocol

namespace Auth

open Lib
open Backend (Uuid Time)

/-- The row is stored; it may have been consumed and revoked since. -/
def Database.Has (db : Database) (id : Uuid) (row : RefreshToken) : Prop :=
  ∃ row', db.token id = some row' ∧ row.Ages row'

/-- The unique indexes hold, and the rows of a family follow each other. -/
structure Chained (db : Database) : Prop where
  unique : ∀ {id id' row row'}, db.token id = some row → db.token id' = some row' →
    row.Clashes row' → id = id'
  first : ∀ {id row}, db.token id = some row → 0 < row.version
  prior : ∀ {id row n}, db.token id = some row → row.version = n + 2 →
    ∃ id' row', db.token id' = some row' ∧ row'.familyId = row.familyId ∧ row'.version = n + 1
  spent : ∀ {id id' row row'}, db.token id = some row → db.token id' = some row' →
    row'.familyId = row.familyId → row'.version = row.version + 1 → row.consumedAt.isSome

/-- What a stage says about the stored rows. -/
def RefreshStage.Holds (cfg : Config) (db : Database) : RefreshStage → Prop
  | opened row => ∃ id, db.Has id row
  | held token id row => db.Has id row ∧ row.IsLive ∧ row.token = cfg.hashRefreshToken token
  | consumed token id row => db.Has id row ∧ row.IsLive ∧ row.token = cfg.hashRefreshToken token ∧
      ∃ row', db.token id = some row' ∧ row'.consumedAt.isSome
  | exchanged token id row new => db.Has id row ∧ row.IsLive ∧
      row.token = cfg.hashRefreshToken token ∧ new.Succeeds row ∧ ∃ id', db.Has id' new
  | reused row => ¬ row.IsLive ∧ ∃ id, db.Has id row
  | other | opening | presented _ | verified _ _ | known _ | refused => True

/-- The token that the session was given, if it is a refresh that goes on. -/
def RefreshStage.Presents (token : String) : RefreshStage → Prop
  | presented token' | verified token' _ | known token' | held token' _ _ | consumed token' _ _
  | exchanged token' _ _ _ => token' = token
  | reused _ | refused => True
  | other | opening | opened _ => False

section
variable {cfg : Config} {w : World} {db db' : Database} {op : Query} {a : Answer op} {id id' : Uuid}
  {row row' new : RefreshToken} {q : RefreshStage}

theorem RefreshToken.Clashes.symm (h : row.Clashes row') : row'.Clashes row :=
  h.imp Eq.symm fun h => ⟨h.1.symm, h.2.symm⟩

theorem RefreshToken.Ages.clashes (h : row.Ages row') : row'.Clashes new ↔ row.Clashes new := by
  rw [RefreshToken.Clashes, h.token, h.familyId, h.version, RefreshToken.Clashes]

theorem RefreshToken.Ages.clashes' (h : row.Ages row') : new.Clashes row' ↔ new.Clashes row := by
  rw [RefreshToken.Clashes, h.token, h.familyId, h.version, RefreshToken.Clashes]

namespace Database.Has

theorem of_token (h : db.token id = some row) : db.Has id row := ⟨row, h, .refl row⟩

theorem exec (h : db.Has id row) (hexec : exec cfg w db op = some (a, db')) : db'.Has id row := by
  obtain ⟨row', hrow', hages⟩ := h
  obtain ⟨row'', hrow'', hages'⟩ := exec_ages hexec hrow'
  exact ⟨row'', hrow'', hages.trans hages'⟩

/-- Two rows with one id are one row. -/
theorem same (h : db.Has id row) (h' : db.Has id row') :
    row.familyId = row'.familyId ∧ row.version = row'.version := by
  obtain ⟨stored, hstored, hages⟩ := h
  obtain ⟨stored', hstored', hages'⟩ := h'
  obtain rfl := Option.some.inj (hstored.symm.trans hstored')
  exact ⟨hages.familyId.symm.trans hages'.familyId, hages.version.symm.trans hages'.version⟩

end Database.Has

namespace RefreshStage.Holds

/-- The stored rows of a stage stay. -/
theorem exec (h : q.Holds cfg db) (hexec : exec cfg w db op = some (a, db')) : q.Holds cfg db' := by
  cases q with
  | other | opening | presented | verified | known | refused => trivial
  | opened row => exact h.imp fun _ h => h.exec hexec
  | held token id row => exact ⟨h.1.exec hexec, h.2⟩
  | consumed token id row =>
    obtain ⟨hhas, hlive, htoken, row', hrow', hconsumed⟩ := h
    obtain ⟨row'', hrow'', hages⟩ := exec_ages hexec hrow'
    exact ⟨hhas.exec hexec, hlive, htoken, row'', hrow'', hages.consumed hconsumed⟩
  | exchanged token id row new =>
    obtain ⟨hhas, hlive, htoken, hnew, id', hhas'⟩ := h
    exact ⟨hhas.exec hexec, hlive, htoken, hnew, id', hhas'.exec hexec⟩
  | reused row => exact ⟨h.1, h.2.imp fun _ h => h.exec hexec⟩

/-- What a session's own query leads to. -/
theorem after (h : q.Holds cfg db) (hp : q.permits cfg op)
    (hexec : Auth.exec cfg w db op = some (a, db')) : (q.after op a).Holds cfg db' := by
  cases q with
  | other => exact h
  | opened | exchanged | refused => exact hp.elim
  | opening =>
    rcases hp with hp | ⟨row, rfl, -⟩
    · rw [opening_after hp a]
      trivial
    · rcases insertToken_cases hexec with ⟨rfl, -⟩ | ⟨rfl, -, -, rfl⟩
      · trivial
      · exact ⟨w.id, .of_token (by rw [token_insert, if_pos rfl])⟩
  | presented token =>
    obtain rfl := hp
    cases a <;> trivial
  | verified token userId =>
    obtain rfl := hp
    cases a <;> trivial
  | known token =>
    obtain rfl := hp
    cases a with
    | none => trivial
    | some found =>
      obtain ⟨rfl, hrow, htoken⟩ := findToken_some hexec
      simp only [RefreshStage.after]
      split_ifs with hlive
      · exact ⟨.of_token hrow, hlive, htoken⟩
      · exact ⟨hlive, found.1, .of_token hrow⟩
  | held token id row =>
    rcases hp with rfl | rfl
    · have hheld := h.exec hexec
      simp only [RefreshStage.after]
      split_ifs
      · trivial
      · exact hheld
    · obtain ⟨hhas, hlive, htoken⟩ := h.exec hexec
      obtain ⟨stored, hstored, -⟩ := h.1
      refine ⟨hhas, hlive, htoken, { stored with consumedAt := some w.now }, ?_, rfl⟩
      rw [consumeToken_row hexec, hstored, Option.map_some, if_pos rfl]
  | consumed token id row =>
    rcases hp with hp | ⟨new, rfl, hnew⟩
    · rw [consumed_after hp a]
      exact h.exec hexec
    · obtain ⟨hhas, hlive, htoken, -⟩ := h.exec hexec
      rcases insertToken_cases hexec with ⟨rfl, -⟩ | ⟨rfl, -, -, rfl⟩
      · trivial
      · exact ⟨hhas, hlive, htoken, hnew, w.id, .of_token (by rw [token_insert, if_pos rfl])⟩
  | reused row => exact h.exec hexec

end RefreshStage.Holds

namespace Chained

theorem of_no_tokens (h : ∀ id, db.token id = none) : Chained db where
  unique {id _ _ _} hrow := by cases (h id).symm.trans hrow
  first {id _} hrow := by cases (h id).symm.trans hrow
  prior {id _ _} hrow := by cases (h id).symm.trans hrow
  spent {id _ _ _} hrow := by cases (h id).symm.trans hrow

/-- A new row is the first of its family, or the next after a consumed one. -/
theorem new_cases (h : q.Holds cfg db) (hp : q.permits cfg (.insertToken new)) :
    new.version = 1 ∨ ∃ id row, db.token id = some row ∧ row.consumedAt.isSome ∧
      new.familyId = row.familyId ∧ new.version = row.version + 1 := by
  rcases hp.insertToken with hone | ⟨token, id, row, rfl, hnew⟩
  · exact Or.inl hone
  · obtain ⟨⟨row', hrow', hages⟩, -, -, row'', hrow'', hconsumed⟩ := h
    obtain rfl := Option.some.inj (hrow'.symm.trans hrow'')
    refine Or.inr ⟨id, row', hrow', hconsumed, ?_, ?_⟩
    · rw [hnew.familyId, hages.familyId]
    · rw [hnew.version, hages.version]

/-- **A permitted query keeps the families in order.** -/
theorem step (hdb : Chained db) (hexec : exec cfg w db op = some (a, db')) (h : q.Holds cfg db)
    (hp : q.permits cfg op) : Chained db' where
  unique {id id' row row'} hrow hrow' hclash := by
    rcases exec_token_cases hexec hrow with ⟨old, hold, hages⟩ | ⟨rfl, rfl, -, hfree⟩
    · rw [hages.clashes] at hclash
      rcases exec_token_cases hexec hrow' with ⟨old', hold', hages'⟩ | ⟨rfl, rfl, -, hfree⟩
      · exact hdb.unique hold hold' (hages'.clashes'.1 hclash)
      · exact absurd hclash (hfree _ _ hold)
    · rcases exec_token_cases hexec hrow' with ⟨old', hold', hages'⟩ | ⟨-, rfl, -, -⟩
      · exact absurd (hages'.clashes'.1 hclash).symm (hfree _ _ hold')
      · rfl
  first {id row} hrow := by
    rcases exec_token_cases hexec hrow with ⟨old, hold, hages⟩ | ⟨rfl, -⟩
    · rw [hages.version]
      exact hdb.first hold
    · rcases new_cases h hp with hversion | ⟨id', row', -, -, -, hversion⟩ <;> omega
  prior {id row n} hrow hversion := by
    have hstays {id₀ row₀} (hrow₀ : db.token id₀ = some row₀)
        (hfamily : row₀.familyId = row.familyId) (hversion₀ : row₀.version = n + 1) :
        ∃ id' row', db'.token id' = some row' ∧ row'.familyId = row.familyId ∧
          row'.version = n + 1 := by
      obtain ⟨row', hrow', hages⟩ := exec_ages hexec hrow₀
      exact ⟨id₀, row', hrow', hages.familyId.trans hfamily, hages.version.trans hversion₀⟩
    rcases exec_token_cases hexec hrow with ⟨old, hold, hages⟩ | ⟨rfl, -⟩
    · obtain ⟨id', row', hrow', hfamily, hversion'⟩ := hdb.prior hold (hages.version ▸ hversion)
      exact hstays hrow' (hfamily.trans hages.familyId.symm) hversion'
    · rcases new_cases h hp with hone | ⟨id', row', hrow', -, hfamily, hnext⟩
      · omega
      · exact hstays hrow' hfamily.symm (by omega)
  spent {id id' row row'} hrow hrow' hfamily hversion := by
    rcases exec_token_cases hexec hrow with ⟨old, hold, hages⟩ | ⟨rfl, -, -, hfree⟩
    · rw [hages.familyId, hages.version] at *
      rcases exec_token_cases hexec hrow' with ⟨old', hold', hages'⟩ | ⟨rfl, -⟩
      · rw [hages'.familyId] at hfamily
        rw [hages'.version] at hversion
        exact hages.consumed (hdb.spent hold hold' hfamily hversion)
      · rcases new_cases h hp with hone | ⟨id₀, row₀, hrow₀, hconsumed, hfamily₀, hnext⟩
        · have := hdb.first hold
          omega
        · have hsame : row₀.Clashes old :=
            Or.inr ⟨hfamily₀.symm.trans hfamily, by omega⟩
          obtain rfl := hdb.unique hrow₀ hold hsame
          obtain rfl := Option.some.inj (hrow₀.symm.trans hold)
          exact hages.consumed hconsumed
    · rcases exec_token_cases hexec hrow' with ⟨old', hold', hages'⟩ | ⟨heq, -⟩
      · -- the row before the later one has the family and the version of the new one
        rw [hages'.familyId] at hfamily
        rw [hages'.version] at hversion
        have hpos : 0 < row.version := by
          rcases new_cases h hp with hone | ⟨_, _, -, -, -, hnext⟩ <;> omega
        obtain ⟨n, hn⟩ := Nat.exists_eq_add_one_of_ne_zero hpos.ne'
        obtain ⟨id₀, row₀, hrow₀, hfamily₀, hversion₀⟩ := hdb.prior hold' (by omega : _ = n + 2)
        exact absurd (Or.inr ⟨hfamily₀.trans hfamily, by omega⟩) (hfree id₀ row₀ hrow₀)
      · cases heq
        omega

/-- The versions of a family have no gaps. -/
theorem below (hdb : Chained db) (hrow : db.token id = some row) {n : ℕ} (hn : n < row.version) :
    ∃ id' row', db.token id' = some row' ∧ row'.familyId = row.familyId ∧
      row'.version = n + 1 := by
  obtain ⟨d, hd⟩ := Nat.exists_eq_add_of_lt hn
  induction d generalizing n with
  | zero => exact ⟨id, row, hrow, rfl, hd⟩
  | succ d ih =>
    obtain ⟨id', row', hrow', hfamily, hversion⟩ := ih (n := n + 1) (by omega) (by omega)
    obtain ⟨id'', row'', hrow'', hfamily', hversion'⟩ := hdb.prior hrow' hversion
    exact ⟨id'', row'', hrow'', hfamily'.trans hfamily, hversion'⟩

theorem version_le_of_isLive (hdb : Chained db) (hrow : db.token id = some row)
    (hrow' : db.token id' = some row') (hlive : row.IsLive)
    (hfamily : row.familyId = row'.familyId) : row'.version ≤ row.version := by
  by_contra hlt
  obtain ⟨id'', row'', hrow'', hfamily', hversion⟩ := hdb.below hrow' (not_le.1 hlt)
  have hspent := hdb.spent hrow hrow'' (hfamily'.trans hfamily.symm) hversion
  rw [hlive.2] at hspent
  cases hspent

/-- A family has at most one live row. -/
theorem live_unique (hdb : Chained db) (hrow : db.token id = some row)
    (hrow' : db.token id' = some row') (hlive : row.IsLive) (hlive' : row'.IsLive)
    (hfamily : row.familyId = row'.familyId) : id = id' := by
  have hle := hdb.version_le_of_isLive hrow hrow' hlive hfamily
  have hle' := hdb.version_le_of_isLive hrow' hrow hlive' hfamily.symm
  exact hdb.unique hrow hrow' (Or.inr ⟨hfamily, hle'.antisymm hle⟩)

end Chained

end

/-! ## Runs -/

/-- What holds in every run: the families are in order, the stages are right about the stored rows,
    the refreshes that have come to an end have exchanged different rows, and each has the token
    that it was given. -/
structure Rotates (cfg : Config) (tr : List Ev) (db : Database)
    (qs : ℕ → Option RefreshStage) : Prop where
  chained : Chained db
  holds : ∀ {t q}, qs t = some q → q.Holds cfg db
  apart : ∀ {t t' token token' id row row' new new'},
    qs t = some (.exchanged token id row new) → qs t' = some (.exchanged token' id row' new') →
    t = t'
  presents : ∀ {t token}, Called tr t (.refreshToken token) →
    ∃ q, qs t = some q ∧ q.Presents token

section
variable {cfg : Config} {tr : List Ev} {e : Ev} {qs : ℕ → Option RefreshStage} {t : ℕ} {w : World}
  {q : RefreshStage} {op : Query} {a : Answer op} {db : Database}

theorem RefreshStage.Presents.after {token : String} (h : q.Presents token)
    (hp : q.permits cfg op) : (q.after op a).Presents token := by
  cases q with
  | other | opening | opened => exact h.elim
  | exchanged | refused => exact hp.elim
  | presented token' =>
    obtain rfl := hp
    cases a with
    | none => trivial
    | some claims => exact h
  | verified token' userId =>
    obtain rfl := hp
    cases a with
    | none => trivial
    | some found => exact h
  | known token' =>
    obtain rfl := hp
    cases a with
    | none => trivial
    | some found =>
      simp only [RefreshStage.after]
      split_ifs
      · exact h
      · trivial
  | held token' id row =>
    rcases hp with rfl | rfl
    · simp only [RefreshStage.after]
      split_ifs
      · trivial
      · exact h
    · exact h
  | consumed token' id row =>
    rcases hp with hp | ⟨new, rfl, -⟩
    · rw [consumed_after hp a]
      exact h
    · cases a with
      | none => trivial
      | some id' => exact h
  | reused row => trivial

/-- Two sessions cannot both store a successor of one row. -/
theorem exchanged_once {w : World} {db db' : Database} {token token' : String} {id : Uuid}
    {row row' new new' : RefreshToken} (hq : (RefreshStage.consumed token id row).Holds cfg db)
    (hq' : (RefreshStage.exchanged token' id row' new').Holds cfg db) (hnew : new.Succeeds row)
    {id₀ : Uuid} (hexec : exec cfg w db (.insertToken new) = some (some id₀, db')) : False := by
  rcases insertToken_cases hexec with ⟨heq, -⟩ | ⟨-, -, hfree, -⟩
  · cases heq
  obtain ⟨hhas, -, -, hnew', id', stored, hstored, hages⟩ := hq'
  obtain ⟨hfamily, hversion⟩ := hq.1.same hhas
  refine hfree id' stored hstored (Or.inr ⟨?_, ?_⟩)
  · rw [hages.familyId, hnew'.familyId, hnew.familyId, hfamily]
  · rw [hages.version, hnew'.version, hnew.version, hversion]

namespace Rotates

theorem call {request : Request} (h : Rotates cfg tr e.pre.shared qs)
    (he : e.inp = .call t request) (ht : qs t = none) (hshared : e.post.shared = e.pre.shared) :
    Rotates cfg (tr ++ [e]) e.post.shared
      (Function.update qs t (some (RefreshStage.start request))) where
  chained := hshared.symm ▸ h.chained
  holds {t' q} hq := by
    rw [hshared]
    rcases update_stage hq with ⟨-, rfl⟩ | ⟨-, hq⟩
    · cases request <;> trivial
    · exact h.holds hq
  apart {t₁ t₂ _ _ _ _ _ _ _} h₁ h₂ := by
    have hstart {token id row new} : RefreshStage.start request ≠ .exchanged token id row new := by
      cases request <;> exact nofun
    rcases update_stage h₁ with ⟨-, heq⟩ | ⟨-, h₁⟩
    · exact absurd heq.symm hstart
    rcases update_stage h₂ with ⟨-, heq⟩ | ⟨-, h₂⟩
    · exact absurd heq.symm hstart
    exact h.apart h₁ h₂
  presents {t' token} hcalled := by
    rcases called_snoc.1 hcalled with hcalled | hinp
    · obtain ⟨q, hq, hpresents⟩ := h.presents hcalled
      have ht' : t' ≠ t := by
        rintro rfl
        cases ht.symm.trans hq
      exact ⟨q, (Function.update_of_ne ht' _ _).trans hq, hpresents⟩
    · cases he.symm.trans hinp
      exact ⟨_, Function.update_self .., rfl⟩

theorem step (h : Rotates cfg tr e.pre.shared qs)
    (hans : (service cfg).Answered (refreshProtocol cfg) (RefreshStage.ends cfg) e qs t w q op a) :
    Rotates cfg (tr ++ [e]) e.post.shared (Function.update qs t (some (q.after op a))) where
  chained := h.chained.step hans.exec (h.holds hans.stage) hans.permits
  holds {t' q'} hq := by
    rcases update_stage hq with ⟨-, rfl⟩ | ⟨-, hq⟩
    · exact (h.holds hans.stage).after hans.permits hans.exec
    · exact (h.holds hq).exec hans.exec
  apart {t₁ t₂ _ _ _ _ _ _ _} h₁ h₂ := by
    have hown {t' token token' id row row' new new'} (ht' : t' ≠ t)
        (hq : q.after op a = .exchanged token id row new)
        (hq' : qs t' = some (.exchanged token' id row' new')) : False := by
      obtain ⟨rfl, ⟨-, -, heq⟩ | ⟨_, _, _, rfl, hnew, heq⟩⟩ :=
        after_stored hans.permits (congrArg RefreshStage.stored hq)
      · cases heq.symm.trans hq
      cases heq.symm.trans hq
      cases a with
      | none => cases hq
      | some id₀ => exact exchanged_once (h.holds hans.stage) (h.holds hq') hnew hans.exec
    rcases update_stage h₁ with ⟨ht₁, heq₁⟩ | ⟨ht₁, hq₁⟩
    · rcases update_stage h₂ with ⟨ht₂, -⟩ | ⟨ht₂, hq₂⟩
      · exact ht₁.trans ht₂.symm
      · exact (hown ht₂ heq₁.symm hq₂).elim
    · rcases update_stage h₂ with ⟨-, heq₂⟩ | ⟨-, hq₂⟩
      · exact (hown ht₁ heq₂.symm hq₁).elim
      · exact h.apart hq₁ hq₂
  presents {t' token} hcalled := by
    have hcalled : Called tr t' (.refreshToken token) :=
      (called_snoc.1 hcalled).resolve_right fun hinp => nomatch hans.inp.symm.trans hinp
    obtain ⟨q', hq', hpresents⟩ := h.presents hcalled
    by_cases ht' : t' = t
    · subst ht'
      cases hans.stage.symm.trans hq'
      exact ⟨_, Function.update_self .., hpresents.after hans.permits⟩
    · exact ⟨q', (Function.update_of_ne ht' _ _).trans hq', hpresents⟩

end Rotates

/-- In every run from rows that are in order. -/
theorem rotates {db : Database} {p : Sessions} (hdb : Chained db)
    (h : Run (service cfg).Steps (idle db) tr p) :
    ∃ qs, Tracks (refreshProtocol cfg) (RefreshStage.ends cfg) p qs ∧
      Rotates cfg tr p.shared qs := by
  refine System.invariant (J := Rotates cfg) (C := fun _ _ => True) (program_refreshes cfg)
    (fun tr e t r qs he ht hshared _ hJ => hJ.call he ht hshared)
    (fun tr e qs t w q op a hans _ hJ => hJ.step hans) h .idle ?_ fun _ _ _ _ => trivial
  exact
    { chained := hdb
      holds := nofun
      apart := nofun
      presents := fun ⟨_, he, _⟩ => nomatch he }

/-- Some run of requests, from a database without refresh tokens, leads to the database. -/
def Reachable (cfg : Config) (db : Database) : Prop :=
  ∃ db₀ tr p, (∀ id, db₀.token id = none) ∧ Run (service cfg).Steps (idle db₀) tr p ∧ p.shared = db

theorem Reachable.chained {db : Database} (h : Reachable cfg db) : Chained db := by
  obtain ⟨db₀, tr, p, hnone, hrun, rfl⟩ := h
  obtain ⟨qs, -, hJ⟩ := rotates (.of_no_tokens hnone) hrun
  exact hJ.chained

/-- A refresh that succeeds has exchanged the row of its token. -/
theorem Rotates.exchanged {p : Sessions} {token : String} {response : Response}
    (h : Rotates cfg tr p.shared qs)
    (htracks : Tracks (refreshProtocol cfg) (RefreshStage.ends cfg) p qs)
    (hcalled : Called tr t (.refreshToken token)) (hended : p.Ended t (.ok response)) :
    ∃ id row new, qs t = some (.exchanged token id row new) ∧
      (RefreshStage.exchanged token id row new).Holds cfg p.shared := by
  obtain ⟨q, hq, hends⟩ := htracks.ended hended
  obtain ⟨q', hq', hpresents⟩ := h.presents hcalled
  obtain rfl := Option.some.inj (hq.symm.trans hq')
  cases q with
  | other | opening | opened => exact hpresents.elim
  | presented | verified | known | held | consumed => exact hends.elim
  | reused | refused =>
    obtain ⟨e, he⟩ := hends
    cases he
  | exchanged token' id row new =>
    obtain rfl : token' = token := hpresents
    exact ⟨id, row, new, hq, h.holds hq⟩

/-- **However requests are interleaved, a refresh token is exchanged at most once, and a family has
    at most one row that is neither consumed nor revoked.** -/
theorem refresh_tokens_single_use {db : Database} {p : Sessions} (hdb : Reachable cfg db)
    (h : Run (service cfg).Steps (idle db) tr p) :
    (∀ t t' token token' response response', Called tr t (.refreshToken token) →
      Called tr t' (.refreshToken token') →
      cfg.hashRefreshToken token = cfg.hashRefreshToken token' →
      p.Ended t (.ok response) → p.Ended t' (.ok response') → t = t') ∧
    ∀ id id' row row', p.shared.token id = some row → p.shared.token id' = some row' →
      row.IsLive → row'.IsLive → row.familyId = row'.familyId → id = id' := by
  obtain ⟨qs, htracks, hJ⟩ := rotates hdb.chained h
  refine ⟨fun t t' token token' response response' hcalled hcalled' hhash hended hended' => ?_,
    fun id id' row row' hrow hrow' hlive hlive' => hJ.chained.live_unique hrow hrow' hlive hlive'⟩
  obtain ⟨id, row, new, hq, ⟨stored, hstored, hages⟩, -, htoken, -⟩ :=
    hJ.exchanged htracks hcalled hended
  obtain ⟨id', row', new', hq', ⟨stored', hstored', hages'⟩, -, htoken', -⟩ :=
    hJ.exchanged htracks hcalled' hended'
  have hclash : stored.Clashes stored' := Or.inl (calc
    stored.token = cfg.hashRefreshToken token := hages.token.trans htoken
    _ = cfg.hashRefreshToken token' := hhash
    _ = stored'.token := (hages'.token.trans htoken').symm)
  obtain rfl := hJ.chained.unique hstored hstored' hclash
  exact hJ.apart hq hq'

end

/-! ### An example -/

/-- The claims of the temporary token for examples. -/
def plainTempClaims : JwtClaims := { sub := "u", type := some "2fa_pending", iat := 0, exp := 300 }

/-- A configuration for examples: a refresh token tells the second when it was signed. -/
def plainConfig : Config where
  sign
    | .access, claims => if claims = plainTempClaims then "temp" else "access"
    | .refresh, claims =>
      if claims.iat = 0 then "first" else if claims.iat = 1 then "second" else "third"
  decode
    | .access, token => if token = "temp" then some plainTempClaims else none
    | .refresh, token => some
      { sub := "u", exp := 1000
        iat := if token = "first" then 0 else if token = "second" then 1 else 2 }
  hashRefreshToken token := token
  bcrypt _ plain := plain
  compare plain hash := plain = hash
  verifyTotp code secret _ := code = secret
  trim text := text
  accessExpiresIn := 900
  refreshExpiresIn := 1000
  refreshExpiryMs := none
  issuer := "novalabs"
  audience := "novalabs-api"
  defaultHubId := none

/-- A database for examples, with one user. -/
def registered : Database :=
  let user : User :=
    { email := "e", firstname := "Ada", lastname := "L", password := "p", isVerified := true }
  Finmap.insert (.user "u") user ∅

theorem reachable_registered : Reachable plainConfig registered :=
  ⟨registered, [], idle registered, fun _ => rfl, .nil, rfl⟩

/-- Of two refreshes at once that both find the token live, the first to store a successor gets the
    new pair. -/
theorem refresh_tokens_single_use_twice : ∃ tr p,
    Run (service plainConfig).Steps (idle registered) tr p ∧ (p.returned 1).isSome ∧
      ∀ response, ¬ p.Ended 2 (.ok response) := by
  have hplay : ((service plainConfig).play (idle registered)
      [.call 0 (.login ⟨"e", "p"⟩), .step 0 { row := some "u" }, .step 0 {}, .step 0 {},
        .step 0 { text := "f" }, .step 0 { id := "k" },
        .call 1 (.refreshToken "first"), .call 2 (.refreshToken "first"),
        .step 1 {}, .step 2 {}, .step 1 { row := some "u" }, .step 2 { row := some "u" },
        .step 1 { row := some "k" }, .step 2 { row := some "k" }, .step 1 {}, .step 2 {},
        .step 1 {}, .step 1 { now := 1000 }, .step 1 { id := "l" },
        .step 2 {}, .step 2 { now := 2000 }, .step 2 { id := "m" }]).any fun x =>
      (x.2.returned 1).isSome := by decide
  obtain ⟨⟨tr, p⟩, hplay, hreturned⟩ := (Option.any_eq_true _ _).1 hplay
  obtain ⟨response, hresponse⟩ := Option.isSome_iff_exists.1 hreturned
  have honce := (refresh_tokens_single_use reachable_registered (System.run_play hplay)).1
  refine ⟨tr, p, System.run_play hplay, hreturned, fun response' hended => ?_⟩
  cases honce 1 2 "first" "first" response response' ((System.called_play hplay).2 (by simp))
    ((System.called_play hplay).2 (by simp)) rfl (Pool.returned_eq_some.1 hresponse) hended

end Auth
