/-
  Sessions that logins start.

  A login returns a refresh token.  The token can be refreshed if the login has stored its row, and as
  long as nobody else has consumed it or revoked its family.
-/
import NovaLabs.Auth.Calls
import NovaLabs.Auth.Rotation

namespace Auth

open Lib
open Backend (Uuid Time)

/-- The token that a refresh carries. -/
def RefreshStage.token : RefreshStage → Option String
  | presented token | verified token _ | known token | held token _ _ | consumed token _ _
  | exchanged token _ _ _ => some token
  | other | opening | opened _ | reused _ | refused => none

/-- A login that stores its refresh token. -/
def RefreshStage.IsOpening : RefreshStage → Prop
  | opening | opened _ | refused => True
  | _ => False

section
variable {cfg : Config} {w : World} {db db' : Database} {op : Query} {a : Answer op} {id : Uuid}
  {row new : RefreshToken} {q : RefreshStage}

theorem after_token (hp : q.permits cfg op) :
    (q.after op a).token = q.token ∨ (q.after op a).token = none := by
  cases q with
  | other | reused => exact Or.inl rfl
  | opened | exchanged | refused => exact hp.elim
  | opening =>
    rcases hp with hp | ⟨row, rfl, -⟩
    · rw [opening_after hp a]
      exact Or.inl rfl
    · cases a <;> exact Or.inl rfl
  | presented token | verified token =>
    obtain rfl := hp
    cases a with
    | none => exact Or.inr rfl
    | some => exact Or.inl rfl
  | known token =>
    obtain rfl := hp
    cases a with
    | none => exact Or.inr rfl
    | some found =>
      simp only [RefreshStage.after]
      split_ifs
      · exact Or.inl rfl
      · exact Or.inr rfl
  | held token id row =>
    rcases hp with rfl | rfl
    · simp only [RefreshStage.after]
      split_ifs
      · exact Or.inr rfl
      · exact Or.inl rfl
    · exact Or.inl rfl
  | consumed token id row =>
    rcases hp with hp | ⟨new, rfl, -⟩
    · rw [consumed_after hp a]
      exact Or.inl rfl
    · cases a with
      | none => exact Or.inr rfl
      | some => exact Or.inl rfl

theorem RefreshStage.IsOpening.after (h : q.IsOpening) (hp : q.permits cfg op) :
    (q.after op a).IsOpening := by
  cases q with
  | opened | refused => exact hp.elim
  | opening =>
    rcases hp with hp | ⟨row, rfl, -⟩
    · rw [opening_after hp a]
      trivial
    · cases a <;> trivial
  | _ => exact h.elim

/-- A row stays as it is, or is revoked, unless a refresh that has been given its token consumes
    it. -/
theorem stays_unless_consumed (hrow : db.token id = some row)
    (hexec : exec cfg w db op = some (a, db')) (hq : q.Holds cfg db) (hp : q.permits cfg op)
    (hother : ∀ token, q.token = some token → cfg.hashRefreshToken token ≠ row.token) :
    ∃ row', db'.token id = some row' ∧ row.Ages row' ∧ (row' = row ∨ row'.revoked) := by
  by_cases hop : op.sparesTokens
  · exact ⟨row, (exec_token hexec hop id).trans hrow, .refl row, Or.inl rfl⟩
  obtain ⟨row', hrow', hages⟩ := exec_ages hexec hrow
  refine ⟨row', hrow', hages, ?_⟩
  cases op with
  | insertToken new =>
    rcases insertToken_cases hexec with ⟨-, rfl, -⟩ | ⟨-, hnone, -, rfl⟩
    · exact Or.inl (Option.some.inj (hrow'.symm.trans hrow))
    · rw [token_insert, if_neg (by rintro rfl; cases hnone.symm.trans hrow)] at hrow'
      exact Or.inl (Option.some.inj (hrow'.symm.trans hrow))
  | revokeFamily familyId =>
    rw [revokeFamily_row hexec, hrow, Option.map_some, Option.some.injEq] at hrow'
    subst hrow'
    split_ifs
    · exact Or.inr rfl
    · exact Or.inl rfl
  | consumeToken id' =>
    rw [consumeToken_row hexec, hrow, Option.map_some, Option.some.injEq] at hrow'
    subst hrow'
    split_ifs with hid
    · obtain ⟨token, held, rfl⟩ := hp.consumeToken
      obtain ⟨⟨stored, hstored, hages'⟩, -, htoken⟩ := hq
      obtain rfl := hid
      cases hstored.symm.trans hrow
      exact absurd (htoken.symm.trans hages'.token.symm) (hother token rfl)
    · exact Or.inl rfl
  | _ => exact absurd rfl hop

end

/-! ## The logins of a run -/

/-- Refreshes carry the tokens that they were given.  A login that has ended has stored its row,
    which is consumed only if its family is revoked or a refresh has been given its token. -/
structure Logins (cfg : Config) (tr : List Ev) (db : Database)
    (qs : ℕ → Option RefreshStage) : Prop where
  rotates : Rotates cfg tr db qs
  given : ∀ {t q token}, qs t = some q → q.token = some token → Called tr t (.refreshToken token)
  opens : ∀ {t request}, Called tr t request → request.opensSession →
    ∃ q, qs t = some q ∧ q.IsOpening
  untouched : ∀ {t row}, qs t = some (.opened row) → ∃ id row', db.token id = some row' ∧
    row.Ages row' ∧ (row'.consumedAt.isSome → row'.revoked ∨
      ∃ t' token, Called tr t' (.refreshToken token) ∧ cfg.hashRefreshToken token = row.token)

section
variable {cfg : Config} {tr : List Ev} {e : Ev} {qs : ℕ → Option RefreshStage} {t : ℕ} {w : World}
  {q : RefreshStage} {op : Query} {a : Answer op}

theorem start_token {request : Request} {token : String}
    (h : (RefreshStage.start request).token = some token) : request = .refreshToken token := by
  cases request <;> cases h
  rfl

namespace Logins

theorem call {request : Request} (h : Logins cfg tr e.pre.shared qs)
    (he : e.inp = .call t request) (ht : qs t = none) (hshared : e.post.shared = e.pre.shared) :
    Logins cfg (tr ++ [e]) e.post.shared
      (Function.update qs t (some (RefreshStage.start request))) where
  rotates := h.rotates.call he ht hshared
  given {t' q token} hq htoken := by
    rw [called_snoc]
    rcases update_stage hq with ⟨rfl, rfl⟩ | ⟨-, hq⟩
    · exact Or.inr (start_token htoken ▸ he)
    · exact Or.inl (h.given hq htoken)
  opens {t' request'} hcalled hopens := by
    rcases called_snoc.1 hcalled with hcalled | hinp
    · obtain ⟨q, hq, hopening⟩ := h.opens hcalled hopens
      have ht' : t' ≠ t := by
        rintro rfl
        cases ht.symm.trans hq
      exact ⟨q, (Function.update_of_ne ht' _ _).trans hq, hopening⟩
    · cases he.symm.trans hinp
      refine ⟨_, Function.update_self .., ?_⟩
      cases request <;> trivial
  untouched {t' row} hq := by
    rw [hshared]
    rcases update_stage hq with ⟨-, heq⟩ | ⟨-, hq⟩
    · cases request <;> cases heq
    · obtain ⟨id, row', hrow', hages, hconsumed⟩ := h.untouched hq
      refine ⟨id, row', hrow', hages, fun hsome => (hconsumed hsome).imp_right ?_⟩
      rintro ⟨t₁, token, hcalled, hhash⟩
      exact ⟨t₁, token, called_snoc.2 (Or.inl hcalled), hhash⟩

theorem step (h : Logins cfg tr e.pre.shared qs)
    (hans : (service cfg).Answered (refreshProtocol cfg) (RefreshStage.ends cfg) e qs t w q op a) :
    Logins cfg (tr ++ [e]) e.post.shared (Function.update qs t (some (q.after op a))) where
  rotates := h.rotates.step hans
  given {t' q' token} hq htoken := by
    rw [called_snoc]
    refine Or.inl ?_
    rcases update_stage hq with ⟨rfl, rfl⟩ | ⟨-, hq⟩
    · rcases after_token (a := a) hans.permits with hsame | hnone
      · exact h.given hans.stage (hsame.symm.trans htoken)
      · cases hnone.symm.trans htoken
    · exact h.given hq htoken
  opens {t' request'} hcalled hopens := by
    have hcalled : Called tr t' request' :=
      (called_snoc.1 hcalled).resolve_right fun hinp => nomatch hans.inp.symm.trans hinp
    obtain ⟨q', hq', hopening⟩ := h.opens hcalled hopens
    by_cases ht' : t' = t
    · subst ht'
      cases hans.stage.symm.trans hq'
      exact ⟨_, Function.update_self .., hopening.after hans.permits⟩
    · exact ⟨q', (Function.update_of_ne ht' _ _).trans hq', hopening⟩
  untouched {t' row} hq := by
    rcases update_stage hq with ⟨rfl, heq⟩ | ⟨-, hq⟩
    · obtain ⟨rfl, ⟨rfl, hlive, hafter⟩ | ⟨_, _, _, -, -, hafter⟩⟩ :=
        after_stored hans.permits (congrArg RefreshStage.stored heq.symm)
      · have hexec : exec cfg w e.pre.shared (.insertToken row) = some (a, e.post.shared) := hans.exec
        rcases insertToken_cases hexec with ⟨rfl, -⟩ | ⟨rfl, -, -, hdb⟩
        · cases hafter
        refine ⟨w.id, row, ?_, .refl row, fun hsome => ?_⟩
        · rw [hdb, token_insert, if_pos rfl]
        · rw [hlive.2] at hsome
          cases hsome
      · cases heq.trans hafter
    · obtain ⟨id, row', hrow', hages, hconsumed⟩ := h.untouched hq
      by_cases hgiven : ∃ token, q.token = some token ∧ cfg.hashRefreshToken token = row.token
      · obtain ⟨token, htoken, hhash⟩ := hgiven
        obtain ⟨row'', hrow'', hages'⟩ := exec_ages hans.exec hrow'
        refine ⟨id, row'', hrow'', hages.trans hages', fun _ => Or.inr ⟨t, token, ?_, hhash⟩⟩
        exact called_snoc.2 (Or.inl (h.given hans.stage htoken))
      · obtain ⟨row'', hrow'', hages', hstays⟩ := stays_unless_consumed hrow' hans.exec
          (h.rotates.holds hans.stage) hans.permits fun token htoken hhash =>
            hgiven ⟨token, htoken, hhash.trans hages.token⟩
        refine ⟨id, row'', hrow'', hages.trans hages', fun hsome => ?_⟩
        rcases hstays with rfl | hrevoked
        · refine (hconsumed hsome).imp_right ?_
          rintro ⟨t₁, token, hcalled, hhash⟩
          exact ⟨t₁, token, called_snoc.2 (Or.inl hcalled), hhash⟩
        · exact Or.inl hrevoked

end Logins

theorem logins {db : Database} {p : Sessions} (hdb : Chained db)
    (h : Run (service cfg).Steps (idle db) tr p) :
    ∃ qs, Tracks (refreshProtocol cfg) (RefreshStage.ends cfg) p qs ∧
      Logins cfg tr p.shared qs := by
  refine System.invariant (J := Logins cfg) (C := fun _ _ => True) (program_refreshes cfg)
    (fun tr e t r qs he ht hshared _ hJ => hJ.call he ht hshared)
    (fun tr e qs t w q op a hans _ hJ => hJ.step hans) h .idle ?_ fun _ _ _ _ => trivial
  exact
    { rotates :=
        { chained := hdb
          holds := nofun
          apart := nofun
          presents := fun ⟨_, he, _⟩ => nomatch he }
      given := nofun
      opens := fun ⟨_, he, _⟩ => nomatch he
      untouched := nofun }

end

/-! ## A refresh that goes on -/

/-- The refresh is on its way to store the successor of the row, or has done so. -/
def RefreshStage.GoesOn (token : String) (userId id : Uuid) (db : Database) (row : RefreshToken) :
    RefreshStage → Prop
  | presented token' | known token' => token' = token ∧ row.consumedAt = none
  | verified token' userId' => token' = token ∧ userId' = userId ∧ row.consumedAt = none
  | held _ id' _ => id' = id ∧ row.consumedAt = none
  | consumed _ id' _ => id' = id ∧ ∀ id'' next, db.token id'' = some next →
      next.familyId = row.familyId → next.version ≠ row.version + 1
  | exchanged _ _ _ _ => True
  | other | opening | opened _ | reused _ | refused => False

/-- A row is stored only if no row has its hash. -/
def Query.storesNew (db : Database) : Query → Bool
  | .insertToken new => Storage.All db (sparesToken new.token)
  | _ => true

/-- The token verifies as one of the user's, and its row has not expired, at the time. -/
structure Unexpired (cfg : Config) (token : String) (userId : Uuid) (expiresAt : Option Time)
    (now : Time) : Prop where
  verifies : (verifyAt cfg .refresh token now).map (·.sub) = some userId
  unexpired : expiresAt.all (now ≤ ·)

/-- While session `t` refreshes the token with the row `id`: no other session is given the token,
    the user stays, and the refresh goes on unless the row is revoked. -/
structure Refreshes (cfg : Config) (t : ℕ) (token : String) (userId id : Uuid)
    (expiresAt : Option Time) (tr : List Ev) (db : Database) (qs : ℕ → Option RefreshStage) :
    Prop where
  rotates : Rotates cfg tr db qs
  user : db.user userId ≠ none
  alone : ∀ {t' q token'}, qs t' = some q → t' ≠ t → q.token = some token' →
    cfg.hashRefreshToken token' ≠ cfg.hashRefreshToken token
  goes : ∃ row, db.token id = some row ∧ row.token = cfg.hashRefreshToken token ∧
    row.expiresAt = expiresAt ∧
    (row.revoked ∨ ∃ q, qs t = some q ∧ q.GoesOn token userId id db row)

section
variable {cfg : Config} {w : World} {db db' : Database} {op : Query} {a : Answer op} {id : Uuid}
  {row row' : RefreshToken} {q q' : RefreshStage} {token : String} {userId : Uuid}

/-- A query of another session does not keep the refresh from going on. -/
theorem RefreshStage.GoesOn.other (h : q.GoesOn token userId id db row)
    (hrow : db.token id = some row) (hdb : Chained db) (hexec : exec cfg w db op = some (a, db'))
    (hq : q'.Holds cfg db) (hp : q'.permits cfg op)
    (hother : ∀ token, q'.token = some token → cfg.hashRefreshToken token ≠ row.token) :
    q.GoesOn token userId id db' row := by
  cases q with
  | presented | known | verified | held | exchanged => exact h
  | other | opening | opened | reused | refused => exact h.elim
  | consumed token' id' row₀ =>
    refine ⟨h.1, fun id'' next hnext hfamily hversion => ?_⟩
    rcases exec_token_cases hexec hnext with ⟨old, hold, hages⟩ | ⟨rfl, -⟩
    · exact h.2 id'' old hold (hages.familyId.symm.trans hfamily)
        (hages.version.symm.trans hversion)
    rcases hp.insertToken with hone | ⟨token₁, id₁, row₁, rfl, hnew⟩
    · have := hdb.first hrow
      omega
    · obtain ⟨⟨stored, hstored, hages⟩, -, htoken, -⟩ := hq
      have hclash : stored.Clashes row := by
        refine Or.inr ⟨?_, ?_⟩
        · rw [hages.familyId, ← hnew.familyId, hfamily]
        · have := hnew.version
          rw [hages.version]
          omega
      obtain rfl := hdb.unique hstored hrow hclash
      cases hstored.symm.trans hrow
      exact hother token₁ rfl (htoken.symm.trans hages.token.symm)

/-- The refresh goes on by its own queries. -/
theorem RefreshStage.GoesOn.own (h : q.GoesOn token userId id db row)
    (hrow : db.token id = some row) (hhash : row.token = cfg.hashRefreshToken token)
    (hunrevoked : row.revoked = false) (hdb : Chained db) (huser : db.user userId ≠ none)
    (hexec : exec cfg w db op = some (a, db')) (hq : q.Holds cfg db) (hp : q.permits cfg op)
    (htime : Unexpired cfg token userId row.expiresAt w.now) (hnew : op.storesNew db) :
    ∃ row', db'.token id = some row' ∧ row.Ages row' ∧
      (q.after op a).GoesOn token userId id db' row' := by
  cases q with
  | other | opening | opened | reused | refused => exact h.elim
  | exchanged => exact hp.elim
  | presented token' =>
    obtain rfl := hp
    obtain ⟨rfl, hnone⟩ := h
    cases hexec
    refine ⟨row, hrow, .refl row, ?_⟩
    have hsub := htime.verifies
    obtain ⟨claims, hclaims, rfl⟩ := Option.map_eq_some_iff.1 hsub
    rw [hclaims]
    exact ⟨rfl, rfl, hnone⟩
  | verified token' userId' =>
    obtain rfl := hp
    obtain ⟨rfl, rfl, hnone⟩ := h
    refine ⟨row, (exec_token hexec rfl id).trans hrow, .refl row, ?_⟩
    cases a with
    | none =>
      obtain ⟨user, huser⟩ := Option.ne_none_iff_exists'.1 huser
      exact absurd (decide_eq_true rfl) (findUser_none hexec huser).2
    | some found => exact ⟨rfl, hnone⟩
  | known token' =>
    obtain rfl := hp
    obtain ⟨rfl, hnone⟩ := h
    refine ⟨row, (exec_token hexec rfl id).trans hrow, .refl row, ?_⟩
    cases a with
    | none => exact absurd hhash (findToken_none hexec hrow).2
    | some found =>
      obtain ⟨-, hfound, htoken⟩ := findToken_some hexec
      have hid := hdb.unique hfound hrow (Or.inl (htoken.trans hhash.symm))
      rw [hid] at hfound
      obtain rfl := Option.some.inj (hfound.symm.trans hrow)
      simp only [RefreshStage.after]
      rw [if_pos ⟨hunrevoked, hnone⟩]
      exact ⟨hid, hnone⟩
  | held token' id' row₀ =>
    obtain ⟨rfl, hnone⟩ := h
    rcases hp with rfl | rfl
    · refine ⟨row, (exec_token hexec rfl id').trans hrow, .refl row, ?_⟩
      obtain ⟨⟨stored, hstored, hages⟩, -⟩ := hq
      obtain rfl := Option.some.inj (hstored.symm.trans hrow)
      cases hexec
      simp only [RefreshStage.after]
      rw [if_neg]
      · exact ⟨rfl, hnone⟩
      · intro hlate
        obtain ⟨time, htime', hlate⟩ := (Option.any_eq_true _ _).1 hlate
        have hintime := htime.unexpired
        rw [hages.expiresAt, htime', Option.all_some, decide_eq_true_eq] at hintime
        exact absurd (of_decide_eq_true hlate) (not_lt.2 hintime)
    · obtain ⟨row', hrow', hages⟩ := exec_ages hexec hrow
      refine ⟨row', hrow', hages, rfl, fun id'' next hnext hfamily hversion => ?_⟩
      rw [hages.familyId] at hfamily
      rw [hages.version] at hversion
      rcases exec_token_cases hexec hnext with ⟨old, hold, hages'⟩ | ⟨heq, -⟩
      · have hspent := hdb.spent hrow hold (hages'.familyId.symm.trans hfamily)
          (hages'.version.symm.trans hversion)
        rw [hnone] at hspent
        cases hspent
      · cases heq
  | consumed token' id' row₀ =>
    obtain ⟨rfl, hlast⟩ := h
    rcases hp with hop | ⟨new, rfl, hsucceeds⟩
    · refine ⟨row, (exec_token hexec hop id').trans hrow, .refl row, ?_⟩
      rw [consumed_after hop a]
      refine ⟨rfl, fun id'' next hnext => hlast id'' next ?_⟩
      rwa [exec_token hexec hop] at hnext
    · obtain ⟨row', hrow', hages'⟩ := exec_ages hexec hrow
      refine ⟨row', hrow', hages', ?_⟩
      rcases insertToken_cases hexec with ⟨-, -, id₁, row₁, hrow₁, hclash⟩ | ⟨rfl, -⟩
      · exfalso
        rcases hclash with htoken | ⟨hfamily, hversion⟩
        · have hspares := Storage.all_iff.1 (of_decide_eq_true hnew) (.token id₁) row₁ hrow₁
          exact of_decide_eq_true hspares htoken
        · obtain ⟨⟨stored, hstored, hages⟩, -⟩ := hq
          obtain rfl := Option.some.inj (hstored.symm.trans hrow)
          refine hlast id₁ row₁ hrow₁ ?_ ?_
          · rw [hfamily, hsucceeds.familyId, hages.familyId]
          · rw [hversion, hsucceeds.version, hages.version]
      · trivial

end

section
variable {cfg : Config} {tr : List Ev} {e : Ev} {qs : ℕ → Option RefreshStage} {t t' : ℕ} {w : World}
  {q : RefreshStage} {op : Query} {a : Answer op} {token : String} {userId id : Uuid}
  {expiresAt : Option Time}

/-- No other session is given the token; and session `t` takes its turns before the token expires,
    and stores a row only if no row has its hash. -/
structure Undisturbed (cfg : Config) (t : ℕ) (token : String) (userId : Uuid)
    (expiresAt : Option Time) (e : Ev) : Prop where
  once : ∀ t' token', e.inp = .call t' (.refreshToken token') → t' ≠ t →
    cfg.hashRefreshToken token' ≠ cfg.hashRefreshToken token
  unexpired : ∀ w, e.inp = .step t w → Unexpired cfg token userId expiresAt w.now
  storesNew : OnQuery (fun t' _ op => t' = t → op.storesNew e.pre.shared) e

namespace Refreshes

theorem call {request : Request} (h : Refreshes cfg t token userId id expiresAt tr e.pre.shared qs)
    (he : e.inp = .call t' request) (ht : qs t' = none) (hshared : e.post.shared = e.pre.shared)
    (hC : Undisturbed cfg t token userId expiresAt e) :
    Refreshes cfg t token userId id expiresAt (tr ++ [e]) e.post.shared
      (Function.update qs t' (some (RefreshStage.start request))) where
  rotates := h.rotates.call he ht hshared
  user := hshared.symm ▸ h.user
  alone {t₁ q token'} hq ht₁ htoken := by
    rcases update_stage hq with ⟨rfl, rfl⟩ | ⟨-, hq⟩
    · exact hC.once t₁ token' (start_token htoken ▸ he) ht₁
    · exact h.alone hq ht₁ htoken
  goes := by
    rw [hshared]
    obtain ⟨row, hrow, hhash, hexpiry, hgoes⟩ := h.goes
    refine ⟨row, hrow, hhash, hexpiry, hgoes.imp_right ?_⟩
    rintro ⟨q, hq, hgoes⟩
    have ht' : t ≠ t' := by
      rintro rfl
      cases ht.symm.trans hq
    exact ⟨q, (Function.update_of_ne ht' _ _).trans hq, hgoes⟩

theorem step (h : Refreshes cfg t token userId id expiresAt tr e.pre.shared qs)
    (hans : (service cfg).Answered (refreshProtocol cfg) (RefreshStage.ends cfg) e qs t' w q op a)
    (hC : Undisturbed cfg t token userId expiresAt e) :
    Refreshes cfg t token userId id expiresAt (tr ++ [e]) e.post.shared
      (Function.update qs t' (some (q.after op a))) where
  rotates := h.rotates.step hans
  user := exec_user_stays hans.exec h.user
  alone {t₁ q' token'} hq ht₁ htoken := by
    rcases update_stage hq with ⟨rfl, rfl⟩ | ⟨-, hq⟩
    · rcases after_token (a := a) hans.permits with hsame | hnone
      · exact h.alone hans.stage ht₁ (hsame.symm.trans htoken)
      · cases hnone.symm.trans htoken
    · exact h.alone hq ht₁ htoken
  goes := by
    obtain ⟨row, hrow, hhash, hexpiry, hgoes⟩ := h.goes
    by_cases hrevoked : row.revoked
    · obtain ⟨row', hrow', hages⟩ := exec_ages hans.exec hrow
      exact ⟨row', hrow', hages.token.trans hhash, hages.expiresAt.trans hexpiry,
        Or.inl (hages.revoked hrevoked)⟩
    obtain ⟨q', hq', hgoes⟩ := hgoes.resolve_left hrevoked
    by_cases ht' : t' = t
    · subst ht'
      cases hans.stage.symm.trans hq'
      obtain ⟨row', hrow', hages, hgoes⟩ := hgoes.own hrow hhash
        (Bool.eq_false_of_not_eq_true hrevoked) h.rotates.chained h.user hans.exec
        (h.rotates.holds hans.stage) hans.permits (hexpiry ▸ hC.unexpired w hans.inp)
        (hC.storesNew t' w op hans.inp hans.asks rfl)
      exact ⟨row', hrow', hages.token.trans hhash, hages.expiresAt.trans hexpiry,
        Or.inr ⟨_, Function.update_self .., hgoes⟩⟩
    · have hother : ∀ token', q.token = some token' → cfg.hashRefreshToken token' ≠ row.token :=
        fun token' htoken => hhash.symm ▸ h.alone hans.stage ht' htoken
      obtain ⟨row', hrow', hages, hstays⟩ := stays_unless_consumed hrow hans.exec
        (h.rotates.holds hans.stage) hans.permits hother
      refine ⟨row', hrow', hages.token.trans hhash, hages.expiresAt.trans hexpiry, ?_⟩
      rcases hstays with rfl | hrevoked
      · refine Or.inr ⟨q', (Function.update_of_ne (Ne.symm ht') _ _).trans hq', ?_⟩
        exact hgoes.other hrow h.rotates.chained hans.exec (h.rotates.holds hans.stage)
          hans.permits hother
      · exact Or.inl hrevoked

end Refreshes

/-- The event starts session `t` with the token, and the user of the token is there.  No other
    session is given the token; session `t` takes its turns while the token verifies and has not
    expired; and the family is not revoked. -/
structure PresentedOnce (cfg : Config) (tr₁ : List Ev) (e : Ev) (tr₂ : List Ev) (p : Sessions)
    (t : ℕ) (token : String) (userId : Uuid) : Prop where
  call : e.inp = .call t (.refreshToken token)
  once : ∀ t' token', Called (tr₁ ++ e :: tr₂) t' (.refreshToken token') →
    cfg.hashRefreshToken token' = cfg.hashRefreshToken token → t' = t
  user : e.pre.shared.user userId ≠ none
  verifies : ∀ e' ∈ tr₂, ∀ w, e'.inp = .step t w →
    (verifyAt cfg .refresh token w.now).map (·.sub) = some userId
  unexpired : ∀ id row, p.shared.token id = some row → row.token = cfg.hashRefreshToken token →
    ∀ e' ∈ tr₂, ∀ w, e'.inp = .step t w → row.expiresAt.all (w.now ≤ ·)
  unrevoked : ∀ id row, p.shared.token id = some row → row.token = cfg.hashRefreshToken token →
    row.revoked = false

/-- Rows of refresh tokens stay in a run. -/
theorem run_has {p p' : Sessions} {row : RefreshToken} (h : Run (service cfg).Steps p tr p')
    (hrow : p.shared.Has id row) : p'.shared.Has id row := by
  refine h.invariant' (P := fun p => p.shared.Has id row) (fun p i p' hhas hstep => ?_) hrow
  rcases hstep.cases with ⟨_, _, -, -, hshared, -⟩ | ⟨_, w, op, _, a, -, -, hexec, -⟩
  · rwa [hshared]
  · exact hhas.exec hexec

/-- A session that has not ended can go on. -/
theorem ended_or_steps (cfg : Config) {p : Sessions} (h : p.procs t ≠ none) :
    (∃ r, p.Ended t r) ∨ ∃ w p', (service cfg).Steps p (.step t w) p' := by
  obtain ⟨x, hx⟩ := Option.ne_none_iff_exists'.1 h
  cases x with
  | done r => exact Or.inl ⟨r, hx⟩
  | ask op next =>
    obtain ⟨w, a, db', -, hexec⟩ := exec_total cfg 0 p.shared op
    refine Or.inr ⟨w, { shared := db', procs := Function.update p.procs t (some (next a)) }, ?_⟩
    rw [System.Steps, System.next, hx]
    exact Option.map_eq_some_iff.2 ⟨(a, db'), hexec, rfl⟩

/-- A login that has ended with a refresh token has stored its row. -/
theorem Logins.opened {p : Sessions} {request : Request} {response : Response}
    (h : Logins cfg tr p.shared qs)
    (htracks : Tracks (refreshProtocol cfg) (RefreshStage.ends cfg) p qs)
    (hcalled : Called tr t request) (hopens : request.opensSession)
    (hended : p.Ended t (.ok response)) (htoken : response.refreshToken = some token) :
    ∃ row, qs t = some (.opened row) ∧ row.token = cfg.hashRefreshToken token := by
  obtain ⟨q, hq, hends⟩ := htracks.ended hended
  obtain ⟨q', hq', hopening⟩ := h.opens hcalled hopens
  obtain rfl := Option.some.inj (hq.symm.trans hq')
  cases q with
  | opened row => exact ⟨row, hq, hends response token rfl htoken⟩
  | opening => cases (hends response rfl).symm.trans htoken
  | refused =>
    obtain ⟨e, he⟩ := hends
    cases he
  | _ => exact hopening.elim

/-- The refresh starts to go on. -/
theorem Logins.refreshes {tr₁ tr₂ : List Ev} {p : Sessions} {stored row : RefreshToken}
    (h : Logins cfg tr₁ e.pre.shared qs) (honce : PresentedOnce cfg tr₁ e tr₂ p t token userId)
    (hnone : qs t = none) (hshared : e.post.shared = e.pre.shared)
    (hhash : row.token = cfg.hashRefreshToken token) (hages : row.Ages stored)
    (hstored : e.pre.shared.token id = some stored)
    (huntouched : stored.consumedAt.isSome → stored.revoked ∨ ∃ t' token',
      Called tr₁ t' (.refreshToken token') ∧ cfg.hashRefreshToken token' = row.token) :
    Refreshes cfg t token userId id stored.expiresAt [] e.post.shared
      (Function.update qs t (some (RefreshStage.start (.refreshToken token)))) := by
  have hearlier {t' : ℕ} {token' : String} (hcalled : Called tr₁ t' (.refreshToken token'))
      (hsame : cfg.hashRefreshToken token' = cfg.hashRefreshToken token) : t' = t := by
    obtain ⟨e', he', hinp⟩ := hcalled
    exact honce.once t' token' ⟨e', List.mem_append_left _ he', hinp⟩ hsame
  refine
    { rotates :=
        { h.rotates.call honce.call hnone hshared with presents := fun ⟨_, he, _⟩ => nomatch he }
      user := hshared.symm ▸ honce.user
      alone := fun hq ht' htoken' hsame => ?_
      goes := ?_ }
  · rcases update_stage hq with ⟨ht, -⟩ | ⟨-, hq⟩
    · exact ht' ht
    · exact ht' (hearlier (h.given hq htoken') hsame)
  · rw [hshared]
    refine ⟨stored, hstored, hages.token.trans hhash, rfl, ?_⟩
    by_cases hconsumed : stored.consumedAt.isSome
    · refine (huntouched hconsumed).imp_right ?_
      rintro ⟨t', token', hcalled, hsame⟩
      obtain rfl := hearlier hcalled (hsame.trans hhash)
      obtain ⟨q, hq, -⟩ := h.rotates.presents hcalled
      cases hnone.symm.trans hq
    · exact Or.inr ⟨_, Function.update_self .., rfl, Option.not_isSome_iff_eq_none.1 hconsumed⟩

/-- **The refresh token of a login that stores it can be refreshed.**  When the token is presented,
    once and while it is valid, and no row has the hash of the token that is signed then, the
    refresh succeeds as soon as it ends. -/
theorem login_sessions_refresh {db : Database} {p : Sessions} {tr₁ tr₂ : List Ev} {t₀ : ℕ}
    {request : Request} {response : Response} (hdb : Reachable cfg db)
    (h : Run (service cfg).Steps (idle db) (tr₁ ++ e :: tr₂) p) (hcalled : Called tr₁ t₀ request)
    (hended : e.pre.Ended t₀ (.ok response)) (htoken : response.refreshToken = some token)
    (honce : PresentedOnce cfg tr₁ e tr₂ p t token userId) (hopens : request.opensSession)
    (hnew : ∀ e' ∈ tr₂, OnQuery (fun t' _ op => t' = t → op.storesNew e'.pre.shared) e') :
    (∃ tokens, p.Ended t (.ok (.refreshed tokens))) ∨
      ∃ w p', (service cfg).Steps p (.step t w) p' := by
  obtain ⟨h₁, hstep, h₂⟩ := h.split
  obtain ⟨qs₁, htracks₁, hJ₁⟩ := logins hdb.chained h₁
  obtain ⟨row, hq₀, hhash⟩ := hJ₁.opened htracks₁ hcalled hopens hended htoken
  obtain ⟨id, stored, hstored, hages, huntouched⟩ := hJ₁.untouched hq₀
  rcases hstep.cases with ⟨t', request', hinp, hnone, hshared, hprocs⟩ |
    ⟨_, _, _, _, _, hinp, -⟩
  swap
  · cases honce.call.symm.trans hinp
  cases honce.call.symm.trans hinp
  have hJ := hJ₁.refreshes honce (htracks₁.none_iff.1 hnone) hshared hhash hages hstored huntouched
  -- the row, at the end
  have hhas : p.shared.Has id stored := by
    refine run_has h₂ ?_
    rw [hshared]
    exact .of_token hstored
  obtain ⟨last, hlast, hages'⟩ := hhas
  have hhash' : last.token = cfg.hashRefreshToken token :=
    hages'.token.trans (hages.token.trans hhash)
  have hC : ∀ e' ∈ tr₂, Undisturbed cfg t token userId stored.expiresAt e' := fun e' he' =>
    { once := fun t' token' hinp ht' hsame => ht' (honce.once t' token'
        ⟨e', List.mem_append_right _ (.tail _ he'), hinp⟩ hsame)
      unexpired := fun w hinp => ⟨honce.verifies e' he' w hinp,
        hages'.expiresAt ▸ honce.unexpired id last hlast hhash' e' he' w hinp⟩
      storesNew := hnew e' he' }
  obtain ⟨qs, htracks, hJ⟩ := System.invariant (C := fun _ => Undisturbed cfg t token userId _)
    (program_refreshes cfg)
    (fun tr e t r qs he ht hshared hC hJ => Refreshes.call hJ he ht hshared hC)
    (fun tr e qs t w q op a hans hC hJ => Refreshes.step hJ hans hC) h₂
    (htracks₁.update hprocs (program_refreshes cfg _)) hJ (along_iff_forall.2 hC)
  obtain ⟨row', hrow', -, -, hgoes⟩ := hJ.goes
  obtain rfl := Option.some.inj (hrow'.symm.trans hlast)
  obtain ⟨q, hq, hgoes⟩ := hgoes.resolve_left fun hrevoked =>
    Bool.noConfusion ((honce.unrevoked id row' hrow' hhash').symm.trans hrevoked)
  have hprocs : p.procs t ≠ none := fun hp => nomatch (htracks.none_iff.1 hp).symm.trans hq
  rcases ended_or_steps cfg hprocs with ⟨r, hr⟩ | hsteps
  · obtain ⟨q', hq', hends⟩ := htracks.ended hr
    obtain rfl := Option.some.inj (hq.symm.trans hq')
    cases q with
    | exchanged =>
      obtain ⟨tokens, rfl, -⟩ := hends
      exact Or.inl ⟨tokens, hr⟩
    | other | opening | opened | reused | refused => exact hgoes.elim
    | presented | verified | known | held | consumed => exact hends.elim
  · exact Or.inr hsteps

end

/-! ### Examples -/

/-- A client gets the token of time 0, and presents it within two seconds. -/
theorem presentedOnce_first {tr₁ tr₂ : List Ev} {is₁ is₂ : List (Turn Request World)}
    {p₁ p₂ p : Sessions} (h₁ : tr₁.map Event.inp = is₁) (h₂ : tr₂.map Event.inp = is₂)
    (honce : ∀ t token, .call t (.refreshToken token) ∉ is₁ ++ is₂)
    (hnow : ∀ w, .step 1 w ∈ is₂ → w.now = 0 ∨ w.now = 1000)
    (huser : (p₁.shared.user "u").isSome)
    (hall : Storage.All p.shared fun row v => match row, v with
      | .token _, v => v.token = "first" → v.expiresAt = none ∧ v.revoked = false
      | _, _ => true) :
    PresentedOnce plainConfig tr₁ ⟨p₁, .call 1 (.refreshToken "first"), p₂⟩ tr₂ p 1 "first" "u" where
  call := rfl
  once t' token' hcalled _ := by
    obtain ⟨e, he, hinp⟩ := hcalled
    rcases List.mem_append.1 he with he | he
    · have hmem := hinp ▸ h₁ ▸ List.mem_map_of_mem he
      exact absurd (List.mem_append_left _ hmem) (honce t' token')
    · rcases List.mem_cons.1 he with rfl | he
      · cases hinp
        rfl
      · have hmem := hinp ▸ h₂ ▸ List.mem_map_of_mem he
        exact absurd (List.mem_append_right _ hmem) (honce t' token')
  user := Option.isSome_iff_ne_none.1 huser
  verifies e he w hinp := by
    rcases hnow w (hinp ▸ h₂ ▸ List.mem_map_of_mem he) with hnow | hnow <;> rw [hnow] <;> decide
  unexpired id row hrow htoken _ _ _ _ := by
    rw [(of_decide_eq_true (Storage.all_iff.1 hall (.token id) row hrow) htoken).1]
    rfl
  unrevoked id row hrow htoken :=
    (of_decide_eq_true (Storage.all_iff.1 hall (.token id) row hrow) htoken).2

/-- A user refreshes a second after the login. -/
theorem login_sessions_refresh_later : ∃ tr₁ e tr₂ p tokens,
    Run (service plainConfig).Steps (idle registered) (tr₁ ++ e :: tr₂) p ∧
      e.inp = .call 1 (.refreshToken "first") ∧ p.Ended 1 (.ok (.refreshed tokens)) := by
  have hplay : ((service plainConfig).play (idle registered)
      [.call 0 (.login ⟨"e", "p"⟩), .step 0 { row := some "u" }, .step 0 {}, .step 0 {},
        .step 0 { text := "f" }, .step 0 { id := "k" }]).any fun x =>
      ((x.2.returned 0).any (·.refreshToken = some "first")) ∧
      (x.2.shared.user "u").isSome ∧
      ((service plainConfig).next x.2 (.call 1 (.refreshToken "first"))).any fun p₂ =>
        ((service plainConfig).play p₂ [.step 1 {}, .step 1 { row := some "u" },
          .step 1 { row := some "k" }, .step 1 {}, .step 1 {}, .step 1 { now := 1000 },
          .step 1 { id := "l" }]).any fun y =>
          (y.2.asked 1).isNone ∧
          (∀ e ∈ y.1, OnQuery (fun t _ op => t = 1 → op.storesNew e.pre.shared) e) ∧
          Storage.All y.2.shared fun row v => match row, v with
            | .token _, v => v.token = "first" → v.expiresAt = none ∧ v.revoked = false
            | _, _ => true := by decide
  obtain ⟨⟨tr₁, p₁⟩, hplay₁, hfacts⟩ := (Option.any_eq_true _ _).1 hplay
  obtain ⟨hreturned, huser, hfacts⟩ := of_decide_eq_true hfacts
  obtain ⟨p₂, hnext, hfacts⟩ := (Option.any_eq_true _ _).1 hfacts
  obtain ⟨⟨tr₂, p⟩, hplay₂, hfacts⟩ := (Option.any_eq_true _ _).1 hfacts
  obtain ⟨hended, hnew, hall⟩ := of_decide_eq_true hfacts
  obtain ⟨response, hresponse, htoken⟩ := (Option.any_eq_true _ _).1 hreturned
  have hrun := (System.run_play hplay₁).append (Run.cons hnext (System.run_play hplay₂))
  have honce : PresentedOnce plainConfig tr₁ ⟨p₁, _, p₂⟩ tr₂ p 1 "first" "u" :=
    presentedOnce_first (System.map_inp_play hplay₁) (System.map_inp_play hplay₂) (by simp) (by simp)
      huser hall
  rcases login_sessions_refresh reachable_registered hrun ((System.called_play hplay₁).2 (.head _))
    (Pool.returned_eq_some.1 hresponse) (of_decide_eq_true htoken) honce rfl hnew with
    ⟨tokens, htokens⟩ | ⟨w, p', hsteps⟩
  · exact ⟨tr₁, _, tr₂, p, tokens, hrun, rfl, htokens⟩
  · exact absurd hsteps.asked (Option.not_isSome_iff_eq_none.2 (Option.isNone_iff_eq_none.1 hended))

/-- A database for examples: the user has enrolled for two-factor authentication. -/
def enrolled : Database :=
  let user : User :=
    { email := "e", firstname := "Ada", lastname := "L", password := "p", isVerified := true
      twoFactorEnabled := true, totpSecret := some "s" }
  Finmap.insert (.user "u") user ∅

/-- The refresh token of a login by TOTP is not stored. -/
theorem totp_session_refused : ¬ ∀ tr₁ e tr₂ p t₀ t request response token userId,
    Run (service plainConfig).Steps (idle enrolled) (tr₁ ++ e :: tr₂) p →
    Called tr₁ t₀ request → e.pre.Ended t₀ (.ok response) → response.refreshToken = some token →
    PresentedOnce plainConfig tr₁ e tr₂ p t token userId →
    (∃ tokens, p.Ended t (.ok (.refreshed tokens))) ∨
      ∃ w p', (service plainConfig).Steps p (.step t w) p' := by
  intro hclaim
  have hplay : ((service plainConfig).play (idle enrolled)
      [.call 2 (.login ⟨"e", "p"⟩), .step 2 { row := some "u" }, .step 2 {},
        .call 0 (.verifyTotpLogin ⟨"s", "temp"⟩), .step 0 {}, .step 0 { row := some "u" }, .step 0 {},
        .step 0 {}, .step 0 {}]).any fun x =>
      ((x.2.returned 0).any (·.refreshToken = some "first")) ∧
      (x.2.shared.user "u").isSome ∧
      ((service plainConfig).next x.2 (.call 1 (.refreshToken "first"))).any fun p₂ =>
        ((service plainConfig).play p₂ [.step 1 { now := 1000 }, .step 1 { row := some "u" },
          .step 1 {}]).any fun y =>
          (y.2.asked 1).isNone ∧ (y.2.returned 1).isNone ∧
          Storage.All y.2.shared fun row v => match row, v with
            | .token _, v => v.token = "first" → v.expiresAt = none ∧ v.revoked = false
            | _, _ => true := by decide
  obtain ⟨⟨tr₁, p₁⟩, hplay₁, hfacts⟩ := (Option.any_eq_true _ _).1 hplay
  obtain ⟨hreturned, huser, hfacts⟩ := of_decide_eq_true hfacts
  obtain ⟨p₂, hnext, hfacts⟩ := (Option.any_eq_true _ _).1 hfacts
  obtain ⟨⟨tr₂, p⟩, hplay₂, hfacts⟩ := (Option.any_eq_true _ _).1 hfacts
  obtain ⟨hasked, hended, hall⟩ := of_decide_eq_true hfacts
  obtain ⟨response, hresponse, htoken⟩ := (Option.any_eq_true _ _).1 hreturned
  have hrun := (System.run_play hplay₁).append (Run.cons hnext (System.run_play hplay₂))
  have honce : PresentedOnce plainConfig tr₁ ⟨p₁, _, p₂⟩ tr₂ p 1 "first" "u" :=
    presentedOnce_first (System.map_inp_play hplay₁) (System.map_inp_play hplay₂) (by simp) (by simp)
      huser hall
  have hcalled : Called tr₁ 0 (.verifyTotpLogin ⟨"s", "temp"⟩) :=
    (System.called_play hplay₁).2 (by simp)
  rcases hclaim tr₁ _ tr₂ p 0 1 _ response "first" "u" hrun hcalled
    (Pool.returned_eq_some.1 hresponse) (of_decide_eq_true htoken) honce with
    ⟨tokens, htokens⟩ | ⟨w, p', hsteps⟩
  · rw [Pool.returned_eq_some.2 htokens] at hended
    cases hended
  · exact absurd hsteps.asked (Option.not_isSome_iff_eq_none.2 (Option.isNone_iff_eq_none.1 hasked))

end Auth
