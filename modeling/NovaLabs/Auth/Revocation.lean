/-
  Revocation of a family of refresh tokens.

  The statement that revokes a family revokes the rows that are there.  A refresh that has consumed
  its token before may store a successor afterwards: this row is live.
-/
import NovaLabs.Auth.Rotation

namespace Auth

open Lib
open Backend (Uuid Time)

/-- A row is stored only if the row before it in the family has not been revoked. -/
def Query.succeedsUnrevoked (db : Database) : Query → Bool
  | .insertToken new => Storage.All db fun row v => match row, v with
    | .token _, v => ¬ (v.familyId = new.familyId ∧ v.version + 1 = new.version ∧ v.revoked)
    | _, _ => true
  | _ => true

abbrev SucceedsUnrevoked (e : Ev) : Prop :=
  OnQuery (fun _ _ op => op.succeedsUnrevoked e.pre.shared) e

theorem Query.succeedsUnrevoked_iff {db : Database} {new : RefreshToken} :
    (Query.insertToken new).succeedsUnrevoked db ↔ ∀ id row, db.token id = some row →
      row.familyId = new.familyId → row.version + 1 = new.version → row.revoked = false := by
  rw [succeedsUnrevoked, decide_eq_true_iff, Storage.all_iff]
  constructor
  · intro h id row hrow hfamily hversion
    have hnot := of_decide_eq_true (h (.token id) row hrow)
    exact Bool.eq_false_of_not_eq_true fun hrevoked => hnot ⟨hfamily, hversion, hrevoked⟩
  · intro h k v hv
    cases k with
    | token id =>
      refine decide_eq_true fun ⟨hfamily, hversion, hrevoked⟩ => ?_
      exact Bool.noConfusion ((h id v hv hfamily hversion).symm.trans hrevoked)
    | user | challenge => rfl

/-- The family has rows, and all of them are revoked. -/
structure Revoked (familyId : String) (db : Database) : Prop where
  some_row : ∃ id row, db.token id = some row ∧ row.familyId = familyId
  all_rows : ∀ {id row}, db.token id = some row → row.familyId = familyId → row.revoked

/-- The refresh does not go on with a token of the family. -/
def RefreshStage.Spares (familyId : String) : RefreshStage → Prop
  | held _ _ row | consumed _ _ row | exchanged _ _ row _ => row.familyId ≠ familyId
  | _ => True

section
variable {cfg : Config} {db db' : Database} {w : World} {op : Query} {a : Answer op}
  {q : RefreshStage} {familyId : String}

/-- The statement that revokes a family revokes all its rows. -/
theorem revoked_of_revokeFamily {row : RefreshToken} {id : Uuid} (hrow : db.Has id row)
    (hexec : exec cfg w db (.revokeFamily row.familyId) = some ((), db')) :
    Revoked row.familyId db' where
  some_row := by
    obtain ⟨row', hrow', hages⟩ := hrow.exec hexec
    exact ⟨id, row', hrow', hages.familyId⟩
  all_rows {id' row'} hrow' hfamily := by
    rw [revokeFamily_row hexec id'] at hrow'
    obtain ⟨old, -, rfl⟩ := Option.map_eq_some_iff.1 hrow'
    split_ifs at hfamily ⊢ with hold
    · rfl
    · exact Bool.eq_true_of_not_eq_false fun hrevoked => hold ⟨hfamily, hrevoked⟩

/-- A revoked family stays revoked, unless a successor of a revoked row is stored. -/
theorem Revoked.step (h : Revoked familyId db) (hdb : Chained db)
    (hexec : exec cfg w db op = some (a, db')) (hq : q.Holds cfg db) (hp : q.permits cfg op)
    (hop : op.succeedsUnrevoked db) : Revoked familyId db' where
  some_row := by
    obtain ⟨id, row, hrow, hfamily⟩ := h.some_row
    obtain ⟨row', hrow', hages⟩ := exec_ages hexec hrow
    exact ⟨id, row', hrow', hages.familyId.trans hfamily⟩
  all_rows {id new} hnew hfamily := by
    rcases exec_token_cases hexec hnew with ⟨row, hrow, hages⟩ | ⟨rfl, -, -, hfree⟩
    · exact hages.revoked (h.all_rows hrow (hages.familyId.symm.trans hfamily))
    exfalso
    rcases Chained.new_cases hq hp with hone | ⟨id', row, hrow, -, hfamily', hversion⟩
    · -- the family has a first row already
      obtain ⟨id', row, hrow, hfamily'⟩ := h.some_row
      obtain ⟨id₁, row₁, hrow₁, hfamily₁, hversion₁⟩ := hdb.below hrow (hdb.first hrow)
      exact hfree id₁ row₁ hrow₁
        (Or.inr ⟨(hfamily₁.trans hfamily').trans hfamily.symm, hversion₁.trans hone.symm⟩)
    · have hrevoked := h.all_rows hrow (hfamily'.symm.trans hfamily)
      have hunrevoked := Query.succeedsUnrevoked_iff.1 hop id' row hrow hfamily'.symm hversion.symm
      exact Bool.noConfusion (hunrevoked.symm.trans hrevoked)

theorem RefreshStage.Spares.after (h : q.Spares familyId) (hrevoked : Revoked familyId db)
    (hp : q.permits cfg op) (hexec : exec cfg w db op = some (a, db')) :
    (q.after op a).Spares familyId := by
  cases q with
  | other | reused => exact h
  | opened | exchanged | refused => exact hp.elim
  | opening =>
    rcases hp with hp | ⟨row, rfl, -⟩
    · rw [opening_after hp a]
      trivial
    · cases a <;> trivial
  | presented | verified =>
    obtain rfl := hp
    cases a <;> trivial
  | known token =>
    obtain rfl := hp
    cases a with
    | none => trivial
    | some found =>
      obtain ⟨-, hrow, -⟩ := findToken_some hexec
      simp only [RefreshStage.after]
      split_ifs with hlive
      · intro hfamily
        exact Bool.noConfusion (hlive.1.symm.trans (hrevoked.all_rows hrow hfamily))
      · trivial
  | held token id row =>
    rcases hp with rfl | rfl
    · simp only [RefreshStage.after]
      split_ifs
      · trivial
      · exact h
    · exact h
  | consumed token id row =>
    rcases hp with hp | ⟨new, rfl, -⟩
    · rw [consumed_after hp a]
      exact h
    · cases a with
      | none => trivial
      | some id' => exact h

end

/-- After the revocation: the family stays revoked, and no refresh that starts goes on with a token
    of it. -/
structure RevocationHolds (cfg : Config) (familyId : String) (tr : List Ev) (db : Database)
    (qs : ℕ → Option RefreshStage) : Prop where
  rotates : Rotates cfg tr db qs
  revoked : Revoked familyId db
  spares : ∀ {t token q}, Called tr t (.refreshToken token) → qs t = some q → q.Spares familyId

section
variable {cfg : Config} {tr : List Ev} {e : Ev} {qs : ℕ → Option RefreshStage} {t : ℕ} {w : World}
  {q : RefreshStage} {op : Query} {a : Answer op} {familyId : String}

namespace RevocationHolds

theorem call {request : Request} (h : RevocationHolds cfg familyId tr e.pre.shared qs)
    (he : e.inp = .call t request) (ht : qs t = none) (hshared : e.post.shared = e.pre.shared) :
    RevocationHolds cfg familyId (tr ++ [e]) e.post.shared
      (Function.update qs t (some (RefreshStage.start request))) where
  rotates := h.rotates.call he ht hshared
  revoked := hshared.symm ▸ h.revoked
  spares {t' token q} hcalled hq := by
    rcases update_stage hq with ⟨-, rfl⟩ | ⟨ht', hq⟩
    · cases request <;> trivial
    · rcases called_snoc.1 hcalled with hcalled | hinp
      · exact h.spares hcalled hq
      · cases he.symm.trans hinp
        exact absurd rfl ht'

theorem step (h : RevocationHolds cfg familyId tr e.pre.shared qs)
    (hans : (service cfg).Answered (refreshProtocol cfg) (RefreshStage.ends cfg) e qs t w q op a)
    (hC : SucceedsUnrevoked e) :
    RevocationHolds cfg familyId (tr ++ [e]) e.post.shared
      (Function.update qs t (some (q.after op a))) where
  rotates := h.rotates.step hans
  revoked := h.revoked.step h.rotates.chained hans.exec (h.rotates.holds hans.stage) hans.permits
    (hC t w op hans.inp hans.asks)
  spares {t' token q'} hcalled hq := by
    have hcalled : Called tr t' (.refreshToken token) :=
      (called_snoc.1 hcalled).resolve_right fun hinp => nomatch hans.inp.symm.trans hinp
    rcases update_stage hq with ⟨rfl, rfl⟩ | ⟨-, hq⟩
    · exact (h.spares hcalled hans.stage).after h.revoked hans.permits hans.exec
    · exact h.spares hcalled hq

end RevocationHolds

/-- **Where no successor of a revoked row is stored, no refresh that starts after the revocation of
    a family succeeds with a token of the family.** -/
theorem family_revocation {db : Database} {p₁ p₂ p : Sessions} {tr₁ tr₂ : List Ev} {t₀ : ℕ}
    {token : String} (hdb : Reachable cfg db) (h₁ : Run (service cfg).Steps (idle db) tr₁ p₁)
    (hasks : p₁.Asks t₀ (.revokeFamily familyId))
    (hrevoke : (service cfg).Steps p₁ (.step t₀ w) p₂) (h₂ : Run (service cfg).Steps p₂ tr₂ p)
    (hC : ∀ e ∈ tr₂, SucceedsUnrevoked e) (hcalled : Called tr₂ t (.refreshToken token))
    (htoken : ∃ id row, p.shared.token id = some row ∧ row.token = cfg.hashRefreshToken token ∧
      row.familyId = familyId) (response : Response) : ¬ p.Ended t (.ok response) := by
  intro hended
  obtain ⟨qs₁, htracks₁, hJ₁⟩ := rotates hdb.chained h₁
  obtain ⟨q, hq, hp⟩ := htracks₁.asks hasks
  obtain ⟨qs₂, htracks₂, hJ₂⟩ := rotates hdb.chained (h₁.snoc hrevoke)
  have hrevoked : Revoked familyId p₂.shared := by
    obtain ⟨row, rfl, rfl⟩ := RefreshStage.permits.revokeFamily hp
    obtain ⟨-, id, hhas⟩ := hJ₁.holds hq
    obtain ⟨next, hprocs⟩ := hasks
    rcases hrevoke.cases with ⟨_, _, hinp, -⟩ | ⟨_, _, op, next', a, hinp, hprocs', hexec, -⟩
    · cases hinp
    · cases hinp
      cases hprocs.symm.trans hprocs'
      have hexec : exec cfg w p₁.shared (.revokeFamily row.familyId) = some ((), p₂.shared) := hexec
      exact revoked_of_revokeFamily hhas hexec
  obtain ⟨qs, htracks, hJ⟩ := System.invariant (J := RevocationHolds cfg familyId)
    (C := fun _ e => SucceedsUnrevoked e) (program_refreshes cfg)
    (fun tr e t r qs he ht hshared _ hJ => hJ.call he ht hshared)
    (fun tr e qs t w q op a hans hC hJ => hJ.step hans hC) h₂ htracks₂
    { rotates := { hJ₂ with presents := fun ⟨_, he, _⟩ => nomatch he }
      revoked := hrevoked
      spares := fun ⟨_, he, _⟩ => nomatch he } (along_iff_forall.2 hC)
  obtain ⟨id, row, new, hq', ⟨stored, hstored, hages⟩, -, hhash, -⟩ :=
    hJ.rotates.exchanged htracks hcalled hended
  obtain ⟨id', row', hrow', htoken', hfamily⟩ := htoken
  have hclash : stored.Clashes row' := Or.inl ((hages.token.trans hhash).trans htoken'.symm)
  obtain rfl := hJ.rotates.chained.unique hstored hrow' hclash
  obtain rfl := Option.some.inj (hstored.symm.trans hrow')
  have hspares : row.familyId ≠ familyId := hJ.spares hcalled hq'
  exact hspares (hages.familyId.symm.trans hfamily)

/-! ### Examples -/

def Query.revokes (familyId : String) : Query → Bool
  | .revokeFamily familyId' => familyId' = familyId
  | _ => false

theorem asks_of_revokes {p : Sessions} (h : (p.asked t).any (Query.revokes familyId)) :
    p.Asks t (.revokeFamily familyId) := by
  obtain ⟨op, hop, hrevokes⟩ := (Option.any_eq_true _ _).1 h
  cases op with
  | revokeFamily familyId' =>
    obtain rfl : familyId' = familyId := of_decide_eq_true hrevokes
    exact Pool.asks_of_asked hop
  | _ => cases hrevokes

end

/-- Two refreshes present a token, and the second finds it consumed by the first. -/
def untilReuse : List (Turn Request World) :=
  [.call 0 (.login ⟨"e", "p"⟩), .step 0 { row := some "u" }, .step 0 {}, .step 0 {},
    .step 0 { text := "f" }, .step 0 { id := "k" },
    .call 1 (.refreshToken "first"), .step 1 {}, .step 1 { row := some "u" },
    .step 1 { row := some "k" }, .step 1 {},
    .call 2 (.refreshToken "first"), .step 2 {}, .step 2 { row := some "u" },
    .step 2 { row := some "k" }]

/-- The first refresh stores the successor before the second revokes the family. -/
theorem family_revocation_in_time : ∃ tr₁ p₁ p₂ tr₂ p,
    Run (service plainConfig).Steps (idle registered) tr₁ p₁ ∧ p₁.Asks 2 (.revokeFamily "f") ∧
      (service plainConfig).Steps p₁ (.step 2 {}) p₂ ∧ Run (service plainConfig).Steps p₂ tr₂ p ∧
      Called tr₂ 3 (.refreshToken "second") ∧ ∀ response, ¬ p.Ended 3 (.ok response) := by
  have hplay : ((service plainConfig).play (idle registered)
      (untilReuse ++ [.step 1 {}, .step 1 { now := 1000 }, .step 1 { id := "l" }])).any fun x =>
      (x.2.asked 2).any (Query.revokes "f") ∧
      ((service plainConfig).next x.2 (.step 2 {})).any fun p₂ =>
        ((service plainConfig).play p₂ [.call 3 (.refreshToken "second"), .step 3 {},
          .step 3 { row := some "u" }, .step 3 { row := some "l" }]).any fun y =>
          (∀ e ∈ y.1, SucceedsUnrevoked e) ∧
          (y.2.shared.token "l").any fun row => row.token = "second" ∧ row.familyId = "f" := by
    decide
  obtain ⟨⟨tr₁, p₁⟩, hplay₁, hfacts⟩ := (Option.any_eq_true _ _).1 hplay
  obtain ⟨hasks, hfacts⟩ := of_decide_eq_true hfacts
  obtain ⟨p₂, hnext, hfacts⟩ := (Option.any_eq_true _ _).1 hfacts
  obtain ⟨⟨tr₂, p⟩, hplay₂, hfacts⟩ := (Option.any_eq_true _ _).1 hfacts
  obtain ⟨hC, hrow⟩ := of_decide_eq_true hfacts
  obtain ⟨row, hrow, htoken⟩ := (Option.any_eq_true _ _).1 hrow
  have hcalled : Called tr₂ 3 (.refreshToken "second") := (System.called_play hplay₂).2 (.head _)
  exact ⟨tr₁, p₁, p₂, tr₂, p, System.run_play hplay₁, asks_of_revokes hasks, hnext,
    System.run_play hplay₂, hcalled, family_revocation reachable_registered
      (System.run_play hplay₁) (asks_of_revokes hasks) hnext (System.run_play hplay₂) hC hcalled
      ⟨"l", row, hrow, of_decide_eq_true htoken⟩⟩

/-- The first refresh stores the successor after the second has revoked the family.  A later refresh
    with the successor succeeds. -/
theorem revoked_family_refreshed : ¬ ∀ tr₁ p₁ t₀ w p₂ tr₂ p t token familyId response,
    Run (service plainConfig).Steps (idle registered) tr₁ p₁ → p₁.Asks t₀ (.revokeFamily familyId) →
    (service plainConfig).Steps p₁ (.step t₀ w) p₂ → Run (service plainConfig).Steps p₂ tr₂ p →
    Called tr₂ t (.refreshToken token) →
    (∃ id row, p.shared.token id = some row ∧ row.token = plainConfig.hashRefreshToken token ∧
      row.familyId = familyId) → ¬ p.Ended t (.ok response) := by
  intro hclaim
  have hplay : ((service plainConfig).play (idle registered) untilReuse).any fun x =>
      (x.2.asked 2).any (Query.revokes "f") ∧
      ((service plainConfig).next x.2 (.step 2 {})).any fun p₂ =>
        ((service plainConfig).play p₂ [.step 1 {}, .step 1 { now := 1000 }, .step 1 { id := "l" },
          .call 3 (.refreshToken "second"), .step 3 {}, .step 3 { row := some "u" },
          .step 3 { row := some "l" }, .step 3 {}, .step 3 {}, .step 3 { now := 2000 },
          .step 3 { id := "m" }]).any fun y =>
          (y.2.returned 3).isSome ∧
          (y.2.shared.token "l").any fun row => row.token = "second" ∧ row.familyId = "f" := by
    decide
  obtain ⟨⟨tr₁, p₁⟩, hplay₁, hfacts⟩ := (Option.any_eq_true _ _).1 hplay
  obtain ⟨hasks, hfacts⟩ := of_decide_eq_true hfacts
  obtain ⟨p₂, hnext, hfacts⟩ := (Option.any_eq_true _ _).1 hfacts
  obtain ⟨⟨tr₂, p⟩, hplay₂, hfacts⟩ := (Option.any_eq_true _ _).1 hfacts
  obtain ⟨hreturned, hrow⟩ := of_decide_eq_true hfacts
  obtain ⟨response, hresponse⟩ := Option.isSome_iff_exists.1 hreturned
  obtain ⟨row, hrow, htoken⟩ := (Option.any_eq_true _ _).1 hrow
  exact hclaim tr₁ p₁ 2 {} p₂ tr₂ p 3 "second" "f" response (System.run_play hplay₁)
    (asks_of_revokes hasks) hnext (System.run_play hplay₂) ((System.called_play hplay₂).2 (by simp))
    ⟨"l", row, hrow, of_decide_eq_true htoken⟩ (Pool.returned_eq_some.1 hresponse)

end Auth
