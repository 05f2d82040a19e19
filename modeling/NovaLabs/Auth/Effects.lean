/-
  What a query does to the rows.
-/
import NovaLabs.Auth.Operations

namespace Auth

open Lib
open Backend (Uuid Time)

/-- All but the statements that write refresh tokens. -/
def Query.sparesTokens : Query → Bool
  | .insertToken _ | .consumeToken _ | .revokeFamily _ => false
  | _ => true

/-- All but the statements that write users. -/
def Query.sparesUsers : Query → Bool
  | .insertUser _ | .updateUser _ _ => false
  | _ => true

/-- The row may have been consumed and revoked since. -/
structure RefreshToken.Ages (old new : RefreshToken) : Prop where
  same : new = { old with revoked := new.revoked, consumedAt := new.consumedAt }
  revoked : old.revoked → new.revoked
  consumed : old.consumedAt.isSome → new.consumedAt.isSome

/-- Neither consumed nor revoked. -/
def RefreshToken.IsLive (row : RefreshToken) : Prop := row.revoked = false ∧ row.consumedAt = none

instance (row : RefreshToken) : Decidable row.IsLive := inferInstanceAs (Decidable (_ ∧ _))

/-- One of the unique indexes keeps the rows from being stored together. -/
def RefreshToken.Clashes (row row' : RefreshToken) : Prop :=
  row.token = row'.token ∨ row.familyId = row'.familyId ∧ row.version = row'.version

namespace RefreshToken.Ages
variable {row row' row'' : RefreshToken}

theorem refl (row : RefreshToken) : row.Ages row := ⟨rfl, id, id⟩

theorem trans (h : row.Ages row') (h' : row'.Ages row'') : row.Ages row'' where
  same := by rw [h'.same, h.same]
  revoked hrow := h'.revoked (h.revoked hrow)
  consumed hrow := h'.consumed (h.consumed hrow)

theorem token (h : row.Ages row') : row'.token = row.token := by rw [h.same]

theorem familyId (h : row.Ages row') : row'.familyId = row.familyId := by rw [h.same]

theorem version (h : row.Ages row') : row'.version = row.version := by rw [h.same]

theorem expiresAt (h : row.Ages row') : row'.expiresAt = row.expiresAt := by rw [h.same]

theorem isLive (h : row.Ages row') (hrow : row'.IsLive) : row.IsLive := by
  constructor
  · exact Bool.eq_false_of_not_eq_true fun hr => Bool.noConfusion (hrow.1.symm.trans (h.revoked hr))
  · refine Option.not_isSome_iff_eq_none.1 fun hc => ?_
    have hc' := h.consumed hc
    rw [hrow.2] at hc'
    cases hc'

end RefreshToken.Ages

section
variable {cfg : Config} {w : World} {db db' : Database} {q : Query} {a : Answer q} {id : Uuid}
  {row : RefreshToken}

theorem lookup_update (f : ∀ row, Record row → Option (Record row)) (k : Row) :
    (db.update f).lookup k = ((db.lookup k).bind (f k)).or (db.lookup k) := by
  rw [Database.update, Storage.lookup_union, Storage.lookup_changes]

/-! ## Refresh tokens -/

theorem exec_token (h : exec cfg w db q = some (a, db')) (hq : q.sparesTokens) (id : Uuid) :
    db'.token id = db.token id := by
  cases q with
  | insertToken | consumeToken | revokeFamily => cases hq
  | findUser | findToken =>
    obtain ⟨_, -, heq⟩ := Option.map_eq_some_iff.1 h
    cases heq
    rfl
  | insertUser user =>
    simp only [exec, Database.insertUser] at h
    split_ifs at h
    · cases h
      exact Finmap.lookup_insert_of_ne _ Row.noConfusion
    · cases h
      rfl
  | updateUser id' c =>
    cases h
    rw [Database.token, lookup_update]
    cases hrow : db.lookup (.token id) with
    | none => exact hrow.symm
    | some row => exact hrow.symm
  | setChallenge key challenge =>
    cases h
    exact Finmap.lookup_insert_of_ne _ Row.noConfusion
  | deleteChallenge key =>
    cases h
    exact Finmap.lookup_erase_ne Row.noConfusion
  | now | random | generateSecret | randomBytes | generateFamilyId | generateChallenge
  | hashPassword | passwordBreached | sign | verify | verifyTotp | verifyAuthentication
  | reloadUser | auditFamilyRevoked | findChallenge | send =>
    cases h
    rfl

theorem token_consumption (id : Uuid) (now : Time) (id' : Uuid) :
    (db.update (tokenConsumption id now)).token id' = (db.token id').map fun row =>
      if id' = id then { row with consumedAt := some now } else row := by
  rw [Database.token, lookup_update, Database.token]
  cases db.lookup (.token id') with
  | none => rfl
  | some row =>
    simp only [Option.bind_some, tokenConsumption, Option.map_some]
    split_ifs <;> rfl

theorem consumeToken_row (h : exec cfg w db (.consumeToken id) = some ((), db')) (id' : Uuid) :
    db'.token id' = (db.token id').map fun row =>
      if id' = id then { row with consumedAt := some w.now } else row := by
  cases h
  exact token_consumption id w.now id'

theorem revokeFamily_row {familyId : String}
    (h : exec cfg w db (.revokeFamily familyId) = some ((), db')) (id : Uuid) :
    db'.token id = (db.token id).map fun row =>
      if row.familyId = familyId ∧ row.revoked = false then
        { row with revoked := true, consumedAt := some w.now }
      else row := by
  cases h
  rw [Database.token, lookup_update, Database.token]
  cases db.lookup (.token id) with
  | none => rfl
  | some row =>
    simp only [Option.bind_some, familyRevocation, Option.map_some]
    split_ifs <;> rfl

theorem all_admits_iff : Storage.All db (admits row) ↔
    ∀ id row', db.token id = some row' → ¬ row'.Clashes row := by
  rw [Storage.all_iff]
  simp only [RefreshToken.Clashes, not_or]
  constructor
  · exact fun h id row' hrow' => of_decide_eq_true (h (.token id) row' hrow')
  · intro h k v hv
    cases k with
    | token id => exact decide_eq_true (h id v hv)
    | user | challenge => rfl

/-- An insert is refused where a row clashes with the new one, and stores it otherwise. -/
theorem insertToken_cases {o : Option Uuid}
    (h : exec cfg w db (.insertToken row) = some (o, db')) :
    (o = none ∧ db' = db ∧ ∃ id row', db.token id = some row' ∧ row'.Clashes row) ∨
    (o = some w.id ∧ db.token w.id = none ∧
      (∀ id row', db.token id = some row' → ¬ row'.Clashes row) ∧
      db' = Finmap.insert (.token w.id) row db) := by
  simp only [exec, Database.insertToken] at h
  split_ifs at h with hall hid
  · cases h
    exact Or.inr ⟨rfl, hid, all_admits_iff.1 hall, rfl⟩
  · cases h
    rw [all_admits_iff] at hall
    push Not at hall
    exact Or.inl ⟨rfl, rfl, hall⟩

theorem token_insert (id' : Uuid) :
    Database.token (Finmap.insert (.token id) row db) id' =
      if id' = id then some row else db.token id' := by
  split_ifs with hid
  · rw [hid]
    exact Finmap.lookup_insert _
  · exact Finmap.lookup_insert_of_ne _ fun heq => hid (Row.token.inj heq)

/-- **Refresh tokens stay, and change only in that they are consumed and revoked.** -/
theorem exec_ages (h : exec cfg w db q = some (a, db')) (hrow : db.token id = some row) :
    ∃ row', db'.token id = some row' ∧ row.Ages row' := by
  by_cases hq : q.sparesTokens
  · exact ⟨row, (exec_token h hq id).trans hrow, .refl row⟩
  cases q with
  | insertToken new =>
    rcases insertToken_cases h with ⟨-, rfl, -⟩ | ⟨-, hnone, -, rfl⟩
    · exact ⟨row, hrow, .refl row⟩
    · refine ⟨row, ?_, .refl row⟩
      rw [token_insert, if_neg, hrow]
      rintro rfl
      cases hnone.symm.trans hrow
  | consumeToken id' =>
    refine ⟨_, (consumeToken_row h id).trans (congrArg _ hrow), ?_⟩
    dsimp only
    split_ifs
    · exact ⟨rfl, fun hr => hr, fun _ => rfl⟩
    · exact .refl row
  | revokeFamily familyId =>
    refine ⟨_, (revokeFamily_row h id).trans (congrArg _ hrow), ?_⟩
    dsimp only
    split_ifs
    · exact ⟨rfl, fun _ => rfl, fun _ => rfl⟩
    · exact .refl row
  | _ => exact absurd rfl hq

/-- A refresh token was there before, or is new. -/
theorem exec_token_cases {new : RefreshToken} (h : exec cfg w db q = some (a, db'))
    (hnew : db'.token id = some new) :
    (∃ row, db.token id = some row ∧ row.Ages new) ∨
    (q = .insertToken new ∧ id = w.id ∧ db.token id = none ∧
      ∀ id row', db.token id = some row' → ¬ row'.Clashes new) := by
  cases hrow : db.token id with
  | some row =>
    obtain ⟨row', hrow', hages⟩ := exec_ages h hrow
    obtain rfl := Option.some.inj (hrow'.symm.trans hnew)
    exact Or.inl ⟨row, rfl, hages⟩
  | none =>
    by_cases hq : q.sparesTokens
    · cases (hrow.symm.trans (exec_token h hq id).symm).trans hnew
    cases q with
    | insertToken row =>
      rcases insertToken_cases h with ⟨-, rfl, -⟩ | ⟨-, -, hclash, rfl⟩
      · cases hrow.symm.trans hnew
      · rw [token_insert] at hnew
        split_ifs at hnew with hid
        · cases hnew
          exact Or.inr ⟨rfl, hid, rfl, hclash⟩
        · cases hrow.symm.trans hnew
    | consumeToken id' =>
      rw [consumeToken_row h id, hrow] at hnew
      cases hnew
    | revokeFamily familyId =>
      rw [revokeFamily_row h id, hrow] at hnew
      cases hnew
    | _ => exact absurd rfl hq

/-! ## Users -/

theorem exec_user (h : exec cfg w db q = some (a, db')) (hq : q.sparesUsers) (id : Uuid) :
    db'.user id = db.user id := by
  cases q with
  | insertUser | updateUser => cases hq
  | findUser | findToken =>
    obtain ⟨_, -, heq⟩ := Option.map_eq_some_iff.1 h
    cases heq
    rfl
  | insertToken row =>
    rcases insertToken_cases h with ⟨-, rfl, -⟩ | ⟨-, -, -, rfl⟩
    · rfl
    · exact Finmap.lookup_insert_of_ne _ Row.noConfusion
  | consumeToken | revokeFamily =>
    cases h
    rw [Database.user, lookup_update]
    cases hrow : db.lookup (.user id) with
    | none => exact hrow.symm
    | some user => exact hrow.symm
  | setChallenge key challenge =>
    cases h
    exact Finmap.lookup_insert_of_ne _ Row.noConfusion
  | deleteChallenge key =>
    cases h
    exact Finmap.lookup_erase_ne Row.noConfusion
  | now | random | generateSecret | randomBytes | generateFamilyId | generateChallenge
  | hashPassword | passwordBreached | sign | verify | verifyTotp | verifyAuthentication
  | reloadUser | auditFamilyRevoked | findChallenge | send =>
    cases h
    rfl

theorem updateUser_row {c : UserChanges} (h : exec cfg w db (.updateUser id c) = some ((), db'))
    (id' : Uuid) :
    db'.user id' = (db.user id').map fun user => if id' = id then user.set c else user := by
  cases h
  rw [Database.user, lookup_update, Database.user]
  cases db.lookup (.user id') with
  | none => rfl
  | some user =>
    simp only [Option.bind_some, userSave, Option.map_some]
    split_ifs <;> rfl

/-- An insert is refused where a user has the e-mail, and stores the user otherwise. -/
theorem insertUser_cases {user : User} {o : Option Uuid}
    (h : exec cfg w db (.insertUser user) = some (o, db')) :
    (o = none ∧ db' = db) ∨
    (o = some w.id ∧ db.user w.id = none ∧
      (∀ id user', db.user id = some user' → user'.email ≠ user.email) ∧
      db' = Finmap.insert (.user w.id) user db) := by
  simp only [exec, Database.insertUser] at h
  split_ifs at h with hall hid
  · cases h
    refine Or.inr ⟨rfl, hid, fun id user' huser' heq => ?_, rfl⟩
    exact of_decide_eq_true (Storage.all_iff.1 hall (.user id) user' huser') (decide_eq_true heq)
  · cases h
    exact Or.inl ⟨rfl, rfl⟩

theorem user_insert {user : User} (id' : Uuid) :
    Database.user (Finmap.insert (.user id) user db) id' =
      if id' = id then some user else db.user id' := by
  split_ifs with hid
  · rw [hid]
    exact Finmap.lookup_insert _
  · exact Finmap.lookup_insert_of_ne _ fun heq => hid (Row.user.inj heq)

/-- Users stay. -/
theorem exec_user_stays (h : exec cfg w db q = some (a, db')) (huser : db.user id ≠ none) :
    db'.user id ≠ none := by
  by_cases hq : q.sparesUsers
  · rwa [exec_user h hq]
  cases q with
  | insertUser user =>
    rcases insertUser_cases h with ⟨-, rfl⟩ | ⟨-, -, -, rfl⟩
    · exact huser
    · rw [user_insert]
      split_ifs
      · exact Option.some_ne_none _
      · exact huser
  | updateUser id' c =>
    rw [updateUser_row h, ne_eq, Option.map_eq_none_iff]
    exact huser
  | _ => exact absurd rfl hq

/-! ## Searches -/

theorem findToken_some {token : String} {found : Uuid × RefreshToken}
    (h : exec cfg w db (.findToken token) = some (some found, db')) :
    db' = db ∧ db.token found.1 = some found.2 ∧ found.2.token = token := by
  obtain ⟨_, hf, heq⟩ := Option.map_eq_some_iff.1 h
  cases heq
  cases hrow : w.row with
  | none =>
    rw [hrow, Database.findToken, Option.ite_none_right_eq_some] at hf
    cases hf.2
  | some id =>
    rw [hrow, Database.findToken, Option.bind_eq_some_iff] at hf
    obtain ⟨row, hstored, hf⟩ := hf
    obtain ⟨htoken, hf⟩ := Option.ite_none_right_eq_some.1 hf
    cases hf
    exact ⟨rfl, hstored, htoken⟩

theorem findToken_none {token : String} (h : exec cfg w db (.findToken token) = some (none, db'))
    (hrow : db.token id = some row) : db' = db ∧ row.token ≠ token := by
  obtain ⟨_, hf, heq⟩ := Option.map_eq_some_iff.1 h
  cases heq
  refine ⟨rfl, ?_⟩
  cases hw : w.row with
  | none =>
    rw [hw, Database.findToken, Option.ite_none_right_eq_some] at hf
    exact of_decide_eq_true (Storage.all_iff.1 hf.1 (.token id) row hrow)
  | some id' =>
    rw [hw, Database.findToken, Option.bind_eq_some_iff] at hf
    obtain ⟨row', -, hf⟩ := hf
    cases (Option.ite_none_right_eq_some.1 hf).2

theorem findUser_some {which : UserWhere} {found : Uuid × User}
    (h : exec cfg w db (.findUser which) = some (some found, db')) :
    db' = db ∧ db.user found.1 = some found.2 ∧ which.selects found.1 found.2 := by
  obtain ⟨_, hf, heq⟩ := Option.map_eq_some_iff.1 h
  cases heq
  cases hrow : w.row with
  | none =>
    rw [hrow, Database.findUser, Option.ite_none_right_eq_some] at hf
    cases hf.2
  | some id =>
    rw [hrow, Database.findUser, Option.bind_eq_some_iff] at hf
    obtain ⟨user, hstored, hf⟩ := hf
    obtain ⟨hselects, hf⟩ := Option.ite_none_right_eq_some.1 hf
    cases hf
    exact ⟨rfl, hstored, hselects⟩

theorem findUser_none {which : UserWhere} {user : User}
    (h : exec cfg w db (.findUser which) = some (none, db')) (huser : db.user id = some user) :
    db' = db ∧ ¬ which.selects id user := by
  obtain ⟨_, hf, heq⟩ := Option.map_eq_some_iff.1 h
  cases heq
  refine ⟨rfl, ?_⟩
  cases hw : w.row with
  | none =>
    rw [hw, Database.findUser, Option.ite_none_right_eq_some] at hf
    exact of_decide_eq_true (Storage.all_iff.1 hf.1 (.user id) user huser)
  | some id' =>
    rw [hw, Database.findUser, Option.bind_eq_some_iff] at hf
    obtain ⟨user', -, hf⟩ := hf
    cases (Option.ite_none_right_eq_some.1 hf).2

end

end Auth
