/-
  From the registration of a passkey to logins with it.

  The id of a credential is stored as the Base64 of its text, and looked up as it is sent.  Hence a
  login finds the credential that was registered only if its id is empty.
-/
import NovaLabs.Passkey.Calls
import NovaLabs.Auth.Rotation

namespace Passkey

open Lib Process
open Backend (Uuid)
open Auth (User PasskeyCredential HttpError Tokens countCredential)

/-! ## Credentials by their position -/

section
variable {list : List PasskeyCredential} {id cid : String} {n k : ℕ}

def withCounter (n : ℕ) (credential : PasskeyCredential) : PasskeyCredential :=
  { credential with counter := n }

/-- The position of the first credential with the id. -/
def position (id : String) (list : List PasskeyCredential) : ℕ := list.findIdx (·.id = id)

theorem countCredential_eq (id : String) (n : ℕ) (list : List PasskeyCredential) :
    countCredential id n list = list.modify (position id list) (withCounter n) := by
  induction list with
  | nil => rfl
  | cons credential list ih =>
    rw [countCredential, position, List.findIdx_cons]
    by_cases h : credential.id = id
    · simp [h, withCounter]
    · simp [h, ih, position]

theorem position_modify (id : String) (list : List PasskeyCredential) (k n : ℕ) :
    position id (list.modify k (withCounter n)) = position id list := by
  induction list generalizing k with
  | nil => simp
  | cons credential list ih =>
    cases k with
    | zero => simp [position, List.findIdx_cons, withCounter]
    | succ k =>
      simp only [position] at ih
      simp [position, List.findIdx_cons, ih]

theorem find?_position (id : String) (list : List PasskeyCredential) :
    list.find? (·.id = id) = list[position id list]? := List.find?_eq_getElem?_findIdx

theorem position_append (list' : List PasskeyCredential) (h : position id list < list.length) :
    position id (list ++ list') = position id list := by
  rw [position, List.findIdx_append]
  exact if_pos h

end

/-! ## Registered credentials -/

/-- Run alone, the registration goes through, and the library reports the key and the counter. -/
def Registers (cfg : Auth.Config) (s : Server) (userId : Uuid) (response : AuthenticatorResponse)
    (publicKey : List UInt8) (counter : ℕ) (s' : Server) : Prop :=
  ∃ out, Alone (exec cfg) (fun w => w.publicKey = publicKey ∧ w.newCounter = counter) s
    (verifyRegistrationResponse userId response) (.ok out) s'

/-- The server later on, after any number of calls, and the last counter that a login with the
    credential reported. -/
inductive Later (cfg : Auth.Config) (email cid : String) (s₀ : Server) (n₀ : ℕ) : Server → ℕ → Prop
  | start : Later cfg email cid s₀ n₀ s₀ n₀
  | login {s s' : Server} {n n' : ℕ} {response : AuthenticatorResponse} {out} :
      Later cfg email cid s₀ n₀ s n → response.id = cid →
      Alone (exec cfg) (fun w => w.newCounter = n') s
        (verifyAssertionResponse cfg email response) (.ok out) s' →
      Later cfg email cid s₀ n₀ s' n'
  | call {s s' : Server} {n : ℕ} {request : Request} {r} :
      Later cfg email cid s₀ n₀ s n →
      Alone (exec cfg) (fun _ => True) s (request.program cfg) r s' →
      (∀ response, request = .verifyAssertionResponse email response → response.id = cid →
        ∃ e, r = .error e) →
      Later cfg email cid s₀ n₀ s' n

/-- The credential that the user has at the position takes part: options list its id, and a login
    with the id is verified with its key and its last counter, and counts for it. -/
structure Serves (cfg : Auth.Config) (userId : Uuid) (email cid : String) (k : ℕ)
    (publicKey : List UInt8) (s : Server) (n : ℕ) : Prop where
  lists : ∀ r s', Alone (exec cfg) (fun _ => True) s (createAssertionOptions email) r s' →
    ∃ options, r = .ok options ∧ cid ∈ options.allowCredentials.map Descriptor.id
  verifies : ∀ response n' r s', response.id = cid →
    s.Pending (assertKey email) response.challenge →
    Alone (exec cfg) (fun w => w.newCounter = n') s
      (verifyAssertionResponse cfg email response) r s' →
    (∃ out, r = .ok out) ∧
      (∃ transports, s'.passed = ⟨cid, publicKey, n, transports⟩ :: s.passed) ∧
      s'.db.user userId = (s.db.user userId).map fun user =>
        withCredentials user ((credentials user).modify k (withCounter n'))

/-- From the registration on, the credential serves. -/
def RoundTrip (cfg : Auth.Config) (userId : Uuid) (email cid : String) (k : ℕ)
    (publicKey : List UInt8) (s₀ : Server) (n₀ : ℕ) : Prop :=
  ∀ s n, Later cfg email cid s₀ n₀ s n → Serves cfg userId email cid k publicKey s n

/-- E-mails are unique. -/
def UniqueEmails (db : Auth.Database) : Prop :=
  ∀ id id' user user', db.user id = some user → db.user id' = some user' →
    user.email = user'.email → id = id'

section
variable {cfg : Auth.Config} {s s' : Server} {userId : Uuid} {email cid : String} {k n n' : ℕ}
  {publicKey : List UInt8} {user : User} {response : AuthenticatorResponse}

theorem UniqueEmails.update {db db' : Auth.Database} {id : Uuid} {list : List PasskeyCredential}
    (h : UniqueEmails db) (huser : db.user id = some user)
    (hdb : db'.user = Function.update db.user id (some (withCredentials user list))) :
    UniqueEmails db' := by
  have hold {id' : Uuid} {user' : User} (huser' : db'.user id' = some user') :
      ∃ user₀, db.user id' = some user₀ ∧ user₀.email = user'.email := by
    rw [hdb, Function.update_apply] at huser'
    split_ifs at huser' with hid
    · subst hid
      cases huser'
      exact ⟨user, huser, rfl⟩
    · exact ⟨user', huser', rfl⟩
  intro id₁ id₂ user₁ user₂ h₁ h₂ heq
  obtain ⟨user₁', h₁', he₁⟩ := hold h₁
  obtain ⟨user₂', h₂', he₂⟩ := hold h₂
  exact h id₁ id₂ user₁' user₂' h₁' h₂' (he₁.trans (heq.trans he₂.symm))

/-- The user's credential at the position is the first one with the id. -/
structure Holds (userId : Uuid) (email cid : String) (k : ℕ) (publicKey : List UInt8) (s : Server)
    (n : ℕ) : Prop where
  unique : UniqueEmails s.db
  found : ∃ user credential, s.db.user userId = some user ∧ user.email = email ∧
    position cid (credentials user) = k ∧ (credentials user)[k]? = some credential ∧
    credential.publicKey = Base64.encode publicKey ∧ credential.counter = n

namespace Holds

theorem of_user (h : Holds userId email cid k publicKey s n) (hs : s'.db.user = s.db.user) :
    Holds userId email cid k publicKey s' n :=
  ⟨fun id id' user user' => hs ▸ h.unique id id' user user', hs ▸ h.found⟩

/-- A change of a user's credentials that keeps the position, but for the counter there. -/
theorem update {id : Uuid} {list : List PasskeyCredential}
    (h : Holds userId email cid k publicKey s n) (huser : s.db.user id = some user)
    (hs : s'.db.user = Function.update s.db.user id (some (withCredentials user list)))
    (hkeep : id = userId → position cid list = k ∧
      list[k]? = (credentials user)[k]?.map (withCounter n'))
    (hother : id ≠ userId → n' = n) : Holds userId email cid k publicKey s' n' := by
  obtain ⟨user₀, credential, huser₀, hemail, hpos, hcredential, hkey, hcount⟩ := h.found
  refine ⟨h.unique.update huser hs, ?_⟩
  by_cases hid : id = userId
  · subst hid
    obtain rfl := Option.some.inj (huser.symm.trans huser₀)
    obtain ⟨hpos', hlist⟩ := hkeep rfl
    refine ⟨withCredentials user list, withCounter n' credential, ?_, hemail, hpos', ?_, hkey, rfl⟩
    · rw [hs, Function.update_self]
    · exact hlist.trans (by rw [hcredential, Option.map_some])
  · refine ⟨user₀, credential, ?_, hemail, hpos, hcredential, hkey, hcount.trans (hother hid).symm⟩
    rw [hs, Function.update_of_ne (Ne.symm hid), huser₀]

theorem position_lt (h : position cid (credentials user) = k)
    {credential : PasskeyCredential} (hk : (credentials user)[k]? = some credential) :
    position cid (credentials user) < (credentials user).length := by
  rw [h]
  exact (List.getElem?_eq_some_iff.1 hk).1

/-- A registration adds a credential at the end. -/
theorem registration {r : Except HttpError (Uuid × User)} {id : Uuid}
    (h : Holds userId email cid k publicKey s n)
    (hcall : Alone (exec cfg) (fun _ => True) s (verifyRegistrationResponse id response) r s') :
    Holds userId email cid k publicKey s' n := by
  rcases verifyRegistration_alone hcall with ⟨-, rfl⟩ | ⟨user, w, -, -, huser, hs⟩
  · exact h
  obtain ⟨user₀, credential, huser₀, -, hpos, hcredential, -, hcount⟩ := h.found
  refine h.update huser hs (fun hid => ?_) fun _ => rfl
  subst hid
  obtain rfl := Option.some.inj (huser.symm.trans huser₀)
  have hlt := position_lt hpos hcredential
  refine ⟨(position_append _ hlt).trans hpos, ?_⟩
  rw [List.getElem?_append_left (hpos ▸ hlt), hcredential, Option.map_some, withCounter, ← hcount]

/-- The other ids are at other positions. -/
theorem position_ne {id : String} {credential : PasskeyCredential}
    (hpos : position cid (credentials user) = k)
    (hcredential : (credentials user)[k]? = some credential) (hid : id ≠ cid) :
    position id (credentials user) ≠ k := by
  rintro rfl
  have h₁ := find?_position cid (credentials user)
  have h₂ := find?_position id (credentials user)
  rw [hpos, hcredential] at h₁
  rw [hcredential] at h₂
  have h₁' := List.find?_some h₁
  have h₂' := List.find?_some h₂
  exact hid ((of_decide_eq_true h₂').symm.trans (of_decide_eq_true h₁'))

/-- A login counts for the credential, if it is with the id, or for another one. -/
theorem assertion {W : World → Prop} {r} {email' : String}
    (h : Holds userId email cid k publicKey s n)
    (hcall : Alone (exec cfg) W s (verifyAssertionResponse cfg email' response) r s')
    (hown : email' = email → response.id = cid → (∃ out, r = .ok out) → ∀ w, W w → w.newCounter = n')
    (hother : email' ≠ email ∨ response.id ≠ cid ∨ (∃ e, r = .error e) → n' = n) :
    Holds userId email cid k publicKey s' n' := by
  rcases verifyAssertion_alone hcall with ⟨herr, hs, -⟩ |
    ⟨id, user, credential', w, hw, hok, huser, hemail', -, -, hs⟩
  · obtain rfl := hother (Or.inr (Or.inr herr))
    exact h.of_user hs
  obtain ⟨user₀, credential, huser₀, hemail, hpos, hcredential, -, hcount⟩ := h.found
  have hsame : id = userId ↔ email' = email := by
    constructor
    · rintro rfl
      obtain rfl := Option.some.inj (huser.symm.trans huser₀)
      exact hemail'.symm.trans hemail
    · intro heq
      exact h.unique id userId user user₀ huser huser₀ (hemail'.trans (heq.trans hemail.symm))
  refine h.update huser hs (fun hid => ?_) fun hid => hother (Or.inl fun heq => hid (hsame.2 heq))
  have heq := hsame.1 hid
  subst hid
  obtain rfl := Option.some.inj (huser.symm.trans huser₀)
  rw [countCredential_eq, position_modify]
  refine ⟨hpos, ?_⟩
  by_cases hid : response.id = cid
  · rw [hid, hpos, List.getElem?_modify_eq, hown heq hid hok w hw]
    rfl
  · obtain rfl := hother (Or.inr (Or.inl hid))
    rw [List.getElem?_modify_ne _ _ (position_ne hpos hcredential hid), hcredential,
      Option.map_some, withCounter, ← hcount]

/-- What holds after the registration holds later on. -/
theorem later {s₀ : Server} {n₀ : ℕ} (h₀ : Holds userId email cid k publicKey s₀ n₀)
    (h : Later cfg email cid s₀ n₀ s n) : Holds userId email cid k publicKey s n := by
  induction h with
  | start => exact h₀
  | login _ hid hcall ih =>
    refine ih.assertion hcall (fun _ _ _ w hw => hw) ?_
    rintro (hne | hne | ⟨e, ⟨⟩⟩)
    · exact absurd rfl hne
    · exact absurd hid hne
  | @call s s' n request r _ hcall hother ih =>
    cases request with
    | createRegistrationOptions id =>
      rcases hcall.seq with ⟨_, _, hcall, hend⟩ | ⟨_, -, hcall⟩
      · obtain ⟨-, rfl⟩ := hend.value
        exact ih.of_user (createRegistrationOptions_alone hcall)
      · exact ih.of_user (createRegistrationOptions_alone hcall)
    | verifyRegistrationResponse id response =>
      rcases hcall.seq with ⟨_, _, hcall, hend⟩ | ⟨_, -, hcall⟩
      · obtain ⟨-, rfl⟩ := hend.value
        exact ih.registration hcall
      · exact ih.registration hcall
    | createAssertionOptions email' =>
      have hs : s'.db.user = s.db.user := by
        rcases hcall.seq with ⟨_, _, hcall, hend⟩ | ⟨_, -, hcall⟩
        · obtain ⟨-, rfl⟩ := hend.value
          rcases createAssertionOptions_alone hcall with ⟨-, rfl, -⟩ | ⟨_, _, _, -, -, -, -, hs, -⟩
          · rfl
          · exact hs
        · rcases createAssertionOptions_alone hcall with ⟨-, rfl, -⟩ | ⟨_, _, _, -, -, -, -, hs, -⟩
          · rfl
          · exact hs
      exact ih.of_user hs
    | verifyAssertionResponse email' response =>
      rcases hcall.seq with ⟨out, _, hcall, hend⟩ | ⟨e, -, hcall⟩
      · obtain ⟨rfl, rfl⟩ := hend.value
        refine ih.assertion hcall (fun heq hid _ => ?_) fun _ => rfl
        obtain ⟨e, ⟨⟩⟩ := hother response (by rw [heq]) hid
      · refine ih.assertion hcall (fun _ _ hok => ?_) fun _ => rfl
        obtain ⟨out, ⟨⟩⟩ := hok

/-- **Where it holds, the credential serves.** -/
theorem serves (h : Holds userId email cid k publicKey s n) :
    Serves cfg userId email cid k publicKey s n := by
  obtain ⟨user, credential, huser, hemail, hpos, hcredential, hkey, hcount⟩ := h.found
  have hsame {id : Uuid} {user' : User} (huser' : s.db.user id = some user')
      (hemail' : user'.email = email) : id = userId ∧ user' = user := by
    obtain rfl := h.unique id userId user' user huser' huser (hemail'.trans hemail.symm)
    exact ⟨rfl, Option.some.inj (huser'.symm.trans huser)⟩
  have hfind : (credentials user).find? (·.id = cid) = some credential := by
    rw [find?_position, hpos, hcredential]
  have hcid : credential.id = cid := by simpa using List.find?_some hfind
  constructor
  case lists =>
    intro r s' hcall
    have hmem := List.mem_of_find?_eq_some hfind
    rcases createAssertionOptions_alone hcall with ⟨-, -, hnone | ⟨id, user', huser', hemail', hnil⟩⟩ |
      ⟨id, user', options, huser', hemail', rfl, hlist, -⟩
    · exact absurd hemail (hnone userId user huser)
    · obtain ⟨-, rfl⟩ := hsame huser' hemail'
      exact absurd hmem (hnil ▸ List.not_mem_nil)
    · obtain ⟨-, rfl⟩ := hsame huser' hemail'
      refine ⟨options, rfl, ?_⟩
      rw [hlist, allowCredentials, List.map_map]
      exact List.mem_map.2 ⟨credential, hmem, hcid⟩
  case verifies =>
    rintro response n' r s' rfl hpending hcall
    rcases verifyAssertion_alone hcall with ⟨-, -, hwhy⟩ |
      ⟨id, user', credential', w, hw, hok, huser', hemail', hfind', hpassed, hs⟩
    · rcases hwhy hpending with hnone | ⟨id, user', huser', hemail', hfind'⟩
      · exact absurd hemail (hnone userId user huser)
      · obtain ⟨-, rfl⟩ := hsame huser' hemail'
        cases hfind'.symm.trans hfind
    · obtain ⟨rfl, rfl⟩ := hsame huser' hemail'
      obtain rfl := Option.some.inj (hfind'.symm.trans hfind)
      refine ⟨hok, ?_, ?_⟩
      · rw [hpassed, verificationCredential, hkey, Base64.decode_encode, hcount]
        exact ⟨_, rfl⟩
      · rw [hs, Function.update_self, huser, Option.map_some, countCredential_eq, hpos, hw]

end Holds

/-- A credential that serves is the first one with its id. -/
theorem position_of_roundTrip (h : RoundTrip cfg userId email cid k publicKey s n)
    (hemails : UniqueEmails s.db) (huser : s.db.user userId = some user)
    (hemail : user.email = email) : position cid (credentials user) = k := by
  -- Options are created, and a login reports another counter.
  obtain ⟨r, s₁, hoptions⟩ := exists_call cfg 0 s (createAssertionOptions email)
  have hoptions : Alone (exec cfg) (fun _ => True) s (createAssertionOptions email) r s₁ :=
    hoptions.mono fun _ _ => trivial
  obtain ⟨options, rfl, -⟩ := (h s n .start).lists r s₁ hoptions
  rcases createAssertionOptions_alone hoptions with ⟨⟨e, ⟨⟩⟩, -⟩ |
    ⟨_, _, options', -, -, heq, -, hs, hpending⟩
  obtain rfl : options = options' := Except.ok.inj heq
  have hrun : Alone (exec cfg) (fun _ => True) s
      ((Request.createAssertionOptions email).program cfg) (.ok (.assertionOptions options)) s₁ :=
    hoptions.then_ok .done
  have hlater : Later cfg email cid s n s₁ n := .call .start hrun (by rintro _ ⟨⟩)
  let response : AuthenticatorResponse := { id := cid, challenge := options.challenge }
  obtain ⟨r, s₂, hlogin⟩ := exists_call cfg (n + 1) s₁ (verifyAssertionResponse cfg email response)
  obtain ⟨hok, ⟨transports, hpassed⟩, hcounts⟩ :=
    (h s₁ n hlater).verifies response (n + 1) r s₂ rfl hpending hlogin
  rcases verifyAssertion_alone hlogin with ⟨⟨e, rfl⟩, -⟩ |
    ⟨id, user', credential, w, hw, -, huser', hemail', hfind, hpassed', hs'⟩
  · obtain ⟨out, ⟨⟩⟩ := hok
  rw [hs] at huser' hs' hcounts
  obtain rfl := hemails id userId user' user huser' huser (hemail'.trans hemail.symm)
  obtain rfl := Option.some.inj (huser'.symm.trans huser)
  have hcount : credential.counter = n :=
    congrArg WebAuthnCredential.counter (List.cons.inj (hpassed'.symm.trans hpassed)).1
  rw [hs', Function.update_self, huser, Option.map_some, countCredential_eq, hw] at hcounts
  have hlist := congrArg credentials (Option.some.inj hcounts)
  rw [credentials_with, credentials_with] at hlist
  by_contra hne
  have hat : (credentials user')[position cid (credentials user')]? = some credential := by
    rw [← find?_position]
    exact hfind
  have hsame := congrArg (·[position cid (credentials user')]?) hlist
  rw [show response.id = cid from rfl, List.getElem?_modify_eq,
    List.getElem?_modify_ne _ _ (Ne.symm hne), hat] at hsame
  have hcount' := congrArg PasskeyCredential.counter (Option.some.inj hsame)
  exact absurd (hcount'.trans hcount) (Nat.succ_ne_self n)

/-- The credential is stored after the others that the user has. -/
theorem Registers.stores (h : Registers cfg s userId response publicKey n s')
    (huser : s.db.user userId = some user) :
    s'.db.user = Function.update s.db.user userId (some (withCredentials user
      (credentials user ++ [storedCredential response ⟨response.id, publicKey, n⟩]))) := by
  obtain ⟨out, hcall⟩ := h
  rcases verifyRegistration_alone hcall with ⟨⟨e, ⟨⟩⟩, -⟩ | ⟨user₀, w, ⟨hkey, hcount⟩, -, huser₀, hs⟩
  obtain rfl := Option.some.inj (huser.symm.trans huser₀)
  rw [hs, hkey, hcount]

/-- **A credential that is registered serves from then on exactly if its id is empty, and no other
    credential of the user is stored under the empty id.** -/
theorem roundTrip_iff {response : AuthenticatorResponse} (hemails : UniqueEmails s.db)
    (huser : s.db.user userId = some user)
    (h : Registers cfg s userId response publicKey n s') :
    RoundTrip cfg userId user.email response.id (credentials user).length publicKey s' n ↔
      response.id = "" ∧ ∀ credential ∈ credentials user, credential.id ≠ "" := by
  have hs := h.stores huser
  have huser' : s'.db.user userId = some _ := (congrFun hs userId).trans (Function.update_self ..)
  have hemails' := hemails.update huser hs
  set stored := storedCredential response ⟨response.id, publicKey, n⟩ with hstored
  have hid : stored.id = Base64.encode (utf8 response.id) := rfl
  constructor
  · intro hround
    have hpos := position_of_roundTrip hround hemails' huser' rfl
    rw [credentials_with] at hpos
    have hfirst : position response.id (credentials user) = (credentials user).length := by
      rw [position, List.findIdx_append] at hpos
      split_ifs at hpos with hlt
      · exact hpos
      · exact List.findIdx_eq_length.2 (List.findIdx_eq_length.1
          (le_antisymm List.findIdx_le_length (not_lt.1 hlt)))
    have hfound := find?_position response.id (credentials user ++ [stored])
    rw [hpos, List.getElem?_concat_length] at hfound
    have hsame : stored.id = response.id := by simpa using List.find?_some hfound
    have hempty : response.id = "" := Base64.encode_utf8_eq_iff.1 hsame
    refine ⟨hempty, fun credential hmem => ?_⟩
    have hne := List.findIdx_eq_length.1 hfirst credential hmem
    exact hempty ▸ of_decide_eq_false hne
  · rintro ⟨hempty, hothers⟩ s'' n' hlater
    refine (Holds.later ⟨hemails', ?_⟩ hlater).serves
    refine ⟨_, stored, huser', rfl, ?_, List.getElem?_concat_length, rfl, rfl⟩
    have hnone : (credentials user).findIdx (fun c => decide (c.id = response.id)) =
        (credentials user).length :=
      List.findIdx_eq_length.2 fun c hc => decide_eq_false (hempty ▸ hothers c hc)
    rw [credentials_with, position, List.findIdx_append, if_neg (hnone ▸ lt_irrefl _),
      List.findIdx_singleton, if_pos]
    · exact Nat.zero_add _
    · rw [hid, hempty]
      rfl

end

/-- The only user has created registration options. -/
def registering : Server where
  db := Finmap.insert (.challenge "register:u") "c" Auth.registered
  issued := ["c"]

theorem registering_user {id : Uuid} {user : User} (h : registering.db.user id = some user) :
    id = "u" := by
  by_contra hne
  rw [registering, Auth.Database.user, Finmap.lookup_insert_of_ne _ Auth.Row.noConfusion,
    Auth.registered, Finmap.lookup_insert_of_ne _ (by simpa using hne), Finmap.lookup_empty] at h
  cases h

def ada : User :=
  { email := "e", firstname := "Ada", lastname := "L", password := "p", isVerified := true }

theorem registering_ada : registering.db.user "u" = some ada := by decide

theorem registering_emails : UniqueEmails registering.db := fun _ _ _ _ h h' _ =>
  (registering_user h).trans (registering_user h').symm

/-- The authenticator's credential is "abc". -/
theorem registers_abc :
    ∃ s', Registers Auth.plainConfig registering "u" ⟨"abc", "c", []⟩ [1, 2, 3] 0 s' := by
  have hplay : (aloneIn (exec Auth.plainConfig) (verifyRegistrationResponse "u" ⟨"abc", "c", []⟩)
      (List.replicate 6 { row := some "u", publicKey := [1, 2, 3] }) registering).any fun x =>
        x.1.toOption.isSome := by decide
  obtain ⟨⟨r, s'⟩, halone, hok⟩ := (Option.any_eq_true _ _).1 hplay
  cases r with
  | error e => cases hok
  | ok out =>
    exact ⟨s', out, alone_of_aloneIn halone fun w hw => (List.eq_of_mem_replicate hw) ▸ ⟨rfl, rfl⟩⟩

theorem roundTrip_iff_abc : ∃ s', Registers Auth.plainConfig registering "u" ⟨"abc", "c", []⟩
    [1, 2, 3] 0 s' ∧ ¬ RoundTrip Auth.plainConfig "u" "e" "abc" 0 [1, 2, 3] s' 0 := by
  obtain ⟨s', h⟩ := registers_abc
  refine ⟨s', h, fun hround => ?_⟩
  have hempty := (roundTrip_iff registering_emails registering_ada h).1 hround
  exact absurd hempty.1 (by decide)

/-- The credential "abc" is stored as "YWJj", and a login with "abc" does not find it. -/
theorem roundTrip_abc_fails : ¬ ∀ (cfg : Auth.Config) (s s' : Server) (userId : Uuid) (user : User)
    (response : AuthenticatorResponse) (publicKey : List UInt8) (n : ℕ), UniqueEmails s.db →
      s.db.user userId = some user → Registers cfg s userId response publicKey n s' →
      RoundTrip cfg userId user.email response.id (credentials user).length publicKey s' n := by
  intro hclaim
  obtain ⟨s', h⟩ := registers_abc
  have hround := hclaim _ _ _ _ _ _ _ _ registering_emails registering_ada h
  have hs := h.stores registering_ada
  have hpos := position_of_roundTrip hround (registering_emails.update registering_ada hs)
    ((congrFun hs "u").trans (Function.update_self ..)) rfl
  exact absurd hpos (by decide)

end Passkey
