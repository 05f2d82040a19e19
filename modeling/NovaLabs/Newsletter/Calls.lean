/-
  What a call to the newsletter changes.
-/
import NovaLabs.Newsletter.Operations

namespace Newsletter

open Lib Process
open Backend (Uuid Time)

/-- The row is pending since the call, with the tokens. -/
structure NewsletterSubscriber.IsPending (row : NewsletterSubscriber) (call : Call)
    (verificationToken unsubscribeToken : String) : Prop where
  isActive : row.isActive = false
  verificationToken : row.verificationToken = some verificationToken
  unsubscribeToken : row.unsubscribeToken = unsubscribeToken
  expires : ∃ time ≤ call.ended + lifetime, row.verificationTokenExpiresAt = some time

/-- What a call changes. -/
inductive Effect (cfg : Config) (s : Server) (call : Call) (s' : Server) : Prop
  | refused {error : HttpError} (hresponse : call.response = .error error)
      (hsubscribers : s'.subscribers = s.subscribers) (hmade : s.made ⊆ s'.made)
  /-- The row of the e-mail is replaced, or there was none. -/
  | subscribed {text : String} {ipAddress : Option String} {response : Response} {id : Uuid}
      {row : NewsletterSubscriber} {verificationToken unsubscribeToken : String}
      (hoperation : call.operation = .subscribe text ipAddress)
      (hresponse : call.response = .ok response)
      (hemail : row.email = cfg.normalize text)
      (hpending : row.IsPending call verificationToken unsubscribeToken)
      (hverification : verificationToken ∉ s.made)
      (hunsubscribe : unsubscribeToken ∉ verificationToken :: s.made)
      (hmade : s'.made = unsubscribeToken :: verificationToken :: s.made)
      (hplace : (∃ old, s.subscribers.lookup id = some old ∧ old.email = row.email ∧
        ¬ old.IsSubscribed) ∨ (s.subscribers.lookup id = none ∧ s.Free row.email))
      (hsubscribers : s'.subscribers = s.subscribers.insert id row)
  | confirmed {text message : String} {id : Uuid} {row : NewsletterSubscriber} {verifiedAt : Time}
      (hoperation : call.operation = .confirm text)
      (hresponse : call.response = .ok (.message true message))
      (hrow : s.subscribers.lookup id = some row)
      (htoken : row.verificationToken = some (trim text))
      (hexpires : ∀ time ∈ row.verificationTokenExpiresAt, call.began ≤ time)
      (hsubscribers : s'.subscribers = s.subscribers.insert id (row.confirmed verifiedAt))
      (hmade : s'.made = s.made)
  | alreadyConfirmed {text message : String} {id : Uuid} {row : NewsletterSubscriber}
      (hoperation : call.operation = .confirm text)
      (hresponse : call.response = .ok (.message true message))
      (hrow : s.subscribers.lookup id = some row)
      (htoken : row.verificationToken = some (trim text)) (hactive : row.isActive)
      (hsubscribers : s'.subscribers = s.subscribers) (hmade : s'.made = s.made)
  | unsubscribed {text message : String} {id : Uuid} {row : NewsletterSubscriber} {time : Time}
      (hoperation : call.operation = .unsubscribe text)
      (hresponse : call.response = .ok (.message true message))
      (hrow : s.subscribers.lookup id = some row) (htoken : row.unsubscribeToken = trim text)
      (hactive : row.isActive)
      (hsubscribers : s'.subscribers = s.subscribers.insert id { row with deletedAt := some time })
      (hmade : s'.made = s.made)
  | alreadyUnsubscribed {text message : String} {id : Uuid} {row : NewsletterSubscriber}
      (hoperation : call.operation = .unsubscribe text)
      (hresponse : call.response = .ok (.message true message))
      (hrow : s.subscribers.lookup id = some row) (htoken : row.unsubscribeToken = trim text)
      (hended : row.isActive → row.deletedAt ≠ none)
      (hsubscribers : s'.subscribers = s.subscribers) (hmade : s'.made = s.made)

section
variable {cfg : Config} {W : World → Prop} {s s' : Server} {α : Type} {call : Call}

/-! ## Queries -/

theorem findOne_alone {which : SubscriberWhere} {r : Except HttpError α}
    {f : Option (Uuid × NewsletterSubscriber) → Proc α}
    (h : Alone exec W s (ask (.findOne which) >>= f) r s') :
    ((∀ id row, s.subscribers.lookup id = some row → ¬ which.selects row) ∧
      Alone exec W s (f none) r s') ∨
    ∃ id row, s.subscribers.lookup id = some row ∧ which.selects row ∧
      Alone exec W s (f (some (id, row))) r s' := by
  obtain ⟨w, found, _, -, hexec, h⟩ := Alone.query h
  obtain ⟨_, hfind, heq⟩ := Option.map_eq_some_iff.1 hexec
  cases heq
  cases found with
  | none =>
    refine Or.inl ⟨fun id row hrow hselects => ?_, h⟩
    exact Store.findOne_none hfind hrow hselects
  | some found =>
    obtain ⟨hrow, hselects⟩ := Store.findOne_some hfind
    exact Or.inr ⟨found.1, found.2, hrow, hselects, h⟩

theorem findOne_found {which : SubscriberWhere} {r : Except HttpError α}
    {f : Option (Uuid × NewsletterSubscriber) → Proc α}
    (h : Alone exec W s (ask (.findOne which) >>= f) r s') :
    ∃ found, (∀ id row, found = some (id, row) →
      s.subscribers.lookup id = some row ∧ which.selects row) ∧ Alone exec W s (f found) r s' := by
  rcases findOne_alone h with ⟨-, h⟩ | ⟨id, row, hrow, hselects, h⟩
  · refine ⟨none, ?_, h⟩
    rintro _ _ ⟨⟩
  · refine ⟨some (id, row), ?_, h⟩
    rintro _ _ ⟨⟩
    exact ⟨hrow, hselects⟩

theorem makeToken_alone {r : Except HttpError α} {f : String → Proc α}
    (h : Alone exec W s (ask .makeToken >>= f) r s') :
    ∃ token ∉ s.made, Alone exec W { s with made := token :: s.made } (f token) r s' := by
  obtain ⟨w, _, _, -, hexec, h⟩ := Alone.query h
  obtain ⟨hfresh, heq⟩ := Option.ite_none_left_eq_some.1 hexec
  cases heq
  exact ⟨w.token, hfresh, h⟩

/-- An e-mail at the end of a call changes neither rows nor tokens. -/
theorem sendTemplateEmail_alone {email subject templateName : String}
    {placeholders : List (String × String)} {response : Response} {r : Except HttpError Response}
    (h : Alone exec W s (sendTemplateEmail cfg email subject templateName placeholders >>= fun _ =>
      pure response) r s') :
    r = .ok response ∧ s'.subscribers = s.subscribers ∧ s'.made = s.made := by
  obtain ⟨_, hmail, rfl⟩ := h.map
  obtain ⟨_, _, _, -, hnow, hsend⟩ := Alone.query hmail
  cases hnow
  obtain ⟨w, _, _, -, hexec, hend⟩ := Alone.query hsend
  obtain ⟨rfl, rfl⟩ := hend.value
  refine ⟨rfl, ?_⟩
  rw [exec, Option.some.injEq] at hexec
  split_ifs at hexec <;> cases hexec <;> exact ⟨rfl, rfl⟩

theorem free_iff {email : String} :
    s.Free email ↔ ∀ id row, s.subscribers.lookup id = some row → row.email ≠ email := by
  rw [Server.Free, Finset.eq_empty_iff_forall_notMem]
  simp only [Store.mem_matching, decide_eq_true_eq, not_exists, not_and, ne_eq]

theorem saveSubscriber_alone {o : Option Uuid} {row : NewsletterSubscriber}
    {r : Except HttpError α} {f : Option Uuid → Proc α}
    (h : Alone exec W s (saveSubscriber o row >>= f) r s') :
    (∃ id, (o = some id ∨ (o = none ∧ s.subscribers.lookup id = none ∧ s.Free row.email)) ∧
      Alone exec W (s.setSubscriber id row) (f (some id)) r s') ∨ Alone exec W s (f none) r s' := by
  cases o with
  | some id =>
    obtain ⟨_, _, _, -, hexec, h⟩ := Alone.query h
    cases hexec
    exact Or.inl ⟨id, Or.inl rfl, h⟩
  | none =>
    obtain ⟨w, _, _, -, hexec, h⟩ := Alone.query h
    rw [exec] at hexec
    split_ifs at hexec with hfree hnew
    · cases hexec
      exact Or.inl ⟨w.id, Or.inr ⟨rfl, hnew, hfree⟩, h⟩
    · cases hexec
      exact Or.inr h

/-! ## Operations -/

theorem subscribe_effect {text : String} {ipAddress : Option String}
    (hoperation : call.operation = .subscribe text ipAddress)
    (h : Alone exec (fun w => call.began ≤ w.now ∧ w.now ≤ call.ended) s
      (subscribe cfg text ipAddress) call.response s') : Effect cfg s call s' := by
  unfold subscribe at h
  rcases Alone.failIf h with ⟨-, hresponse, rfl⟩ | ⟨-, h⟩
  · exact .refused hresponse rfl (List.Subset.refl _)
  obtain ⟨existing, hexisting, h⟩ := findOne_found h
  rcases Alone.failIf h with ⟨-, hresponse, rfl⟩ | ⟨hended, h⟩
  · exact .refused hresponse rfl (List.Subset.refl _)
  obtain ⟨w, _, _, -, hexec, h⟩ := Alone.query h
  cases hexec
  obtain ⟨verificationToken, hverification, h⟩ := makeToken_alone h
  obtain ⟨unsubscribeToken, hunsubscribe, h⟩ := makeToken_alone h
  obtain ⟨w', _, _, hw', hexec, h⟩ := Alone.query h
  cases hexec
  rcases saveSubscriber_alone h with ⟨id, hid, h⟩ | h
  · obtain ⟨hresponse, hsubscribers, hmade⟩ := sendTemplateEmail_alone h
    refine .subscribed hoperation hresponse ?_ ?_ hverification hunsubscribe hmade ?_ hsubscribers
    · rfl
    · exact ⟨rfl, rfl, rfl, w'.now + lifetime, by simpa using hw'.2, rfl⟩
    · rcases hid with hid | ⟨-, hnew, hfree⟩
      · obtain ⟨⟨_, old⟩, hfound, rfl⟩ := Option.map_eq_some_iff.1 hid
        obtain ⟨hold, hemail⟩ := hexisting _ _ hfound
        refine Or.inl ⟨old, hold, of_decide_eq_true hemail, fun hsubscribed => hended ?_⟩
        exact ⟨old, by rw [hfound, Option.map_some, Option.mem_some], hsubscribed⟩
      · exact Or.inr ⟨hnew, hfree⟩
  · obtain ⟨hresponse, rfl⟩ := Alone.error h
    exact .refused hresponse rfl fun token htoken => .tail _ (.tail _ htoken)

theorem unsubscribe_effect {text : String} (hoperation : call.operation = .unsubscribe text)
    (h : Alone exec W s (unsubscribe cfg text) call.response s') : Effect cfg s call s' := by
  unfold unsubscribe at h
  rcases findOne_alone h with ⟨-, h⟩ | ⟨id, row, hrow, htoken, h⟩
  · obtain ⟨hresponse, rfl⟩ := Alone.error h
    exact .refused hresponse rfl (List.Subset.refl _)
  have htoken : row.unsubscribeToken = trim text := of_decide_eq_true htoken
  change Alone exec W s (ite _ _ _) _ _ at h
  split_ifs at h with hended
  · obtain ⟨hresponse, rfl⟩ := h.value
    refine .alreadyUnsubscribed hoperation hresponse hrow htoken ?_ rfl rfl
    exact fun hactive => hended.resolve_left (not_not.2 hactive)
  · rw [not_or, not_not] at hended
    obtain ⟨w, _, _, -, hexec, h⟩ := Alone.query h
    rw [exec, hrow] at hexec
    cases hexec
    obtain ⟨hresponse, hsubscribers, hmade⟩ := sendTemplateEmail_alone h
    exact .unsubscribed hoperation hresponse hrow htoken hended.1 hsubscribers hmade

theorem confirm_effect {text : String} (hoperation : call.operation = .confirm text)
    (h : Alone exec (fun w => call.began ≤ w.now ∧ w.now ≤ call.ended) s (confirm cfg text)
      call.response s') : Effect cfg s call s' := by
  unfold confirm at h
  rcases findOne_alone h with ⟨-, h⟩ | ⟨id, row, hrow, htoken, h⟩
  · obtain ⟨hresponse, rfl⟩ := Alone.error h
    exact .refused hresponse rfl (List.Subset.refl _)
  have htoken : row.verificationToken = some (trim text) := of_decide_eq_true htoken
  obtain ⟨w, _, _, hw, hexec, h⟩ := Alone.query h
  cases hexec
  rcases Alone.failIf h with ⟨-, hresponse, rfl⟩ | ⟨hexpired, h⟩
  · exact .refused hresponse rfl (List.Subset.refl _)
  rcases Alone.failIf h with ⟨-, hresponse, rfl⟩ | ⟨-, h⟩
  · exact .refused hresponse rfl (List.Subset.refl _)
  change Alone exec _ s (ite _ _ _) _ _ at h
  split_ifs at h with hconfirmed
  · obtain ⟨hresponse, rfl⟩ := h.value
    exact .alreadyConfirmed hoperation hresponse hrow htoken hconfirmed.2 rfl rfl
  · obtain ⟨w', _, _, -, hexec, h⟩ := Alone.query h
    cases hexec
    obtain ⟨_, _, _, -, hexec, h⟩ := Alone.query h
    cases hexec
    obtain ⟨hresponse, hsubscribers, hmade⟩ := sendTemplateEmail_alone h
    refine .confirmed hoperation hresponse hrow htoken (fun time htime => ?_) hsubscribers hmade
    exact hw.1.trans (not_lt.1 fun hlt => hexpired ⟨time, htime, hlt⟩)

/-- **What a call changes.** -/
theorem step_effect (h : Step cfg s call s') : Effect cfg s call s' := by
  unfold Step at h
  cases hoperation : call.operation with
  | subscribe text ipAddress =>
    rw [hoperation] at h
    exact subscribe_effect hoperation h
  | unsubscribe text =>
    rw [hoperation] at h
    exact unsubscribe_effect hoperation h
  | confirm text =>
    rw [hoperation] at h
    exact confirm_effect hoperation h

end

end Newsletter
