/-
  Subscriptions have been opted in twice.

  Whoever is subscribed has subscribed, has confirmed this in time with the token that was made for
  it, and has not unsubscribed since.  A call to unsubscribe before the confirmation has no effect,
  although it succeeds.
-/
import NovaLabs.Newsletter.Calls
import NovaLabs.Lib.Run

namespace Newsletter

open Lib Process
open Backend (Uuid Time)

abbrev Trace := List (Event Server Call)

/-! ## The law -/

def Call.Succeeds (call : Call) : Prop := ∃ message, call.response = .ok (.message true message)

/-- A subscription for the e-mail that is not refused. -/
def Subscribes (cfg : Config) (email : String) (e : Event Server Call) : Prop :=
  ∃ text ipAddress response, e.inp.operation = .subscribe text ipAddress ∧
    cfg.normalize text = email ∧ e.inp.response = .ok response

def Confirms (verificationToken : String) (e : Event Server Call) : Prop :=
  ∃ text, e.inp.operation = .confirm text ∧ trim text = verificationToken ∧ e.inp.Succeeds

def Unsubscribes (unsubscribeToken : String) (e : Event Server Call) : Prop :=
  ∃ text, e.inp.operation = .unsubscribe text ∧ trim text = unsubscribeToken ∧ e.inp.Succeeds

/-- The confirmation begins within 24 hours of the subscription. -/
def ConfirmsInTime (subscription : Event Server Call) (verificationToken : String)
    (e : Event Server Call) : Prop :=
  Confirms verificationToken e ∧ e.inp.began ≤ subscription.inp.ended + lifetime

/-- The last subscription for the e-mail, the tokens that it has made, and the calls since. -/
structure LastSubscription (cfg : Config) (tr : Trace) (email : String)
    (subscription : Event Server Call) (verificationToken unsubscribeToken : String)
    (since : Trace) : Prop where
  split : ∃ before, tr = before ++ subscription :: since
  subscribes : Subscribes cfg email subscription
  made : subscription.post.made = unsubscribeToken :: verificationToken :: subscription.pre.made
  last : ∀ e ∈ since, ¬ Subscribes cfg email e

/-- The last subscription for the e-mail is confirmed, and not ended since. -/
def OptedIn (cfg : Config) (tr : Trace) (email : String) : Prop :=
  ∃ subscription verificationToken unsubscribeToken since,
    LastSubscription cfg tr email subscription verificationToken unsubscribeToken since ∧
    Since (ConfirmsInTime subscription verificationToken)
      (fun e => ¬ Unsubscribes unsubscribeToken e) since

structure DoubleOptIn (cfg : Config) (tr : Trace) (s : Server) : Prop where
  normalized : ∀ id row, s.subscribers.lookup id = some row → ∃ text, cfg.normalize text = row.email
  unique : ∀ email id id' row row', s.subscribers.lookup id = some row →
    s.subscribers.lookup id' = some row' → row.email = email → row'.email = email → id = id'
  optedIn : ∀ id row, s.subscribers.lookup id = some row → row.IsSubscribed →
    OptedIn cfg tr row.email
  once : tr.Pairwise fun e e' => ∀ verificationToken,
    ¬ (Confirms verificationToken e ∧ Confirms verificationToken e')
  kept : ∀ e ∈ tr, (∃ text ipAddress, e.inp.operation = .subscribe text ipAddress) →
    ∀ id row, e.pre.subscribers.lookup id = some row → row.IsSubscribed →
      e.post.subscribers.lookup id = some row

section
variable {cfg : Config} {tr : Trace} {s s' : Server} {call : Call} {id id' : Uuid}
  {row row' : NewsletterSubscriber} {e : Event Server Call} {token : String}

/-! ## Rows and the calls that they come from -/

/-- The row is pending, or has been confirmed and is not ended since unless it is deleted. -/
def Stage (subscription : Event Server Call) (verificationToken : String) (since : Trace)
    (row : NewsletterSubscriber) : Prop :=
  row.IsPending subscription.inp verificationToken row.unsubscribeToken ∨
  row.isActive ∧ row.verificationToken = none ∧ (row.deletedAt = none →
    Since (ConfirmsInTime subscription verificationToken)
      (fun e => ¬ Unsubscribes row.unsubscribeToken e) since)

/-- The row comes from the last subscription for its e-mail. -/
def Traced (cfg : Config) (tr : Trace) (row : NewsletterSubscriber) : Prop :=
  ∃ subscription verificationToken since,
    LastSubscription cfg tr row.email subscription verificationToken row.unsubscribeToken since ∧
    Stage subscription verificationToken since row

theorem LastSubscription.snoc {email verificationToken unsubscribeToken : String}
    {subscription : Event Server Call} {since : Trace}
    (h : LastSubscription cfg tr email subscription verificationToken unsubscribeToken since)
    (he : ¬ Subscribes cfg email e) :
    LastSubscription cfg (tr ++ [e]) email subscription verificationToken unsubscribeToken
      (since ++ [e]) where
  split := by
    obtain ⟨before, rfl⟩ := h.split
    exact ⟨before, by simp⟩
  subscribes := h.subscribes
  made := h.made
  last := by
    intro e' he'
    rcases List.mem_append.1 he' with he' | he'
    · exact h.last e' he'
    · rwa [List.mem_singleton.1 he']

/-- Other calls do not concern the row. -/
theorem Traced.snoc (h : Traced cfg tr row) (hsubscribes : ¬ Subscribes cfg row.email e)
    (hunsubscribes : row.isActive → row.deletedAt = none → ¬ Unsubscribes row.unsubscribeToken e) :
    Traced cfg (tr ++ [e]) row := by
  obtain ⟨subscription, verificationToken, since, hlast, hstage⟩ := h
  refine ⟨subscription, verificationToken, since ++ [e], hlast.snoc hsubscribes, ?_⟩
  rcases hstage with hpending | ⟨hactive, hnone, hsince⟩
  · exact Or.inl hpending
  · exact Or.inr ⟨hactive, hnone, fun hdeleted =>
      since_snoc.2 (Or.inr ⟨hsince hdeleted, hunsubscribes hactive hdeleted⟩)⟩

theorem not_subscribes_of_confirm {text email : String} (h : e.inp.operation = .confirm text) :
    ¬ Subscribes cfg email e := by
  rintro ⟨_, _, _, hsubscribe, -⟩
  cases h.symm.trans hsubscribe

theorem not_subscribes_of_unsubscribe {text email : String}
    (h : e.inp.operation = .unsubscribe text) : ¬ Subscribes cfg email e := by
  rintro ⟨_, _, _, hsubscribe, -⟩
  cases h.symm.trans hsubscribe

theorem Traced.snoc_confirm {text : String} (h : Traced cfg tr row)
    (hoperation : e.inp.operation = .confirm text) : Traced cfg (tr ++ [e]) row := by
  refine h.snoc (not_subscribes_of_confirm hoperation) fun _ _ => ?_
  rintro ⟨_, hunsubscribe, -⟩
  cases hoperation.symm.trans hunsubscribe

theorem Traced.snoc_unsubscribe {text : String} (h : Traced cfg tr row)
    (hoperation : e.inp.operation = .unsubscribe text)
    (htoken : row.isActive → row.deletedAt = none → row.unsubscribeToken ≠ trim text) :
    Traced cfg (tr ++ [e]) row := by
  refine h.snoc (not_subscribes_of_unsubscribe hoperation) fun hactive hdeleted => ?_
  rintro ⟨_, hunsubscribe, htoken', -⟩
  cases hoperation.symm.trans hunsubscribe
  exact htoken hactive hdeleted htoken'.symm

/-- A token is confirmed while the row is pending with it. -/
theorem Traced.isPending (h : Traced cfg tr row) (htoken : row.verificationToken = some token) :
    ∃ subscription since,
      LastSubscription cfg tr row.email subscription token row.unsubscribeToken since ∧
      row.IsPending subscription.inp token row.unsubscribeToken := by
  obtain ⟨subscription, verificationToken, since, hlast, hpending | ⟨-, hnone, -⟩⟩ := h
  · obtain rfl := Option.some.inj (hpending.verificationToken.symm.trans htoken)
    exact ⟨subscription, since, hlast, hpending⟩
  · rw [hnone] at htoken
    cases htoken

/-! ## Invariants -/

/-- The rows have different e-mails and tokens, and the tokens have been made. -/
structure Distinct (s : Server) : Prop where
  email : s.subscribers.Unique fun row => some row.email
  verificationToken : s.subscribers.Unique NewsletterSubscriber.verificationToken
  unsubscribeToken : s.subscribers.Unique fun row => some row.unsubscribeToken
  verificationMade : ∀ id row token, s.subscribers.lookup id = some row →
    row.verificationToken = some token → token ∈ s.made
  unsubscribeMade : ∀ id row, s.subscribers.lookup id = some row → row.unsubscribeToken ∈ s.made

namespace Distinct

theorem empty : Distinct {} where
  email := .empty
  verificationToken := .empty
  unsubscribeToken := .empty
  verificationMade id row token h := by cases h
  unsubscribeMade id row h := by cases h

theorem eq_of_email (h : Distinct s) (hrow : s.subscribers.lookup id = some row)
    (hrow' : s.subscribers.lookup id' = some row') (heq : row'.email = row.email) : id' = id :=
  h.email id' id row' row _ hrow' hrow rfl (congrArg some heq.symm)

theorem eq_of_unsubscribeToken (h : Distinct s) (hrow : s.subscribers.lookup id = some row)
    (hrow' : s.subscribers.lookup id' = some row')
    (heq : row'.unsubscribeToken = row.unsubscribeToken) : id' = id :=
  h.unsubscribeToken id' id row' row _ hrow' hrow rfl (congrArg some heq.symm)

/-- The row of the server has kept its e-mail and its tokens, or lost the first one. -/
theorem replace (h : Distinct s) (hsubscribers : s'.subscribers = s.subscribers.insert id row')
    (hrow : s.subscribers.lookup id = some row) (hemail : row'.email = row.email)
    (hunsubscribe : row'.unsubscribeToken = row.unsubscribeToken)
    (hverification : ∀ token, row'.verificationToken = some token →
      row.verificationToken = some token) (hmade : s'.made = s.made) :
    Distinct s' where
  email := by
    rw [hsubscribers]
    exact h.email.replace hrow fun _ ha => hemail ▸ ha
  verificationToken := by
    rw [hsubscribers]
    exact h.verificationToken.replace hrow hverification
  unsubscribeToken := by
    rw [hsubscribers]
    exact h.unsubscribeToken.replace hrow fun _ ha => hunsubscribe ▸ ha
  verificationMade id' row₁ token hrow₁ htoken := by
    rw [hsubscribers, Store.lookup_insert_ite] at hrow₁
    rw [hmade]
    split_ifs at hrow₁
    · cases hrow₁
      exact h.verificationMade id row token hrow (hverification token htoken)
    · exact h.verificationMade id' row₁ token hrow₁ htoken
  unsubscribeMade id' row₁ hrow₁ := by
    rw [hsubscribers, Store.lookup_insert_ite] at hrow₁
    rw [hmade]
    split_ifs at hrow₁
    · cases hrow₁
      exact hunsubscribe ▸ h.unsubscribeMade id row hrow
    · exact h.unsubscribeMade id' row₁ hrow₁

/-- The row has a new pair of tokens. -/
theorem insert {verificationToken : String} (h : Distinct s)
    (hemail : ∀ id' row', s.subscribers.lookup id' = some row' → row'.email = row.email → id' = id)
    (htoken : row.verificationToken = some verificationToken)
    (hverification : verificationToken ∉ s.made) (hunsubscribe : row.unsubscribeToken ∉ s.made)
    (hsubscribers : s'.subscribers = s.subscribers.insert id row)
    (hmade : s'.made = row.unsubscribeToken :: verificationToken :: s.made) : Distinct s' where
  email := by
    rw [hsubscribers]
    refine h.email.insert fun id' row' a hrow' ha ha' => hemail id' row' hrow' ?_
    exact Option.some.inj (ha'.trans ha.symm)
  verificationToken := by
    rw [hsubscribers]
    refine h.verificationToken.insert fun id' row' a hrow' ha ha' => ?_
    obtain rfl := Option.some.inj (htoken.symm.trans ha)
    exact absurd (h.verificationMade id' row' _ hrow' ha') hverification
  unsubscribeToken := by
    rw [hsubscribers]
    refine h.unsubscribeToken.insert fun id' row' a hrow' ha ha' => ?_
    rw [← Option.some.inj (ha'.trans ha.symm)] at hunsubscribe
    exact absurd (h.unsubscribeMade id' row' hrow') hunsubscribe
  verificationMade id' row₁ token hrow₁ htoken₁ := by
    rw [hsubscribers, Store.lookup_insert_ite] at hrow₁
    rw [hmade]
    split_ifs at hrow₁
    · cases hrow₁
      obtain rfl := Option.some.inj (htoken.symm.trans htoken₁)
      exact .tail _ (.head _)
    · exact .tail _ (.tail _ (h.verificationMade id' row₁ token hrow₁ htoken₁))
  unsubscribeMade id' row₁ hrow₁ := by
    rw [hsubscribers, Store.lookup_insert_ite] at hrow₁
    rw [hmade]
    split_ifs at hrow₁
    · cases hrow₁
      exact .head _
    · exact .tail _ (.tail _ (h.unsubscribeMade id' row₁ hrow₁))

theorem of_eq (h : Distinct s) (hsubscribers : s'.subscribers = s.subscribers)
    (hmade : s.made ⊆ s'.made) : Distinct s' where
  email := hsubscribers ▸ h.email
  verificationToken := hsubscribers ▸ h.verificationToken
  unsubscribeToken := hsubscribers ▸ h.unsubscribeToken
  verificationMade id row token hrow htoken :=
    hmade (h.verificationMade id row token (hsubscribers ▸ hrow) htoken)
  unsubscribeMade id row hrow := hmade (h.unsubscribeMade id row (hsubscribers ▸ hrow))

/-- The row that a subscription writes is the only one of the e-mail. -/
theorem eq_of_place (h : Distinct s)
    (hplace : (∃ old, s.subscribers.lookup id = some old ∧ old.email = row.email ∧
      ¬ old.IsSubscribed) ∨ (s.subscribers.lookup id = none ∧ s.Free row.email))
    (hrow' : s.subscribers.lookup id' = some row') (heq : row'.email = row.email) : id' = id := by
  rcases hplace with ⟨old, hold, hemail, -⟩ | ⟨-, hfree⟩
  · exact h.eq_of_email hold hrow' (heq.trans hemail.symm)
  · exact absurd heq (free_iff.1 hfree id' row' hrow')

theorem step (h : Distinct s) (he : Effect cfg s call s') : Distinct s' := by
  cases he with
  | refused _ hsubscribers hmade => exact h.of_eq hsubscribers hmade
  | subscribed _ _ _ hpending hverification hunsubscribe hmade hplace hsubscribers =>
    obtain rfl := hpending.unsubscribeToken
    refine h.insert (fun id' row' => h.eq_of_place hplace) hpending.verificationToken hverification
      (fun hmem => hunsubscribe (.tail _ hmem)) hsubscribers hmade
  | confirmed _ _ hrow _ _ hsubscribers hmade =>
    exact h.replace hsubscribers hrow rfl rfl (by rintro _ ⟨⟩) hmade
  | unsubscribed _ _ hrow _ _ hsubscribers hmade =>
    exact h.replace hsubscribers hrow rfl rfl (fun _ htoken => htoken) hmade
  | alreadyConfirmed _ _ _ _ _ hsubscribers hmade
  | alreadyUnsubscribed _ _ _ _ _ hsubscribers hmade =>
    exact h.of_eq hsubscribers (hmade ▸ List.Subset.refl _)

end Distinct

/-- Each row comes from calls. -/
theorem traced_step (hd : Distinct s)
    (ht : ∀ id row, s.subscribers.lookup id = some row → Traced cfg tr row)
    (he : Effect cfg s call s') (id₁ : Uuid) (row₁ : NewsletterSubscriber)
    (hrow₁ : s'.subscribers.lookup id₁ = some row₁) : Traced cfg (tr ++ [⟨s, call, s'⟩]) row₁ := by
  cases he with
  | refused hresponse hsubscribers =>
    rw [hsubscribers] at hrow₁
    refine (ht id₁ row₁ hrow₁).snoc ?_ fun _ _ => ?_
    · rintro ⟨_, _, _, -, -, hok⟩
      cases hresponse.symm.trans hok
    · rintro ⟨_, -, -, _, hok⟩
      cases hresponse.symm.trans hok
  | @subscribed text _ _ id row _ _ hoperation hresponse hemail hpending _ _ hmade hplace
      hsubscribers =>
    rw [hsubscribers, Store.lookup_insert_ite] at hrow₁
    split_ifs at hrow₁ with hid
    · cases hrow₁
      obtain rfl := hpending.unsubscribeToken
      refine ⟨_, _, [], ⟨⟨tr, rfl⟩, ?_, hmade, List.forall_mem_nil _⟩, Or.inl hpending⟩
      exact ⟨_, _, _, hoperation, hemail.symm, hresponse⟩
    · refine (ht id₁ row₁ hrow₁).snoc ?_ fun _ _ => ?_
      · rintro ⟨_, _, _, hoperation', hemail', -⟩
        cases hoperation.symm.trans hoperation'
        exact hid (hd.eq_of_place hplace hrow₁ (hemail'.symm.trans hemail.symm))
      · rintro ⟨_, hoperation', -⟩
        cases hoperation.symm.trans hoperation'
  | @confirmed text _ id row verifiedAt hoperation hresponse hrow htoken hexpires hsubscribers =>
    rw [hsubscribers, Store.lookup_insert_ite] at hrow₁
    split_ifs at hrow₁ with hid
    · cases hrow₁
      obtain ⟨subscription, since, hlast, hpending⟩ := (ht id row hrow).isPending htoken
      obtain ⟨time, htime, hexpiry⟩ := hpending.expires
      refine ⟨subscription, trim text, since ++ [_],
        hlast.snoc (not_subscribes_of_confirm hoperation), Or.inr ⟨rfl, rfl, fun _ => ?_⟩⟩
      refine since_snoc.2 (Or.inl ⟨⟨text, hoperation, rfl, _, hresponse⟩, ?_⟩)
      exact (hexpires time hexpiry).trans htime
    · exact (ht id₁ row₁ hrow₁).snoc_confirm hoperation
  | alreadyConfirmed hoperation _ _ _ _ hsubscribers =>
    rw [hsubscribers] at hrow₁
    exact (ht id₁ row₁ hrow₁).snoc_confirm hoperation
  | @unsubscribed text _ id row time hoperation hresponse hrow htoken hactive hsubscribers =>
    rw [hsubscribers, Store.lookup_insert_ite] at hrow₁
    split_ifs at hrow₁ with hid
    · cases hrow₁
      obtain ⟨subscription, verificationToken, since, hlast, hstage⟩ := ht id row hrow
      rcases hstage with hpending | ⟨-, hnone, -⟩
      · cases hpending.isActive.symm.trans hactive
      · exact ⟨subscription, verificationToken, since ++ [_],
          hlast.snoc (not_subscribes_of_unsubscribe hoperation), Or.inr ⟨hactive, hnone, nofun⟩⟩
    · refine (ht id₁ row₁ hrow₁).snoc_unsubscribe hoperation fun _ _ htoken₁ => hid ?_
      exact hd.eq_of_unsubscribeToken hrow hrow₁ (htoken₁.trans htoken.symm)
  | @alreadyUnsubscribed text _ id row hoperation hresponse hrow htoken hended hsubscribers =>
    rw [hsubscribers] at hrow₁
    refine (ht id₁ row₁ hrow₁).snoc_unsubscribe hoperation fun hactive hdeleted htoken₁ => ?_
    obtain rfl := hd.eq_of_unsubscribeToken hrow hrow₁ (htoken₁.trans htoken.symm)
    cases hrow.symm.trans hrow₁
    exact hended hactive hdeleted

/-! ## Tokens are confirmed once -/

/-- The token has been made, and no row has it. -/
def Used (s : Server) (token : String) : Prop :=
  token ∈ s.made ∧
    ∀ id row, s.subscribers.lookup id = some row → row.verificationToken ≠ some token

theorem Used.step (h : Used s token) (he : Effect cfg s call s') : Used s' token := by
  obtain ⟨hmade, hfree⟩ := h
  cases he with
  | refused _ hsubscribers hmade' => exact ⟨hmade' hmade, by rwa [hsubscribers]⟩
  | alreadyConfirmed _ _ _ _ _ hsubscribers hmade'
  | alreadyUnsubscribed _ _ _ _ _ hsubscribers hmade' =>
    exact ⟨hmade' ▸ hmade, by rwa [hsubscribers]⟩
  | subscribed _ _ _ hpending hverification _ hmade' _ hsubscribers =>
    refine ⟨hmade' ▸ .tail _ (.tail _ hmade), fun id row hrow htoken => ?_⟩
    rw [hsubscribers, Store.lookup_insert_ite] at hrow
    split_ifs at hrow
    · cases hrow
      obtain rfl := Option.some.inj (hpending.verificationToken.symm.trans htoken)
      exact hverification hmade
    · exact hfree id row hrow htoken
  | confirmed _ _ _ _ _ hsubscribers hmade' =>
    refine ⟨hmade' ▸ hmade, fun id row hrow htoken => ?_⟩
    rw [hsubscribers, Store.lookup_insert_ite] at hrow
    split_ifs at hrow
    · cases hrow
      cases htoken
    · exact hfree id row hrow htoken
  | unsubscribed _ _ hrow₀ _ _ hsubscribers hmade' =>
    refine ⟨hmade' ▸ hmade, fun id row hrow htoken => ?_⟩
    rw [hsubscribers, Store.lookup_insert_ite] at hrow
    split_ifs at hrow
    · cases hrow
      exact hfree _ _ hrow₀ htoken
    · exact hfree id row hrow htoken

/-- A token is confirmed before it is used, and used by that. -/
theorem used_of_confirms (hd : Distinct s)
    (ht : ∀ id row, s.subscribers.lookup id = some row → Traced cfg tr row)
    (he : Effect cfg s call s') (hconfirms : Confirms token ⟨s, call, s'⟩) :
    ¬ Used s token ∧ Used s' token := by
  obtain ⟨text, hconfirm, rfl, message, hsuccess⟩ := hconfirms
  cases he with
  | refused hresponse => cases hresponse.symm.trans hsuccess
  | subscribed hoperation | unsubscribed hoperation | alreadyUnsubscribed hoperation =>
    cases hoperation.symm.trans hconfirm
  | alreadyConfirmed hoperation _ hrow htoken hactive =>
    obtain ⟨_, _, -, hpending⟩ := (ht _ _ hrow).isPending htoken
    cases hpending.isActive.symm.trans hactive
  | @confirmed _ _ id row _ hoperation _ hrow htoken _ hsubscribers hmade =>
    cases hoperation.symm.trans hconfirm
    refine ⟨fun hused => hused.2 id row hrow htoken,
      hmade ▸ hd.verificationMade id row _ hrow htoken, fun id₁ row₁ hrow₁ htoken₁ => ?_⟩
    rw [hsubscribers, Store.lookup_insert_ite] at hrow₁
    split_ifs at hrow₁ with hid
    · cases hrow₁
      cases htoken₁
    · exact hid (hd.verificationToken id₁ id row₁ row _ hrow₁ hrow htoken₁ htoken)

/-! ## Runs -/

structure Invariant (cfg : Config) (tr : Trace) (s : Server) : Prop where
  distinct : Distinct s
  traced : ∀ id row, s.subscribers.lookup id = some row → Traced cfg tr row
  used : ∀ e ∈ tr, ∀ token, Confirms token e → Used s token
  once : tr.Pairwise fun e e' => ∀ token, ¬ (Confirms token e ∧ Confirms token e')

theorem invariant_nil : Invariant cfg [] {} where
  distinct := .empty
  traced id row h := by cases h
  used := List.forall_mem_nil _
  once := .nil

theorem Invariant.step (h : Invariant cfg tr s) (he : Effect cfg s call s') :
    Invariant cfg (tr ++ [⟨s, call, s'⟩]) s' where
  distinct := h.distinct.step he
  traced := traced_step h.distinct h.traced he
  used e' he' token hconfirms := by
    rcases List.mem_append.1 he' with he' | he'
    · exact (h.used e' he' token hconfirms).step he
    · obtain rfl := List.mem_singleton.1 he'
      exact (used_of_confirms h.distinct h.traced he hconfirms).2
  once := by
    refine List.pairwise_append.2 ⟨h.once, List.pairwise_singleton _ _, fun e he' e' hlast => ?_⟩
    obtain rfl := List.mem_singleton.1 hlast
    rintro token ⟨hearlier, hconfirms⟩
    exact (used_of_confirms h.distinct h.traced he hconfirms).1 (h.used e he' token hearlier)

theorem invariant_of_run (h : Run (Step cfg) {} tr s) : Invariant cfg tr s :=
  h.history (fun _ _ _ _ hinv hstep => hinv.step (step_effect hstep)) invariant_nil

theorem Traced.optedIn (h : Traced cfg tr row) (hsubscribed : row.IsSubscribed) :
    OptedIn cfg tr row.email := by
  obtain ⟨hactive, -, hdeleted⟩ := hsubscribed
  obtain ⟨subscription, verificationToken, since, hlast, hpending | ⟨-, -, hsince⟩⟩ := h
  · cases hpending.isActive.symm.trans hactive
  · exact ⟨subscription, verificationToken, _, since, hlast, hsince hdeleted⟩

/-- A subscription leaves the rows of subscribers as they are. -/
theorem Effect.keeps {text : String} {ipAddress : Option String} (he : Effect cfg s call s')
    (hsubscribe : call.operation = .subscribe text ipAddress)
    (hrow : s.subscribers.lookup id = some row) (hsubscribed : row.IsSubscribed) :
    s'.subscribers.lookup id = some row := by
  cases he with
  | refused _ hsubscribers => rwa [hsubscribers]
  | @subscribed _ _ _ id' _ _ _ _ _ _ _ _ _ _ hplace hsubscribers =>
    rw [hsubscribers, Store.lookup_insert_ite]
    split_ifs with hid
    · subst hid
      rcases hplace with ⟨old, hold, -, hended⟩ | ⟨hnone, -⟩
      · cases hold.symm.trans hrow
        exact absurd hsubscribed hended
      · cases hnone.symm.trans hrow
    · exact hrow
  | confirmed hoperation | alreadyConfirmed hoperation | unsubscribed hoperation
  | alreadyUnsubscribed hoperation => cases hoperation.symm.trans hsubscribe

end

/-- **Subscriptions are opted in twice.** -/
theorem double_opt_in (cfg : Config) (tr : Trace) (s : Server) (h : Run (Step cfg) {} tr s) :
    DoubleOptIn cfg tr s where
  normalized id row hrow := by
    obtain ⟨_, _, _, hlast, -⟩ := (invariant_of_run h).traced id row hrow
    obtain ⟨text, _, _, -, hemail, -⟩ := hlast.subscribes
    exact ⟨text, hemail⟩
  unique email id id' row row' hrow hrow' hemail hemail' :=
    (invariant_of_run h).distinct.eq_of_email hrow' hrow (hemail.trans hemail'.symm)
  optedIn id row hrow hsubscribed := ((invariant_of_run h).traced id row hrow).optedIn hsubscribed
  once := (invariant_of_run h).once
  kept := by
    rintro e he ⟨text, ipAddress, hsubscribe⟩ id row hrow hsubscribed
    exact (step_effect (h.step_of_mem he)).keeps hsubscribe hrow hsubscribed

/-! ### One subscriber -/

def plainConfig : Config where
  toLowerCase text := text
  getFullYear _ := 2026

def adaPending : NewsletterSubscriber :=
  { email := "ada@example.com"
    isVerified := false
    verifiedAt := none
    verificationToken := some "v"
    verificationTokenExpiresAt := some lifetime
    subscribedAt := 0
    isActive := false
    unsubscribeToken := "u"
    consentedAt := some 0
    ipAddress := none
    deletedAt := none }

def onceSubscribed : Server := Server.setSubscriber { made := ["u", "v"] } "a" adaPending

def onceConfirmed : Server := onceSubscribed.setSubscriber "a" (adaPending.confirmed 0)

/-- A call at time 0. -/
def Operation.call (operation : Operation) (response : Response) : Call :=
  { operation, began := 0, ended := 0, response := .ok response }

def adaSubscribes : Call :=
  (Operation.subscribe "ada@example.com" none).call (.subscriber "a" "ada@example.com" 0 false)

def adaUnsubscribes : Call :=
  (Operation.unsubscribe "u").call (.message true "You are already unsubscribed.")

def adaConfirms : Call :=
  (Operation.confirm "v").call (.message true "Subscription confirmed successfully.")

theorem step_adaSubscribes : Step plainConfig {} adaSubscribes onceSubscribed :=
  alone_of_aloneIn (show aloneIn _ _ [{}, {}, { token := "v" }, { token := "u" }, {}, { id := "a" },
    {}, { fails := true }] _ = _ by rfl) (by decide)

theorem step_adaUnsubscribes : Step plainConfig onceSubscribed adaUnsubscribes onceSubscribed :=
  alone_of_aloneIn (show aloneIn _ _ [{ row := some "a" }] _ = _ by rfl) (by decide)

theorem step_adaConfirms : Step plainConfig onceSubscribed adaConfirms onceConfirmed :=
  alone_of_aloneIn (show aloneIn _ _ [{ row := some "a" }, {}, {}, {}, {}, { fails := true }] _ = _
    by rfl) (by decide)

/-- A subscription that is confirmed. -/
theorem double_opt_in_ada : ∃ tr, Run (Step plainConfig) {} tr onceConfirmed ∧
    OptedIn plainConfig tr "ada@example.com" :=
  have hrun := (Run.nil.snoc step_adaSubscribes).snoc step_adaConfirms
  ⟨_, hrun, (double_opt_in plainConfig _ _ hrun).optedIn "a" (adaPending.confirmed 0)
    (Finmap.lookup_insert _) ⟨rfl, rfl, rfl⟩⟩

/-- A subscription that has been ended is confirmed. -/
theorem ended_then_confirmed : ¬ ∀ cfg tr s, Run (Step cfg) {} tr s →
    ∀ id row, s.subscribers.lookup id = some row → row.IsSubscribed →
      ∃ subscription verificationToken unsubscribeToken since,
        LastSubscription cfg tr row.email subscription verificationToken unsubscribeToken since ∧
        (∃ e ∈ since, ConfirmsInTime subscription verificationToken e) ∧
        ∀ e ∈ since, ¬ Unsubscribes unsubscribeToken e := by
  intro hclaim
  have hrun := ((Run.nil.snoc step_adaSubscribes).snoc step_adaUnsubscribes).snoc step_adaConfirms
  obtain ⟨subscription, verificationToken, unsubscribeToken, since, hlast, -, hnever⟩ :=
    hclaim plainConfig _ _ hrun "a" (adaPending.confirmed 0) (Finmap.lookup_insert _)
      ⟨rfl, rfl, rfl⟩
  obtain ⟨before, hsplit⟩ := hlast.split
  obtain ⟨_, _, _, hoperation, -, -⟩ := hlast.subscribes
  rcases before with _ | ⟨_, _ | ⟨_, _ | ⟨_, before⟩⟩⟩
  · obtain ⟨rfl, rfl⟩ := List.cons.inj hsplit
    obtain ⟨rfl, -⟩ := List.cons.inj hlast.made
    exact hnever _ (.head _) ⟨"u", rfl, by decide, _, rfl⟩
  · obtain ⟨rfl, -⟩ := List.cons.inj (List.cons.inj hsplit).2
    cases hoperation
  · obtain ⟨rfl, -⟩ := List.cons.inj (List.cons.inj (List.cons.inj hsplit).2).2
    cases hoperation
  · simp at hsplit

end Newsletter
