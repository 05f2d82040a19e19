/-
  The authority over the administrative settings, over whole runs.

  Some setters check the stored admin.  The others check that the address passed to them as the
  admin has authorised the call, without a look at the stored admin; that of the royalties checks
  nobody.
-/
import NovaLabs.ManageHub.Interface

namespace ManageHub

open Lib Soroban

variable {me : Address}

/-! ## Settings -/

/-- The kinds of keys that hold the settings. -/
@[reducible] def settingKinds : List Kind :=
  [.admin, .usdcContract, .tier, .tierPromotion, .pauseConfig, .renewalConfig, .stakingConfig,
    .upgradeConfig]

/-- A value, without the redemptions of a promotion. -/
def setting : (k : DataKey) → Val k → Val k
  | .tierPromotion _, promotion => { promotion with currentRedemptions := 0 }
  | _, v => v

/-- The settings are the same. -/
def SameSettings (s s' : State) : Prop :=
  ∀ k, k.kind ∈ settingKinds → (s'.get k).map (setting k) = (s.get k).map (setting k)

/-- The stored admin has authorised the call. -/
def AdminAuthorises (env : HubEnv me) (s : State) : Prop :=
  ∃ admin, s.get .admin = some admin ∧ admin ∈ env.auths

/-- The token's current owner has authorised the call. -/
def OwnerAuthorises (env : HubEnv me) (s : State) (id : TokenId) : Prop :=
  ∃ token, s.get (.token id) = some token ∧ token.user ∈ env.auths

/-- What changes a setting is authorised by the admin stored before, and what changes the royalties
    of a token by that admin or the token's owner. -/
structure Governed (ev : Ev me) : Prop where
  stored : (ev.pre.state.get .admin).isSome
  settings : ¬ SameSettings ev.pre.state ev.post.state → AdminAuthorises ev.inp.env ev.pre.state
  royalty : ∀ id, ev.post.state.get (.royalty id) ≠ ev.pre.state.get (.royalty id) →
    AdminAuthorises ev.inp.env ev.pre.state ∨ OwnerAuthorises ev.inp.env ev.pre.state id

section
variable {s s' s'' : State} {k : DataKey} {v : Val k}

theorem SameSettings.rfl : SameSettings s s := fun _ _ => Eq.refl _

theorem SameSettings.trans (h : SameSettings s s') (h' : SameSettings s' s'') :
    SameSettings s s'' := fun k hk => (h' k hk).trans (h k hk)

theorem sameSettings_of_only {ks : List Kind} (h : SameOff ks s s')
    (hk : ∀ k ∈ settingKinds, k ∉ ks) : SameSettings s s' := fun k hm =>
  congrArg (Option.map (setting k)) (h k (hk _ hm))

/-- All of a value counts, unless it is a promotion. -/
theorem map_setting (hk : k.kind ≠ .tierPromotion) (o : Option (Val k)) :
    o.map (setting k) = o := by
  cases k with
  | tierPromotion => exact absurd (Eq.refl _) hk
  | _ => exact congrFun Option.map_id o

/-- The value written is the one that was there. -/
theorem sameSettings_put_iff (hk : k.kind ∈ settingKinds) (hp : k.kind ≠ .tierPromotion) :
    SameSettings s (s.put k v) ↔ s.get k = some v := by
  constructor
  · intro h
    rw [← map_setting hp (s.get k), ← h k hk, map_setting hp, get_put_self]
  · intro h k' _
    by_cases he : k' = k
    · subst he
      rw [get_put_self, h]
    · rw [get_put_ne he]

theorem sameSettings_putTier {id : String} {tier tier' : SubscriptionTier}
    (h : s.get (.tier id) = some (.subscription tier)) :
    SameSettings s (s.put (.tier id) (.subscription tier')) ↔ tier' = tier := by
  rw [sameSettings_put_iff (k := .tier id) (by simp) (by simp), h]
  simp [eq_comm]

end

/-! ## Unguarded calls -/

/-- The tier after `deactivate_tier`. -/
def SubscriptionTier.deactivated (tier : SubscriptionTier) (now : ℕ) : SubscriptionTier :=
  { tier with
    isActive := false
    updatedAt := now }

/-- The call changes a setting, with the authorisation of the address passed to it as the admin. -/
def Unguarded (env : HubEnv me) (s : State) : Call → Prop
  | .setAdmin admin => admin ∈ env.auths ∧ s.get .admin ≠ some admin
  | .setUsdcContract admin usdcAddress =>
    admin ∈ env.auths ∧ s.get .usdcContract ≠ some usdcAddress
  | .createTier admin params =>
    admin ∈ env.auths ∧ 0 ≤ params.price ∧ 0 ≤ params.annualPrice ∧ s.get (.tier params.id) = none
  | .updateTier admin params =>
    admin ∈ env.auths ∧ ∃ tier, s.get (.tier params.id) = some (.subscription tier) ∧
      (∀ price ∈ params.price, 0 ≤ price) ∧ (∀ price ∈ params.annualPrice, 0 ≤ price) ∧
      tier.update params env.now ≠ tier
  | .deactivateTier admin id =>
    admin ∈ env.auths ∧ ∃ tier, s.get (.tier id) = some (.subscription tier) ∧
      tier.deactivated env.now ≠ tier
  | .createPromotion admin params =>
    admin ∈ env.auths ∧ (∃ tier, s.get (.tier params.tierId) = some (.subscription tier)) ∧
      params.discountPercent ≤ 100 ∧ params.startDate < params.endDate ∧
      s.get (.tierPromotion params.promoId) = none
  | _ => False

/-- The call changes the royalties of the token. -/
def SetsRoyalty (s : State) (id : TokenId) (c : Call) : Prop :=
  ∃ recipients, c = .setRoyalty id recipients ∧
    recipients.foldl (fun total r => saturatingAdd 32 total r.percentage) 0 ≤ 10000 ∧
    s.get (.royalty id) ≠ some ⟨id, recipients, true⟩

/-- The admin authorises each call that changes a setting without a look at the stored admin, and
    the admin or the owner each call that changes the royalties of a token. -/
structure Guarded (ev : Ev me) : Prop where
  settings : Unguarded ev.inp.env ev.pre.state ev.inp.call →
    AdminAuthorises ev.inp.env ev.pre.state
  royalty : ∀ id, SetsRoyalty ev.pre.state id ev.inp.call →
    AdminAuthorises ev.inp.env ev.pre.state ∨ OwnerAuthorises ev.inp.env ev.pre.state id

/-! ## What the unguarded setters do -/

section
variable {env : HubEnv me} {s s' : State} {u : Unit} {admin usdcAddress : Address} {id : String}

theorem setUsdcContract_returns :
    Returns (setUsdcContract env admin usdcAddress) s u s' ↔
      admin ∈ env.auths ∧ s' = s.put .usdcContract usdcAddress := by
  simp only [setUsdcContract, returns_requireAuth_bind, returns_store]

/-- Some outcome of the code changes a setting. -/
def Changes (x : Fn Unit) (s : State) : Prop := ∃ s', Returns x s () s' ∧ ¬ SameSettings s s'

/-- Code that writes a setting, where it returns. -/
theorem changes_of_returns {x : Fn Unit} {p : Prop} {k : DataKey} {v : Val k}
    (hx : ∀ u s', Returns x s u s' ↔ p ∧ s' = s.put k v) (hk : k.kind ∈ settingKinds)
    (hp : k.kind ≠ .tierPromotion) : Changes x s ↔ p ∧ s.get k ≠ some v := by
  simp only [Changes, hx, and_assoc, exists_and_left, exists_eq_left, sameSettings_put_iff hk hp,
    ne_eq]

theorem setAdmin_changes : Changes (setAdmin env admin) s ↔ Unguarded env s (.setAdmin admin) :=
  changes_of_returns (fun _ _ => setAdmin_returns) (by decide) (by decide)

theorem setUsdcContract_changes :
    Changes (setUsdcContract env admin usdcAddress) s ↔
      Unguarded env s (.setUsdcContract admin usdcAddress) :=
  changes_of_returns (fun _ _ => setUsdcContract_returns) (by decide) (by decide)

/-- What was missing before is a change. -/
theorem not_sameSettings_of_none (hk : k.kind ∈ settingKinds) (hn : s.get k = none)
    (hs : (s'.get k).isSome) : ¬ SameSettings s s' := fun h => by
  have he := congrArg Option.isSome (h k hk)
  rw [Option.isSome_map, hs, hn] at he
  cases he

theorem createTier_changes {params : CreateTierParams} :
    Changes (createTier env admin params) s ↔ Unguarded env s (.createTier admin params) := by
  simp only [Changes, createTier, returns_requireAuth_bind, returns_failIf_bind, returns_load_bind,
    returns_store_bind, returns_store, Unguarded, not_lt, Option.not_isSome_iff_eq_none]
  constructor
  · rintro ⟨s', ⟨hauth, hp, ha, hn, rfl⟩, -⟩
    exact ⟨hauth, hp, ha, hn⟩
  · rintro ⟨hauth, hp, ha, hn⟩
    refine ⟨_, ⟨hauth, hp, ha, hn, rfl⟩, not_sameSettings_of_none
      (k := .tier params.id) (by simp) hn ?_⟩
    rw [get_put_ne (by simp), get_put_ne (by simp), get_put_self, Option.isSome_some]

theorem updateTier_changes {params : UpdateTierParams} :
    Changes (updateTier env admin params) s ↔ Unguarded env s (.updateTier admin params) := by
  simp only [Changes, updateTier, returns_requireAuth_bind, returns_failIf_bind, returns_store,
    returns_bind_of_reads fun _ _ => getTier_returns, Unguarded, Option.any_eq_true,
    decide_eq_true_eq, not_exists, not_and, not_lt]
  constructor
  · rintro ⟨s', ⟨hauth, tier, ht, hp, ha, rfl⟩, hs⟩
    exact ⟨hauth, tier, ht, hp, ha, fun he => hs ((sameSettings_putTier ht).2 he)⟩
  · rintro ⟨hauth, tier, ht, hp, ha, hne⟩
    exact ⟨_, ⟨hauth, tier, ht, hp, ha, rfl⟩, fun hs => hne ((sameSettings_putTier ht).1 hs)⟩

theorem deactivateTier_changes :
    Changes (deactivateTier env admin id) s ↔ Unguarded env s (.deactivateTier admin id) := by
  simp only [Changes, deactivateTier, returns_requireAuth_bind, returns_store,
    returns_bind_of_reads fun _ _ => getTier_returns, Unguarded]
  constructor
  · rintro ⟨s', ⟨hauth, tier, ht, rfl⟩, hs⟩
    exact ⟨hauth, tier, ht, fun he => hs ((sameSettings_putTier ht).2 he)⟩
  · rintro ⟨hauth, tier, ht, hne⟩
    exact ⟨_, ⟨hauth, tier, ht, rfl⟩, fun hs => hne ((sameSettings_putTier ht).1 hs)⟩

theorem createPromotion_changes {params : CreatePromotionParams} :
    Changes (createPromotion env admin params) s ↔
      Unguarded env s (.createPromotion admin params) := by
  simp only [Changes, createPromotion, ignore, bind_assoc, pure_bind, returns_requireAuth_bind,
    returns_failIf_bind, returns_load_bind, returns_store_bind, returns_store,
    returns_bind_of_reads fun _ _ => getTier_returns, Unguarded, not_lt, not_le,
    Option.not_isSome_iff_eq_none]
  constructor
  · rintro ⟨s', ⟨hauth, tier, ht, hd, hdate, hn, rfl⟩, -⟩
    exact ⟨hauth, ⟨tier, ht⟩, hd, hdate, hn⟩
  · rintro ⟨hauth, ⟨tier, ht⟩, hd, hdate, hn⟩
    refine ⟨_, ⟨hauth, tier, ht, hd, hdate, hn, rfl⟩, not_sameSettings_of_none
      (k := .tierPromotion params.promoId) (by simp) hn ?_⟩
    rw [get_put_ne (by simp), get_put_self, Option.isSome_some]

end

/-! ## What the other calls do -/

section
variable {env : HubEnv me} {s s' : State} {u : Unit} {n m : ℤ}

/-- A redemption counts, and changes nothing else of the promotion. -/
theorem redeemPromotion_settings {promoId : String} {promotion : TierPromotion}
    (hp : s.get (.tierPromotion promoId) = some promotion)
    (h : Returns (redeemPromotion env promoId n promotion) s m s') : SameSettings s s' := by
  have hcount (price : Fn ℤ) [Only [] price] (hr : Returns (do
      let finalPrice ← price
      let currentRedemptions ← checked 32 (promotion.currentRedemptions + 1)
      store (.tierPromotion promoId) { promotion with currentRedemptions }
      return finalPrice) s m s') : SameSettings s s' := by
    obtain ⟨finalPrice, s₁, hf, hc⟩ := returns_bind.1 hr
    obtain rfl := Only.eq_of_returns hf
    simp only [returns_bind, returns_checked, returns_store, returns_pure] at hc
    obtain ⟨_, _, ⟨rfl, -, rfl⟩, _, _, rfl, -, rfl⟩ := hc
    intro k hk
    by_cases he : k = .tierPromotion promoId
    · subst he
      rw [get_put_self, hp]
      rfl
    · rw [get_put_ne he]
  simp only [redeemPromotion, returns_failIf_bind, returns_ite] at h
  rcases h with ⟨-, -, ⟨-, h⟩ | ⟨-, h⟩⟩
  · exact hcount _ h
  · exact hcount _ h

theorem searchPromotions_settings {tierId promoCode : String} {promoList : List String}
    (h : Returns (searchPromotions env tierId promoCode n promoList) s m s') :
    SameSettings s s' := by
  induction promoList with
  | nil => exact absurd h returns_throw
  | cons promoId promoList ih =>
    rw [searchPromotions, returns_load_bind] at h
    cases hf : (s.get (.tierPromotion promoId)).filter
        fun p => p.tierId = tierId ∧ p.promoCode = promoCode with
    | none =>
      rw [hf] at h
      exact ih h
    | some promotion =>
      rw [hf] at h
      exact redeemPromotion_settings (Option.filter_eq_some_iff.1 hf).1 h

theorem createSubscriptionWithTier_settings {id tierId : String} {user paymentToken : Address}
    {billingCycle : BillingCycle} {promoCode : Option String}
    (h : Returns (createSubscriptionWithTier env id user paymentToken tierId billingCycle promoCode)
      s u s') : SameSettings s s' := by
  simp only [createSubscriptionWithTier, returns_requireAuth_bind, returns_load_bind,
    returns_failIf_bind, returns_bind_of_reads fun _ _ => getTier_returns] at h
  obtain ⟨-, -, tier, -, -, h⟩ := h
  rw [returns_bind] at h
  obtain ⟨finalPrice, s₁, hf, h⟩ := h
  have h₁ : SameSettings s s₁ := by
    cases promoCode with
    | none =>
      obtain ⟨-, rfl⟩ := returns_pure.1 hf
      exact .rfl
    | some promoCode =>
      rw [Option.elim_some, applyPromotion, returns_load_bind] at hf
      exact searchPromotions_settings hf
  have hks : ∀ k ∈ settingKinds,
      k ∉ [Kind.subscription, .tierAnalytics, .attendanceLog, .attendanceLogsByUser] := by decide
  exact h₁.trans (sameSettings_of_only (Only.returns h) hks)

theorem setRoyalty_returns {tokenId : TokenId} {recipients : List RoyaltyRecipient} :
    Returns (setRoyalty tokenId recipients) s u s' ↔
      recipients.foldl (fun total r => saturatingAdd 32 total r.percentage) 0 ≤ 10000 ∧
        s' = s.put (.royalty tokenId) ⟨tokenId, recipients, true⟩ := by
  simp only [setRoyalty, returns_failIf_bind, returns_store, not_lt]

theorem ignoreAuthAdmin_returns :
    Returns (ignore (authAdmin env)) s u s' ↔ AdminAuthorises env s ∧ s' = s := by
  simp only [returns_ignore, authAdmin_returns, AdminAuthorises, exists_and_right]

end

/-! ## Steps -/

section
variable {w w' : World} {i : Input me}

theorem Step.not_sameSettings_iff (h : Step w i w') {x : Fn Unit}
    (he : entryPoint i.env i.call = liftM x) :
    ¬ SameSettings w.state w'.state ↔ Changes x w.state :=
  h.effect_iff_returns he (¬ SameSettings w.state ·) (not_not.2 .rfl)

/-- A call that checks its caller first. -/
theorem Step.sameSettings_of_check (h : Step w i w') {check : Fn Unit} {f : Unit → Fn Unit}
    {p : Prop} (hx : ∀ u s', Returns check w.state u s' ↔ p ∧ s' = w.state)
    (he : entryPoint i.env i.call = liftM (check >>= f)) :
    p ∨ SameSettings w.state w'.state :=
  h.of_returns he (P := (p ∨ SameSettings w.state ·)) (Or.inr .rfl)
    fun _ hr => Or.inl ((returns_bind_of_checks hx).1 hr).1

/-- A call that writes no settings. -/
theorem Step.sameSettings (h : Step w i w') (hk : ∀ k ∈ settingKinds, k ∉ i.call.writes) :
    SameSettings w.state w'.state :=
  sameSettings_of_only (fun _ hm => h.frame hm) hk

theorem Step.settings_iff (h : Step w i w') :
    AdminAuthorises i.env w.state ∨
      (¬ SameSettings w.state w'.state ↔ Unguarded i.env w.state i.call) := by
  have hsame (hs : SameSettings w.state w'.state) : ¬ SameSettings w.state w'.state ↔ False :=
    iff_of_false (not_not.2 hs) id
  cases hc : i.call with
  | setAdmin admin =>
    exact Or.inr ((h.not_sameSettings_iff (by rw [hc]; rfl)).trans setAdmin_changes)
  | setUsdcContract admin usdcAddress =>
    exact Or.inr ((h.not_sameSettings_iff (by rw [hc]; rfl)).trans setUsdcContract_changes)
  | createTier admin params =>
    exact Or.inr ((h.not_sameSettings_iff (by rw [hc]; rfl)).trans createTier_changes)
  | updateTier admin params =>
    exact Or.inr ((h.not_sameSettings_iff (by rw [hc]; rfl)).trans updateTier_changes)
  | deactivateTier admin id =>
    exact Or.inr ((h.not_sameSettings_iff (by rw [hc]; rfl)).trans deactivateTier_changes)
  | createPromotion admin params =>
    exact Or.inr ((h.not_sameSettings_iff (by rw [hc]; rfl)).trans createPromotion_changes)
  | setRenewalConfig grace notice enabled =>
    exact (h.sameSettings_of_check (fun _ _ => ignoreAuthAdmin_returns) (by rw [hc]; rfl)).imp id
      hsame
  | setPauseConfig admin config =>
    exact (h.sameSettings_of_check (fun _ _ => requireAdmin_returns) (by rw [hc]; rfl)).imp
      (fun ha => ⟨admin, ha⟩) hsame
  | setUpgradeConfig admin config =>
    exact (h.sameSettings_of_check (fun _ _ => requireStoredAdmin_returns) (by rw [hc]; rfl)).imp
      (fun ha => ⟨admin, ha⟩) hsame
  | setStakingConfig admin config =>
    exact (h.sameSettings_of_check (fun _ _ => requireStoredAdmin_returns) (by rw [hc]; rfl)).imp
      (fun ha => ⟨admin, ha⟩) hsame
  | createStakingTier admin tier =>
    exact (h.sameSettings_of_check (fun _ _ => requireStoredAdmin_returns) (by rw [hc]; rfl)).imp
      (fun ha => ⟨admin, ha⟩) hsame
  | createSubscriptionWithTier =>
    refine Or.inr (hsame (by_contra fun hn => ?_))
    obtain ⟨s', hr, hn⟩ := (h.not_sameSettings_iff (by rw [hc]; rfl)).1 hn
    exact hn (createSubscriptionWithTier_settings hr)
  | _ => exact Or.inr (hsame (h.sameSettings (by rw [hc]; simp)))

/-- The royalties of a token change by `set_royalty` only. -/
theorem Step.royalty_iff (h : Step w i w') {id : TokenId} :
    w'.state.get (.royalty id) ≠ w.state.get (.royalty id) ↔ SetsRoyalty w.state id i.call := by
  cases hc : i.call with
  | setRoyalty tokenId recipients =>
    have hp : (∃ s', Returns (setRoyalty tokenId recipients) w.state () s') ↔
        recipients.foldl (fun total r => saturatingAdd 32 total r.percentage) 0 ≤ 10000 := by
      simp only [setRoyalty_returns, exists_and_left, exists_eq, and_true]
    rw [h.effect_iff (by rw [hc]; rfl) (·.get (.royalty id) ≠ w.state.get (.royalty id))
      (q := tokenId = id ∧ w.state.get (.royalty id) ≠ some ⟨tokenId, recipients, true⟩)
      (not_not.2 rfl) hp fun s' hr => ?_]
    · constructor
      · rintro ⟨⟨rfl, hne⟩, hsum⟩
        exact ⟨recipients, rfl, hsum, hne⟩
      · rintro ⟨_, he, hsum, hne⟩
        cases he
        exact ⟨⟨rfl, hne⟩, hsum⟩
    · rw [(setRoyalty_returns.1 hr).2]
      by_cases he : id = tokenId
      · subst he
        rw [get_put_self, and_iff_right rfl, ne_comm]
      · rw [get_put_ne (by simpa using he)]
        exact iff_of_false (not_not.2 rfl) fun hq => he hq.1.symm
  | _ =>
    refine iff_of_false (not_not.2 (h.frame (by rw [hc]; simp))) ?_
    rintro ⟨_, he, -⟩
    cases he

/-- The admin is never removed. -/
theorem Step.admin_isSome (h : Step w i w') (ha : (w.state.get .admin).isSome) :
    (w'.state.get .admin).isSome := by
  cases hc : i.call with
  | setAdmin admin =>
    refine h.of_returns (by rw [hc]; rfl) (P := fun s' => (s'.get .admin).isSome) ha fun s' hr => ?_
    rw [(setAdmin_returns.1 hr).2, get_put_self, Option.isSome_some]
  | _ => rwa [h.frame (k := .admin) (by rw [hc]; simp)]

/-- The step lemma: a step keeps to the authority exactly if it is guarded. -/
theorem Step.governed (h : Step w i w') (ha : (w.state.get .admin).isSome) :
    Governed ⟨w, i, w'⟩ ↔ Guarded ⟨w, i, w'⟩ := by
  constructor
  · rintro ⟨-, hs, hr⟩
    refine ⟨fun hu => ?_, fun id hset => hr id (h.royalty_iff.2 hset)⟩
    rcases h.settings_iff with hadm | hiff
    · exact hadm
    · exact hs (hiff.2 hu)
  · rintro ⟨hs, hr⟩
    refine ⟨ha, fun hn => ?_, fun id hne => hr id (h.royalty_iff.1 hne)⟩
    rcases h.settings_iff with hadm | hiff
    · exact hadm
    · exact hs (hiff.1 hn)

end

/-! ## Runs -/

/-- **After an admin has been stored, each change of a setting is authorised by the stored admin,
    and each change of royalties by that admin or the owner, exactly if each call that changes them
    unguarded is.** -/
theorem governed_iff {w w' : World} {tr : List (Ev me)} (ha : (w.state.get .admin).isSome)
    (h : Run Step w tr w') : (∀ ev ∈ tr, Governed ev) ↔ ∀ ev ∈ tr, Guarded ev := by
  refine forall₂_congr fun ev hev => ?_
  obtain ⟨tr₁, tr₂, rfl⟩ := List.append_of_mem hev
  have hadm : (ev.pre.state.get .admin).isSome :=
    h.split.1.invariant' (P := fun w => (w.state.get .admin).isSome)
      (fun _ _ _ hp hs => hs.admin_isSome hp) ha
  exact h.split.2.1.governed hadm

/-- A call at time `now` that `⟨2⟩` alone authorises. -/
def strangerCall (now : ℕ) (call : Call) : Input ⟨0⟩ :=
  { hubCall now call with
    env :=
      { now := now
        auths := {⟨2⟩}
        me_notMem := by decide
        sequence := now } }

/-- A stranger, who is neither the admin nor the owner, tries to set the renewals. -/
theorem governed_iff_refused : ∃ ev ∈ eventsFrom next (next start (hubCall 1 (.setAdmin ⟨1⟩)))
    [strangerCall 2 (.setRenewalConfig 0 0 false)], Governed ev := by
  refine ⟨_, .head _, (governed_iff (by decide) (run_calls
    [strangerCall 2 (.setRenewalConfig 0 0 false)] (by decide))).2 (fun ev hev => ?_) _ (.head _)⟩
  obtain rfl := List.mem_singleton.1 hev
  exact ⟨False.elim, fun _ ⟨_, hc, _⟩ => by cases hc⟩

/-- A stranger becomes the admin, by the stranger's own authorisation. -/
theorem governed_fails : ¬ ∀ (tr₀ tr : List (Ev ⟨0⟩)) (w w' : World), Run Step start tr₀ w →
    (w.state.get .admin).isSome → Run Step w tr w' → ∀ ev ∈ tr, Governed ev := by
  intro h
  have hg := h _ _ _ _ (run_calls [hubCall 1 (.setAdmin ⟨1⟩)] (by decide)) (by decide)
    (run_calls [strangerCall 2 (.setAdmin ⟨2⟩)] (by decide)) _ (.head _)
  obtain ⟨admin, ha, hauth⟩ := hg.settings fun hs => absurd (hs .admin (by decide)) (by decide)
  obtain rfl : (⟨1⟩ : Address) = admin := Option.some.inj ha
  exact absurd hauth (by decide)

end ManageHub
