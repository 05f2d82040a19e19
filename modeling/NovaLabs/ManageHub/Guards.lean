/-
  Guards of manage_hub (guards.rs), its admin checks, and the emergency pause
  (membership_token.rs).
-/
import NovaLabs.ManageHub.Types

namespace ManageHub

open Lib Soroban

/-! ## The pause guard -/

/-- The pause is in effect at time `now`: it is on, and its automatic end is not reached. -/
def EmergencyPauseState.inEffect (state : EmergencyPauseState) (now : ℕ) : Bool :=
  state.isPaused && !state.autoUnpauseAt.any (· ≤ now)

/-- `PauseGuard::is_paused`, and the query `is_contract_paused`. -/
def isContractPaused (s : State) (now : ℕ) : Bool :=
  match s.get .emergencyPauseState with
  | some state => state.inEffect now
  | none => false

/-- `PauseGuard::is_token_paused`, and the query `is_token_paused`. -/
def isTokenPaused (s : State) (tokenId : TokenId) : Bool :=
  match s.get (.tokenPaused tokenId) with
  | some state => state.isPaused
  | none => false

/-- The time lock of the emergency pause is still active. -/
def timeLockActive (s : State) (now : ℕ) : Bool :=
  match s.get .emergencyPauseState with
  | some state => state.timeLockUntil.any (now < ·)
  | none => false

section
variable {me : Address} (env : HubEnv me)

def requireNotPaused : Fn Unit := do
  failIf (isContractPaused (← get) env.now) PauseError.contractPaused.toError

def requireTokenNotPaused (tokenId : TokenId) : Fn Unit := do
  failIf (isTokenPaused (← get) tokenId) PauseError.tokenOpsPaused.toError

def requireTimelockExpired : Fn Unit := do
  failIf (timeLockActive (← get) env.now) PauseError.timeLockActive.toError

/-- `get_pause_state`. -/
def getPauseState : Fn EmergencyPauseState := do
  return (← load .emergencyPauseState).getD
    { isPaused := false, pausedAt := none, pausedBy := none, reason := none, autoUnpauseAt := none,
      timeLockUntil := none, pauseCount := 0 }

/-! ## Admin checks -/

/-- The stored admin. -/
def getAdmin : Fn Address := do
  okOr (← load .admin) .adminNotSet

/-- The stored admin, who must have authorised the call. -/
def authAdmin : Fn Address := do
  let admin ← getAdmin
  requireAuth env.toEnv admin
  return admin

/-- `require_admin` of the subscriptions, and the checks of the emergency pause: `caller` is the
    stored admin, and has authorised the call. -/
def requireAdmin (caller : Address) : Fn Unit := do
  let admin ← getAdmin
  failIf (caller ≠ admin) .unauthorized
  requireAuth env.toEnv caller

/-- The checks of the staking and upgrade configuration: the stored admin has authorised the call,
    and `admin` is the stored admin. -/
def requireStoredAdmin (admin : Address) : Fn Unit := do
  let storedAdmin ← getAdmin
  requireAuth env.toEnv storedAdmin
  failIf (storedAdmin ≠ admin) .unauthorized

/-- The checks of the upgrades that are for the admin only. -/
def requireAuthThenAdmin (admin : Address) : Fn Unit := do
  requireAuth env.toEnv admin
  let storedAdmin ← getAdmin
  failIf (storedAdmin ≠ admin) .unauthorized

def setAdmin (admin : Address) : Fn Unit := do
  requireAuth env.toEnv admin
  store .admin admin

/-! ## The emergency pause -/

def emergencyPause (admin : Address) (reason : Option String)
    (autoUnpauseAfter timeLockDuration : Option ℕ) : Fn Unit := do
  requireAdmin env admin
  let state ← getPauseState
  store .emergencyPauseState
    { isPaused := true
      pausedAt := some env.now
      pausedBy := some admin
      reason
      autoUnpauseAt := autoUnpauseAfter.bind (checkedAdd64 env.now)
      timeLockUntil := timeLockDuration.bind (checkedAdd64 env.now)
      -- `saturating_add`
      pauseCount := min (state.pauseCount + 1) (2 ^ 32 - 1) }

def emergencyUnpause (admin : Address) : Fn Unit := do
  requireAdmin env admin
  requireTimelockExpired env
  let state ← getPauseState
  store .emergencyPauseState
    { state with
      isPaused := false
      pausedAt := none
      pausedBy := none
      reason := none
      autoUnpauseAt := none
      timeLockUntil := none }

/-- The token, which must exist. -/
def loadToken (tokenId : TokenId) : Fn MembershipToken := do
  okOr (← load (.token tokenId)) .tokenNotFound

def pauseTokenOperations (admin : Address) (tokenId : TokenId) (reason : Option String) :
    Fn Unit := do
  requireAdmin env admin
  ignore (loadToken tokenId)
  store (.tokenPaused tokenId) { isPaused := true, pausedAt := env.now, pausedBy := admin, reason }

def unpauseTokenOperations (admin : Address) (tokenId : TokenId) : Fn Unit := do
  requireAdmin env admin
  ignore (loadToken tokenId)
  store (.tokenPaused tokenId)
    { isPaused := false, pausedAt := env.now, pausedBy := admin, reason := none }

/-! ## What the guards check -/

section
variable {env} {s s' : State} {u : Unit} {admin : Address} {tokenId : TokenId}

theorem requireNotPaused_returns :
    Returns (requireNotPaused env) s u s' ↔ isContractPaused s env.now = false ∧ s' = s := by
  simp only [requireNotPaused, returns_get_bind, returns_failIf, Bool.not_eq_true]

theorem requireTokenNotPaused_returns :
    Returns (requireTokenNotPaused tokenId) s u s' ↔ isTokenPaused s tokenId = false ∧ s' = s := by
  simp only [requireTokenNotPaused, returns_get_bind, returns_failIf, Bool.not_eq_true]

theorem requireTimelockExpired_returns :
    Returns (requireTimelockExpired env) s u s' ↔ timeLockActive s env.now = false ∧ s' = s := by
  simp only [requireTimelockExpired, returns_get_bind, returns_failIf, Bool.not_eq_true]

theorem getAdmin_returns :
    Returns getAdmin s admin s' ↔ s.get .admin = some admin ∧ s' = s := by
  simp only [getAdmin, returns_load_bind, returns_okOr]

theorem authAdmin_returns :
    Returns (authAdmin env) s admin s' ↔
      (s.get .admin = some admin ∧ admin ∈ env.auths) ∧ s' = s := by
  rw [authAdmin, returns_bind_of_reads fun _ _ => getAdmin_returns]
  simp only [returns_requireAuth_bind, returns_pure]
  constructor
  · rintro ⟨_, ha, hauth, rfl, rfl⟩; exact ⟨⟨ha, hauth⟩, rfl⟩
  · rintro ⟨⟨ha, hauth⟩, rfl⟩; exact ⟨admin, ha, hauth, rfl, rfl⟩

theorem requireAdmin_returns :
    Returns (requireAdmin env admin) s u s' ↔
      (s.get .admin = some admin ∧ admin ∈ env.auths) ∧ s' = s := by
  rw [requireAdmin, returns_bind_of_reads fun _ _ => getAdmin_returns]
  simp only [returns_failIf_bind, not_not, returns_requireAuth]
  constructor
  · rintro ⟨_, ha, rfl, hauth, rfl⟩; exact ⟨⟨ha, hauth⟩, rfl⟩
  · rintro ⟨⟨ha, hauth⟩, rfl⟩; exact ⟨admin, ha, rfl, hauth, rfl⟩

theorem requireStoredAdmin_returns :
    Returns (requireStoredAdmin env admin) s u s' ↔
      (s.get .admin = some admin ∧ admin ∈ env.auths) ∧ s' = s := by
  rw [requireStoredAdmin, returns_bind_of_reads fun _ _ => getAdmin_returns]
  simp only [returns_requireAuth_bind, returns_failIf, not_not]
  constructor
  · rintro ⟨_, ha, hauth, rfl, rfl⟩; exact ⟨⟨ha, hauth⟩, rfl⟩
  · rintro ⟨⟨ha, hauth⟩, rfl⟩; exact ⟨admin, ha, hauth, rfl, rfl⟩

theorem setAdmin_returns :
    Returns (setAdmin env admin) s u s' ↔ admin ∈ env.auths ∧ s' = s.put .admin admin := by
  simp only [setAdmin, returns_requireAuth_bind, returns_store]

theorem loadToken_returns {token : MembershipToken} :
    Returns (loadToken tokenId) s token s' ↔ s.get (.token tokenId) = some token ∧ s' = s := by
  simp only [loadToken, returns_load_bind, returns_okOr]

end

/-! ## Footprints -/

variable {ks : List Kind} {admin : Address} {tokenId : TokenId} {reason : Option String}

instance : Only ks (requireNotPaused env) := by unfold requireNotPaused; infer_instance

instance : Only ks (requireTokenNotPaused tokenId) := by
  unfold requireTokenNotPaused; infer_instance

instance : Only ks (requireTimelockExpired env) := by unfold requireTimelockExpired; infer_instance

instance : Only ks getPauseState := by unfold getPauseState; infer_instance

instance : Only ks getAdmin := by unfold getAdmin; infer_instance

instance : Only ks (authAdmin env) := by unfold authAdmin; infer_instance

instance : Only ks (requireAdmin env admin) := by unfold requireAdmin; infer_instance

instance : Only ks (requireStoredAdmin env admin) := by unfold requireStoredAdmin; infer_instance

instance : Only ks (requireAuthThenAdmin env admin) := by
  unfold requireAuthThenAdmin; infer_instance

instance [In .admin ks] : Only ks (setAdmin env admin) := by unfold setAdmin; infer_instance

instance {a t : Option ℕ} [In .emergencyPauseState ks] :
    Only ks (emergencyPause env admin reason a t) := by
  unfold emergencyPause; infer_instance

instance [In .emergencyPauseState ks] : Only ks (emergencyUnpause env admin) := by
  unfold emergencyUnpause; infer_instance

instance : Only ks (loadToken tokenId) := by unfold loadToken; infer_instance

instance [In .tokenPaused ks] : Only ks (pauseTokenOperations env admin tokenId reason) := by
  unfold pauseTokenOperations; infer_instance

instance [In .tokenPaused ks] : Only ks (unpauseTokenOperations env admin tokenId) := by
  unfold unpauseTokenOperations; infer_instance

end

end ManageHub
