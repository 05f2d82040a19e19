/-
  The payment_escrow contract (contracts/payment_escrow/src): records, storage, entry points.
-/
import NovaLabs.Lib.Store
import NovaLabs.Soroban.Host
import NovaLabs.Soroban.CallOut

namespace PaymentEscrow

open Lib Soroban

/-! ## Types -/

inductive Error where
  | adminNotSet
  | unauthorized
  | alreadyInitialized
  | escrowNotFound
  | escrowAlreadyExists
  | escrowNotPending
  | escrowNotDisputed
  | disputeWindowClosed
  | claimTooEarly
  | autoClaimDisabled
  | invalidAmount
  | paymentTokenNotSet
  | reentrancyLock
  deriving DecidableEq

/-- Lifecycle state of an escrow. -/
inductive EscrowStatus where
  | pending
  | released
  | refunded
  | disputed
  deriving DecidableEq

/-- A locked-fund record between a depositor and a beneficiary. -/
structure Escrow where
  id : String
  depositor : Address
  beneficiary : Address
  amount : ℤ
  paymentToken : Address
  status : EscrowStatus
  description : String
  createdAt : ℕ
  releaseAfter : ℕ
  disputeWindow : ℕ
  disputeRaisedAt : Option ℕ
  resolvedAt : Option ℕ
  deriving DecidableEq

/-- One lock per guarded entry point. -/
inductive ReentrancyKey where
  | create
  | release
  | refund
  | resolve
  | claim
  deriving DecidableEq

/-- The contract's storage, one field per key; `locks` are the lock symbols present. -/
structure State where
  admin : Option Address := none
  paymentToken : Option Address := none
  defaultDisputeWindow : Option ℕ := none
  escrows : Store String Escrow := ∅
  depositorEscrows : Store Address (List String) := ∅
  beneficiaryEscrows : Store Address (List String) := ∅
  locks : Finset ReentrancyKey := ∅

abbrev Fn (α : Type) := Code State Error α

abbrev EntryPoint := Entry State Transfer Error Unit

/-! ## Internal helpers -/

section
variable {me : Address} (env : Env me)

def getAdmin : Fn Address := do
  okOr (← get).admin .adminNotSet

def requireAdmin (caller : Address) : Fn Unit := do
  let admin ← getAdmin
  failIf (caller ≠ admin) .unauthorized
  requireAuth env caller

def getPaymentToken : Fn Address := do
  okOr (← get).paymentToken .paymentTokenNotSet

def getDisputeWindow : Fn ℕ := do
  return (← get).defaultDisputeWindow.getD 0

def loadEscrow (escrowId : String) : Fn Escrow := do
  okOr ((← get).escrows.lookup escrowId) .escrowNotFound

/-- The record is stored under its own id. -/
def saveEscrow (escrow : Escrow) : Fn Unit :=
  modify fun s => { s with escrows := s.escrows.insert escrow.id escrow }

/-- Take the lock `key`, or stop if it is held. -/
def reentrancyProtect (key : ReentrancyKey) : Fn Unit := do
  failIf (key ∈ (← get).locks) .reentrancyLock
  modify fun s => { s with locks := insert key s.locks }

/-- `ReentrancyGuard::drop`. -/
def dropGuard (key : ReentrancyKey) : Fn Unit :=
  modify fun s => { s with locks := s.locks.erase key }

/-! ## Entry points without a transfer -/

/-- `initialize`. -/
def initializeContract (admin paymentToken : Address) (disputeWindowSecs : ℕ) : Fn Unit := do
  failIf (← get).admin.isSome .alreadyInitialized
  requireAuth env admin
  modify fun s => { s with
    admin := some admin
    paymentToken := some paymentToken
    defaultDisputeWindow := some disputeWindowSecs }

def setDisputeWindow (caller : Address) (windowSecs : ℕ) : Fn Unit := do
  requireAdmin env caller
  modify fun s => { s with defaultDisputeWindow := some windowSecs }

def raiseDispute (caller : Address) (escrowId : String) : Fn Unit := do
  requireAuth env caller
  let escrow ← loadEscrow escrowId
  failIf (caller ≠ escrow.depositor) .unauthorized
  failIf (escrow.status ≠ .pending) .escrowNotPending
  failIf (escrow.disputeWindow = 0) .disputeWindowClosed
  let deadline ← checked 64 (escrow.createdAt + escrow.disputeWindow)
  failIf (env.now > deadline) .disputeWindowClosed
  saveEscrow { escrow with status := .disputed, disputeRaisedAt := some env.now }

/-! ## Entry points that move funds -/

/-- What `create_escrow` checks before it takes its lock; it returns the payment token and the
    dispute window of the new escrow. -/
def createChecks (depositor : Address) (escrowId : String) (amount : ℤ) : Fn (Address × ℕ) := do
  requireAuth env depositor
  failIf (amount ≤ 0) .invalidAmount
  failIf ((← get).escrows.lookup escrowId).isSome .escrowAlreadyExists
  let paymentToken ← getPaymentToken
  let disputeWindow ← getDisputeWindow
  return (paymentToken, disputeWindow)

/-- The two indexes of `create_escrow`. -/
def indexEscrow (escrow : Escrow) : Fn Unit := do
  modify fun s => { s with
    depositorEscrows := s.depositorEscrows.insert escrow.depositor
      ((s.depositorEscrows.lookup escrow.depositor).getD [] ++ [escrow.id]) }
  modify fun s => { s with
    beneficiaryEscrows := s.beneficiaryEscrows.insert escrow.beneficiary
      ((s.beneficiaryEscrows.lookup escrow.beneficiary).getD [] ++ [escrow.id]) }

def createEscrow (depositor : Address) (escrowId : String) (beneficiary : Address) (amount : ℤ)
    (description : String) (releaseAfter : ℕ) : EntryPoint := do
  let (paymentToken, disputeWindow) ← createChecks env depositor escrowId amount
  reentrancyProtect .create
  request ⟨paymentToken, depositor, me, amount⟩
  let escrow : Escrow :=
    { id := escrowId, depositor, beneficiary, amount, paymentToken, status := .pending,
      description, createdAt := env.now, releaseAfter, disputeWindow,
      disputeRaisedAt := none, resolvedAt := none }
  saveEscrow escrow
  indexEscrow escrow
  dropGuard .create

/-- The common end of the four entry points that pay an escrow out: lock, transfer, final status. -/
def payOut (key : ReentrancyKey) (escrow : Escrow) (recipient : Address) (status : EscrowStatus) :
    EntryPoint := do
  reentrancyProtect key
  request ⟨escrow.paymentToken, me, recipient, escrow.amount⟩
  saveEscrow { escrow with status, resolvedAt := some env.now }
  dropGuard key

def releaseChecks (caller : Address) (escrowId : String) : Fn Escrow := do
  requireAdmin env caller
  let escrow ← loadEscrow escrowId
  failIf (escrow.status ≠ .pending) .escrowNotPending
  return escrow

def release (caller : Address) (escrowId : String) : EntryPoint := do
  let escrow ← releaseChecks env caller escrowId
  payOut env .release escrow escrow.beneficiary .released

/-- `refund` checks what `release` does. -/
def refund (caller : Address) (escrowId : String) : EntryPoint := do
  let escrow ← releaseChecks env caller escrowId
  payOut env .refund escrow escrow.depositor .refunded

def resolveChecks (caller : Address) (escrowId : String) : Fn Escrow := do
  requireAdmin env caller
  let escrow ← loadEscrow escrowId
  failIf (escrow.status ≠ .disputed) .escrowNotDisputed
  return escrow

def resolveDispute (caller : Address) (escrowId : String) (releaseToBeneficiary : Bool) :
    EntryPoint := do
  let escrow ← resolveChecks env caller escrowId
  payOut env .resolve escrow
    (if releaseToBeneficiary then escrow.beneficiary else escrow.depositor)
    (if releaseToBeneficiary then .released else .refunded)

def claimChecks (caller : Address) (escrowId : String) : Fn Escrow := do
  requireAuth env caller
  let escrow ← loadEscrow escrowId
  failIf (caller ≠ escrow.beneficiary) .unauthorized
  failIf (escrow.status ≠ .pending) .escrowNotPending
  failIf (escrow.releaseAfter = 0) .autoClaimDisabled
  failIf (env.now < escrow.releaseAfter) .claimTooEarly
  return escrow

def claim (caller : Address) (escrowId : String) : EntryPoint := do
  let escrow ← claimChecks env caller escrowId
  payOut env .claim escrow escrow.beneficiary .released

end

/-! ## The contract interface -/

/-- The public entry points that write storage. -/
inductive Call where
  | initializeContract (admin paymentToken : Address) (disputeWindowSecs : ℕ)
  | setDisputeWindow (caller : Address) (windowSecs : ℕ)
  | createEscrow (depositor : Address) (escrowId : String) (beneficiary : Address) (amount : ℤ)
      (description : String) (releaseAfter : ℕ)
  | release (caller : Address) (escrowId : String)
  | refund (caller : Address) (escrowId : String)
  | raiseDispute (caller : Address) (escrowId : String)
  | resolveDispute (caller : Address) (escrowId : String) (releaseToBeneficiary : Bool)
  | claim (caller : Address) (escrowId : String)

def entryPoint {me : Address} (env : Env me) : Call → EntryPoint
  | .initializeContract admin paymentToken w => liftM (initializeContract env admin paymentToken w)
  | .setDisputeWindow caller w => liftM (setDisputeWindow env caller w)
  | .createEscrow depositor id beneficiary amount description releaseAfter =>
    createEscrow env depositor id beneficiary amount description releaseAfter
  | .release caller id => release env caller id
  | .refund caller id => refund env caller id
  | .raiseDispute caller id => liftM (raiseDispute env caller id)
  | .resolveDispute caller id toBeneficiary => resolveDispute env caller id toBeneficiary
  | .claim caller id => claim env caller id

end PaymentEscrow
