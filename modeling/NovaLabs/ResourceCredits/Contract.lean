/-
  The resource_credits contract (contracts/resource_credits/src): storage and entry points.
-/
import NovaLabs.Lib.Run
import NovaLabs.Lib.Store
import NovaLabs.Soroban.Host

namespace ResourceCredits

open Lib Soroban

/-! ## Types -/

inductive Error where
  | adminNotSet
  | alreadyInitialized
  | unauthorized
  | insufficientBalance
  | invalidAmount
  | accountNotFound
  deriving DecidableEq

/-- The contract's storage, one field per key.  `totalSupply`, which the code reads with
    `unwrap_or(0)`, is 0 where the key is absent. -/
structure State where
  admin : Option Address := none
  paymentToken : Option Address := none
  balance : Store Address ℕ := ∅
  totalSupply : ℕ := 0

abbrev Fn (α : Type) := Code State Error α

/-! ## Entry points -/

/-- `initialize`. -/
def initializeContract (admin paymentToken : Address) : Fn Unit := do
  failIf (← get).admin.isSome .alreadyInitialized
  modify fun s => { s with
    admin := some admin
    paymentToken := some paymentToken
    totalSupply := 0 }

/-- Get the credit balance of a member. -/
def getBalance (s : State) (member : Address) : ℕ := (s.balance.lookup member).getD 0

def setBalance (member : Address) (amount : ℕ) : Fn Unit :=
  modify fun s => { s with balance := s.balance.insert member amount }

def setTotalSupply (totalSupply : ℕ) : Fn Unit := modify fun s => { s with totalSupply }

section
variable {me : Address} (env : Env me)

/-- Mint credits to a recipient (admin only). -/
def mintCredits (caller recipient : Address) (amount : ℕ) : Fn Unit := do
  failIf (amount = 0) .invalidAmount
  let admin ← okOr (← get).admin .adminNotSet
  failIf (caller ≠ admin) .unauthorized
  requireAuth env caller
  let bal := getBalance (← get) recipient
  setBalance recipient (← checked 128 (bal + amount))
  let supply := (← get).totalSupply
  setTotalSupply (← checked 128 (supply + amount))

/-- Transfer credits from one member to another. -/
def transferCredits (src dst : Address) (amount : ℕ) : Fn Unit := do
  failIf (amount = 0) .invalidAmount
  requireAuth env src
  let fromBal := getBalance (← get) src
  failIf (fromBal < amount) .insufficientBalance
  setBalance src (← checkedSub fromBal amount)
  -- read after the write, which matters for a transfer to oneself
  let toBal := getBalance (← get) dst
  setBalance dst (← checked 128 (toBal + amount))

/-- Spend (burn) credits from a member's balance. -/
def spendCredits (member : Address) (amount : ℕ) : Fn Unit := do
  failIf (amount = 0) .invalidAmount
  requireAuth env member
  let bal := getBalance (← get) member
  failIf (bal < amount) .insufficientBalance
  setBalance member (← checkedSub bal amount)
  let supply := (← get).totalSupply
  setTotalSupply (← checkedSub supply amount)

end

/-! ## Calls -/

/-- The exported functions that write storage. -/
inductive Call where
  | initializeContract (admin paymentToken : Address)
  | mintCredits (caller recipient : Address) (amount : ℕ)
  | transferCredits (src dst : Address) (amount : ℕ)
  | spendCredits (member : Address) (amount : ℕ)

def Call.run {me : Address} (env : Env me) : Call → Fn Unit
  | .initializeContract admin token => ResourceCredits.initializeContract admin token
  | .mintCredits caller recipient amount => ResourceCredits.mintCredits env caller recipient amount
  | .transferCredits src dst amount => ResourceCredits.transferCredits env src dst amount
  | .spendCredits member amount => ResourceCredits.spendCredits env member amount

/-- A call with what the host gives it. -/
structure Input (me : Address) where
  env : Env me
  call : Call

/-- The storage after a call. -/
def next {me : Address} (s : State) (i : Input me) : State := commit (i.call.run i.env) s

def Steps {me : Address} (s : State) (i : Input me) (s' : State) : Prop := s' = next s i

end ResourceCredits
