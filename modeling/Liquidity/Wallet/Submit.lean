import Liquidity.Finance
import Liquidity.Process.Program

/-!
# Sending a transaction

One call sends one operation from the wallet. It takes a nonce from the wallet's
cache, submits, and recovers from two rejections. A nonce that is too low is
retargeted a few times, by the highest of what the node reports and what the
call has learned. A nonce that is occupied is kept, and the fee is raised a few
times. The lock that serialises the calls of a wallet is held for the whole call.

An operation here is one exchange with the node, or one access to the nonce cache
or to the record of nonces in flight. The texts of rejections are read for three
things only, and these are what an error carries. Pauses are left out.
-/

namespace Liquidity.Wallet

open Process

/-- The largest nonce the wallet's integer type has. -/
def u64Max : Nat := 2 ^ 64 - 1

def u128Max : Nat := 2 ^ 128 - 1

def saturatingSucc (nonce : Nat) : Nat := if nonce < u64Max then nonce + 1 else u64Max

/-- How many times a rejected replacement is resubmitted. -/
def maxReplacementResubmits : Nat := 4

/-- How many times a nonce that was too low is retargeted. -/
def maxNonceTooLowRetries : Nat := 3

/-- What a resubmission adds to the fee, in percent for each attempt. -/
def feeBumpPctPerAttempt : Nat := 15

inductive EvmError where
  /-- The node's answer: whether its text says that the nonce is too low, the next
  nonce the text names, and whether it says that a replacement is underpriced. -/
  | response (tooLow : Bool) (nextNonce : Option Nat) (underpriced : Bool)
  | transport (message : String)
  | replacementUnderpriced (attempts : Nat)
  | replacementFeeOverflow
  deriving DecidableEq, Repr

namespace EvmError

def isNonceTooLow : EvmError → Bool
  | .response tooLow _ _ => tooLow
  | _ => false

/-- Only an answer that says the nonce is too low is asked for the next one. -/
def nextNonceHint : EvmError → Option Nat
  | .response true nextNonce _ => nextNonce
  | _ => none

def isReplacementUnderpriced : EvmError → Bool
  | .response _ _ underpriced => underpriced
  | _ => false

end EvmError

structure Eip1559Estimation where
  maxFeePerGas : Nat
  maxPriorityFeePerGas : Nat
  deriving DecidableEq, Repr

/-- A transaction before it is filled and signed. -/
structure TransactionRequest where
  contract : String
  calldata : List UInt8
  nonce : Option Nat
  fees : Option Eip1559Estimation
  deriving DecidableEq, Repr

inductive NonceOwnership where
  | ours
  | unknown
  deriving DecidableEq, Repr

/-- History: the part of a call that submits. -/
inductive SendPath where
  | base
  | retry
  | bump
  deriving DecidableEq, Repr

/-- One send, with an identifier that only history reads. -/
structure SendCall where
  id : Nat
  contract : String
  calldata : List UInt8
  deriving DecidableEq, Repr

inductive Op where
  | peekNextNonce
  | setNextNonce (nonce : Nat)
  | invalidate
  /-- The count of mined transactions, read for an empty cache. -/
  | fetchNonce
  | latestNonce
  | pendingNonce
  | estimateFees
  /-- Sign and broadcast a transaction that has its nonce. -/
  | broadcast (tx : TransactionRequest) (nonce : Nat) (call : SendCall) (path : SendPath)
  | record (nonce : Nat) (txHash : TxHash)
  | ownership (nonce : Nat)

@[reducible] def Op.Ret : Op → Type
  | .peekNextNonce => Option Nat
  | .setNextNonce _ | .invalidate | .record _ _ => Unit
  | .fetchNonce | .latestNonce | .pendingNonce => Except EvmError Nat
  | .estimateFees => Except EvmError Eip1559Estimation
  | .broadcast _ _ _ _ => Except EvmError TxHash
  | .ownership _ => NonceOwnership

abbrev Send := Prog Op Op.Ret EvmError

/-! ## The nonce cache -/

def setNextNonce (nonce : Nat) : Send Unit := Prog.perform (Op.setNextNonce nonce)

def invalidate : Send Unit := Prog.perform Op.invalidate

/-- The cached nonce, or the count of mined transactions; the cache moves on. -/
def getNextNonce : Send Nat := do
  let cached : Option Nat ← Prog.perform Op.peekNextNonce
  match cached with
  | some nonce =>
      setNextNonce (saturatingSucc nonce)
      return nonce
  | none =>
      let fetched : Except EvmError Nat ← Prog.perform Op.fetchNonce
      let nonce ← Prog.liftExcept fetched
      setNextNonce (saturatingSucc nonce)
      return nonce

def assignNonce : Send Nat := getNextNonce

/-- Fill, sign and broadcast. The filler takes a nonce from the cache unless the
request has one. -/
def submit (call : SendCall) (path : SendPath) (tx : TransactionRequest) :
    Send (Except EvmError TxHash) := do
  match tx.nonce with
  | some nonce => Prog.perform (Op.broadcast tx nonce call path)
  | none =>
      let filled : Except EvmError Nat ← Prog.capture getNextNonce
      match filled with
      | .error error => return .error error
      | .ok nonce => Prog.perform (Op.broadcast tx nonce call path)

def record (nonce : Nat) (txHash : TxHash) : Send Unit := Prog.perform (Op.record nonce txHash)

/-! ## Raising the fee -/

/-- A fee raised by this many percent, rounded up. -/
def bumpFee (value pct : Nat) : Except EvmError Nat :=
  if value * (100 + pct) ≤ u128Max then .ok ((value * (100 + pct) + 99) / 100)
  else .error .replacementFeeOverflow

/-- Resubmit at the same nonce until the replacement is accepted. `remaining` of
the attempts are left. -/
def resubmitWithBumpedFee (call : SendCall) (nonce : Nat) : (remaining : Nat) → Send TxHash
  | 0 => do
      invalidate
      throw (.replacementUnderpriced maxReplacementResubmits)
  | remaining + 1 => do
      let attempt := maxReplacementResubmits - remaining
      let estimated : Except EvmError Eip1559Estimation ← Prog.perform Op.estimateFees
      match estimated with
      | .error error => do
          invalidate
          throw error
      | .ok estimate =>
          let pct := feeBumpPctPerAttempt * attempt
          let maxFeePerGas ← Prog.liftExcept (bumpFee estimate.maxFeePerGas pct)
          let maxPriorityFeePerGas ← Prog.liftExcept (bumpFee estimate.maxPriorityFeePerGas pct)
          match ← submit call .bump
              { contract := call.contract, calldata := call.calldata, nonce := some nonce
                fees := some { maxFeePerGas, maxPriorityFeePerGas } } with
          | .ok txHash => do
              record nonce txHash
              return txHash
          | .error error =>
              if error.isReplacementUnderpriced then resubmitWithBumpedFee call nonce remaining
              else do
                invalidate
                throw error

/-! ## Retargeting the nonce -/

/-- Raise the floor; it is never lowered. -/
def raiseNonceFloor (currentFloor : Option Nat) (candidateFloor : Nat) : Nat :=
  match currentFloor with
  | none => candidateFloor
  | some floor => max floor candidateFloor

@[simp] theorem raiseNonceFloor_some (floor candidate : Nat) :
    raiseNonceFloor (some floor) candidate = max floor candidate := rfl

inductive LatestNonceFallback where
  | stop
  | raiseFloorTo (floor : Nat)
  deriving DecidableEq, Repr

/-- Whether an occupied nonce may be this wallet's own oldest transaction. -/
def resolveUnderpricedViaLatestNonce (nextNonce : Nat) : Send LatestNonceFallback := do
  let latest : Except EvmError Nat ← Prog.perform Op.latestNonce
  match latest with
  | .error _ => return .stop
  | .ok latestNonce =>
      if nextNonce = latestNonce then return .stop
      else if nextNonce < latestNonce then return .raiseFloorTo latestNonce
      else return .raiseFloorTo (saturatingSucc nextNonce)

inductive NonceSource where
  | hintAndPending (hint pendingNonce : Nat)
  | hintOnly (hint : Nat) (pendingError : EvmError)
  | pendingOnly (pendingNonce : Nat)
  | floorFallback (floor : Nat) (pendingError : EvmError)
  | noSource (pendingError : EvmError)
  deriving DecidableEq, Repr

namespace NonceSource

/-- The sources an attempt has; the floor only counts when it has no other. -/
def resolve (hint : Option Nat) (pending : Except EvmError Nat) (nonceFloor : Option Nat) :
    NonceSource :=
  match hint, pending with
  | some hint, .ok pendingNonce => .hintAndPending hint pendingNonce
  | some hint, .error pendingError => .hintOnly hint pendingError
  | none, .ok pendingNonce => .pendingOnly pendingNonce
  | none, .error pendingError =>
      match nonceFloor with
      | some floor => .floorFallback floor pendingError
      | none => .noSource pendingError

/-- The nonce the sources call for, if there is one. -/
def sourcedNonce : NonceSource → Option Nat
  | .hintAndPending hint pendingNonce => some (max hint pendingNonce)
  | .hintOnly hint _ => some hint
  | .pendingOnly pendingNonce => some pendingNonce
  | .floorFallback floor _ => some floor
  | .noSource _ => none

end NonceSource

/-- With a floor there is always a source. -/
theorem sourcedNonce_floor (hint : Option Nat) (pending : Except EvmError Nat) (floor : Nat) :
    ∃ sourced, (NonceSource.resolve hint pending (some floor)).sourcedNonce = some sourced ∧
      ∀ named, hint = some named → named ≤ sourced := by
  cases hint with
  | none =>
      cases pending with
      | ok pendingNonce => exact ⟨pendingNonce, rfl, nofun⟩
      | error error => exact ⟨floor, rfl, nofun⟩
  | some hint =>
      cases pending with
      | ok pendingNonce =>
          refine ⟨max hint pendingNonce, rfl, ?_⟩
          intro named given
          cases given
          exact Nat.le_max_left hint pendingNonce
      | error error =>
          refine ⟨hint, rfl, ?_⟩
          intro named given
          cases given
          exact Nat.le_refl hint

/-- Retarget the nonce until the transaction is accepted. `error` is the last
rejection, `remaining` of the attempts are left. -/
def retryLoop (call : SendCall) : (remaining : Nat) → EvmError → Option Nat → Send TxHash
  | 0, error, _ => do
      invalidate
      throw error
  | remaining + 1, error, nonceFloor => do
      let pending : Except EvmError Nat ← Prog.perform Op.pendingNonce
      match (NonceSource.resolve error.nextNonceHint pending nonceFloor).sourcedNonce with
      | none => do
          invalidate
          retryLoop call remaining error nonceFloor
      | some sourcedNonce =>
          let nextNonce := raiseNonceFloor nonceFloor sourcedNonce
          setNextNonce nextNonce
          match ← submit call .retry
              { contract := call.contract, calldata := call.calldata, nonce := none
                fees := none } with
          | .ok txHash => do
              record nextNonce txHash
              return txHash
          | .error retryError =>
              if retryError.isNonceTooLow then
                retryLoop call remaining retryError
                  (some (raiseNonceFloor nonceFloor (saturatingSucc nextNonce)))
              else if retryError.isReplacementUnderpriced then do
                let ownership : NonceOwnership ← Prog.perform (Op.ownership nextNonce)
                match ownership with
                | .ours => do
                    invalidate
                    throw retryError
                | .unknown => do
                    match ← resolveUnderpricedViaLatestNonce nextNonce with
                    | .stop => do
                        invalidate
                        throw retryError
                    | .raiseFloorTo floorCandidate =>
                        retryLoop call remaining retryError
                          (some (raiseNonceFloor nonceFloor floorCandidate))
              else do
                invalidate
                throw retryError

/-- The floor before the first attempt: the rejection's hint and the cache, which
is one past the nonce that was rejected. -/
def initialFloor (hint cachedNextNonce : Option Nat) : Option Nat :=
  match hint, cachedNextNonce with
  | some hint, some cached => some (max hint cached)
  | some hint, none => some hint
  | none, some cached => some cached
  | none, none => none

def retryAfterNonceTooLow (call : SendCall) (error : EvmError) : Send TxHash := do
  let cachedNextNonce : Option Nat ← Prog.perform Op.peekNextNonce
  retryLoop call maxNonceTooLowRetries error (initialFloor error.nextNonceHint cachedNextNonce)

/-- Send an operation, recovering from a nonce that is too low or occupied. -/
def sendWithRecovery (call : SendCall) : Send TxHash := do
  let nonce ← assignNonce
  match ← submit call .base
      { contract := call.contract, calldata := call.calldata, nonce := some nonce
        fees := none } with
  | .ok txHash => do
      record nonce txHash
      return txHash
  | .error error =>
      if error.isNonceTooLow then retryAfterNonceTooLow call error
      else if error.isReplacementUnderpriced then
        resubmitWithBumpedFee call nonce maxReplacementResubmits
      else do
        invalidate
        throw error

end Liquidity.Wallet
