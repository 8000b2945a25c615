import Liquidity.Process.Interleaving
import Liquidity.Wallet.Submit

/-!
# A wallet and its node

The node counts the mined transactions of the wallet and keeps those that wait.
It refuses a nonce below the count, takes a second transaction at an occupied
nonce only for a fee a tenth higher, which then evicts the first, and takes
anything else. A transaction may also fail before it is sent, and an answer may
be lost after the transaction was taken. The largest nonce is never accepted.

The calls of a wallet are serialised by its lock. A call that has returned or was
cancelled leaves the cache and the record of nonces in flight as they are.
-/

namespace Liquidity.Wallet

open Process

/-- A transaction that waits to be mined. -/
structure PendingTx where
  txHash : TxHash
  nonce : Nat
  fees : Eip1559Estimation
  /-- The call that sent it. -/
  call : Nat
  /-- History: the call was told of it, and returns its hash. -/
  acknowledged : Bool
  deriving DecidableEq, Repr

/-- A transaction that took the place of another. -/
structure Eviction where
  incumbent : PendingTx
  replacement : PendingTx
  deriving DecidableEq, Repr

/-- A hash that was recorded in flight. -/
structure InFlightEntry where
  nonce : Nat
  txHash : TxHash
  submittedAt : Nat
  deriving DecidableEq, Repr

structure World where
  /-- The nonce cache. -/
  cache : Option Nat
  inFlight : List InFlightEntry
  clock : Nat
  /-- The count of mined transactions. -/
  mined : Nat
  mempool : List PendingTx
  /-- History: the transactions that were taken so far. -/
  sent : Nat
  /-- History. -/
  evictions : List Eviction
  deriving DecidableEq, Repr

namespace World

/-- A process that starts, with nothing waiting. -/
def start (mined : Nat) : World where
  cache := none
  inFlight := []
  clock := 0
  mined := mined
  mempool := []
  sent := 0
  evictions := []

/-! ## The nonces in flight -/

/-- Entries are kept for a day, in seconds. -/
def maxInFlightAge : Nat := 24 * 60 * 60

def pruneStale (world : World) : World :=
  { world with
    inFlight := world.inFlight.filter fun entry =>
      world.clock - entry.submittedAt < maxInFlightAge }

def record (world : World) (nonce : Nat) (txHash : TxHash) : World :=
  let pruned := world.pruneStale
  { pruned with inFlight := ⟨nonce, txHash, world.clock⟩ ::
      pruned.inFlight.filter fun entry => !(entry.nonce == nonce && entry.txHash == txHash) }

def releaseHash (world : World) (txHash : TxHash) : World :=
  { world with inFlight := world.inFlight.filter (·.txHash != txHash) }

/-- A mined transaction settles its nonce, with everything else recorded there. -/
def releaseNonceForHash (world : World) (txHash : TxHash) : World :=
  { world with inFlight := world.inFlight.filter fun entry =>
      !world.inFlight.any fun other => other.nonce == entry.nonce && other.txHash == txHash }

def ownership (world : World) (nonce : Nat) : NonceOwnership × World :=
  let pruned := world.pruneStale
  (if pruned.inFlight.any (·.nonce == nonce) then .ours else .unknown, pruned)

/-! ## The node -/

/-- The count that takes waiting transactions in, as far as there is no gap. -/
def pendingCount (world : World) : Nat :=
  go world.mempool.length world.mined
where
  go : Nat → Nat → Nat
    | 0, nonce => nonce
    | waiting + 1, nonce =>
        if world.mempool.any (·.nonce == nonce) then go waiting (nonce + 1) else nonce

end World

/-- A tenth more, in both fees. -/
def outbids (fees incumbent : Eip1559Estimation) : Bool :=
  incumbent.maxFeePerGas * 110 ≤ fees.maxFeePerGas * 100 &&
    incumbent.maxPriorityFeePerGas * 110 ≤ fees.maxPriorityFeePerGas * 100

/-- How the node is met. -/
structure Choice where
  /-- What goes wrong before the node acts. -/
  fault : Option EvmError
  /-- The rejection of a low nonce names the next one. -/
  hinted : Bool
  /-- The current estimate, which also fills a transaction without fees. -/
  fees : Eip1559Estimation
  /-- The transaction is taken and the answer is lost. -/
  lost : Bool
  deriving DecidableEq, Repr

namespace Choice

/-- A read, unless it fails. -/
def read {α : Type} (choice : Choice) (value : α) : Except EvmError α :=
  match choice.fault with
  | some error => .error error
  | none => .ok value

end Choice

/-- The node takes a transaction. -/
def World.take (world : World) (choice : Choice) (nonce call : Nat) (fees : Eip1559Estimation) :
    Except EvmError TxHash × World :=
  let taken : PendingTx :=
    { txHash := world.sent, nonce, fees, call, acknowledged := !choice.lost }
  let evicted := world.mempool.filter (·.nonce == nonce)
  (if choice.lost then .error (.transport "request timed out") else .ok world.sent,
    { world with
      mempool := taken :: world.mempool.filter (·.nonce != nonce)
      sent := world.sent + 1
      evictions := evicted.map (⟨·, taken⟩) ++ world.evictions })

/-- A failure before the node acts is none of its two refusals. -/
def World.broadcast (world : World) (choice : Choice) (tx : TransactionRequest)
    (nonce call : Nat) : Option (Except EvmError TxHash × World) :=
  let fees := tx.fees.getD choice.fees
  match choice.fault with
  | some error =>
      if error.isNonceTooLow || error.isReplacementUnderpriced then none
      else some (.error error, world)
  | none =>
      if nonce < world.mined then
        some (.error (.response true (if choice.hinted then some world.mined else none) false),
          world)
      else if u64Max ≤ nonce then
        some (.error (.transport "nonce has max value"), world)
      else if (world.mempool.filter (·.nonce == nonce)).all fun tx => outbids fees tx.fees then
        some (world.take choice nonce call fees)
      else
        some (.error (.response false none true), world)

def handle (choice : Choice) : (op : Op) → World → Option (op.Ret × World)
  | .peekNextNonce, world => some (world.cache, world)
  | .setNextNonce nonce, world => some ((), { world with cache := some nonce })
  | .invalidate, world => some ((), { world with cache := none })
  | .fetchNonce, world | .latestNonce, world => some (choice.read world.mined, world)
  | .pendingNonce, world => some (choice.read world.pendingCount, world)
  | .estimateFees, world => some (choice.read choice.fees, world)
  | .broadcast tx nonce call _, world => world.broadcast choice tx nonce call.id
  | .record nonce txHash, world => some ((), world.record nonce txHash)
  | .ownership nonce, world => some (world.ownership nonce)

/-- How a wait for a receipt ends. -/
inductive WaitOutcome where
  | mined
  | dropped
  | inconclusive
  deriving DecidableEq, Repr

def World.releaseInFlightAfterWait (world : World) (txHash : TxHash) : WaitOutcome → World
  | .mined => world.releaseNonceForHash txHash
  | .dropped => world.releaseHash txHash
  | .inconclusive => world

inductive Change where
  /-- The next transaction is mined. -/
  | mine
  /-- The node forgets a transaction. -/
  | drop (txHash : TxHash)
  /-- A wait for a receipt ends, as it may. -/
  | waited (txHash : TxHash) (outcome : WaitOutcome)
  | tick (seconds : Nat)
  deriving DecidableEq, Repr

def environment : Change → World → Option World
  | .mine, world =>
      if world.mempool.any (·.nonce == world.mined) then
        some { world with
          mined := world.mined + 1
          mempool := world.mempool.filter (·.nonce != world.mined) }
      else none
  | .drop txHash, world =>
      some { world with mempool := world.mempool.filter (·.txHash != txHash) }
  | .waited txHash outcome, world => some (world.releaseInFlightAfterWait txHash outcome)
  | .tick seconds, world => some { world with clock := world.clock + seconds }

/-- The sends of a wallet, one at a time. -/
def wallet : System Op Op.Ret EvmError TxHash World Choice SendCall Change where
  program := sendWithRecovery
  handle := handle
  environment := environment
  canStart _ _ := true
  exclusive _ _ := true

end Liquidity.Wallet
