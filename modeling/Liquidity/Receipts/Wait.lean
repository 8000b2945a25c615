import Liquidity.Finance
import Liquidity.Polling

/-!
# Waiting for a receipt

After a transaction is broadcast its receipt is polled for until it is in a block. A
transaction that neither the receipt lookup nor the mempool knows is declared dropped
after a few such polls, and the node is given up after a few failures in a row.

A poll is what the node answers in one round of the loop, with the time since the
wait began. The answer of the mempool counts where it is asked for. A list of polls
that ends without a verdict ends in the timeout, which may strike at any time.
-/

namespace Liquidity.Receipts

/-- A call that did not get through to the node. -/
structure TransportError where
  message : String
  deriving DecidableEq, Repr

structure TransactionReceipt (Log : Type) where
  transactionHash : TxHash
  blockNumber : Option Nat
  /-- The transaction did not revert. -/
  status : Bool
  logs : List Log
  deriving DecidableEq, Repr

inductive EvmError where
  | transport (error : TransportError)
  | receiptTimeout (txHash : TxHash) (timeoutSecs : Nat)
  | transactionDropped (txHash : TxHash) (elapsedSecs : Nat)
  deriving DecidableEq, Repr

structure ReceiptWaitConfig where
  inclusionTimeout : Time
  droppedGrace : Time
  droppedConsecutiveMisses : Nat
  deriving DecidableEq, Repr

def asSecs (time : Time) : Nat := time / 1000000000

def ReceiptWaitConfig.mainnetDefaults : ReceiptWaitConfig where
  inclusionTimeout := 300 * 1000000000
  droppedGrace := 30 * 1000000000
  droppedConsecutiveMisses := 3

def maxConsecutiveTransportErrors : Nat := 5

/-- One round of the inclusion loop. -/
structure Poll (Log : Type) where
  receipt : Except TransportError (Option (TransactionReceipt Log))
  /-- When the grace period is checked. -/
  elapsed : Time
  /-- The transaction, as the mempool knows it. -/
  mempool : Except TransportError (Option TxHash)
  /-- When a drop is reported. -/
  reportedAt : Time

/-- The rounds of a wait. Time does not run backwards. -/
structure Polls (Log : Type) where
  rounds : List (Poll Log)
  clock : rounds.Pairwise fun first second => first.elapsed ≤ second.elapsed

/-- What the inclusion loop counts. -/
structure Counters where
  consecutiveMisses : Nat := 0
  consecutiveTransportErrors : Nat := 0
  deriving DecidableEq, Repr

variable {Log : Type}

/-! ## Inclusion -/

/-- Count a failed call, or give up. -/
def noteReceiptPollTransportError (consecutiveTransportErrors : Nat) (error : TransportError) :
    Except EvmError Nat :=
  if maxConsecutiveTransportErrors ≤ consecutiveTransportErrors + 1 then
    .error (.transport error)
  else .ok (consecutiveTransportErrors + 1)

/-- There is no receipt: keep waiting, or conclude that the transaction was dropped. -/
def classifyPendingReceipt (txHash : TxHash) (config : ReceiptWaitConfig) (counters : Counters)
    (poll : Poll Log) : Except EvmError Counters :=
  if poll.elapsed < config.droppedGrace then
    .ok { counters with consecutiveTransportErrors := 0 }
  else
    match poll.mempool with
    | .error error => do
        let errors ← noteReceiptPollTransportError counters.consecutiveTransportErrors error
        return { consecutiveMisses := 0, consecutiveTransportErrors := errors }
    | .ok (some _) => .ok {}
    | .ok none =>
        let misses := counters.consecutiveMisses + 1
        if config.droppedConsecutiveMisses ≤ misses then
          .error (.transactionDropped txHash (asSecs poll.reportedAt))
        else .ok { consecutiveMisses := misses, consecutiveTransportErrors := 0 }

/-- How the inclusion loop ends: with a receipt and its block, or an error. -/
abbrev Inclusion (Log : Type) := Except EvmError (TransactionReceipt Log × Nat)

/-- One round. An error of the round is the end of the loop, also where that is a
receipt. -/
def pollInclusion (txHash : TxHash) (config : ReceiptWaitConfig) (counters : Counters)
    (poll : Poll Log) : Except (Inclusion Log) Counters :=
  match poll.receipt with
  | .error error =>
      match noteReceiptPollTransportError counters.consecutiveTransportErrors error with
      | .ok errors => .ok { counters with consecutiveTransportErrors := errors }
      | .error error => .error (.error error)
  | .ok none =>
      match classifyPendingReceipt txHash config counters poll with
      | .ok counters => .ok counters
      | .error error => .error (.error error)
  | .ok (some receipt) =>
      match receipt.blockNumber with
      | none => .ok { counters with consecutiveTransportErrors := 0 }
      | some block => .error (.ok (receipt, block))

def waitForInclusion (txHash : TxHash) (config : ReceiptWaitConfig) (polls : Polls Log) :
    Inclusion Log :=
  match polls.rounds.foldlM (pollInclusion txHash config) {} with
  | .error outcome => outcome
  | .ok _ => .error (.receiptTimeout txHash (asSecs config.inclusionTimeout))

/-- The rounds the loop goes through. -/
def inclusionRounds (txHash : TxHash) (config : ReceiptWaitConfig) (polls : Polls Log) :
    List (Poll Log) :=
  Polling.polled (pollInclusion txHash config) {} polls.rounds

end Liquidity.Receipts
