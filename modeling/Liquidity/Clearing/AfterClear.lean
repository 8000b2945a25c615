import Liquidity.Finance
import Mathlib.Data.List.MinMax
import Mathlib.Order.WithBot

/-!
# The state change of a clear

A clear emits ClearV3 and, right after it, AfterClearV2 with what was exchanged. The
trade needs both. Nodes have been seen to leave out logs, so the second is looked for
in the logs of the block and, if there is none, in the receipt of the transaction.
-/

namespace Liquidity.Clearing

abbrev Address := Nat

/-- A token that an order takes or gives. -/
structure OrderIo where
  token : Address
  deriving DecidableEq, Repr

/-- What a trade reads of an order. -/
structure OrderV4 where
  owner : Address
  validInputs : List OrderIo
  validOutputs : List OrderIo
  deriving DecidableEq, Repr

structure ClearConfigV2 where
  aliceInputIOIndex : Nat
  aliceOutputIOIndex : Nat
  bobInputIOIndex : Nat
  bobOutputIOIndex : Nat
  deriving DecidableEq, Repr

structure ClearV3 where
  alice : OrderV4
  bob : OrderV4
  clearConfig : ClearConfigV2
  deriving DecidableEq, Repr

structure ClearStateChangeV2 where
  aliceOutput : ℚ
  bobOutput : ℚ
  aliceInput : ℚ
  bobInput : ℚ
  deriving DecidableEq

inductive Topic where
  | clearV3
  | afterClearV2
  | other (signature : Nat)
  deriving DecidableEq, Repr

structure Log where
  address : Address
  topic0 : Option Topic
  /-- The AfterClearV2 that the data decodes to, if it does. -/
  afterClear : Option ClearStateChangeV2
  blockNumber : Option Nat
  blockTimestamp : Option Nat
  transactionHash : Option TxHash
  logIndex : Option Nat
  deriving DecidableEq

structure RpcError where
  message : String
  deriving DecidableEq, Repr

structure EvmError where
  message : String
  deriving DecidableEq, Repr

inductive TradeValidationError where
  | noTxHash
  | noLogIndex
  | noBlockNumber
  | nodeReceiptMissing (blockNumber : Nat) (txHash : TxHash) (clearLogIndex : Nat)
  | afterClearMissingFromReceipt (blockNumber : Nat) (txHash : TxHash) (clearLogIndex : Nat)
  | noInputAtIndex (index : Nat)
  | noOutputAtIndex (index : Nat)
  | invalidSymbolConfiguration (inputSymbol outputSymbol : String)
  | negativeShares (amount : ℚ)
  | negativeUsdc (amount : ℚ)
  | nonPositivePrice (price : ℚ)
  | float (error : FloatError)
  | notTokenizedEquity (symbolProvided : String)
  deriving DecidableEq, Repr

inductive OnChainError where
  | validation (error : TradeValidationError)
  | rpcTransport (error : RpcError)
  | evm (error : EvmError)
  | solType
  | invalidIndex (index : Nat)
  | intConversion (value : Nat)
  | floatConversion (error : FloatError)
  | emptySymbol
  deriving DecidableEq, Repr

/-- A query for the logs of one signature in one block. -/
structure Filter where
  block : Nat
  address : Address
  eventSignature : Topic
  deriving DecidableEq, Repr

structure Receipt where
  logs : List Log
  gasUsed : Nat
  effectiveGasPrice : Nat
  blockNumber : Option Nat

/-- What the Pyth contract stores of a feed. -/
structure Price where
  price : Int
  conf : Nat
  expo : Int
  publishTime : Nat
  deriving DecidableEq, Repr

abbrev FeedId := Nat

/-- What a node answers. Of a block only the timestamp is read. -/
structure Node where
  getLogs : Filter → Except RpcError (List Log)
  getTransactionReceipt : TxHash → Except RpcError (Option Receipt)
  getBlockByNumber : Nat → Except RpcError (Option Nat)
  symbol : Address → Except EvmError String
  getPriceUnsafe : FeedId → Nat → Except RpcError Price

/-- A missing index is before every other. -/
def Log.place (log : Log) : WithBot Nat :=
  match log.logIndex with
  | none => ⊥
  | some index => index

theorem Log.place_eq {log : Log} {index : Nat} (known : log.logIndex = some index) :
    log.place = index := by
  rw [place, known]

/-- The first of the least places. -/
def minByLogIndex (logs : List Log) : Option Log := logs.argmin Log.place

def Log.Emits (log : Log) (orderbook : Address) (topic : Topic) : Prop :=
  log.address = orderbook ∧ log.topic0 = some topic

instance (log : Log) (orderbook : Address) (topic : Topic) :
    Decidable (log.Emits orderbook topic) :=
  inferInstanceAs (Decidable (_ ∧ _))

def required {α : Type} (field : Option α) (missing : TradeValidationError) :
    Except OnChainError α :=
  field.elim (.error (.validation missing)) .ok

def asked {α : Type} (answer : Except RpcError α) : Except OnChainError α :=
  answer.mapError .rpcTransport

/-- In the logs of the block: any later one of the transaction, the nearest of them. -/
def laterInBlock (log : Log) (afterClearLogs : List Log) : Option Log :=
  minByLogIndex (afterClearLogs.filter fun afterClearLog =>
    afterClearLog.transactionHash = log.transactionHash ∧ log.place < afterClearLog.place)

/-- In the receipt, the nearest that is later. -/
def laterInReceipt (orderbook : Address) (clearLogIndex : Nat) (logs : List Log) : Option Log :=
  minByLogIndex (logs.filter fun receiptLog =>
    receiptLog.Emits orderbook .afterClearV2 ∧ receiptLog.logIndex.any (clearLogIndex < ·))

/-- Where the AfterClearV2 of a clear is found. -/
def findAfterClear (node : Node) (orderbook : Address) (log : Log) : Except OnChainError Log := do
  let blockNumber ← required log.blockNumber .noBlockNumber
  let txHash ← required log.transactionHash .noTxHash
  let clearLogIndex ← required log.logIndex .noLogIndex
  let afterClearLogs ← asked (node.getLogs ⟨blockNumber, orderbook, .afterClearV2⟩)
  match laterInBlock log afterClearLogs with
  | some afterClearLog => return afterClearLog
  | none =>
      match ← asked (node.getTransactionReceipt txHash) with
      | none => throw (.validation (.nodeReceiptMissing blockNumber txHash clearLogIndex))
      | some receipt =>
          match laterInReceipt orderbook clearLogIndex receipt.logs with
          | some receiptLog => return receiptLog
          | none =>
              let clearInReceipt := receipt.logs.any fun log => log.Emits orderbook .clearV3
              let afterClearInReceipt :=
                receipt.logs.any fun log => log.Emits orderbook .afterClearV2
              if clearInReceipt && !afterClearInReceipt then
                throw (.validation
                  (.afterClearMissingFromReceipt blockNumber txHash clearLogIndex))
              throw (.validation (.nodeReceiptMissing blockNumber txHash clearLogIndex))

/-- Decoding checks the signature. -/
def Log.decodeAfterClearV2 (log : Log) : Except OnChainError ClearStateChangeV2 :=
  match log.topic0, log.afterClear with
  | some .afterClearV2, some change => .ok change
  | _, _ => .error .solType

def fetchAfterClearEvent (node : Node) (orderbook : Address) (log : Log) :
    Except OnChainError ClearStateChangeV2 := do
  let afterClearLog ← findAfterClear node orderbook log
  afterClearLog.decodeAfterClearV2

end Liquidity.Clearing
