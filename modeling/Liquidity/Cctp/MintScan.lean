import Liquidity.Chunks
import Liquidity.Cctp.Message

/-!
# Finding a mint that already happened

Before a message is minted, the nonce is looked up. If it is used, the logs of the chain
are scanned backwards, chunk by chunk, for the one that says the message was received.
The mint of that very call is the one logged last before it in the same transaction.

What a scan queried is history, kept for stating properties and read by no operation.
-/

namespace Liquidity.Cctp

open Receipts (EvmError TransactionReceipt)

abbrev Address := Nat

/-! ## Events -/

/-- The first topic of a log. -/
inductive Signature where
  | messageReceived
  | mintAndWithdraw
  | other (hash : Nat)
  deriving DecidableEq, Repr

structure MessageReceived where
  caller : Nat
  sourceDomain : Nat
  nonce : Nat
  sender : Nat
  finalityThresholdExecuted : Nat
  messageBody : List UInt8
  deriving DecidableEq, Repr

structure MintAndWithdraw where
  mintRecipient : Nat
  amount : Nat
  mintToken : Nat
  feeCollected : Nat
  deriving DecidableEq, Repr

/-- The arguments of an event that are not indexed. -/
inductive LogData where
  | messageReceived (sourceDomain sender : Nat) (messageBody : List UInt8)
  | mintAndWithdraw (amount feeCollected : Nat)
  | other (bytes : List UInt8)
  deriving DecidableEq, Repr

/-- What a contract logs. The topics are those after the signature. -/
structure Emission where
  address : Address
  signature : Option Signature
  topics : List Nat
  data : LogData
  deriving DecidableEq, Repr

structure Log extends Emission where
  transactionHash : Option TxHash
  logIndex : Option Nat
  deriving DecidableEq, Repr

namespace Emission

def decodeMessageReceived (emission : Emission) : Option MessageReceived :=
  match emission.signature, emission.topics, emission.data with
  | some .messageReceived, [caller, nonce, finalityThresholdExecuted],
      .messageReceived sourceDomain sender messageBody =>
      some { caller, sourceDomain, nonce, sender, finalityThresholdExecuted, messageBody }
  | _, _, _ => none

def decodeMintAndWithdraw (emission : Emission) : Option MintAndWithdraw :=
  match emission.signature, emission.topics, emission.data with
  | some .mintAndWithdraw, [mintRecipient, mintToken], .mintAndWithdraw amount feeCollected =>
      some { mintRecipient, amount, mintToken, feeCollected }
  | _, _, _ => none

end Emission

structure LogFilter where
  address : Address
  fromBlock : Nat
  toBlock : Nat
  eventSignature : Signature
  topic2 : Nat
  deriving DecidableEq, Repr

def LogFilter.accepts (filter : LogFilter) (log : Log) : Bool :=
  log.address = filter.address && log.signature = some filter.eventSignature &&
    log.topics[1]? = some filter.topic2

/-! ## The endpoint -/

/-- What is asked of a node of the destination chain. -/
structure Node where
  usedNonces : Nat → Except EvmError Nat
  getBlockNumber : Except EvmError Nat
  getLogs : LogFilter → Except EvmError (List Log)
  awaitReceipt : TxHash → Except EvmError (TransactionReceipt Log)

structure CctpEndpoint where
  node : Node
  messageTransmitterAddress : Address

structure MintReceipt where
  tx : TxHash
  amount : Nat
  feeCollected : Nat
  deriving DecidableEq, Repr

def isNonceUsed (endpoint : CctpEndpoint) (nonce : Nat) : Except EvmError Bool := do
  let nonceUsed ← endpoint.node.usedNonces nonce
  return nonceUsed ≠ 0

/-! ## The scan -/

def cctpRecoveryLogBlockChunk : Nat := 20000

def checkedSub (value amount : Nat) : Option Nat :=
  if value < amount then none else some (value - amount)

/-- The next chunk of a scan ends before this one. -/
theorem checkedSub_start_lt {chunk floor toBlock next : Nat}
    (above : ¬ max (toBlock - (chunk - 1)) floor ≤ floor)
    (before : checkedSub (max (toBlock - (chunk - 1)) floor) 1 = some next) : next < toBlock := by
  rw [checkedSub] at before
  split at before
  case isTrue => cases before
  case isFalse =>
      cases before
      exact Chunks.pred_start_lt above

/-- The query for the logs that a message with this nonce was received. -/
def receivedFilter (endpoint : CctpEndpoint) (nonce fromBlock toBlock : Nat) : LogFilter where
  address := endpoint.messageTransmitterAddress
  fromBlock := fromBlock
  toBlock := toBlock
  eventSignature := .messageReceived
  topic2 := nonce

/-- A log with the nonce. An error is the end of the scan, also where that is the
transaction that was looked for; otherwise the nonce was seen. -/
def inspectLog (received : CctpReceivedMessage) (_sawNonce : Bool) (log : Log) :
    Except (Except CctpError (TxHash × Nat)) Bool :=
  match log.decodeMessageReceived with
  | none => .ok true
  | some event =>
      if event.sourceDomain ≠ received.sourceDomain ∨
          event.messageBody ≠ received.messageBody then .ok true
      else
        match log.transactionHash with
        | none => .error (.error (.recoveredMintLogMissingTxHash received.nonce))
        | some txHash =>
            match log.logIndex with
            | none => .error (.error (.recoveredMintLogMissingTxHash received.nonce))
            | some logIndex => .error (.ok (txHash, logIndex))

structure Scan where
  /-- History: the queries, in order. -/
  queried : List LogFilter
  /-- Nothing where a subtraction underflowed. -/
  outcome : Option (Except CctpError (TxHash × Nat))

/-- The loop, from a last block down to the floor, with the size of its chunks. -/
def scanFrom (chunk : Nat) (endpoint : CctpEndpoint) (received : CctpReceivedMessage)
    (floor toBlock : Nat) (sawNonce : Bool) : Scan :=
  let fromBlock := max (toBlock - (chunk - 1)) floor
  let filter := receivedFilter endpoint received.nonce fromBlock toBlock
  match endpoint.node.getLogs filter with
  | .error error => ⟨[filter], some (.error (.evm error))⟩
  | .ok logs =>
      match logs.foldlM (inspectLog received) sawNonce with
      | .error outcome => ⟨[filter], some outcome⟩
      | .ok sawNonce =>
          if fromBlock ≤ floor then
            ⟨[filter], some (.error (if sawNonce then .recoveredMintMessageMismatch received.nonce
              else .alreadyMintedMessageNotFound received.nonce))⟩
          else
            match _before : checkedSub fromBlock 1 with
            | none => ⟨[filter], none⟩
            | some toBlock =>
                let rest := scanFrom chunk endpoint received floor toBlock sawNonce
                ⟨filter :: rest.queried, rest.outcome⟩
termination_by toBlock
decreasing_by exact checkedSub_start_lt ‹_› ‹_›

def findReceivedMessageTx (endpoint : CctpEndpoint) (received : CctpReceivedMessage)
    (minBlock : Option Nat) : Scan :=
  match endpoint.node.getBlockNumber with
  | .error error => ⟨[], some (.error (.evm error))⟩
  | .ok latest =>
      -- the caller's floor may come from a node that is ahead
      let floor := min (minBlock.getD 0) latest
      scanFrom cctpRecoveryLogBlockChunk endpoint received floor latest false

/-! ## The receipt -/

def greater {α : Type} (key : α → Nat) (best : Option α) (item : α) : Option α :=
  match best with
  | none => some item
  | some best => if key best ≤ key item then some item else some best

/-- The last item with the greatest key. -/
def maxByKey {α : Type} (key : α → Nat) (items : List α) : Option α :=
  items.foldl (greater key) none

/-- A mint that is logged before the message was received, with its index. -/
def mintBefore (messageReceivedLogIndex : Nat) (log : Log) : Option (Nat × MintAndWithdraw) := do
  let logIndex ← log.logIndex
  if messageReceivedLogIndex ≤ logIndex then none
  else
    let decoded ← log.decodeMintAndWithdraw
    some (logIndex, decoded)

/-- The mint that is logged last before the message was received. -/
def parseMintReceiptForMessage (receipt : TransactionReceipt Log)
    (messageReceivedLogIndex : Nat) : Option MintReceipt := do
  let (_, mintEvent) ← maxByKey (·.1) (receipt.logs.filterMap (mintBefore messageReceivedLogIndex))
  some {
    tx := receipt.transactionHash
    amount := mintEvent.amount
    feeCollected := mintEvent.feeCollected }

def readMintReceipt (endpoint : CctpEndpoint) (txHash : TxHash) (messageReceivedLogIndex : Nat) :
    Except CctpError MintReceipt := do
  let receipt ← (endpoint.node.awaitReceipt txHash).mapError .evm
  if !receipt.status then throw (.recoveredMintReceiptReverted txHash)
  match parseMintReceiptForMessage receipt messageReceivedLogIndex with
  | some mintReceipt => return mintReceipt
  | none => throw (.recoveredMintAndWithdrawEventNotFound txHash)

/-- Nothing where the scan underflowed. -/
def locateMintReceipt (endpoint : CctpEndpoint) (received : CctpReceivedMessage)
    (minBlock : Option Nat) : Option (Except CctpError MintReceipt) :=
  (findReceivedMessageTx endpoint received minBlock).outcome.map fun found => do
    let (txHash, messageReceivedLogIndex) ← found
    readMintReceipt endpoint txHash messageReceivedLogIndex

/-- The receipt of the mint of a message, if its nonce is used. -/
def findExistingMint (endpoint : CctpEndpoint) (direction : BridgeDirection)
    (message : List UInt8) : Option (Except CctpError (Option MintReceipt)) :=
  match validateMessageShape message direction with
  | .error error => some (.error error)
  | .ok received =>
      match isNonceUsed endpoint received.nonce with
      | .error error => some (.error (.evm error))
      | .ok false => some (.ok none)
      | .ok true =>
          (locateMintReceipt endpoint received none).map fun located => located.map some

/-! ## The chunks of a scan -/

theorem checkedSub_of_pos {value : Nat} (positive : 0 < value) :
    checkedSub value 1 = some (value - 1) :=
  if_neg (Nat.not_lt.mpr positive)

section Chunks

variable (chunk : Nat) (endpoint : CctpEndpoint) (received : CctpReceivedMessage)
variable (floor toBlock : Nat) (sawNonce : Bool)

/-- The query for a chunk. -/
def chunkFilter (endpoint : CctpEndpoint) (nonce : Nat) (chunk : Chunks.Chunk) : LogFilter :=
  receivedFilter endpoint nonce chunk.first chunk.last

/-- One round of the loop, on the chunk that ends here. -/
theorem scanFrom_eq : scanFrom chunk endpoint received floor toBlock sawNonce =
    let filter := receivedFilter endpoint received.nonce (Chunks.start chunk floor toBlock) toBlock
    match endpoint.node.getLogs filter with
    | .error error => ⟨[filter], some (.error (.evm error))⟩
    | .ok logs =>
        match logs.foldlM (inspectLog received) sawNonce with
        | .error outcome => ⟨[filter], some outcome⟩
        | .ok sawNonce =>
            if Chunks.start chunk floor toBlock ≤ floor then
              ⟨[filter], some (.error (if sawNonce then .recoveredMintMessageMismatch received.nonce
                else .alreadyMintedMessageNotFound received.nonce))⟩
            else
              let rest := scanFrom chunk endpoint received floor
                (Chunks.start chunk floor toBlock - 1) sawNonce
              ⟨filter :: rest.queried, rest.outcome⟩ := by
  rw [scanFrom]
  dsimp only [Chunks.start]
  split
  case h_1 => rfl
  case h_2 =>
      split
      case h_1 => rfl
      case h_2 =>
          by_cases reached : max (toBlock - (chunk - 1)) floor ≤ floor
          · simp only [reached, if_true]
          · have positive : 0 < max (toBlock - (chunk - 1)) floor := by omega
            simp only [reached, if_false]
            split
            case h_1 underflow =>
                rw [checkedSub_of_pos positive] at underflow
                cases underflow
            case h_2 next before =>
                rw [checkedSub_of_pos positive] at before
                cases before
                rfl

/-- A scan queries the chunks in order and never underflows. -/
theorem scanFrom_queried :
    (scanFrom chunk endpoint received floor toBlock sawNonce).queried <+:
        (Chunks.backwards chunk floor toBlock).map (chunkFilter endpoint received.nonce) ∧
      (scanFrom chunk endpoint received floor toBlock sawNonce).outcome.isSome := by
  induction toBlock using Nat.strong_induction_on generalizing sawNonce with
  | _ toBlock ih =>
      have here : ∀ chunks, [receivedFilter endpoint received.nonce
          (Chunks.start chunk floor toBlock) toBlock] <+:
            (⟨Chunks.start chunk floor toBlock, toBlock⟩ :: chunks).map
              (chunkFilter endpoint received.nonce) := fun chunks =>
        (List.prefix_cons_inj _).mpr List.nil_prefix
      rw [scanFrom_eq, Chunks.backwards]
      by_cases reached : Chunks.start chunk floor toBlock ≤ floor
      · simp only [reached, if_true]
        split
        case h_1 => exact ⟨here [], rfl⟩
        case h_2 =>
            split
            case h_1 => exact ⟨here [], rfl⟩
            case h_2 => exact ⟨here [], rfl⟩
      · simp only [reached, if_false]
        split
        case h_1 => exact ⟨here _, rfl⟩
        case h_2 =>
            split
            case h_1 => exact ⟨here _, rfl⟩
            case h_2 saw _ =>
                obtain ⟨queried, ends⟩ := @ih _ (Chunks.pred_start_lt reached) saw
                exact ⟨(List.prefix_cons_inj _).mpr queried, ends⟩

/-- Where no log turns up, the scan queries all chunks. -/
theorem scanFrom_queried_all (silent : ∀ filter, endpoint.node.getLogs filter = .ok []) :
    (scanFrom chunk endpoint received floor toBlock sawNonce).queried =
      (Chunks.backwards chunk floor toBlock).map (chunkFilter endpoint received.nonce) := by
  induction toBlock using Nat.strong_induction_on with
  | _ toBlock ih =>
      rw [scanFrom_eq, Chunks.backwards]
      simp only [silent]
      by_cases reached : Chunks.start chunk floor toBlock ≤ floor
      · simp only [reached, if_true]
        rfl
      · simp only [reached, if_false, List.map_cons]
        exact congrArg (List.cons _) (ih _ (Chunks.pred_start_lt reached))

end Chunks

theorem mintBefore_eq_some {limit : Nat} {log : Log} {index : Nat} {mint : MintAndWithdraw} :
    mintBefore limit log = some (index, mint) ↔
      log.logIndex = some index ∧ index < limit ∧ log.decodeMintAndWithdraw = some mint := by
  rw [mintBefore]
  cases log.logIndex with
  | none => simp
  | some own =>
      by_cases late : limit ≤ own
      · simp only [Option.bind_eq_bind, Option.bind_some, if_pos late, Option.some.injEq]
        constructor
        · intro none
          cases none
        · intro ⟨same, early, _⟩
          omega
      · simp only [Option.bind_eq_bind, Option.bind_some, if_neg late, Option.some.injEq]
        cases log.decodeMintAndWithdraw with
        | none => simp
        | some decoded =>
            simp only [Option.bind_some, Option.some.injEq, Prod.mk.injEq]
            constructor
            · intro ⟨same, decodes⟩
              exact ⟨same, by omega, decodes⟩
            · intro ⟨same, _, decodes⟩
              exact ⟨same, decodes⟩

/-! ## The greatest key -/

section Greatest

variable {α : Type} {key : α → Nat} {item : α}

theorem greater_of_le {best : Option α} (low : ∀ other ∈ best, key other ≤ key item) :
    greater key best item = some item := by
  cases best with
  | none => rfl
  | some best => exact if_pos (low best rfl)

theorem foldl_greater_of_lt {items : List α} (low : ∀ other ∈ items, key other < key item) :
    items.foldl (greater key) (some item) = some item := by
  induction items with
  | nil => rfl
  | cons first items ih =>
      have smaller := low first List.mem_cons_self
      have kept : greater key (some item) first = some item := if_neg (Nat.not_le.mpr smaller)
      rw [List.foldl_cons, kept]
      exact ih fun other listed => low other (List.mem_cons_of_mem _ listed)

theorem mem_of_foldl_greater {items : List α} {best : Option α} {found : α}
    (greatest : items.foldl (greater key) best = some found) : found ∈ best ∨ found ∈ items := by
  induction items generalizing best with
  | nil => exact .inl greatest
  | cons first items ih =>
      obtain chosen | later := ih greatest
      · cases best with
        | none =>
            cases chosen
            exact .inr List.mem_cons_self
        | some own =>
            rw [greater] at chosen
            split at chosen
            case isTrue =>
                cases chosen
                exact .inr List.mem_cons_self
            case isFalse => exact .inl chosen
      · exact .inr (List.mem_cons_of_mem _ later)

/-- An item whose key is not below those before it and above those after it. -/
theorem maxByKey_eq {before after : List α} (low : ∀ other ∈ before, key other ≤ key item)
    (lower : ∀ other ∈ after, key other < key item) :
    maxByKey key (before ++ item :: after) = some item := by
  rw [maxByKey, List.foldl_append, List.foldl_cons, greater_of_le]
  · exact foldl_greater_of_lt lower
  · intro other chosen
    obtain start | listed := mem_of_foldl_greater chosen
    · cases start
    · exact low other listed

end Greatest

end Liquidity.Cctp
