import Liquidity.OnChainTrade
import Liquidity.Position.FillMemory
import Liquidity.Process.Interleaving

/-!
# The fill accounting pipeline

A run accounts for one onchain fill in separately committed steps: witness the
trade, enrich it, apply the fill to the position of its symbol, mark the trade
acknowledged, and settle the fill on the position. The bot's job worker and the
recovery command line both execute this sequence, in different processes.

Each store access below is one atomic operation. It may find the database
unavailable, in which case it changes nothing and the run ends with an error;
enrichment is the one step whose error is swallowed.
-/

namespace Liquidity.FillAccounting

open EventSourcing Process

/-- A fill as it was read from the chain. -/
structure OnchainTrade where
  txHash : TxHash
  logIndex : Nat
  symbol : Symbol
  amount : FractionalShares
  direction : Direction
  price : Usdc
  blockTimestamp : Option Time
  gasUsed : Option Nat
  effectiveGasPrice : Option Nat
  pythPrice : Option PythPrice
  deriving DecidableEq

/-- The identity of a fill in both aggregates. -/
def OnchainTrade.tradeId (trade : OnchainTrade) : TradeId := ⟨trade.txHash, trade.logIndex⟩

inductive PositionFillLookupError where
  | logIndex (tradeId : TradeId)
  | query (tradeId : TradeId)
  deriving DecidableEq, Repr

inductive TradeAccountingError where
  | missingBlockTimestamp (tradeId : TradeId)
  | inconsistentOnChainTradeState (tradeId : TradeId)
  | onChainTrade (error : SendError OnChainTradeError)
  | position (error : SendError PositionError)
  | positionFillLookup (error : PositionFillLookupError)
  deriving DecidableEq

inductive FillAccountingOutcome where
  | alreadyAcknowledged
  | accounted (tradeId : TradeId)
  deriving DecidableEq, Repr

/-! ## Stores and operations -/

/-- The two event stores the pipeline writes to. -/
structure Stores where
  trades : Streams TradeId OnChainTradeEvent
  positions : Streams Symbol PositionEvent

def Stores.empty : Stores := ⟨fun _ => [], fun _ => []⟩

inductive Op where
  | loadTrade (id : TradeId)
  | sendTrade (id : TradeId) (command : OnChainTradeCommand)
  | fillRecorded (symbol : Symbol) (id : TradeId)
  | sendPosition (symbol : Symbol) (command : PositionCommand)

@[reducible] def Op.Ret : Op → Type
  | .loadTrade _ => Except (SendError OnChainTradeError) (Option OnChainTrade)
  | .sendTrade _ _ => Except (SendError OnChainTradeError) Unit
  | .fillRecorded _ _ => Except PositionFillLookupError Bool
  | .sendPosition _ _ => Except (SendError PositionError) Unit

/-- How the environment answers one store access: the clock it reads, and
whether the database can be reached. -/
structure Choice where
  now : Time
  available : Bool

/-- The largest log index the query parameter can carry. -/
def maxLogIndex : Nat := 2 ^ 63 - 1

/-- Append what a command produced, or report why it was refused. -/
def commitTrade (stores : Stores) (id : TradeId) :
    Except (SendError OnChainTradeError) (List OnChainTradeEvent) →
      Except (SendError OnChainTradeError) Unit × Stores
  | .ok events => (.ok (), { stores with trades := stores.trades.append id events })
  | .error error => (.error error, stores)

def commitPosition (stores : Stores) (symbol : Symbol) :
    Except (SendError PositionError) (List PositionEvent) →
      Except (SendError PositionError) Unit × Stores
  | .ok events => (.ok (), { stores with positions := stores.positions.append symbol events })
  | .error error => (.error error, stores)

section Handle

variable [FloatFormat]

/-- One atomic access to the stores. -/
def handle (choice : Choice) : (op : Op) → Stores → Option (op.Ret × Stores)
  | .loadTrade id, stores =>
      if choice.available then some (OnChainTrade.aggregate.load (stores.trades id), stores)
      else some (.error .infrastructure, stores)
  | .sendTrade id command, stores =>
      if choice.available then
        some (commitTrade stores id
          (OnChainTrade.aggregate.send choice.now command (stores.trades id)))
      else some (.error .infrastructure, stores)
  | .fillRecorded symbol id, stores =>
      if id.logIndex > maxLogIndex then some (.error (.logIndex id), stores)
      else if choice.available then some (.ok (Position.recordedIn (stores.positions symbol) id), stores)
      else some (.error (.query id), stores)
  | .sendPosition symbol command, stores =>
      if choice.available then
        some (commitPosition stores symbol
          (Position.aggregate.send choice.now command (stores.positions symbol)))
      else some (.error .infrastructure, stores)

theorem handle_loadTrade {choice : Choice} {id : TradeId} {stores next : Stores}
    {answer : (Op.loadTrade id).Ret}
    (h : handle choice (.loadTrade id) stores = some (answer, next)) :
    next = stores ∧
      (answer = .error .infrastructure ∨
        answer = OnChainTrade.aggregate.load (stores.trades id)) := by
  simp only [handle] at h
  split at h <;> cases h
  · exact ⟨rfl, .inr rfl⟩
  · exact ⟨rfl, .inl rfl⟩

theorem handle_fillRecorded {choice : Choice} {symbol : Symbol} {id : TradeId}
    {stores next : Stores} {answer : (Op.fillRecorded symbol id).Ret}
    (h : handle choice (.fillRecorded symbol id) stores = some (answer, next)) :
    next = stores ∧
      ((∃ error, answer = .error error) ∨
        answer = .ok (Position.recordedIn (stores.positions symbol) id)) := by
  simp only [handle] at h
  split at h
  · cases h
    exact ⟨rfl, .inl ⟨_, rfl⟩⟩
  · split at h <;> cases h
    · exact ⟨rfl, .inr rfl⟩
    · exact ⟨rfl, .inl ⟨_, rfl⟩⟩

/-- A command on a trade is either refused, changing nothing, or appends its batch. -/
theorem handle_sendTrade {choice : Choice} {id : TradeId} {command : OnChainTradeCommand}
    {stores next : Stores} {answer : (Op.sendTrade id command).Ret}
    (h : handle choice (.sendTrade id command) stores = some (answer, next)) :
    (∃ error, answer = .error error ∧ next = stores ∧
        (error = .infrastructure ∨
          OnChainTrade.aggregate.send choice.now command (stores.trades id) = .error error)) ∨
      ∃ events, OnChainTrade.aggregate.send choice.now command (stores.trades id) = .ok events ∧
        answer = .ok () ∧ next = { stores with trades := stores.trades.append id events } := by
  simp only [handle] at h
  split at h
  · cases sent : OnChainTrade.aggregate.send choice.now command (stores.trades id) with
    | error error =>
        rw [sent] at h
        cases h
        exact .inl ⟨error, rfl, rfl, .inr rfl⟩
    | ok events =>
        rw [sent] at h
        cases h
        exact .inr ⟨events, rfl, rfl, rfl⟩
  · cases h
    exact .inl ⟨_, rfl, rfl, .inl rfl⟩

/-- A command on a position is either refused, changing nothing, or appends its batch. -/
theorem handle_sendPosition {choice : Choice} {symbol : Symbol} {command : PositionCommand}
    {stores next : Stores} {answer : (Op.sendPosition symbol command).Ret}
    (h : handle choice (.sendPosition symbol command) stores = some (answer, next)) :
    (∃ error, answer = .error error ∧ next = stores ∧
        (error = .infrastructure ∨
          Position.aggregate.send choice.now command (stores.positions symbol) = .error error)) ∨
      ∃ events, Position.aggregate.send choice.now command (stores.positions symbol) = .ok events ∧
        answer = .ok () ∧
        next = { stores with positions := stores.positions.append symbol events } := by
  simp only [handle] at h
  split at h
  · cases sent : Position.aggregate.send choice.now command (stores.positions symbol) with
    | error error =>
        rw [sent] at h
        cases h
        exact .inl ⟨error, rfl, rfl, .inr rfl⟩
    | ok events =>
        rw [sent] at h
        cases h
        exact .inr ⟨events, rfl, rfl, rfl⟩
  · cases h
    exact .inl ⟨_, rfl, rfl, .inl rfl⟩

end Handle

/-! ## The steps of a run -/

abbrev Run := Prog Op Op.Ret TradeAccountingError

def loadTrade (id : TradeId) : Run (Except (SendError OnChainTradeError) (Option OnChainTrade)) :=
  Prog.perform (Op.loadTrade id)

def sendTrade (id : TradeId) (command : OnChainTradeCommand) :
    Run (Except (SendError OnChainTradeError) Unit) :=
  Prog.perform (Op.sendTrade id command)

def fillRecorded (symbol : Symbol) (id : TradeId) : Run (Except PositionFillLookupError Bool) :=
  Prog.perform (Op.fillRecorded symbol id)

def sendPosition (symbol : Symbol) (command : PositionCommand) :
    Run (Except (SendError PositionError) Unit) :=
  Prog.perform (Op.sendPosition symbol command)

/-- Witness the fill. A duplicate is reported as `false`, every other error ends the run. -/
def executeWitnessTrade (trade : OnchainTrade) (blockNumber : Nat) (blockTimestamp : Time) :
    Run Bool := do
  match ← sendTrade trade.tradeId
      (.witness trade.symbol trade.amount trade.direction trade.price blockNumber
        blockTimestamp) with
  | .ok () => return true
  | .error (.rejected .alreadyFilled) => return false
  | .error error => throw (.onChainTrade error)

/-- Enrich the trade if the data is there. Its errors are logged and dropped. -/
def executeEnrichTrade (trade : OnchainTrade) : Run Unit := do
  match trade.gasUsed, trade.effectiveGasPrice, trade.pythPrice with
  | some gasUsed, some effectiveGasPrice, some pythPrice =>
      let _ ← sendTrade trade.tradeId (.enrich gasUsed effectiveGasPrice pythPrice)
      return ()
  | _, _, _ => return ()

/-- Apply the fill to its position. A fill the position already knows counts as applied. -/
def executeAcknowledgeFill (trade : OnchainTrade) (threshold : ExecutionThreshold)
    (blockTimestamp : Time) : Run Unit := do
  match ← sendPosition trade.symbol
      (.acknowledgeOnChainFill trade.symbol threshold trade.tradeId trade.amount trade.direction
        trade.price blockTimestamp) with
  | .ok () => return ()
  | .error (.rejected (.duplicateTrade _)) => return ()
  | .error error => throw (.position error)

def executeMarkAcknowledged (tradeId : TradeId) : Run Unit := do
  match ← sendTrade tradeId .acknowledge with
  | .ok () => return ()
  | .error (.rejected .alreadyAcknowledged) => return ()
  | .error error => throw (.onChainTrade error)

def executeSettleFill (trade : OnchainTrade) : Run Unit := do
  match ← sendPosition trade.symbol (.settleOnChainFill trade.tradeId) with
  | .ok () => return ()
  | .error error => throw (.position error)

def positionFillAlreadyRecorded (symbol : Symbol) (tradeId : TradeId) : Run Bool := do
  match ← fillRecorded symbol tradeId with
  | .ok recorded => return recorded
  | .error error => throw (.positionFillLookup error)

/-- What a loaded trade means for the run: an acknowledged one only needs its
leaked settle, any other one is resumed. Answers whether the run goes on. -/
def resumeWitnessed (trade : OnchainTrade) (state : OnChainTrade) : Run Bool := do
  if state.isAcknowledged then
    executeSettleFill trade
    return false
  else
    if !state.isEnriched then executeEnrichTrade trade
    return true

/-- The entry of a run: witness a fill that is absent, resume one that is there.
Answers whether the fill still has to be accounted for. -/
def witnessOrResume (trade : OnchainTrade) (blockNumber : Nat) (blockTimestamp : Time) :
    Run Bool := do
  match ← loadTrade trade.tradeId with
  | .ok (some state) => resumeWitnessed trade state
  | .ok none =>
      if ← executeWitnessTrade trade blockNumber blockTimestamp then
        executeEnrichTrade trade
        return true
      else
        match ← loadTrade trade.tradeId with
        | .ok (some reloaded) => resumeWitnessed trade reloaded
        | .ok none => throw (.inconsistentOnChainTradeState trade.tradeId)
        | .error error => throw (.onChainTrade error)
  | .error error => throw (.onChainTrade error)

def accountForOnchainFill (trade : OnchainTrade) (blockNumber : Nat)
    (threshold : ExecutionThreshold) : Run FillAccountingOutcome := do
  match trade.blockTimestamp with
  | none => throw (.missingBlockTimestamp trade.tradeId)
  | some blockTimestamp =>
      if ← witnessOrResume trade blockNumber blockTimestamp then
        if !(← positionFillAlreadyRecorded trade.symbol trade.tradeId) then
          executeAcknowledgeFill trade threshold blockTimestamp
        return .accounted trade.tradeId
      else
        return .alreadyAcknowledged

/-- A run as the job worker and the command line execute it: account for the
fill, then mark and settle what was accounted. -/
def accountMarkSettle (trade : OnchainTrade) (blockNumber : Nat)
    (threshold : ExecutionThreshold) : Run FillAccountingOutcome := do
  match ← accountForOnchainFill trade blockNumber threshold with
  | .alreadyAcknowledged => return .alreadyAcknowledged
  | .accounted tradeId =>
      executeMarkAcknowledged tradeId
      executeSettleFill trade
      return .accounted tradeId

/-! ## Runs side by side -/

/-- One delivery of a fill. -/
structure Delivery where
  trade : OnchainTrade
  blockNumber : Nat
  threshold : ExecutionThreshold
  deriving DecidableEq

/-- A position command that is not part of fill accounting, sent by another
subsystem. -/
structure OtherCommand where
  symbol : Symbol
  command : PositionCommand
  now : Time
  notFill : Position.isFillCommand command = false

/-- Deliveries in any number of processes. `deliverable` says which deliveries can
occur, `exclusive` what the callers serialise: nothing across processes, one run
at a time for a symbol inside one. -/
def system [FloatFormat] (deliverable : Delivery → Bool)
    (exclusive : Delivery → Delivery → Bool) :
    System Op Op.Ret TradeAccountingError FillAccountingOutcome Stores Choice Delivery
      OtherCommand where
  program delivery := accountMarkSettle delivery.trade delivery.blockNumber delivery.threshold
  handle := handle
  environment other stores :=
    some (commitPosition stores other.symbol
      (Position.aggregate.send other.now other.command (stores.positions other.symbol))).2
  canStart delivery _ := deliverable delivery
  exclusive := exclusive

end Liquidity.FillAccounting
