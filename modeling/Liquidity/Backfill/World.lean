import Liquidity.Backfill.Events
import Liquidity.Backfill.Ranges
import Liquidity.Process.Restarts

/-!
# Polling for fills

A poller turns the distance between the checkpoint and the cutoff into a durable
job, and a worker scans the job's blocks, enqueues the trades it finds and moves
the checkpoint. Each may fail at any call, and the process may go down at any
moment and come back, under the same configuration or another.

`World.scanned` and the orderbook of a job are history, kept for stating
properties and read by no operation.
-/

namespace Liquidity.Backfill

open Process

/-! ## Data -/

inductive InventoryMode where
  | legacy
  | managed (inventory : Address)
  deriving DecidableEq, Repr

inductive IngestionCutoff where
  | safe
  | finalized
  deriving DecidableEq, Repr

/-- What a process is configured with. -/
structure EvmCtx where
  orderbook : Address
  inventory : InventoryMode
  deploymentBlock : Nat
  ingestionCutoff : IngestionCutoff
  /-- The wallet whose own settlements are no trades. -/
  botOperator : Address
  deriving DecidableEq, Repr

def EvmCtx.inventoryAddress (evm : EvmCtx) : Address :=
  match evm.inventory with
  | .legacy => evm.orderbook
  | .managed inventory => inventory

structure Filter where
  address : Address
  topics : List Topic
  fromBlock : Nat
  toBlock : Nat
  deriving DecidableEq, Repr

def Filter.accepts (filter : Filter) (log : Log) : Bool :=
  log.address = filter.address && log.topic0.any fun topic => filter.topics.contains topic

/-- The logs of each block. A transaction is in one block. -/
structure Chain where
  logs : Nat → List Log
  inOneBlock : ∀ {first second : Nat} {a b : Log} {txHash : TxHash}, a ∈ logs first →
    b ∈ logs second → a.transactionHash = some txHash → b.transactionHash = some txHash →
    first = second

/-- The true answer to a query. -/
def Chain.answer (chain : Chain) (filter : Filter) : List Log :=
  (List.range' filter.fromBlock (filter.toBlock + 1 - filter.fromBlock)).flatMap fun block =>
    (chain.logs block).filter filter.accepts

structure BackfillRange where
  fromBlock : Nat
  toBlock : Nat
  deriving DecidableEq, Repr

inductive JobStatus where
  | pending
  | queued
  | running
  | done
  | failed
  | killed
  deriving DecidableEq, Repr

def JobStatus.inFlight : JobStatus → Bool
  | .done | .failed | .killed => false
  | _ => true

/-- A row of the job table. -/
structure Job where
  range : BackfillRange
  status : JobStatus
  /-- History: the orderbook whose checkpoint the range starts at. -/
  orderbook : Address
  deriving DecidableEq, Repr

/-- A batch that was scanned, its trades enqueued. -/
structure Scan where
  evm : EvmCtx
  batchStart : Nat
  batchEnd : Nat
  deriving DecidableEq, Repr

structure World where
  checkpoints : Address → Option Nat
  jobs : List Job
  /-- The trades that were enqueued for accounting. -/
  accounting : List EmittedOnChain
  scanned : List Scan

namespace World

def empty : World := ⟨fun _ => none, [], [], []⟩

def setStatus (world : World) (job : Nat) (status : JobStatus) : World :=
  { world with jobs := world.jobs.modify job fun row => { row with status } }

/-- The checkpoint only ever rises. -/
def saveBackfillCheckpoint (world : World) (orderbook : Address) (lastProcessedBlock : Nat) : World :=
  { world with
    checkpoints := Function.update world.checkpoints orderbook
      (some (match world.checkpoints orderbook with
        | some before => max lastProcessedBlock before
        | none => lastProcessedBlock)) }

/-- Before a process starts its workers: rows it finds reserved are orphans. -/
def requeueOrphaned (world : World) : World :=
  { world with
    jobs := world.jobs.map fun row =>
      if row.status = .running ∨ row.status = .queued then { row with status := .pending } else row }

end World

/-! ## Operations -/

inductive Op where
  | getBlockNumber
  | latestCutoffBlock
  | loadBackfillCheckpoint
  | hasInFlight
  | pushRange (range : BackfillRange)
  /-- A worker takes a job. -/
  | accept (job : Nat)
  /-- Ask for logs, and for the tip right after. -/
  | getLogs (filter : Filter)
  | pushTrade (trade : EmittedOnChain)
  /-- History: a batch is complete. -/
  | noteScan (batchStart batchEnd : Nat)
  | saveBackfillCheckpoint (lastProcessedBlock : Nat)
  | finish (job : Nat) (status : JobStatus)

inductive BackfillError where
  | rpc (message : String)
  | database (message : String)
  | enqueue (message : String)
  | nodeLaggingBehindRequest (observedTip requiredTip : Nat)
  | intConversion
  /-- A sum did not fit. -/
  | overflow
  deriving DecidableEq, Repr

@[reducible] def Op.Ret : Op → Type
  | .getBlockNumber => Except BackfillError Nat
  | .latestCutoffBlock => Except BackfillError (Option Nat)
  | .loadBackfillCheckpoint => Except BackfillError (Option Nat)
  | .hasInFlight => Except BackfillError Bool
  | .pushRange _ => Except BackfillError Unit
  | .accept _ => BackfillRange
  | .getLogs _ => Except BackfillError (List Log × Nat)
  | .pushTrade _ => Except BackfillError Unit
  | .noteScan _ _ => Unit
  | .saveBackfillCheckpoint _ => Except BackfillError Unit
  | .finish _ _ => Unit

/-- What becomes of a call. -/
inductive Outcome where
  | fine
  /-- It fails before it takes effect. -/
  | failed
  /-- It takes effect, but the caller gets an error. -/
  | lost
  deriving DecidableEq, Repr

/-- How the environment answers one operation. -/
structure Choice where
  outcome : Outcome := .fine
  message : String := ""
  /-- The tip. -/
  tip : Nat := 0
  cutoff : Option Nat := none
  /-- What a node that lags behind answers. -/
  logs : List Log := []

section Handle

variable (chain : Chain) (evm : EvmCtx) (choice : Choice)

/-- A call that changes the world, unless it fails. -/
def attempt (world : World) (error : BackfillError) (after : World) :
    Except BackfillError Unit × World :=
  match choice.outcome with
  | .fine => (.ok (), after)
  | .failed => (.error error, world)
  | .lost => (.error error, after)

def handle : (op : Op) → World → Option (op.Ret × World)
  | .getBlockNumber, world =>
      some (if choice.outcome = .fine then .ok choice.tip else .error (.rpc choice.message), world)
  | .latestCutoffBlock, world =>
      some (if choice.outcome = .fine then .ok choice.cutoff else .error (.rpc choice.message), world)
  | .loadBackfillCheckpoint, world =>
      some (if choice.outcome = .fine then .ok (world.checkpoints evm.orderbook)
        else .error (.database choice.message), world)
  | .hasInFlight, world =>
      some (if choice.outcome = .fine then .ok (world.jobs.any fun row => row.status.inFlight)
        else .error (.database choice.message), world)
  | .pushRange range, world =>
      some (attempt choice world (.enqueue choice.message)
        { world with jobs := world.jobs ++ [⟨range, .pending, evm.orderbook⟩] })
  | .accept job, world =>
      match world.jobs[job]? with
      | some row =>
          if row.status = .pending ∨ row.status = .queued then
            some (row.range, world.setStatus job .running)
          else none
      | none => none
  | .getLogs filter, world =>
      if choice.outcome = .fine then
        -- Only a node that has reached the end of the range is known to be truthful.
        some (.ok (if filter.toBlock ≤ choice.tip then chain.answer filter else choice.logs,
          choice.tip), world)
      else some (.error (.rpc choice.message), world)
  | .pushTrade trade, world =>
      some (attempt choice world (.enqueue choice.message)
        { world with accounting := world.accounting ++ [trade] })
  | .noteScan batchStart batchEnd, world =>
      some ((), { world with scanned := world.scanned ++ [⟨evm, batchStart, batchEnd⟩] })
  | .saveBackfillCheckpoint lastProcessedBlock, world =>
      if lastProcessedBlock ≤ i64Max then
        some (attempt choice world (.database choice.message)
          (world.saveBackfillCheckpoint evm.orderbook lastProcessedBlock))
      else some (.error .intConversion, world)
  | .finish job status, world => some ((), world.setStatus job status)

end Handle

/-- What happens to the job table by itself. -/
inductive Env where
  /-- A worker reserves a row. -/
  | reserve (job : Nat)
  | kill (job : Nat)

def environment : Env → World → Option World
  | .reserve job, world =>
      match world.jobs[job]? with
      | some row => if row.status = .pending then some (world.setStatus job .queued) else none
      | none => none
  | .kill job, world => some (world.setStatus job .killed)

/-! ## Programs -/

abbrev Flow (α : Type) := Prog Op Op.Ret BackfillError α

def ask (op : Op) : Flow op.Ret := Prog.perform op

/-- Try again after an error, so many times. -/
def retry {α : Type} : Nat → Flow α → Flow α
  | 0, program => program
  | times + 1, program => do
      match ← program.capture with
      | .ok a => pure a
      | .error _ => retry times program

/-- The branch a tick took. -/
inductive PollOutcome where
  | rangeInFlight
  | noCutoffColdStart
  | noCutoffWithCheckpoint
  | enqueued (fromBlock toBlock : Nat)
  | caughtUp
  | cutoffWithinQuietSkew
  | cutoffBehindCheckpoint
  | cutoffBehindDeployment
  deriving DecidableEq, Repr

def safeCutoffQuietSkew : Nat := 32

section Programs

variable (evm : EvmCtx)

/-- Why there is nothing to enqueue. -/
def classify (checkpoint : Option Nat) (fromBlock cutoffBlock : Nat) : PollOutcome :=
  match checkpoint with
  | some checkpoint =>
      if cutoffBlock < checkpoint then
        if evm.ingestionCutoff = .safe ∧ checkpoint - cutoffBlock ≤ safeCutoffQuietSkew then
          .cutoffWithinQuietSkew
        else .cutoffBehindCheckpoint
      else if fromBlock = min (cutoffBlock + 1) (2 ^ 64 - 1) then .caughtUp
      else .cutoffBehindDeployment
  | none => .cutoffBehindDeployment

/-- One tick of the poller. -/
def pollOnce : Flow PollOutcome := do
  let _chainTip ← Prog.liftExcept (← ask .getBlockNumber)
  let cutoff ← Prog.liftExcept (← ask .latestCutoffBlock)
  let _sampledCheckpoint ← Prog.liftExcept (← ask .loadBackfillCheckpoint)
  if ← Prog.liftExcept (← ask .hasInFlight) then pure .rangeInFlight
  else do
    -- A job may have completed since the first read.
    let checkpoint ← Prog.liftExcept (← ask .loadBackfillCheckpoint)
    match cutoff with
    | none => pure (if checkpoint.isSome then .noCutoffWithCheckpoint else .noCutoffColdStart)
    | some cutoffBlock =>
        match backfillStartFromCheckpoint checkpoint evm.deploymentBlock with
        | none => throw .overflow
        | some fromBlock =>
            if fromBlock ≤ cutoffBlock then do
              Prog.liftExcept (← ask (.pushRange ⟨fromBlock, cutoffBlock⟩))
              pure (.enqueued fromBlock cutoffBlock)
            else pure (classify evm checkpoint fromBlock cutoffBlock)

/-- An answer counts only if the node that gave it has seen the whole range. -/
def fetchLogsWithTipCheck (filter : Filter) (toBlock : Nat) : Flow (List Log) := do
  let (logs, observedTip) ← Prog.liftExcept (← ask (.getLogs filter))
  if observedTip < toBlock then throw (.nodeLaggingBehindRequest observedTip toBlock)
  else pure logs

def backfillMaxRetries : Nat := 15

def clearFilter (batchStart batchEnd : Nat) : Filter :=
  ⟨evm.orderbook, [.clearV3], batchStart, batchEnd⟩

def takeFilter (batchStart batchEnd : Nat) : Filter :=
  ⟨evm.orderbook, [.takeOrderV3], batchStart, batchEnd⟩

def inventoryFilter (batchStart batchEnd : Nat) : Filter :=
  ⟨evm.inventoryAddress, [.operatorDeposit, .operatorWithdraw], batchStart, batchEnd⟩

def pushTrades : List EmittedOnChain → Flow Unit
  | [] => pure ()
  | trade :: rest => do
      Prog.liftExcept (← ask (.pushTrade trade))
      pushTrades rest

def enqueueBatchEvents (batchStart batchEnd : Nat) : Flow Nat := do
  let fetch := fun filter => retry backfillMaxRetries (fetchLogsWithTipCheck filter batchEnd)
  let clearLogs ← fetch (clearFilter evm batchStart batchEnd)
  let takeLogs ← fetch (takeFilter evm batchStart batchEnd)
  let invLogs ← fetch (inventoryFilter evm batchStart batchEnd)
  let trades := tradeEvents evm.botOperator clearLogs takeLogs invLogs
  pushTrades trades
  ask (.noteScan batchStart batchEnd)
  pure trades.length

def enqueueBatches : List (Nat × Nat) → Flow Nat
  | [] => pure 0
  | (batchStart, batchEnd) :: rest => do
      let enqueued ← enqueueBatchEvents evm batchStart batchEnd
      let others ← enqueueBatches rest
      pure (enqueued + others)

def backfillRange (range : BackfillRange) : Flow Unit := do
  if range.toBlock < range.fromBlock then Prog.liftExcept (← ask (.saveBackfillCheckpoint range.toBlock))
  else
    match generateBatchRanges range.fromBlock range.toBlock with
    | none => throw .overflow
    | some batches => do
        let _totalEnqueued ← enqueueBatches evm batches
        Prog.liftExcept (← ask (.saveBackfillCheckpoint range.toBlock))

def jobRetries : Nat := 3

/-- A worker runs a job until it succeeds or its retries are used up. -/
def work (job : Nat) : Flow Unit := do
  let range ← ask (.accept job)
  match ← (retry jobRetries (backfillRange evm range)).capture with
  | .ok () => ask (.finish job .done)
  | .error _ => ask (.finish job .failed)

end Programs

/-! ## Processes -/

inductive Label where
  | poll
  | job (job : Nat)
  deriving DecidableEq, Repr

/-- One poller and one worker. -/
def system (chain : Chain) (evm : EvmCtx) :
    System Op Op.Ret BackfillError Unit World Choice Label Env where
  program
    | .poll => do
        let _outcome ← pollOnce evm
        pure ()
    | .job job => work evm job
  handle := handle chain evm
  environment := environment
  canStart := fun _ _ => true
  exclusive
    | .poll, .poll => true
    | .job _, .job _ => true
    | _, _ => false

/-- Processes that follow each other on the same tables. -/
def processes (chain : Chain) :
    Restarting Op Op.Ret BackfillError Unit World Choice Label Env EvmCtx where
  system := system chain
  restart := fun _ world => world.requeueOrphaned

end Liquidity.Backfill
