import Liquidity.UsdcRebalance.Lifecycle
import Liquidity.Process.Interleaving

/-!
# The world of one cross-venue cash transfer

One rebalance, its event stream, two chains, the broker and the tasks that
outlive the attempt which spawned them. An attempt touches these one operation
at a time and may be cancelled or killed between any two of them.

A transaction that was broadcast may be mined in a later block, successfully or
reverted, or never. Scans of a chain see mined transactions only. A response can
get lost on its way, so a call that answers with an error may have taken effect.

`World.attempt` is history, kept for stating properties and read by no
operation: what the running attempt loaded, which irreversible calls it made
since, and which scans came back empty. So is the task that a burn is filed
under.
-/

namespace Liquidity.Transfer

open EventSourcing Process

/-! ## Data -/

inductive Chain where
  | base
  | ethereum
  deriving DecidableEq, Repr

/-- The irreversible calls on a chain, the burn aside. -/
inductive Call where
  /-- Withdraw from the vault on Base. -/
  | withdraw
  /-- Send USDC to Alpaca's deposit address on Ethereum. -/
  | transfer
  /-- Deposit to the vault on Base. -/
  | deposit
  deriving DecidableEq, Repr

def Call.chain : Call → Chain
  | .withdraw | .deposit => .base
  | .transfer => .ethereum

inductive TxKind where
  | call (call : Call)
  | burn (task : Nat)
  /-- A mint and the fee it collected. Anybody may submit one. -/
  | mint (fee : Nat)
  /-- What Alpaca sends to the wallet. -/
  | payout
  deriving DecidableEq, Repr

inductive TxStatus where
  | pending
  | succeeded (block : Nat)
  | reverted (block : Nat)
  deriving DecidableEq, Repr

/-- Whether funds have moved or still may. -/
def TxStatus.live : TxStatus → Bool
  | .pending | .succeeded _ => true
  | .reverted _ => false

/-- A transaction. Its hash is its place in the ledger. -/
structure Tx where
  kind : TxKind
  chain : Chain
  amount : Nat
  status : TxStatus
  deriving DecidableEq

/-- The same transaction, further on its way. -/
def Tx.Same (before after : Tx) : Prop :=
  after.kind = before.kind ∧ after.chain = before.chain ∧ after.amount = before.amount

inductive CctpErrorKind where
  | attestationTimeout
  | scanInconclusive
  | mintRecoveryInconclusive
  | burnTxPending
  | reverted
  | other
  deriving DecidableEq, Repr

/-- An error of the bridge and its rendering. -/
structure CctpError where
  kind : CctpErrorKind
  message : String
  deriving DecidableEq, Repr

def CctpError.isRevert (error : CctpError) : Bool := error.kind = .reverted

/-- An error of a wallet or of the vault's contract. -/
inductive EvmError where
  | insufficientVaultLiquidity
  | transactionDropped
  | other (message : String)
  deriving DecidableEq, Repr

structure AttestationResponse where
  message : List UInt8
  attestation : List UInt8
  nonce : Nat
  deriving DecidableEq

structure MintReceipt where
  tx : TxHash
  amount : Nat
  fee : Nat
  deriving DecidableEq

structure BurnReceipt where
  tx : TxHash
  amount : Nat
  deriving DecidableEq

inductive BurnTxStatus where
  | minedSuccess
  | minedReverted
  | pending
  | dropped
  deriving DecidableEq, Repr

inductive ConversionDirection where
  | usdToUsdc
  | usdcToUsd
  deriving DecidableEq, Repr

inductive CryptoOrderFailureReason where
  | canceled
  | expired
  | rejected
  | doneForDay
  | replaced
  | suspended
  | calculated
  deriving DecidableEq, Repr

inductive CryptoOrderOutcome where
  | filled
  | pending
  | failed (reason : CryptoOrderFailureReason)
  deriving DecidableEq, Repr

/-- A conversion order as the broker reports it. -/
structure CryptoOrderResponse where
  id : Nat
  outcome : CryptoOrderOutcome
  filledQuantity : Option Usdc
  filledAveragePrice : Option Usd
  deriving DecidableEq

/-- A conversion order as it was placed. -/
structure ConversionOrder where
  clientOrderId : ClientOrderId
  direction : ConversionDirection
  amount : Usdc
  deriving DecidableEq

inductive TransferStatus where
  | pending
  | processing
  | complete
  | failed
  deriving DecidableEq, Repr

/-- A transfer in or out of Alpaca. -/
structure AlpacaTransfer where
  status : TransferStatus
  tx : Option TxHash
  deriving DecidableEq

inductive UsdcTransferError where
  | alpacaWallet (message : String)
  | alpacaBrokerApi (message : String)
  | cctp (error : CctpError)
  | burnRevert (error : CctpError)
  | vault (error : EvmError)
  | insufficientVaultLiquidity
  | aggregate (error : SendError UsdcRebalanceError)
  | withdrawalFailed (status : TransferStatus)
  | depositFailed (status : TransferStatus)
  | usdcConversion
  | float (error : FloatError)
  | notPositive
  | missingFilledQuantity (orderId : ClientOrderId)
  | missingFilledAveragePrice (orderId : ClientOrderId)
  | resumeIndeterminateConversion
  | resumeWithoutMintScanBound
  | attestationTimedOut
  | attestationRetryDeadlineElapsed
  | withdrawalPollInconclusive (initiatedAt : Time)
  | attestationNonceMismatch (recorded reconstructed : Nat)
  | previouslyFailedAggregate
  | depositRefMustBeOnchain
  | resumeDirectionMismatch (direction : RebalanceDirection)
  | adoptedWithdrawalAmountMismatch (withdrawn requested : Nat)
  | withdrawalRefMustBeAlpacaId
  | walletUsdcInsufficient (nominal : Usdc)
  | walletUsdcAmbientBalance (balance nominal : Usdc)
  | withdrawalTxUnderconfirmed (tx : TxHash) (required actual : Nat)
  | settlementCheckTransient (error : CctpError)
  | mintRecoveryInconclusive (initiatedAt : Time) (error : CctpError)
  | burnRecordTaskFailed
  | burnRecordFailed (burnTx : TxHash)
  | burnSubmitInconclusive
  | burnTxDropped (burnTx : TxHash)
  deriving DecidableEq

/-- Where a detached submit-and-record task stands. -/
inductive TaskStatus where
  | queued
  | running
  /-- Its stale hash is cleared; it may broadcast. -/
  | cleared
  /-- Its burn was sent, whether or not it knows. -/
  | broadcast
  | finished (result : Except UsdcTransferError TxHash)
  /-- Gone with its process. -/
  | lost

namespace TaskStatus

/-- The task can still perform operations. -/
def alive : TaskStatus → Bool
  | .running | .cleared | .broadcast => true
  | _ => false

/-- The task has nothing left to do. -/
def ended : TaskStatus → Bool
  | .finished _ | .lost => true
  | _ => false

/-- The task is on its way to its broadcast. -/
def beforeBroadcast : TaskStatus → Bool
  | .queued | .running | .cleared => true
  | _ => false

end TaskStatus

/-- What a spawned task is asked to burn. -/
structure BurnRequest where
  chain : Chain
  amount : Nat
  deriving DecidableEq

structure Task where
  request : BurnRequest
  status : TaskStatus

/-- An irreversible call of an attempt, for the history. -/
inductive Effect where
  | alpacaWithdrawal
  | conversion (direction : ConversionDirection)
  | call (call : Call)
  deriving DecidableEq, Repr

/-- History: the running attempt. -/
structure Attempt where
  loaded : Option UsdcRebalance
  effects : List Effect
  /-- The scans that found nothing. -/
  absent : List Call
  /-- How many tasks had been spawned when it loaded. -/
  tasks : Nat

structure World where
  stream : List UsdcRebalanceEvent
  clock : Time
  head : Chain → Nat
  ledger : List Tx
  /-- The withdrawals Alpaca accepted. -/
  withdrawals : List Positive
  /-- The conversion orders the broker accepted. -/
  orders : List ConversionOrder
  tasks : List Task
  attempt : Attempt

namespace World

def empty : World :=
  ⟨[], 0, fun _ => 0, [], [], [], [], ⟨none, [], [], 0⟩⟩

def entity? (world : World) : Option UsdcRebalance :=
  (UsdcRebalance.aggregate.lifecycle world.stream).entity?

def setStatus (world : World) (task : Nat) (status : TaskStatus) : World :=
  { world with tasks := world.tasks.modify task fun spawned => { spawned with status } }

def status? (world : World) (task : Nat) : Option TaskStatus :=
  world.tasks[task]?.map Task.status

def txStatus? (world : World) (hash : TxHash) : Option TxStatus := world.ledger[hash]?.map Tx.status

/-- A transaction enters the mempool. -/
def submit (world : World) (kind : TxKind) (chain : Chain) (amount : Nat) : World :=
  { world with ledger := world.ledger ++ [⟨kind, chain, amount, .pending⟩] }

/-- A transaction lands in a new block. -/
def land (world : World) (kind : TxKind) (chain : Chain) (amount : Nat) : World :=
  { world with
    head := Function.update world.head chain (world.head chain + 1)
    ledger := world.ledger ++ [⟨kind, chain, amount, .succeeded (world.head chain + 1)⟩] }

def note (world : World) (effect : Effect) : World :=
  { world with attempt := { world.attempt with effects := world.attempt.effects ++ [effect] } }

def noteAbsent (world : World) (call : Call) : World :=
  { world with attempt := { world.attempt with absent := world.attempt.absent ++ [call] } }

end World

/-- The most recent transaction that was mined successfully and matches, by its
hash and the block it is in. -/
def lastMined (ledger : List Tx) (wanted : Tx → Nat → Bool) : Option (TxHash × Tx) :=
  ledger.zipIdx.foldl (fun found entry =>
    match entry.1.status with
    | .succeeded block => if wanted entry.1 block then some (entry.2, entry.1) else found
    | _ => found) none

/-- How far past its lower bound the head has to be before an empty scan counts. -/
def scanFinalityMargin : Nat := 2

/-! ## Operations -/

/-- Who sends a command. -/
inductive Author where
  | attempt
  | task (task : Nat)
  deriving DecidableEq, Repr

inductive Op where
  | load
  | send (author : Author) (command : UsdcRebalanceCommand)
  | now
  | newClientOrderId
  | currentBlock (chain : Chain)
  /-- Sign and broadcast a call. -/
  | broadcast (call : Call) (amount : Nat)
  /-- Wait for a transaction to be mined. -/
  | awaitReceipt (tx : TxHash)
  | findRecentWithdrawal (fromBlock : Nat)
  | findRecentUsdcTransfer (amount fromBlock : Nat)
  | findRecentBurn (chain : Chain) (amount fromBlock : Nat)
  | findRecentMint (chain : Chain) (fromBlock : Nat)
  | ethereumTxBlock (tx : TxHash)
  | ethereumTxConfirmations (tx : TxHash)
  | ethereumUsdcBalance
  | pollAttestation (burnTx : TxHash)
  | mint (chain : Chain) (attestation : AttestationResponse)
  | spawnBurn (request : BurnRequest)
  | joinBurn (task : Nat)
  | acceptBurn (task : Nat)
  | submitBurn (task : Nat) (request : BurnRequest)
  | finishBurn (task : Nat) (result : Except UsdcTransferError TxHash)
  | confirmBurn (tx : TxHash)
  | burnStatus (tx : TxHash)
  | initiateWithdrawal (amount : Positive)
  | pollTransferUntilComplete (transfer : Nat)
  | getWalletAddress
  | pollDepositByTxHash (tx : TxHash)
  | convertUsdcUsd (amount : Usdc) (direction : ConversionDirection) (orderId : ClientOrderId)
  | findConversionOrder (orderId : ClientOrderId)
  | pollConversionToTerminal (order : Nat)

/-- The error of a submission that timed out counts as any other. -/
inductive SubmitError where
  | reverted (error : CctpError)
  | inconclusive
  deriving DecidableEq

@[reducible] def Op.Ret : Op → Type
  | .load => Except (SendError UsdcRebalanceError) (Option UsdcRebalance)
  | .send _ _ => Except (SendError UsdcRebalanceError) Unit
  | .now => Time
  | .newClientOrderId => ClientOrderId
  | .currentBlock _ => Except CctpError Nat
  | .broadcast _ _ => Except EvmError TxHash
  | .awaitReceipt _ => Except EvmError Unit
  | .findRecentWithdrawal _ => Except EvmError (Option (TxHash × Nat))
  | .findRecentUsdcTransfer _ _ | .findRecentBurn _ _ _ => Except CctpError (Option TxHash)
  | .findRecentMint _ _ => Except CctpError (Option MintReceipt)
  | .ethereumTxBlock _ => Except CctpError Nat
  | .ethereumTxConfirmations _ => Except CctpError (Option Nat)
  | .ethereumUsdcBalance => Except CctpError Nat
  | .pollAttestation _ => Except CctpError AttestationResponse
  | .mint _ _ => Except CctpError MintReceipt
  | .spawnBurn _ => Nat
  | .joinBurn _ => Option (Except UsdcTransferError TxHash)
  | .acceptBurn _ => BurnRequest
  | .submitBurn _ _ => Except SubmitError TxHash
  | .finishBurn _ _ => Unit
  | .confirmBurn _ => Except CctpError Unit
  | .burnStatus _ => Except CctpError BurnTxStatus
  | .initiateWithdrawal _ => Except String Nat
  | .pollTransferUntilComplete _ => Except String AlpacaTransfer
  | .getWalletAddress => Except String Unit
  | .pollDepositByTxHash _ => Except String TransferStatus
  | .convertUsdcUsd _ _ _ => Except String CryptoOrderResponse
  | .findConversionOrder _ => Except String (Option CryptoOrderResponse)
  | .pollConversionToTerminal _ => Except String CryptoOrderResponse

/-- What becomes of a call. -/
inductive Outcome where
  | fine
  /-- It fails before it takes effect. -/
  | failed
  /-- It takes effect, but the caller gets an error. -/
  | lost
  deriving DecidableEq, Repr

/-- How the environment answers one operation. -/
structure Choice where
  outcome : Outcome := .fine
  /-- The rendering of an error. -/
  message : String := ""
  cctp : CctpErrorKind := .other
  evm : EvmError := .other ""
  /-- A block, a balance, a drawn identifier, or the mint that is reported. -/
  number : Nat := 0
  /-- Whether a transaction that is not mined counts as dropped. -/
  dropped : Bool := false
  attestation : AttestationResponse := ⟨[], [], 0⟩
  order : CryptoOrderResponse := ⟨0, .pending, none, none⟩
  transfer : AlpacaTransfer := ⟨.pending, none⟩

def Choice.cctpError (choice : Choice) : CctpError := ⟨choice.cctp, choice.message⟩

namespace World

/-- Execute a command. Its commit may fail, or succeed without being acknowledged. -/
def send (world : World) (outcome : Outcome) (command : UsdcRebalanceCommand) :
    Except (SendError UsdcRebalanceError) Unit × World :=
  match outcome with
  | .failed => (.error .infrastructure, world)
  | .fine | .lost =>
      match UsdcRebalance.aggregate.send world.clock command world.stream with
      | .error error => (.error error, world)
      | .ok events =>
          (if outcome = .fine then .ok () else .error .infrastructure,
            { world with stream := world.stream ++ events })

/-- A task's command. Once its stale hash is cleared, it may broadcast. -/
def sendFromTask (world : World) (task : Nat) (outcome : Outcome)
    (command : UsdcRebalanceCommand) : Except (SendError UsdcRebalanceError) Unit × World :=
  match world.send outcome command, command with
  | (.ok (), sent), .clearPendingBurn => (.ok (), sent.setStatus task .cleared)
  | answer, _ => answer

def broadcast (world : World) (choice : Choice) (call : Call) (amount : Nat) :
    Except EvmError TxHash × World :=
  let sent := (world.submit (.call call) call.chain amount).note (.call call)
  match choice.outcome with
  | .fine => (.ok world.ledger.length, sent)
  | .failed => (.error choice.evm, world)
  | .lost => (.error choice.evm, sent)

/-- The answer of a scan from `fromBlock` on: what it found, or nothing once the
head is far enough past the bound. -/
def scan (world : World) (chain : Chain) (fromBlock : Nat) (wanted : Tx → Nat → Bool) :
    Option (Option (TxHash × Tx)) :=
  match lastMined world.ledger fun tx block => tx.chain = chain && wanted tx block with
  | some found => some (some found)
  | none => if fromBlock + scanFinalityMargin ≤ world.head chain then some none else none

def findRecentWithdrawal (world : World) (fromBlock : Nat) :
    Option (Option (TxHash × Nat) × World) :=
  (world.scan .base fromBlock fun tx block => tx.kind = .call .withdraw && fromBlock < block).map
    fun
    | some (hash, tx) => (some (hash, tx.amount), world)
    | none => (none, world.noteAbsent .withdraw)

def findRecentUsdcTransfer (world : World) (amount fromBlock : Nat) :
    Option (Option TxHash × World) :=
  (world.scan .ethereum fromBlock fun tx block =>
      tx.kind = .call .transfer && tx.amount = amount && fromBlock ≤ block).map fun
    | some (hash, _) => (some hash, world)
    | none => (none, world.noteAbsent .transfer)

def findRecentBurn (world : World) (chain : Chain) (amount fromBlock : Nat) :
    Option (Option TxHash) :=
  (world.scan chain fromBlock fun tx block =>
    (match tx.kind with
      | .burn _ => true
      | _ => false) && tx.amount = amount && fromBlock < block).map fun found => found.map Prod.fst

/-- The scan for a mint trusts an empty answer at once. -/
def findRecentMint (world : World) (chain : Chain) (fromBlock : Nat) : Option MintReceipt :=
  (lastMined world.ledger fun tx block =>
    tx.chain = chain && fromBlock < block && (match tx.kind with
      | .mint _ => true
      | _ => false)).bind fun (hash, tx) =>
    match tx.kind with
    | .mint fee => some ⟨hash, tx.amount, fee⟩
    | _ => none

/-- The receipt of a mint that has landed. -/
def mintReceipt (world : World) (chain : Chain) (hash : TxHash) : Option MintReceipt :=
  match world.ledger[hash]? with
  | some ⟨.mint fee, mintChain, amount, .succeeded _⟩ =>
      if mintChain = chain then some ⟨hash, amount, fee⟩ else none
  | _ => none

def burnStatus (world : World) (dropped : Bool) (hash : TxHash) : BurnTxStatus :=
  match world.txStatus? hash with
  | some (.succeeded _) => .minedSuccess
  | some (.reverted _) => .minedReverted
  | _ => if dropped then .dropped else .pending

/-- The block of a mined transaction. -/
def minedIn (world : World) (chain : Chain) (hash : TxHash) : Option Nat :=
  match world.ledger[hash]? with
  | some ⟨_, txChain, _, .succeeded block⟩ | some ⟨_, txChain, _, .reverted block⟩ =>
      if txChain = chain then some block else none
  | _ => none

end World

/-- Answer an operation that leaves the world alone. -/
def reply {α ε : Type} (choice : Choice) (error : ε) (world : World) (answer : Option α) :
    Option (Except ε α × World) :=
  if choice.outcome = .fine then answer.map fun value => (.ok value, world)
  else some (.error error, world)

def handle (choice : Choice) : (op : Op) → World → Option (op.Ret × World)
  | .load, world =>
      if choice.outcome = .fine then
        some (UsdcRebalance.aggregate.load world.stream,
          { world with attempt := ⟨world.entity?, [], [], world.tasks.length⟩ })
      else some (.error .infrastructure, world)
  | .send .attempt command, world => some (world.send choice.outcome command)
  | .send (.task task) command, world =>
      if (world.status? task).any (·.alive) then
        some (world.sendFromTask task choice.outcome command)
      else none
  | .now, world => some (world.clock, world)
  | .newClientOrderId, world => some (⟨choice.number⟩, world)
  | .currentBlock chain, world =>
      -- A lagging node answers with an older head.
      reply choice choice.cctpError world
        (if choice.number ≤ world.head chain then some choice.number else none)
  | .broadcast call amount, world => some (world.broadcast choice call amount)
  | .awaitReceipt tx, world =>
      if choice.outcome = .fine then
        match world.txStatus? tx with
        | some (.succeeded _) => some (.ok (), world)
        | some (.reverted _) => some (.error choice.evm, world)
        | _ => none
      else some (.error choice.evm, world)
  | .findRecentWithdrawal fromBlock, world =>
      if choice.outcome = .fine then
        (world.findRecentWithdrawal fromBlock).map fun (found, after) => (.ok found, after)
      else some (.error choice.evm, world)
  | .findRecentUsdcTransfer amount fromBlock, world =>
      if choice.outcome = .fine then
        (world.findRecentUsdcTransfer amount fromBlock).map fun (found, after) => (.ok found, after)
      else some (.error choice.cctpError, world)
  | .findRecentBurn chain amount fromBlock, world =>
      reply choice choice.cctpError world (world.findRecentBurn chain amount fromBlock)
  | .findRecentMint chain fromBlock, world =>
      reply choice choice.cctpError world (some (world.findRecentMint chain fromBlock))
  | .ethereumTxBlock tx, world =>
      reply choice choice.cctpError world (world.minedIn .ethereum tx)
  | .ethereumTxConfirmations tx, world =>
      reply choice choice.cctpError world (some ((world.minedIn .ethereum tx).map fun block =>
        world.head .ethereum - block + 1))
  | .ethereumUsdcBalance, world => reply choice choice.cctpError world (some choice.number)
  | .pollAttestation _, world => reply choice choice.cctpError world (some choice.attestation)
  | .mint chain _, world =>
      reply choice choice.cctpError world (world.mintReceipt chain choice.number)
  | .spawnBurn request, world =>
      some (world.tasks.length, { world with tasks := world.tasks ++ [⟨request, .queued⟩] })
  | .joinBurn task, world =>
      match world.status? task with
      | some (.finished result) => some (some result, world)
      | some .lost => some (none, world)
      | _ => none
  | .acceptBurn task, world =>
      match world.tasks[task]? with
      | some ⟨request, .queued⟩ => some (request, world.setStatus task .running)
      | _ => none
  | .submitBurn task request, world =>
      if (world.status? task).any (·.alive) then
        let sent := (world.submit (.burn task) request.chain request.amount).setStatus task .broadcast
        match choice.outcome with
        | .fine => some (.ok world.ledger.length, sent)
        | .failed =>
            some (.error (if choice.cctp = .reverted then .reverted choice.cctpError
              else .inconclusive), world)
        | .lost => some (.error .inconclusive, sent)
      else none
  | .finishBurn task result, world =>
      if (world.status? task).any (·.alive) then
        some ((), world.setStatus task (.finished result))
      else none
  | .confirmBurn tx, world =>
      if choice.outcome = .fine then
        match world.txStatus? tx with
        | some (.succeeded _) => some (.ok (), world)
        | some (.reverted _) => some (.error ⟨.reverted, choice.message⟩, world)
        | _ => none
      else if choice.cctp = .reverted then none
      else some (.error choice.cctpError, world)
  | .burnStatus tx, world =>
      reply choice choice.cctpError world (some (world.burnStatus choice.dropped tx))
  | .initiateWithdrawal amount, world =>
      let accepted : World := { world with withdrawals := world.withdrawals ++ [amount] }
      let accepted := accepted.note .alpacaWithdrawal
      match choice.outcome with
      | .fine => some (.ok world.withdrawals.length, accepted)
      | .failed => some (.error choice.message, world)
      | .lost => some (.error choice.message, accepted)
  | .pollTransferUntilComplete _, world =>
      reply choice choice.message world (some choice.transfer)
  | .getWalletAddress, world => reply choice choice.message world (some ())
  | .pollDepositByTxHash _, world =>
      reply choice choice.message world (some choice.transfer.status)
  | .convertUsdcUsd amount direction orderId, world =>
      let placed : World := { world with orders := world.orders ++ [⟨orderId, direction, amount⟩] }
      let placed := placed.note (.conversion direction)
      match choice.outcome with
      | .fine => some (.ok choice.order, placed)
      | .failed => some (.error choice.message, world)
      | .lost => some (.error choice.message, placed)
  | .findConversionOrder orderId, world =>
      reply choice choice.message world
        (some (if world.orders.any (fun order => order.clientOrderId = orderId) then
          some choice.order else none))
  | .pollConversionToTerminal _, world => reply choice choice.message world (some choice.order)

/-! ## What happens by itself -/

inductive Env where
  /-- A transaction is mined. -/
  | mine (tx : TxHash) (success : Bool)
  /-- A block without any of these transactions. -/
  | advance (chain : Chain)
  | tick (now : Time)
  | landMint (chain : Chain) (amount fee : Nat)
  | landPayout (amount : Nat)
  /-- A task goes down with its process, or panics. -/
  | lose (task : Nat)

def environment : Env → World → Option World
  | .mine hash success, world =>
      match world.ledger[hash]? with
      | some tx =>
          if tx.status = .pending then
            let block := world.head tx.chain + 1
            some { world with
              head := Function.update world.head tx.chain block
              ledger := world.ledger.set hash
                { tx with status := if success then .succeeded block else .reverted block } }
          else none
      | none => none
  | .advance chain, world =>
      some { world with head := Function.update world.head chain (world.head chain + 1) }
  | .tick now, world => some { world with clock := now }
  | .landMint chain amount fee, world => some (world.land (.mint fee) chain amount)
  | .landPayout amount, world => some (world.land .payout .ethereum amount)
  | .lose task, world =>
      if (world.status? task).any fun status => !status.ended then some (world.setStatus task .lost)
      else none

end Liquidity.Transfer
