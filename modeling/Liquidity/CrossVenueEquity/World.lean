import Liquidity.EquityRedemption.Aggregate
import Liquidity.TokenizedEquityMint.Aggregate
import Liquidity.Process.Interleaving

/-!
# The world of the equity transfers between venues

One redemption and one mint: their event streams, and the transactions that were
submitted on their behalf. An attempt touches these one operation at a time and may
be killed between any two of them.

A submitted transaction is mined in some later block, successfully or reverted, or
never. The one that submitted it may be told so, be told that it failed, or die. A
redemption submits inside its command handlers, whose events are stored afterwards,
if at all; a mint submits first and then sends the command that records the hash.
-/

namespace Liquidity.CrossVenueEquity

open EventSourcing Process

/-! ## Data -/

/-- What moves the tokens of a transfer onchain. -/
inductive Leg where
  /-- Out of the vault. -/
  | withdraw
  | unwrap
  /-- To the issuer's redemption wallet. -/
  | send
  | wrap
  /-- Into the vault. -/
  | deposit
  deriving DecidableEq, Repr

structure Submission where
  leg : Leg
  token : EvmAddress
  amount : Nat
  deriving DecidableEq, Repr

inductive TxStatus where
  | pending
  | succeeded
  | reverted
  deriving DecidableEq, Repr

structure Tx extends Submission where
  status : TxStatus
  deriving DecidableEq, Repr

/-- Whether tokens have moved or still may. -/
def Tx.live (tx : Tx) : Bool := tx.status ≠ .reverted

structure World where
  redemption : List EquityRedemptionEvent
  mint : List TokenizedEquityMintEvent
  ledger : List Tx

/-- An error of a node or a contract, as far as it matters. -/
structure ChainError where
  /-- A call that reverted with `ERC20InsufficientBalance`. -/
  insufficientBalance : Bool
  message : String
  deriving DecidableEq, Repr

inductive TokenizerError where
  | pollTimeout (message : String)
  | api (statusCode : Option Nat) (message : String)
  | mintVerification (message : String)
  deriving DecidableEq, Repr

def TokenizerError.toString : TokenizerError → String
  | .pollTimeout message | .api _ message | .mintVerification message => message

structure WrapConfirmation where
  shares : Nat
  block : Nat
  deriving DecidableEq, Repr

namespace World

def empty : World := ⟨[], [], []⟩

def redemption? (world : World) : Option EquityRedemption :=
  (EquityRedemption.aggregate.lifecycle world.redemption).entity?

def mint? (world : World) : Option TokenizedEquityMint :=
  (TokenizedEquityMint.aggregate.lifecycle world.mint).entity?

/-- A transaction is broadcast. -/
def submit (world : World) (submission : Submission) : World :=
  { world with ledger := world.ledger ++ [⟨submission, .pending⟩] }

/-- The hash of the transaction that is submitted next. -/
def nextHash (world : World) : TxHash := world.ledger.length + 1

/-- The transaction behind a hash. The zero hash has none. -/
def tx? (world : World) : TxHash → Option Tx
  | 0 => none
  | place + 1 => world.ledger[place]?

def succeeded (world : World) (hash : TxHash) : Bool :=
  (world.tx? hash).any fun tx => tx.status = .succeeded

end World

/-! ## Operations -/

inductive Op where
  | loadRedemption
  | redemption (command : EquityRedemptionCommand)
  | vaultTokenForSymbol (symbol : Symbol)
  | pollForRedemption (tx : TxHash)
  | pollRedemptionUntilComplete (request : TokenizationRequestId)
  | loadMint
  | mint (command : TokenizedEquityMintCommand)
  | lookupUnderlying (symbol : Symbol)
  | lookupDerivative (symbol : Symbol)
  | verifyMintTx (tx : TxHash) (token wallet : EvmAddress) (amount : Nat)
  | submitWrap (token : EvmAddress) (amount : Nat) (receiver : EvmAddress)
  | confirmWrap (token : EvmAddress) (tx : TxHash)
  | waitForBlock (block : Nat)
  | vaultIdForToken (token : EvmAddress)
  | submitDeposit (token : EvmAddress) (vaultId amount : Nat)
  | confirmTx (tx : TxHash)

@[reducible] def Op.Ret : Op → Type
  | .loadRedemption => Except (SendError EquityRedemptionError) (Option EquityRedemption)
  | .redemption _ => Except (SendError EquityRedemptionError) Unit
  | .vaultTokenForSymbol _ => Except String EvmAddress
  | .pollForRedemption _ | .pollRedemptionUntilComplete _ =>
      Except TokenizerError TokenizationRequest
  | .loadMint => Except (SendError TokenizedEquityMintError) (Option TokenizedEquityMint)
  | .mint _ => Except (SendError TokenizedEquityMintError) Unit
  | .lookupUnderlying _ | .lookupDerivative _ => Except ChainError EvmAddress
  | .verifyMintTx .. => Except String Unit
  | .submitWrap .. | .submitDeposit .. => Except ChainError TxHash
  | .confirmWrap _ _ => Except ChainError WrapConfirmation
  | .waitForBlock _ | .confirmTx _ => Except ChainError Unit
  | .vaultIdForToken _ => Except String Nat

/-- What becomes of a transaction on its way to the mempool. -/
inductive Broadcast where
  | acknowledged
  /-- It never gets there. -/
  | refused
  /-- It gets there, but its sender is given an error. -/
  | lost
  deriving DecidableEq, Repr

/-- What becomes of a command on its way to the store. -/
inductive Commit where
  | stored
  /-- The store cannot be read; the handler is not run. -/
  | unavailable
  /-- The handler is run, its events are not stored. -/
  | dropped
  /-- Its events are stored, but the caller gets an error. -/
  | unacknowledged
  deriving DecidableEq, Repr

/-- How the environment answers one operation. -/
structure Choice where
  broadcast : Broadcast
  commit : Commit
  /-- What a redemption's handlers are told, but for what becomes of a transaction. -/
  redemption : EquityRedemption.Context
  mint : TokenizedEquityMint.Context
  /-- The error of a call that fails. -/
  error : ChainError
  vaultToken : Except String EvmAddress
  request : Except TokenizerError TokenizationRequest
  lookup : Except ChainError EvmAddress
  verification : Except String Unit
  confirmWrap : Except ChainError WrapConfirmation
  waitForBlock : Except ChainError Unit
  vaultId : Except String Nat
  confirmTx : Except ChainError Unit

/-- The sender's answer. -/
def Broadcast.answer (broadcast : Broadcast) {ε : Type} (error : ε) (hash : TxHash) :
    Except ε TxHash :=
  if broadcast = .acknowledged then .ok hash else .error error

/-- Run a command: its answer, and the stream it leaves. -/
def execute {Entity Event Command Error Context : Type}
    (aggregate : Aggregate Entity Event Command Error Context) (commit : Commit)
    (context : Context) (command : Command) (stream : List Event) :
    Except (SendError Error) Unit × List Event :=
  match commit, aggregate.send context command stream with
  | .unavailable, _ => (.error .infrastructure, stream)
  | _, .error error => (.error error, stream)
  | .stored, .ok events => (.ok (), stream ++ events)
  | .dropped, .ok _ => (.error .infrastructure, stream)
  | .unacknowledged, .ok events => (.error .infrastructure, stream ++ events)

/-- The handler's transactions come back with this answer. -/
def answering (context : EquityRedemption.Context) (answer : Except String TxHash) :
    EquityRedemption.Context :=
  { context with submitWithdraw := answer, submitUnwrap := answer, sendForRedemption := answer }

/-- The transaction a redemption's handler submits, if it gets that far. -/
def submission (context : EquityRedemption.Context) (command : EquityRedemptionCommand) :
    EquityRedemption → Option Submission
  | .vaultWithdrawPending request _ =>
      if command = .submitWithdraw ∧ context.hasVaultFor request.token then
        some ⟨.withdraw, request.token, request.wrappedAmount⟩
      else none
  | .unwrapPending request =>
      if command = .submitUnwrap ∧
          (EquityRedemption.waitForRecordedBlock context request.raindexWithdrawBlock).isOk then
        some ⟨.unwrap, request.token, request.wrappedAmount⟩
      else none
  | .sendPending request =>
      if command = .sendTokens ∧ context.redemptionWallet.isSome ∧
          (EquityRedemption.waitForRecordedBlock context request.unwrapBlock).isOk then
        some ⟨.send, request.underlyingToken, request.unwrappedAmount⟩
      else none
  | _ => none

/-- The transaction whose success a redemption's handler is told of. -/
def confirms (context : EquityRedemption.Context) (command : EquityRedemptionCommand) :
    EquityRedemption → Option TxHash
  | .vaultWithdrawSubmitted _ txHash _ =>
      if command = .confirmWithdraw ∧ context.confirmTxReceipt.isOk then some txHash else none
  | .unwrapSubmitted _ unwrapTxHash =>
      if command = .confirmUnwrap ∧ context.confirmUnwrap.isOk then some unwrapTxHash else none
  | _ => none

namespace World

/-- A transaction is submitted, as far as it gets. -/
def broadcast (world : World) (choice : Choice) (submission : Submission) :
    Except ChainError TxHash × World :=
  (choice.broadcast.answer choice.error world.nextHash,
    if choice.broadcast = .refused then world else world.submit submission)

/-- What a redemption's handler has done by the time it returns. -/
def handled (world : World) (choice : Choice) (command : EquityRedemptionCommand) : World :=
  match choice.commit, world.redemption?.bind (submission choice.redemption command) with
  | .unavailable, _ | _, none => world
  | _, some submission => (world.broadcast choice submission).2

/-- A redemption's command. The store is written last. -/
def redeem (world : World) (choice : Choice) (command : EquityRedemptionCommand) :
    Except (SendError EquityRedemptionError) Unit × World :=
  let context := answering choice.redemption
    (choice.broadcast.answer choice.error.message world.nextHash)
  let result := execute EquityRedemption.aggregate choice.commit context command world.redemption
  (result.1, { world.handled choice command with redemption := result.2 })

end World

/-- A success is reported of a transaction that has succeeded. -/
def confirm {ε α : Type} (world : World) (hash : TxHash) (answer : Except ε α) :
    Option (Except ε α × World) :=
  if answer.isOk ∧ world.succeeded hash = false then none else some (answer, world)

def handle (choice : Choice) : (op : Op) → World → Option (op.Ret × World)
  | .loadRedemption, world =>
      some (if choice.commit = .unavailable then .error .infrastructure
        else EquityRedemption.aggregate.load world.redemption, world)
  | .redemption command, world =>
      if (world.redemption?.bind (confirms choice.redemption command)).all world.succeeded then
        some (world.redeem choice command)
      else none
  | .vaultTokenForSymbol _, world => some (choice.vaultToken, world)
  | .pollForRedemption _, world => some (choice.request, world)
  | .pollRedemptionUntilComplete _, world => some (choice.request, world)
  | .loadMint, world =>
      some (if choice.commit = .unavailable then .error .infrastructure
        else TokenizedEquityMint.aggregate.load world.mint, world)
  | .mint command, world =>
      let result := execute TokenizedEquityMint.aggregate choice.commit choice.mint command
        world.mint
      some (result.1, { world with mint := result.2 })
  | .lookupUnderlying _, world => some (choice.lookup, world)
  | .lookupDerivative _, world => some (choice.lookup, world)
  | .verifyMintTx .., world => some (choice.verification, world)
  | .submitWrap token amount _, world => some (world.broadcast choice ⟨.wrap, token, amount⟩)
  | .confirmWrap _ tx, world => confirm world tx choice.confirmWrap
  | .waitForBlock _, world => some (choice.waitForBlock, world)
  | .vaultIdForToken _, world => some (choice.vaultId, world)
  | .submitDeposit token _ amount, world =>
      some (world.broadcast choice ⟨.deposit, token, amount⟩)
  | .confirmTx tx, world => confirm world tx choice.confirmTx

/-- What happens onchain by itself. -/
inductive Env where
  /-- A transaction is mined. -/
  | mine (hash : TxHash) (success : Bool)
  deriving DecidableEq, Repr

def environment : Env → World → Option World
  | .mine hash success, world =>
      match world.tx? hash with
      | some ⟨submission, .pending⟩ => some { world with
          ledger := world.ledger.set (hash - 1)
            ⟨submission, if success then .succeeded else .reverted⟩ }
      | _ => none

end Liquidity.CrossVenueEquity
