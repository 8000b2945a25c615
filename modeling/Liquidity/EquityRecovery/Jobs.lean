import Liquidity.EquityRecovery.Unwrapped
import Liquidity.Process.Program
import Liquidity.Rebalancing.EquityGuard

/-!
# The recovery jobs

Both jobs claim the symbol's slot, look at what the inventory view says about
the wallet, and send commands to the recovery's aggregate. The unwrapped job
goes on from the state it finds; the wrapped job sends its commands from the
first one on.
-/

namespace Liquidity.EquityRecovery

open EventSourcing Process

/-- What the inventory view says about a symbol. -/
structure InventoryReading where
  inflightEquity : Option FractionalShares
  activeMint : Option IssuerRequestId
  activeRedemption : Option RedemptionAggregateId
  deriving DecidableEq

/-- Why one attempt failed. -/
inductive JobError (Error : Type) where
  | aggregate (error : SendError Error)
  | conflictingActiveTransfers (symbol : Symbol) (mintId : IssuerRequestId)
      (redemptionId : RedemptionAggregateId)
  | activeMintQuantityMismatch (symbol : Symbol) (mintId : IssuerRequestId)
      (snapshotShares aggregateShares : FractionalShares)
  | activeRedemptionQuantityMismatch (symbol : Symbol) (redemptionId : RedemptionAggregateId)
      (snapshotShares aggregateShares : FractionalShares)
  | activeMintMissing (symbol : Symbol) (mintId : IssuerRequestId)
  | activeRedemptionMissing (symbol : Symbol) (redemptionId : RedemptionAggregateId)
  | activeMintAggregate
  | activeRedemptionAggregate
  | reschedule
  | noBalanceSkip (symbol : Symbol)

/-- What a recovery job asks of the rest of the bot. -/
inductive Op (Command : Type) where
  | claimGuardForRecoveryOrOrphan
  | releaseGuard (guard : RecoveryGuard)
  | dropGuard (guard : RecoveryGuard)
  | load
  | readInventory
  | loadMint (mintId : IssuerRequestId)
  | loadRedemption (redemptionId : RedemptionAggregateId)
  | send (command : Command)
  | pushWithDelay

variable {Entity Command Error : Type}

def Ret (Entity Command Error : Type) : Op Command → Type
  | .claimGuardForRecoveryOrOrphan => Option RecoveryGuard
  | .releaseGuard _ => Unit
  | .dropGuard _ => Unit
  | .load => Except (SendError Error) (Option Entity)
  | .readInventory => InventoryReading
  | .loadMint _ => Except Unit (Option FractionalShares)
  | .loadRedemption _ => Except Unit (Option FractionalShares)
  | .send _ => Except (SendError Error) Unit
  | .pushWithDelay => Except Unit Unit

abbrev JobProg (Entity Command Error α : Type) :=
  Prog (Op Command) (Ret Entity Command Error) (JobError Error) α

def ask (op : Op Command) : JobProg Entity Command Error (Ret Entity Command Error op) :=
  Prog.perform op

def claimGuard : JobProg Entity Command Error (Option RecoveryGuard) :=
  ask .claimGuardForRecoveryOrOrphan

def load : JobProg Entity Command Error (Option Entity) := do
  let loaded ← ask .load
  Prog.liftExcept (loaded.mapError .aggregate)

def send (command : Command) : JobProg Entity Command Error Unit := do
  let sent ← ask (.send command)
  Prog.liftExcept (sent.mapError .aggregate)

/-- Come back later. -/
def pushWithDelay : JobProg Entity Command Error Unit := do
  let pushed ← ask .pushWithDelay
  Prog.liftExcept (pushed.mapError fun _ => .reschedule)

/-- The quantity of the mint, if the store knows it. -/
def loadMint (mintId : IssuerRequestId) :
    JobProg Entity Command Error (Option FractionalShares) := do
  let loaded ← ask (.loadMint mintId)
  Prog.liftExcept (loaded.mapError fun _ => .activeMintAggregate)

def loadRedemption (redemptionId : RedemptionAggregateId) :
    JobProg Entity Command Error (Option FractionalShares) := do
  let loaded ← ask (.loadRedemption redemptionId)
  Prog.liftExcept (loaded.mapError fun _ => .activeRedemptionAggregate)

inductive DispatchDecision where
  | activeMint (mintId : IssuerRequestId)
  | activeRedemption (redemptionId : RedemptionAggregateId)
  | orphan
  | conflict (mintId : IssuerRequestId) (redemptionId : RedemptionAggregateId)
  deriving DecidableEq

def decideDispatch (reading : InventoryReading) : DispatchDecision :=
  match reading.activeMint, reading.activeRedemption with
  | some mintId, some redemptionId => .conflict mintId redemptionId
  | some mintId, none => .activeMint mintId
  | none, some redemptionId => .activeRedemption redemptionId
  | none, none => .orphan

/-- Why a symbol with two active transfers is not recovered. -/
def conflictReason (symbol : Symbol) (mintId : IssuerRequestId)
    (redemptionId : RedemptionAggregateId) : String :=
  s!"InventoryView reports active mint {mintId.id} and active redemption " ++
    s!"{redemptionId.id} for symbol {symbol}; refusing to dispatch"

structure RecoverySnapshot where
  shares : FractionalShares
  dispatch : DispatchDecision
  deriving DecidableEq

/-- Nothing if the wallet holds none of the symbol's tokens. -/
def readRecoverySnapshot : JobProg Entity Command Error (Option RecoverySnapshot) := do
  let reading ← ask .readInventory
  match reading.inflightEquity with
  | none => return none
  | some shares =>
      if shares = 0 then return none
      else return some ⟨shares, decideDispatch reading⟩

/-- A transfer is only resumed for the quantity that is in the wallet. -/
def validateActiveAggregateQuantity (symbol : Symbol) (snapshot : RecoverySnapshot) :
    JobProg Entity Command Error Unit :=
  match snapshot.dispatch with
  | .activeMint mintId => do
      match ← loadMint mintId with
      | none => throw (.activeMintMissing symbol mintId)
      | some aggregateShares =>
          if aggregateShares ≠ snapshot.shares then
            throw (.activeMintQuantityMismatch symbol mintId snapshot.shares aggregateShares)
  | .activeRedemption redemptionId => do
      match ← loadRedemption redemptionId with
      | none => throw (.activeRedemptionMissing symbol redemptionId)
      | some aggregateShares =>
          if aggregateShares ≠ snapshot.shares then
            throw (.activeRedemptionQuantityMismatch symbol redemptionId snapshot.shares
              aggregateShares)
  | .orphan => return
  | .conflict _ _ => return

/-- What becomes of the slot when an attempt ends. -/
inductive GuardFate where
  | released
  | dropped
  deriving DecidableEq, Repr

/-- The guard is dropped on every way out that does not release it. -/
def withGuard (guard : RecoveryGuard)
    (attempt : JobProg Entity Command Error (GuardFate × Except (JobError Error) Unit)) :
    JobProg Entity Command Error Unit := do
  match ← attempt.capture with
  | .ok (.released, result) => do
      let () ← ask (.releaseGuard guard)
      Prog.liftExcept result
  | .ok (.dropped, result) => do
      let () ← ask (.dropGuard guard)
      Prog.liftExcept result
  | .error error => do
      let () ← ask (.dropGuard guard)
      throw error

/-- The reactor dispatches a recovery only when it sees a balance, so a slot that
was held keeps its job. -/
def skipWithoutBalance (guard : RecoveryGuard) :
    JobProg Entity Command Error (GuardFate × Except (JobError Error) Unit) := do
  if guard.claimOrigin = .heldForRecovery then
    pushWithDelay
  return (.dropped, .ok ())

/-- Run under a claim of the slot, or come back later. -/
def underClaim
    (attempt : RecoveryGuard →
      JobProg Entity Command Error (GuardFate × Except (JobError Error) Unit)) :
    JobProg Entity Command Error Unit := do
  match ← claimGuard with
  | none => pushWithDelay
  | some guard => withGuard guard (attempt guard)

/-! ## The wrapped job -/

section Wrapped

open WrappedEquityRecovery

abbrev WrappedProg (α : Type) :=
  JobProg WrappedEquityRecovery WrappedEquityRecoveryCommand WrappedEquityRecoveryError α

/-- The commands after the detection. A conflict is recorded and still an error. -/
def WrappedEquityRecovery.dispatch (symbol : Symbol) :
    DispatchDecision →
      WrappedProg (GuardFate × Except (JobError WrappedEquityRecoveryError) Unit)
  | .activeMint mintId => do
      send (.dispatchToMint mintId)
      return (.released, .ok ())
  | .activeRedemption redemptionId => do
      send (.dispatchToRedemption redemptionId)
      return (.released, .ok ())
  | .orphan => do
      send .submitOrphanDeposit
      match ← load with
      | some recovery =>
          if recovery.isTerminal then return (.released, .ok ())
          send .confirmOrphanDeposit
          return (.released, .ok ())
      | none =>
          send .confirmOrphanDeposit
          return (.released, .ok ())
  | .conflict mintId redemptionId => do
      send (.failRecovery (conflictReason symbol mintId redemptionId))
      return (.released, .error (.conflictingActiveTransfers symbol mintId redemptionId))

/-- Everything after the check that the recovery is not over. -/
def WrappedEquityRecovery.recover (symbol : Symbol) (guard : RecoveryGuard) :
    WrappedProg (GuardFate × Except (JobError WrappedEquityRecoveryError) Unit) := do
  match ← readRecoverySnapshot with
  | none => skipWithoutBalance guard
  | some snapshot =>
      validateActiveAggregateQuantity symbol snapshot
      send (.detect symbol snapshot.shares)
      dispatch symbol snapshot.dispatch

/-- `WrappedEquityRecoveryJob::perform`. -/
def WrappedEquityRecovery.perform (symbol : Symbol) : WrappedProg Unit :=
  underClaim fun guard => do
    match ← load with
    | some recovery =>
        if recovery.isTerminal then return (.released, .ok ())
        recover symbol guard
    | none => recover symbol guard

end Wrapped

/-! ## The unwrapped job -/

section Unwrapped

open UnwrappedEquityRecovery

abbrev UnwrappedProg (α : Type) :=
  JobProg UnwrappedEquityRecovery UnwrappedEquityRecoveryCommand UnwrappedEquityRecoveryError α

namespace UnwrappedEquityRecovery

def aggregateTerminal : UnwrappedProg Bool := do
  let loaded ← load
  return loaded.any isTerminal

def resumeFromConfirmDeposit : UnwrappedProg Unit := send .confirmOrphanDeposit

def resumeFromSubmitDeposit : UnwrappedProg Unit := do
  send .submitOrphanDeposit
  if ← aggregateTerminal then return
  resumeFromConfirmDeposit

def resumeFromConfirmWrap : UnwrappedProg Unit := do
  send .confirmOrphanWrap
  if ← aggregateTerminal then return
  resumeFromSubmitDeposit

def resumeFromSubmitWrap : UnwrappedProg Unit := do
  send .submitOrphanWrap
  if ← aggregateTerminal then return
  resumeFromConfirmWrap

def dispatchFromDetected (symbol : Symbol) : DispatchDecision → UnwrappedProg Unit
  | .activeMint mintId => send (.dispatchToMint mintId)
  | .activeRedemption redemptionId => send (.dispatchToRedemption redemptionId)
  | .orphan => resumeFromSubmitWrap
  | .conflict mintId redemptionId =>
      send (.failRecovery (conflictReason symbol mintId redemptionId))

def isBusinessValidationError : JobError UnwrappedEquityRecoveryError → Bool
  | .activeMintQuantityMismatch .. => true
  | .activeRedemptionQuantityMismatch .. => true
  | .activeMintMissing .. => true
  | .activeRedemptionMissing .. => true
  | _ => false

/-- What a failed validation says. -/
def validationMessage : JobError UnwrappedEquityRecoveryError → String
  | .activeMintQuantityMismatch symbol mintId snapshotShares aggregateShares =>
      s!"active mint {mintId.id} for symbol {symbol} carries quantity {aggregateShares}, " ++
        s!"which does not match the unwrapped-equity wallet snapshot {snapshotShares} -- " ++
        "refusing to dispatch to a stale aggregate"
  | .activeRedemptionQuantityMismatch symbol redemptionId snapshotShares aggregateShares =>
      s!"active redemption {redemptionId.id} for symbol {symbol} carries quantity " ++
        s!"{aggregateShares}, which does not match the unwrapped-equity wallet snapshot " ++
        s!"{snapshotShares} -- refusing to dispatch to a stale aggregate"
  | .activeMintMissing symbol mintId =>
      s!"active mint {mintId.id} for symbol {symbol} is missing from the mint store"
  | .activeRedemptionMissing symbol redemptionId =>
      s!"active redemption {redemptionId.id} for symbol {symbol} is missing from the " ++
        "redemption store"
  | _ => ""

def startFromDetect (symbol : Symbol) : UnwrappedProg Unit := do
  match ← readRecoverySnapshot with
  | none => throw (.noBalanceSkip symbol)
  | some snapshot =>
      validateActiveAggregateQuantity symbol snapshot
      send (.detect symbol snapshot.shares)
      dispatchFromDetected symbol snapshot.dispatch

/-- A recovery whose premise no longer holds is failed, so that a fresh one can
start from the present inventory. -/
def resumeFromDetected (symbol : Symbol) (detectedShares : FractionalShares) :
    UnwrappedProg Unit := do
  match ← readRecoverySnapshot with
  | none =>
      send (.failRecovery "inventory reports zero unwrapped balance on resume from Detected")
  | some snapshot =>
      if snapshot.shares ≠ detectedShares then
        send (.failRecovery (s!"inventory shares changed on resume from Detected: detected " ++
          s!"{detectedShares}, current {snapshot.shares}"))
      else
        let validated : Except (JobError UnwrappedEquityRecoveryError) Unit ←
          (validateActiveAggregateQuantity symbol snapshot).capture
        match validated with
        | .error error =>
            if isBusinessValidationError error then
              send (.failRecovery
                s!"active aggregate validation failed on resume: {validationMessage error}")
            else throw error
        | .ok () => dispatchFromDetected symbol snapshot.dispatch

/-- Go on from the state the recovery is in. -/
def resume (symbol : Symbol) : Option UnwrappedEquityRecovery → UnwrappedProg Unit
  | none => startFromDetect symbol
  | some (.detected _ shares _) => resumeFromDetected symbol shares
  | some (.orphanWrapSubmitted ..) => resumeFromConfirmWrap
  | some (.orphanWrapped ..) => resumeFromSubmitDeposit
  | some (.orphanDepositSubmitted ..) => resumeFromConfirmDeposit
  | some _ => return

/-- `UnwrappedEquityRecoveryJob::perform`. -/
def perform (symbol : Symbol) : UnwrappedProg Unit :=
  underClaim fun guard => do
    let currentState ← load
    if currentState.any isTerminal then return (.released, .ok ())
    let result : Except (JobError UnwrappedEquityRecoveryError) Unit ←
      (resume symbol currentState).capture
    match result with
    | .ok () => return (.released, .ok ())
    | .error (.noBalanceSkip _) => skipWithoutBalance guard
    | .error other => return (.dropped, .error other)

end UnwrappedEquityRecovery

end Unwrapped

end Liquidity.EquityRecovery
