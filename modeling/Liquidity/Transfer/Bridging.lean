import Liquidity.Transfer.World

/-!
# Bridging

The legs both directions share: burn on one chain, wait for the attestation,
mint on the other. A program is written the way the source reads, with one
operation for each await that has an effect.

A burn is submitted by a detached task, so that cancelling the attempt cannot
come between the broadcast and the record of its hash. The attempt spawns the
task and waits for it; the task is a program of its own.
-/

namespace Liquidity.Transfer

open EventSourcing Process

/-- What an attempt or a task runs. -/
abbrev Flow (α : Type) := Prog Op Op.Ret UsdcTransferError α

structure Config where
  attestationRetryDeadline : Time
  requiredConfirmations : Nat

/-- One operation. -/
def ask (op : Op) : Flow op.Ret := Prog.perform op

def load : Flow (Option UsdcRebalance) := do
  Prog.liftExcept ((← ask .load).mapError .aggregate)

def send (command : UsdcRebalanceCommand) : Flow Unit := do
  Prog.liftExcept ((← ask (.send .attempt command)).mapError .aggregate)

/-! ## Amounts -/

/-- The amount in the token's smallest unit, of which there are a million to one. -/
def usdcToU256 (amount : Usdc) : Except UsdcTransferError Nat :=
  if amount.num < 0 ∨ 1000000 % amount.den ≠ 0 ∨
      2 ^ 256 ≤ amount.num.toNat * (1000000 / amount.den) then .error .usdcConversion
  else .ok (amount.num.toNat * (1000000 / amount.den))

def u256ToUsdc [FloatFormat] (amount : Nat) : Except UsdcTransferError Usdc :=
  (FloatFormat.pack (mkRat amount 1000000)).mapError .float

def conversionAmountsFromOrder [FloatFormat] (order : CryptoOrderResponse)
    (correlationId : ClientOrderId) (direction : ConversionDirection) :
    Except UsdcTransferError ConversionAmounts :=
  match order.filledQuantity, order.filledAveragePrice with
  | none, _ => .error (.missingFilledQuantity correlationId)
  | some _, none => .error (.missingFilledAveragePrice correlationId)
  | some filledQuantity, some filledAveragePrice =>
      match Decimal.mul filledQuantity filledAveragePrice with
      | .error error => .error (.float error)
      | .ok cashProceeds =>
          match direction with
          | .usdToUsdc => .ok ⟨cashProceeds, filledQuantity⟩
          | .usdcToUsd => .ok ⟨filledQuantity, cashProceeds⟩

/-- Where a transfer burns. -/
def burnChain : RebalanceDirection → Chain
  | .alpacaToBase => .ethereum
  | .baseToAlpaca => .base

/-- Where a transfer mints. -/
def mintChain : RebalanceDirection → Chain
  | .alpacaToBase => .base
  | .baseToAlpaca => .ethereum

/-! ## The detached task -/

def burnRecordAttempts : Nat := 3

/-- Record the hash of a burn that was broadcast, trying a few times. -/
def recordPendingBurn (task : Nat) (burnTx : TxHash) : Nat → Flow TxHash
  | 0 => throw (.burnRecordFailed burnTx)
  | attempts + 1 => do
      match ← ask (.send (.task task) (.recordPendingBurn burnTx)) with
      | .ok () => pure burnTx
      | .error _ => recordPendingBurn task burnTx attempts

/-- Clear a stale hash, broadcast the burn, record its hash. -/
def submitAndRecord (task : Nat) (request : BurnRequest) : Flow TxHash := do
  Prog.liftExcept ((← ask (.send (.task task) .clearPendingBurn)).mapError .aggregate)
  match ← ask (.submitBurn task request) with
  | .ok burnTx => recordPendingBurn task burnTx burnRecordAttempts
  | .error (.reverted error) => throw (.burnRevert error)
  | .error .inconclusive => throw .burnSubmitInconclusive

def burnTask (task : Nat) : Flow Unit := do
  let request ← ask (.acceptBurn task)
  let result ← (submitAndRecord task request).capture
  ask (.finishBurn task result)

/-! ## Burn -/

def submitAndRecordBurn (request : BurnRequest) : Flow TxHash := do
  let task ← ask (.spawnBurn request)
  match ← ask (.joinBurn task) with
  | some result => Prog.liftExcept result
  | none => throw .burnRecordTaskFailed

/-- Burn, recording the hash before the receipt is awaited. A burn that is mined
reverted moved nothing and is submitted once more. -/
def burnRecordingPending (request : BurnRequest) : Flow BurnReceipt := do
  let burnTx ← submitAndRecordBurn request
  match ← ask (.confirmBurn burnTx) with
  | .ok () => pure ⟨burnTx, request.amount⟩
  | .error error =>
      if error.isRevert then do
        let burnTx ← submitAndRecordBurn request
        match ← ask (.confirmBurn burnTx) with
        | .ok () => pure ⟨burnTx, request.amount⟩
        | .error error =>
            if error.isRevert then throw (.burnRevert error) else throw (.cctp error)
      else throw (.cctp error)

def recordCctpBurn (receipt : BurnReceipt) : Flow BurnReceipt := do
  send (.initiateBridging receipt.tx)
  pure receipt

/-- What becomes of the burn whose hash was recorded: it is adopted if it was
mined. If it was mined reverted, or none was recorded, the chain is scanned. -/
def checkPendingBurn (amount : Nat) : Option TxHash → Flow (Option BurnReceipt)
  | none => pure none
  | some burnTx => do
      match ← ask (.burnStatus burnTx) with
      | .error error => throw (.settlementCheckTransient error)
      | .ok .minedSuccess =>
          match ← ask (.confirmBurn burnTx) with
          | .ok () => pure (some ⟨burnTx, amount⟩)
          | .error error => throw (.cctp error)
      | .ok .pending =>
          throw (.settlementCheckTransient ⟨.burnTxPending, "burn tx not yet mined"⟩)
      | .ok .minedReverted => pure none
      | .ok .dropped => throw (.burnTxDropped burnTx)

/-- Record the intent, then burn. -/
def executeCctpBurn [FloatFormat] (direction : RebalanceDirection) (amount fromBlock : Nat) :
    Flow BurnReceipt := do
  let burnAmount ← Prog.liftExcept (u256ToUsdc amount)
  send (.beginBridging fromBlock (some burnAmount))
  let receipt ← burnRecordingPending ⟨burnChain direction, amount⟩
  recordCctpBurn receipt

def executeCctpBurnOnBase [FloatFormat] (amount : Nat) : Flow BurnReceipt := do
  match ← ask (.currentBlock .base) with
  | .ok fromBlock => executeCctpBurn .baseToAlpaca amount fromBlock
  | .error error => throw (.vault (.other error.message))

def executeCctpBurnOnEthereum [FloatFormat] (amount : Nat) (burnFromBlock : Option Nat) :
    Flow BurnReceipt :=
  match burnFromBlock with
  | some fromBlock => executeCctpBurn .alpacaToBase amount fromBlock
  | none => do
      match ← ask (.currentBlock .ethereum) with
      | .ok fromBlock => executeCctpBurn .alpacaToBase amount fromBlock
      | .error error => throw (.settlementCheckTransient error)

/-- Resume from the recorded intent: adopt a burn that was made, burn again only
if the recorded one was mined reverted, and fail closed otherwise. -/
def resumeBurn (direction : RebalanceDirection) (amount fromBlock : Nat)
    (pendingBurnTx : Option TxHash) : Flow BurnReceipt := do
  match ← checkPendingBurn amount pendingBurnTx with
  | some adopted => recordCctpBurn adopted
  | none =>
      match ← ask (.findRecentBurn (burnChain direction) amount fromBlock) with
      | .ok (some existing) => recordCctpBurn ⟨existing, amount⟩
      | .ok none =>
          if pendingBurnTx.isSome then do
            let receipt ← burnRecordingPending ⟨burnChain direction, amount⟩
            recordCctpBurn receipt
          else throw .burnSubmitInconclusive
      | .error error =>
          if error.kind = .scanInconclusive then throw (.settlementCheckTransient error)
          else throw (.cctp error)

def resumeBridgingSubmitting (amount fromBlock : Nat) (pendingBurnTx : Option TxHash) :
    Flow BurnReceipt :=
  resumeBurn .baseToAlpaca amount fromBlock pendingBurnTx

def resumeBridgingSubmittingEthereum (amount fromBlock : Nat) (pendingBurnTx : Option TxHash) :
    Flow BurnReceipt :=
  resumeBurn .alpacaToBase amount fromBlock pendingBurnTx

/-! ## Attestation -/

/-- Poll for the attestation. Nothing is the timeout; any other error fails the
bridge. -/
def pollCctpAttestation (burnTx : TxHash) : Flow (Option AttestationResponse) := do
  match ← ask (.pollAttestation burnTx) with
  | .ok response => pure (some response)
  | .error error =>
      if error.kind = .attestationTimeout then pure none
      else do
        send (.failBridging ("attestation polling failed: " ++ error.message))
        throw (.cctp error)

def pollCctpAttestationUntilDeadline (burnTx : TxHash) (retryDeadlineAt : Time) :
    Flow (Option AttestationResponse) := do
  let now ← ask .now
  if retryDeadlineAt ≤ now then do
    send (.failBridging "attestation retry deadline elapsed")
    throw .attestationRetryDeadlineElapsed
  else pollCctpAttestation burnTx

/-- Record the attestation with the head of the chain it will be minted on. -/
def recordAttestation (direction : RebalanceDirection) (response : AttestationResponse) :
    Flow Unit := do
  match ← ask (.currentBlock (mintChain direction)) with
  | .ok mintScanFromBlock =>
      send (.receiveAttestation response.attestation response.nonce response.message
        mintScanFromBlock)
  | .error error => throw (.cctp error)

def recordAttestationTimeout (config : Config) : Flow Unit := do
  let now ← ask .now
  send (.timeoutAttestation (now + config.attestationRetryDeadline))

/-- Poll, and record what came of it. -/
def awaitAttestation (config : Config) (direction : RebalanceDirection) (burnTx : TxHash) :
    Flow AttestationResponse := do
  match ← pollCctpAttestation burnTx with
  | some response => do
      recordAttestation direction response
      pure response
  | none => do
      recordAttestationTimeout config
      throw .attestationTimedOut

/-- Poll again after an earlier timeout; another one is not recorded. -/
def awaitAttestationAgain (direction : RebalanceDirection) (burnTx : TxHash)
    (retryDeadlineAt : Time) : Flow AttestationResponse := do
  match ← pollCctpAttestationUntilDeadline burnTx retryDeadlineAt with
  | some response => do
      recordAttestation direction response
      pure response
  | none => throw .attestationTimedOut

/-- The bytes of a message that hold its nonce. -/
def messageNonce (message : List UInt8) : Nat :=
  ((message.drop 12).take 32).foldl (fun nonce byte => nonce * 256 + byte.toNat) 0

/-- Rebuild an attestation from what was stored of it. -/
def reconstructAttestation (message attestation : List UInt8) :
    Except CctpError AttestationResponse :=
  if message.length < 148 then
    .error ⟨.other, "Message too short for receiveMessage recovery: got " ++
      toString message.length ++ " bytes, need at least 148"⟩
  else if messageNonce message = 0 then
    .error ⟨.other, "Attested message carries the all-zero placeholder nonce; Circle has not " ++
      "filled in the real nonce yet or the response is malformed"⟩
  else .ok ⟨message, attestation, messageNonce message⟩

/-- The attestation of a transfer that has recorded one. -/
def attestedAttestationResponse (burnTx : TxHash) (attestation : List UInt8) (cctpNonce : Nat)
    (message : Option (List UInt8)) : Flow AttestationResponse :=
  match message with
  | none => do
      match ← pollCctpAttestation burnTx with
      | some response => pure response
      | none => throw .attestationTimedOut
  | some message =>
      match reconstructAttestation message attestation with
      | .error error => do
          send (.failBridging ("attestation reconstruction failed: " ++ error.message))
          throw (.cctp error)
      | .ok response =>
          if response.nonce ≠ cctpNonce then do
            send (.failBridging ("attestation nonce mismatch: reconstructed " ++
              toString response.nonce ++ ", recorded " ++ toString cctpNonce))
            throw (.attestationNonceMismatch cctpNonce response.nonce)
          else pure response

/-! ## Mint -/

def confirmMint [FloatFormat] (receipt : MintReceipt) : Flow Usdc := do
  let amountReceived ← Prog.liftExcept (u256ToUsdc receipt.amount)
  let feeCollected ← Prog.liftExcept (u256ToUsdc receipt.fee)
  send (.confirmBridging receipt.tx amountReceived feeCollected)
  pure amountReceived

/-- Mint, and record what arrived. An outcome that could not be determined is
left for the next attempt. -/
def mintWith [FloatFormat] (direction : RebalanceDirection) (failure : String)
    (attestation : AttestationResponse) (initiatedAt : Time) : Flow Usdc := do
  match ← ask (.mint (mintChain direction) attestation) with
  | .ok receipt => confirmMint receipt
  | .error error =>
      if error.kind = .mintRecoveryInconclusive then
        throw (.mintRecoveryInconclusive initiatedAt error)
      else do
        send (.failBridging (failure ++ error.message))
        throw (.cctp error)

def executeCctpMint [FloatFormat] (attestation : AttestationResponse) (initiatedAt : Time) :
    Flow Usdc :=
  mintWith .alpacaToBase "Mint failed: " attestation initiatedAt

def executeCctpMintOnEthereum [FloatFormat] (attestation : AttestationResponse)
    (initiatedAt : Time) : Flow Usdc :=
  mintWith .baseToAlpaca "Mint on Ethereum failed: " attestation initiatedAt

/-- Look for a mint that was already submitted. Without a bound for the scan an
unrelated one could be found. -/
def findSubmittedMint (direction : RebalanceDirection) (mintScanFromBlock : Option Nat)
    (initiatedAt : Time) : Flow (Option MintReceipt) :=
  match mintScanFromBlock with
  | none => throw .resumeWithoutMintScanBound
  | some fromBlock => do
      match ← ask (.findRecentMint (mintChain direction) fromBlock) with
      | .ok found => pure found
      | .error error =>
          if error.isRevert then throw (.cctp error)
          else throw (.mintRecoveryInconclusive initiatedAt error)

/-! ## Conversion -/

/-- The rendering of an error of a conversion's amounts. -/
def conversionErrorText : UsdcTransferError → String
  | .missingFilledQuantity orderId =>
      "Conversion order " ++ toString orderId.uuid ++ " filled but filled_quantity is missing"
  | .missingFilledAveragePrice orderId =>
      "Conversion order " ++ toString orderId.uuid ++ " filled but filled_average_price is missing"
  | .float error => "Float operation error: " ++ error.message
  | _ => ""

def recordConversionOrFail [FloatFormat] (correlationId : ClientOrderId)
    (order : CryptoOrderResponse) (direction : ConversionDirection) : Flow ConversionAmounts :=
  match conversionAmountsFromOrder order correlationId direction with
  | .ok conversion => pure conversion
  | .error error => do
      send (.failConversion (conversionErrorText error))
      throw error

/-- Place the conversion whose intent is recorded, and record how it ended. -/
def placeConversion [FloatFormat] (amount : Usdc) (direction : ConversionDirection)
    (correlationId : ClientOrderId) : Flow ConversionAmounts := do
  match ← ask (.convertUsdcUsd amount direction correlationId) with
  | .error error => do
      send (.failConversion error)
      throw (.alpacaBrokerApi error)
  | .ok order => do
      let conversion ← recordConversionOrFail correlationId order direction
      send (.confirmConversion conversion)
      pure conversion

end Liquidity.Transfer
