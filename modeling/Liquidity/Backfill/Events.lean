import Liquidity.Finance
import Mathlib.Data.List.Dedup
import Mathlib.Data.List.Induction

/-!
# From logs to trades

What a batch of logs is turned into: one accounting job for each order that was
cleared or taken, and one for each settlement of the shared inventory. A
settlement is a deposit and a withdrawal in one transaction. Nothing links the
two but the transaction, so a transaction with more than one of either is left
alone.
-/

namespace Liquidity.Backfill

abbrev Address := Nat

/-- The event signatures that are asked for. -/
inductive Topic where
  | clearV3
  | takeOrderV3
  | operatorDeposit
  | operatorWithdraw
  | other (signature : Nat)
  deriving DecidableEq, Repr

/-- One side of a settlement: the fields of `OperatorDeposit` and of
`OperatorWithdraw`. -/
structure OperatorLeg where
  operator : Address
  token : Address
  vaultId : Nat
  amount : Nat
  deriving DecidableEq, Repr

abbrev OperatorDeposit := OperatorLeg

abbrev OperatorWithdraw := OperatorLeg

/-- What the data of a log decodes to under the signature in its first topic. -/
inductive Decoded where
  | clearV3 (data : List UInt8)
  | takeOrderV3 (data : List UInt8)
  | operatorDeposit (deposit : OperatorDeposit)
  | operatorWithdraw (withdraw : OperatorWithdraw)
  deriving DecidableEq, Repr

/-- A log as a node reports it. -/
structure Log where
  address : Address
  topic0 : Option Topic
  /-- Nothing if the data is malformed. -/
  decoded : Option Decoded
  removed : Bool
  transactionHash : Option TxHash
  logIndex : Option Nat
  blockNumber : Option Nat
  blockTimestamp : Option Nat
  deriving DecidableEq, Repr

namespace Log

def decodeClearV3 (log : Log) : Option (List UInt8) :=
  match log.topic0, log.decoded with
  | some .clearV3, some (.clearV3 data) => some data
  | _, _ => none

def decodeTakeOrderV3 (log : Log) : Option (List UInt8) :=
  match log.topic0, log.decoded with
  | some .takeOrderV3, some (.takeOrderV3 data) => some data
  | _, _ => none

def decodeOperatorDeposit (log : Log) : Option OperatorDeposit :=
  match log.topic0, log.decoded with
  | some .operatorDeposit, some (.operatorDeposit deposit) => some deposit
  | _, _ => none

def decodeOperatorWithdraw (log : Log) : Option OperatorWithdraw :=
  match log.topic0, log.decoded with
  | some .operatorWithdraw, some (.operatorWithdraw withdraw) => some withdraw
  | _, _ => none

end Log

structure InventoryTrade where
  deposit : OperatorDeposit
  withdraw : OperatorWithdraw
  deriving DecidableEq, Repr

inductive RaindexTradeEvent where
  | clearV3 (data : List UInt8)
  | takeOrderV3 (data : List UInt8)
  | inventoryTrade (trade : InventoryTrade)
  deriving DecidableEq, Repr

/-- An event and where it was included. -/
structure EmittedOnChain where
  event : RaindexTradeEvent
  txHash : TxHash
  logIndex : Nat
  blockNumber : Nat
  blockTimestamp : Option Nat
  deriving DecidableEq, Repr

inductive RequiredField where
  | txHash
  | logIndex
  | blockNumber
  deriving DecidableEq, Repr

inductive BlockInclusionError where
  | missingLogField (field : RequiredField)
  deriving DecidableEq, Repr

/-- The last second that has a date. -/
def maxTimestamp : Nat := 8210266876799

def EmittedOnChain.fromLog (event : RaindexTradeEvent) (log : Log) :
    Except BlockInclusionError EmittedOnChain := do
  let txHash ← log.transactionHash.elim (.error (.missingLogField .txHash)) .ok
  let logIndex ← log.logIndex.elim (.error (.missingLogField .logIndex)) .ok
  let blockNumber ← log.blockNumber.elim (.error (.missingLogField .blockNumber)) .ok
  let blockTimestamp := log.blockTimestamp.bind fun seconds =>
    if seconds ≤ maxTimestamp then some seconds else none
  .ok { event, txHash, logIndex, blockNumber, blockTimestamp }

/-! ## Settlements -/

/-- The legs of one kind that a transaction has: the only one, or too many. -/
inductive Bucket (β : Type) where
  | single (leg : β)
  | ambiguous

abbrev DepositBucket := Bucket OperatorDeposit

abbrev WithdrawBucket := Bucket (OperatorWithdraw × Log)

/-- A second leg makes a transaction ambiguous. -/
def bucket {β : Type} (txHash : TxHash) (leg : β) :
    List (TxHash × Bucket β) → List (TxHash × Bucket β)
  | [] => [(txHash, .single leg)]
  | (other, held) :: rest =>
      if other = txHash then (other, .ambiguous) :: rest else (other, held) :: bucket txHash leg rest

/-- The leg of one kind that a log reports, unless it vanished, cannot be read, or
is the bot's own. -/
def inventoryLeg (topic : Topic) (decode : Log → Option OperatorLeg) (botOperator : Address)
    (log : Log) : Option (TxHash × OperatorLeg) :=
  if log.topic0 = some topic then
    if log.removed then none
    else match decode log, log.transactionHash with
      | some leg, some txHash => if leg.operator = botOperator then none else some (txHash, leg)
      | _, _ => none
  else none

def depositLeg (botOperator : Address) (log : Log) : Option (TxHash × OperatorDeposit) :=
  inventoryLeg .operatorDeposit Log.decodeOperatorDeposit botOperator log

/-- A withdrawal is kept with its log. -/
def withdrawLeg (botOperator : Address) (log : Log) : Option (TxHash × OperatorWithdraw × Log) :=
  (inventoryLeg .operatorWithdraw Log.decodeOperatorWithdraw botOperator log).map
    fun (txHash, withdraw) => (txHash, withdraw, log)

/-- Sort one more log into the buckets. -/
def bucketLog (botOperator : Address)
    (held : List (TxHash × DepositBucket) × List (TxHash × WithdrawBucket)) (log : Log) :
    List (TxHash × DepositBucket) × List (TxHash × WithdrawBucket) :=
  match log.topic0 with
  | some .operatorDeposit =>
      match depositLeg botOperator log with
      | some (txHash, deposit) => (bucket txHash deposit held.1, held.2)
      | none => held
  | some .operatorWithdraw =>
      match withdrawLeg botOperator log with
      | some (txHash, withdraw) => (held.1, bucket txHash withdraw held.2)
      | none => held
  | _ => held

def bucketInventoryLogs (invLogs : List Log) (botOperator : Address) :
    List (TxHash × DepositBucket) × List (TxHash × WithdrawBucket) :=
  invLogs.foldl (bucketLog botOperator) ([], [])

def pairInventorySettlements (depositsByTx : List (TxHash × DepositBucket))
    (withdrawsByTx : List (TxHash × WithdrawBucket)) : List (RaindexTradeEvent × Log) :=
  (depositsByTx.map Prod.fst ++ withdrawsByTx.map Prod.fst).dedup.filterMap fun txHash =>
    match depositsByTx.lookup txHash, withdrawsByTx.lookup txHash with
    | some (.single deposit), some (.single (withdraw, log)) =>
        if deposit.operator = withdraw.operator then
          some (.inventoryTrade { deposit, withdraw }, log)
        else none
    | _, _ => none

/-! ## A batch -/

/-- An order that was cleared or taken. -/
def orderTrade (log : Log) : Option (RaindexTradeEvent × Log) :=
  match log.decodeClearV3 with
  | some clear => some (.clearV3 clear, log)
  | none =>
      match log.decodeTakeOrderV3 with
      | some take => some (.takeOrderV3 take, log)
      | none => none

/-- A missing number comes before every number. -/
def optionLe : Option Nat → Option Nat → Bool
  | none, _ => true
  | some _, none => false
  | some first, some second => first ≤ second

/-- Blocks first, then places in the block. -/
def inclusionLe (first second : RaindexTradeEvent × Log) : Bool :=
  if first.2.blockNumber = second.2.blockNumber then
    optionLe first.2.logIndex second.2.logIndex
  else optionLe first.2.blockNumber second.2.blockNumber

/-- What a batch of logs is turned into, in the order it is enqueued. -/
def tradeEvents (botOperator : Address) (clearLogs takeLogs invLogs : List Log) :
    List EmittedOnChain :=
  let (depositsByTx, withdrawsByTx) := bucketInventoryLogs invLogs botOperator
  let orders := ((clearLogs ++ takeLogs).filter fun log => !log.removed).filterMap orderTrade
  let events := orders ++ pairInventorySettlements depositsByTx withdrawsByTx
  (events.mergeSort inclusionLe).filterMap fun (event, log) =>
    (EmittedOnChain.fromLog event log).toOption

/-- What a leg says about its log. -/
theorem inventoryLeg_spec {topic : Topic} {decode : Log → Option OperatorLeg} {botOperator : Address}
    {log : Log} {txHash : TxHash} {leg : OperatorLeg}
    (reports : inventoryLeg topic decode botOperator log = some (txHash, leg)) :
    log.topic0 = some topic ∧ log.transactionHash = some txHash := by
  unfold inventoryLeg at reports
  split at reports
  case isFalse => cases reports
  case isTrue here =>
    split at reports
    case isTrue => cases reports
    case isFalse =>
      split at reports
      case h_2 => cases reports
      case h_1 hash =>
        split at reports <;> cases reports
        exact ⟨here, hash⟩

/-! ## What is in the buckets -/

/-- The legs of one kind that the logs report for a transaction. -/
def legsOf {β : Type} (leg : Log → Option (TxHash × β)) (txHash : TxHash) (logs : List Log) :
    List β :=
  logs.filterMap fun log => (leg log).bind fun (other, leg) => if other = txHash then some leg else none

/-- The bucket for some legs of one transaction. -/
def tally {β : Type} : List β → Option (Bucket β)
  | [] => none
  | [leg] => some (.single leg)
  | _ => some .ambiguous

theorem lookup_bucket {β : Type} (txHash other : TxHash) (leg : β)
    (held : List (TxHash × Bucket β)) :
    (bucket txHash leg held).lookup other =
      if other = txHash then
        match held.lookup other with
        | none => some (.single leg)
        | some _ => some .ambiguous
      else held.lookup other := by
  induction held with
  | nil =>
      by_cases same : other = txHash
      · simp [bucket, same]
      · have miss : (other == txHash) = false := by simpa using same
        simp [bucket, List.lookup_cons, miss, same]
  | cons entry rest ih =>
      obtain ⟨key, value⟩ := entry
      by_cases hit : key = txHash
      · subst hit
        by_cases same : other = key
        · simp [bucket, same]
        · have miss : (other == key) = false := by simpa using same
          simp [bucket, List.lookup_cons, miss, same]
      · by_cases same : other = key
        · subst same
          simp [bucket, hit]
        · have miss : (other == key) = false := by simpa using same
          simp only [bucket, hit, if_false, List.lookup_cons, miss]
          exact ih

theorem tally_concat {β : Type} (legs : List β) (leg : β) :
    tally (legs ++ [leg]) = match tally legs with
      | none => some (.single leg)
      | some _ => some .ambiguous := by
  cases legs with
  | nil => rfl
  | cons first rest =>
      cases rest with
      | nil => rfl
      | cons second rest => rfl

section Concat

variable {β : Type} {leg : Log → Option (TxHash × β)} {log : Log} (txHash : TxHash) (logs : List Log)

theorem legsOf_concat_none (unrelated : leg log = none) :
    legsOf leg txHash (logs ++ [log]) = legsOf leg txHash logs := by
  simp [legsOf, List.filterMap_append, unrelated]

/-- One more leg goes into its own bucket. -/
theorem lookup_bucket_concat {key : TxHash} {entry : β} {held : List (TxHash × Bucket β)}
    (reports : leg log = some (key, entry))
    (before : held.lookup txHash = tally (legsOf leg txHash logs)) :
    (bucket key entry held).lookup txHash = tally (legsOf leg txHash (logs ++ [log])) := by
  rw [lookup_bucket, before]
  by_cases same : txHash = key
  · subst same
    simp [legsOf, List.filterMap_append, reports, tally_concat]
  · simp [legsOf, List.filterMap_append, reports, same, Ne.symm same]

end Concat

/-- A bucket holds what the logs report for its transaction. -/
theorem lookup_bucketInventoryLogs (invLogs : List Log) (botOperator : Address) (txHash : TxHash) :
    (bucketInventoryLogs invLogs botOperator).1.lookup txHash =
        tally (legsOf (depositLeg botOperator) txHash invLogs) ∧
      (bucketInventoryLogs invLogs botOperator).2.lookup txHash =
        tally (legsOf (withdrawLeg botOperator) txHash invLogs) := by
  induction invLogs using List.reverseRecOn with
  | nil => exact ⟨rfl, rfl⟩
  | append_singleton logs log ih =>
      obtain ⟨deposits, withdraws⟩ := ih
      have step : bucketInventoryLogs (logs ++ [log]) botOperator =
          bucketLog botOperator (bucketInventoryLogs logs botOperator) log := by
        simp [bucketInventoryLogs]
      -- A log has one first topic, so it adds to one kind of bucket at most.
      have noDeposit : log.topic0 ≠ some .operatorDeposit → depositLeg botOperator log = none :=
        fun other => by simp [depositLeg, inventoryLeg, other]
      have noWithdraw : log.topic0 ≠ some .operatorWithdraw → withdrawLeg botOperator log = none :=
        fun other => by simp [withdrawLeg, inventoryLeg, other]
      rw [step]
      unfold bucketLog
      split
      case h_1 topic =>
        rw [legsOf_concat_none txHash logs (noWithdraw (by simp [topic]))]
        cases deposit : depositLeg botOperator log with
        | none =>
            rw [legsOf_concat_none txHash logs deposit]
            exact ⟨deposits, withdraws⟩
        | some entry => exact ⟨lookup_bucket_concat txHash logs deposit deposits, withdraws⟩
      case h_2 topic =>
        rw [legsOf_concat_none txHash logs (noDeposit (by simp [topic]))]
        cases withdraw : withdrawLeg botOperator log with
        | none =>
            rw [legsOf_concat_none txHash logs withdraw]
            exact ⟨deposits, withdraws⟩
        | some entry => exact ⟨deposits, lookup_bucket_concat txHash logs withdraw withdraws⟩
      case h_3 other other' =>
        rw [legsOf_concat_none txHash logs (noDeposit other),
          legsOf_concat_none txHash logs (noWithdraw other')]
        exact ⟨deposits, withdraws⟩

/-! ## What a batch contains -/

/-- The only deposit and the only withdrawal of a transaction, by one operator. -/
structure Settlement (botOperator : Address) (logs : List Log) (txHash : TxHash)
    (deposit : OperatorDeposit) (withdraw : OperatorWithdraw) (log : Log) : Prop where
  deposits : legsOf (depositLeg botOperator) txHash logs = [deposit]
  withdraws : legsOf (withdrawLeg botOperator) txHash logs = [(withdraw, log)]
  operator : deposit.operator = withdraw.operator

theorem mem_keys_of_lookup {β : Type} {txHash : TxHash} {held : List (TxHash × β)} {value : β}
    (found : held.lookup txHash = some value) : txHash ∈ held.map Prod.fst := by
  obtain ⟨first, second, rfl, -⟩ := List.lookup_eq_some_iff.mp found
  simp

section Batch

variable {botOperator : Address} {clearLogs takeLogs invLogs : List Log}

/-- A settlement in the batch is paired. -/
theorem Settlement.paired {txHash : TxHash} {deposit : OperatorDeposit}
    {withdraw : OperatorWithdraw} {log : Log}
    (settles : Settlement botOperator invLogs txHash deposit withdraw log) :
    (.inventoryTrade { deposit, withdraw }, log) ∈
      pairInventorySettlements (bucketInventoryLogs invLogs botOperator).1
        (bucketInventoryLogs invLogs botOperator).2 := by
  obtain ⟨deposits, withdraws⟩ := lookup_bucketInventoryLogs invLogs botOperator txHash
  rw [settles.deposits] at deposits
  rw [settles.withdraws] at withdraws
  refine List.mem_filterMap.mpr ⟨txHash, ?_, ?_⟩
  · exact List.mem_dedup.mpr (List.mem_append_left _ (mem_keys_of_lookup deposits))
  · simp [deposits, withdraws, tally, settles.operator]

theorem mem_tradeEvents {event : RaindexTradeEvent} {log : Log} {emitted : EmittedOnChain}
    (complete : EmittedOnChain.fromLog event log = .ok emitted)
    (found : (event, log) ∈ ((clearLogs ++ takeLogs).filter fun log => !log.removed).filterMap
        orderTrade ++ pairInventorySettlements (bucketInventoryLogs invLogs botOperator).1
          (bucketInventoryLogs invLogs botOperator).2) :
    emitted ∈ tradeEvents botOperator clearLogs takeLogs invLogs := by
  refine List.mem_filterMap.mpr ⟨(event, log), List.mem_mergeSort.mpr found, ?_⟩
  simp [complete, Except.toOption]

/-- Every order that was cleared or taken is enqueued. -/
theorem order_mem_tradeEvents {log : Log} {event : RaindexTradeEvent} {emitted : EmittedOnChain}
    (listed : log ∈ clearLogs ∨ log ∈ takeLogs) (stands : log.removed = false)
    (decodes : orderTrade log = some (event, log))
    (complete : EmittedOnChain.fromLog event log = .ok emitted) :
    emitted ∈ tradeEvents botOperator clearLogs takeLogs invLogs := by
  refine mem_tradeEvents complete (List.mem_append_left _ ?_)
  refine List.mem_filterMap.mpr ⟨log, ?_, decodes⟩
  simpa [stands] using listed

/-- Every settlement is enqueued. -/
theorem Settlement.mem_tradeEvents {txHash : TxHash} {deposit : OperatorDeposit}
    {withdraw : OperatorWithdraw} {log : Log} {emitted : EmittedOnChain}
    (settles : Settlement botOperator invLogs txHash deposit withdraw log)
    (complete : EmittedOnChain.fromLog (.inventoryTrade { deposit, withdraw }) log = .ok emitted) :
    emitted ∈ tradeEvents botOperator clearLogs takeLogs invLogs :=
  Backfill.mem_tradeEvents complete (List.mem_append_right _ settles.paired)

end Batch

end Liquidity.Backfill
