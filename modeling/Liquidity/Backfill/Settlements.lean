import Liquidity.Backfill.World

/-!
# Settlements of the shared inventory

A settlement is the only deposit and the only withdrawal of its transaction, by one
operator. Which ones are found does not depend on the order of the logs, nor on how
they are batched as long as a transaction stays together, and the logs of a receipt
are read the same way as those of a batch.
-/

namespace Liquidity.Backfill

/-! ## The receipt of one transaction -/

inductive TradeValidationError where
  | noTxHash
  | noLogIndex
  deriving DecidableEq, Repr

/-- What the legs of a trade are and by what it is known. -/
structure IdentifiedTrade where
  trade : InventoryTrade
  txHash : TxHash
  logIndex : Nat
  deriving DecidableEq, Repr

/-- What `try_from_inventory_trade` starts with: the log names the trade. Symbols, amounts
and prices are looked up afterwards. -/
def identifyInventoryTrade (trade : InventoryTrade) (log : Log) :
    Except TradeValidationError IdentifiedTrade := do
  let txHash ← log.transactionHash.elim (.error .noTxHash) .ok
  let logIndex ← log.logIndex.elim (.error .noLogIndex) .ok
  return { trade, txHash, logIndex }

/-- The inventory's own logs of either kind. -/
def inventoryLogsOf (inventoryAddress : Address) (logs : List Log) : List Log :=
  logs.filter fun log =>
    log.address = inventoryAddress ∧
      (log.topic0 = some .operatorDeposit ∨ log.topic0 = some .operatorWithdraw)

def tryInventoryTradeFromReceiptLogs (inventoryAddress botOperator : Address) (logs : List Log) :
    Except TradeValidationError (Option IdentifiedTrade) :=
  let inventoryLogs := inventoryLogsOf inventoryAddress logs
  if inventoryLogs.isEmpty then .ok none
  else
    let (depositsByTx, withdrawsByTx) := bucketInventoryLogs inventoryLogs botOperator
    match (pairInventorySettlements depositsByTx withdrawsByTx).head? with
    | some (.inventoryTrade trade, log) => (identifyInventoryTrade trade log).map some
    | _ => .ok none

/-! ## What a settlement is -/

/-- A leg that counts for a transaction. -/
structure LegOf (decode : Log → Option OperatorLeg) (botOperator : Address) (txHash : TxHash)
    (log : Log) (leg : OperatorLeg) : Prop where
  stands : log.removed = false
  decodes : decode log = some leg
  transaction : log.transactionHash = some txHash
  notTheBot : leg.operator ≠ botOperator

/-- There is one in the list, at one place. -/
structure OnlyLeg (decode : Log → Option OperatorLeg) (botOperator : Address) (txHash : TxHash)
    (logs : List Log) (log : Log) (leg : OperatorLeg) : Prop where
  isLeg : LegOf decode botOperator txHash log leg
  alone : ∃ before after, logs = before ++ log :: after ∧
    ∀ other ∈ before ++ after, ∀ otherLeg, ¬ LegOf decode botOperator txHash other otherLeg

/-- What a list of logs is paired into. -/
def pairedSettlements (botOperator : Address) (logs : List Log) :
    List (RaindexTradeEvent × Log) :=
  pairInventorySettlements (bucketInventoryLogs logs botOperator).1
    (bucketInventoryLogs logs botOperator).2

/-- No transaction has logs in both. -/
def Apart (logs others : List Log) : Prop :=
  ∀ log ∈ logs, ∀ other ∈ others, ∀ txHash,
    log.transactionHash = some txHash → other.transactionHash ≠ some txHash

/-! ## Legs and settlements -/

section Legs

variable {botOperator : Address} {txHash : TxHash}

theorem inventoryLeg_eq_some {topic : Topic} {decode : Log → Option OperatorLeg} {log : Log}
    {leg : OperatorLeg} (tagged : decode log = some leg → log.topic0 = some topic) :
    inventoryLeg topic decode botOperator log = some (txHash, leg) ↔
      LegOf decode botOperator txHash log leg := by
  constructor
  · intro reports
    have transaction := (inventoryLeg_spec reports).2
    unfold inventoryLeg at reports
    split at reports
    case isFalse => cases reports
    case isTrue =>
        split at reports
        case isTrue => cases reports
        case isFalse stands =>
            split at reports
            case h_2 => cases reports
            case h_1 decoded hash decodes _ =>
                split at reports
                case isTrue => cases reports
                case isFalse notTheBot =>
                    cases reports
                    exact ⟨by simpa using stands, decodes, transaction, notTheBot⟩
  · intro isLeg
    simp [inventoryLeg, tagged isLeg.decodes, isLeg.stands, isLeg.decodes, isLeg.transaction,
      isLeg.notTheBot]

theorem topic_of_decodeOperatorDeposit {log : Log} {deposit : OperatorDeposit}
    (decodes : log.decodeOperatorDeposit = some deposit) : log.topic0 = some .operatorDeposit := by
  unfold Log.decodeOperatorDeposit at decodes
  split at decodes
  · assumption
  · cases decodes

theorem topic_of_decodeOperatorWithdraw {log : Log} {withdraw : OperatorWithdraw}
    (decodes : log.decodeOperatorWithdraw = some withdraw) :
    log.topic0 = some .operatorWithdraw := by
  unfold Log.decodeOperatorWithdraw at decodes
  split at decodes
  · assumption
  · cases decodes

theorem depositLeg_eq_some {log : Log} {deposit : OperatorDeposit} :
    depositLeg botOperator log = some (txHash, deposit) ↔
      LegOf Log.decodeOperatorDeposit botOperator txHash log deposit :=
  inventoryLeg_eq_some topic_of_decodeOperatorDeposit

theorem withdrawLeg_eq_some {log other : Log} {withdraw : OperatorWithdraw} :
    withdrawLeg botOperator log = some (txHash, withdraw, other) ↔
      other = log ∧ LegOf Log.decodeOperatorWithdraw botOperator txHash log withdraw := by
  rw [← inventoryLeg_eq_some topic_of_decodeOperatorWithdraw]
  unfold withdrawLeg
  constructor
  · intro reports
    obtain ⟨⟨hash, leg⟩, reported, same⟩ := Option.map_eq_some_iff.mp reports
    cases same
    exact ⟨rfl, reported⟩
  · rintro ⟨rfl, reported⟩
    rw [reported]
    rfl

/-- One leg is listed exactly when one log reports it and no other reports any. -/
theorem legsOf_eq_singleton {β : Type} {leg : Log → Option (TxHash × β)} {logs : List Log}
    {entry : β} :
    legsOf leg txHash logs = [entry] ↔
      ∃ before log after, logs = before ++ log :: after ∧ leg log = some (txHash, entry) ∧
        ∀ other ∈ before ++ after, ∀ otherEntry, leg other ≠ some (txHash, otherEntry) := by
  have reads (log : Log) (entry : β) :
      ((leg log).bind fun pair => if pair.1 = txHash then some pair.2 else none) = some entry ↔
        leg log = some (txHash, entry) := by
    cases leg log with
    | none => simp
    | some pair =>
        obtain ⟨other, value⟩ := pair
        simp
  have misses (log : Log) :
      ((leg log).bind fun pair => if pair.1 = txHash then some pair.2 else none) = none ↔
        ∀ entry, leg log ≠ some (txHash, entry) := by
    rw [Option.eq_none_iff_forall_ne_some]
    constructor
    · intro none entry reports
      exact none entry ((reads log entry).mpr reports)
    · intro none entry reports
      exact none entry ((reads log entry).mp reports)
  unfold legsOf
  rw [List.filterMap_eq_cons_iff]
  constructor
  · rintro ⟨before, log, after, rfl, nothingBefore, reports, nothingAfter⟩
    rw [List.filterMap_eq_nil_iff] at nothingAfter
    refine ⟨before, log, after, rfl, (reads log entry).mp reports, ?_⟩
    intro other among
    apply (misses other).mp
    rcases List.mem_append.mp among with early | late
    · exact nothingBefore other early
    · exact nothingAfter other late
  · rintro ⟨before, log, after, rfl, reports, nothing⟩
    refine ⟨before, log, after, rfl, ?_, (reads log entry).mpr reports, ?_⟩
    · intro other early
      exact (misses other).mpr (nothing other (List.mem_append_left _ early))
    · rw [List.filterMap_eq_nil_iff]
      intro other late
      exact (misses other).mpr (nothing other (List.mem_append_right _ late))

theorem legsOf_deposit_eq_singleton {logs : List Log} {deposit : OperatorDeposit} :
    legsOf (depositLeg botOperator) txHash logs = [deposit] ↔
      ∃ log, OnlyLeg Log.decodeOperatorDeposit botOperator txHash logs log deposit := by
  rw [legsOf_eq_singleton]
  simp only [depositLeg_eq_some, ne_eq]
  constructor
  · rintro ⟨before, log, after, split, isLeg, alone⟩
    exact ⟨log, isLeg, before, after, split, alone⟩
  · rintro ⟨log, isLeg, before, after, split, alone⟩
    exact ⟨before, log, after, split, isLeg, alone⟩

theorem legsOf_withdraw_eq_singleton {logs : List Log} {withdraw : OperatorWithdraw} {log : Log} :
    legsOf (withdrawLeg botOperator) txHash logs = [(withdraw, log)] ↔
      OnlyLeg Log.decodeOperatorWithdraw botOperator txHash logs log withdraw := by
  rw [legsOf_eq_singleton]
  constructor
  · rintro ⟨before, reporting, after, split, reports, alone⟩
    obtain ⟨rfl, isLeg⟩ := withdrawLeg_eq_some.mp reports
    refine ⟨isLeg, before, after, split, ?_⟩
    intro other among leg counts
    exact alone other among (leg, other) (withdrawLeg_eq_some.mpr ⟨rfl, counts⟩)
  · rintro ⟨isLeg, before, after, split, alone⟩
    refine ⟨before, log, after, split, withdrawLeg_eq_some.mpr ⟨rfl, isLeg⟩, ?_⟩
    rintro other among ⟨leg, kept⟩ reports
    exact alone other among leg (withdrawLeg_eq_some.mp reports).2

end Legs

/-! ## Pairing -/

section Pairing

variable {botOperator : Address}

theorem tally_eq_single {β : Type} {legs : List β} {leg : β} :
    tally legs = some (.single leg) ↔ legs = [leg] := by
  cases legs with
  | nil => simp [tally]
  | cons first rest =>
      cases rest with
      | nil => simp [tally]
      | cons second rest => simp [tally]

/-- What a transaction is paired into is its settlement. -/
theorem settlement_of_lookup {logs : List Log} {txHash : TxHash} {entry : RaindexTradeEvent × Log}
    (found : (match (bucketInventoryLogs logs botOperator).1.lookup txHash,
        (bucketInventoryLogs logs botOperator).2.lookup txHash with
      | some (.single deposit), some (.single (withdraw, log)) =>
          if deposit.operator = withdraw.operator then
            some (RaindexTradeEvent.inventoryTrade { deposit, withdraw }, log)
          else none
      | _, _ => none) = some entry) :
    ∃ deposit withdraw log, Settlement botOperator logs txHash deposit withdraw log ∧
      entry = (.inventoryTrade { deposit, withdraw }, log) := by
  obtain ⟨deposits, withdraws⟩ := lookup_bucketInventoryLogs logs botOperator txHash
  rw [deposits, withdraws] at found
  split at found
  case h_2 => cases found
  case h_1 deposit withdraw log depositTally withdrawTally =>
      split at found
      case isFalse => cases found
      case isTrue operator =>
          cases found
          exact ⟨deposit, withdraw, log, ⟨tally_eq_single.mp depositTally,
            tally_eq_single.mp withdrawTally, operator⟩, rfl⟩

/-- Settlements are all that is paired. -/
theorem mem_pairedSettlements {logs : List Log} {entry : RaindexTradeEvent × Log} :
    entry ∈ pairedSettlements botOperator logs ↔
      ∃ txHash deposit withdraw log, Settlement botOperator logs txHash deposit withdraw log ∧
        entry = (.inventoryTrade { deposit, withdraw }, log) := by
  constructor
  · intro listed
    obtain ⟨txHash, -, found⟩ := List.mem_filterMap.mp listed
    exact ⟨txHash, settlement_of_lookup found⟩
  · rintro ⟨txHash, deposit, withdraw, log, settles, rfl⟩
    exact settles.paired

/-- The log of a settlement is of its transaction. -/
theorem Settlement.transaction {logs : List Log} {txHash : TxHash} {deposit : OperatorDeposit}
    {withdraw : OperatorWithdraw} {log : Log}
    (settles : Settlement botOperator logs txHash deposit withdraw log) :
    log.transactionHash = some txHash :=
  (legsOf_withdraw_eq_singleton.mp settles.withdraws).isLeg.transaction

theorem transactions_pairwise (logs : List Log) :
    (pairedSettlements botOperator logs).Pairwise
      fun entry other => entry.2.transactionHash ≠ other.2.transactionHash := by
  refine List.pairwise_filterMap.mpr ((List.nodup_dedup _).imp ?_)
  intro txHash other different entry found otherEntry otherFound
  obtain ⟨_, _, _, settles, rfl⟩ := settlement_of_lookup found
  obtain ⟨_, _, _, otherSettles, rfl⟩ := settlement_of_lookup otherFound
  rw [settles.transaction, otherSettles.transaction]
  exact fun same => different (Option.some.inj same)

/-- A transaction is settled once at most. -/
theorem nodup_transactions (logs : List Log) :
    ((pairedSettlements botOperator logs).map fun entry => entry.2.transactionHash).Nodup :=
  List.pairwise_map.mpr (transactions_pairwise logs)

/-! ## Order and batches -/

theorem Settlement.of_perm {logs others : List Log} (same : logs.Perm others) {txHash : TxHash}
    {deposit : OperatorDeposit} {withdraw : OperatorWithdraw} {log : Log}
    (settles : Settlement botOperator logs txHash deposit withdraw log) :
    Settlement botOperator others txHash deposit withdraw log := by
  have deposits := same.symm.filterMap fun log =>
    (depositLeg botOperator log).bind fun (other, leg) => if other = txHash then some leg else none
  have withdraws := same.symm.filterMap fun log =>
    (withdrawLeg botOperator log).bind fun (other, leg) => if other = txHash then some leg else none
  constructor
  · have only : legsOf (depositLeg botOperator) txHash logs = [deposit] := settles.deposits
    rw [legsOf] at only
    rw [only] at deposits
    exact List.perm_singleton.mp deposits
  · have only : legsOf (withdrawLeg botOperator) txHash logs = [(withdraw, log)] :=
      settles.withdraws
    rw [legsOf] at only
    rw [only] at withdraws
    exact List.perm_singleton.mp withdraws
  · exact settles.operator

theorem mem_pairedSettlements_of_perm {logs others : List Log} (same : logs.Perm others)
    {entry : RaindexTradeEvent × Log} (listed : entry ∈ pairedSettlements botOperator logs) :
    entry ∈ pairedSettlements botOperator others := by
  obtain ⟨txHash, deposit, withdraw, log, settles, rfl⟩ := mem_pairedSettlements.mp listed
  exact mem_pairedSettlements.mpr ⟨txHash, deposit, withdraw, log, settles.of_perm same, rfl⟩

theorem legsOf_append {β : Type} (leg : Log → Option (TxHash × β)) (txHash : TxHash)
    (logs others : List Log) :
    legsOf leg txHash (logs ++ others) = legsOf leg txHash logs ++ legsOf leg txHash others :=
  List.filterMap_append

/-- Logs of other transactions have no legs for this one. -/
theorem legsOf_eq_nil {β : Type} {leg : Log → Option (TxHash × β)} {txHash : TxHash}
    {logs : List Log}
    (tagged : ∀ log entry, leg log = some (txHash, entry) → log.transactionHash = some txHash)
    (untouched : ∀ log ∈ logs, log.transactionHash ≠ some txHash) :
    legsOf leg txHash logs = [] := by
  refine List.filterMap_eq_nil_iff.mpr ?_
  intro log among
  cases reports : leg log with
  | none => rfl
  | some pair =>
      obtain ⟨other, entry⟩ := pair
      by_cases same : other = txHash
      · subst same
        exact absurd (tagged log entry reports) (untouched log among)
      · simp [same]

theorem depositLeg_tagged (txHash : TxHash) (log : Log) (deposit : OperatorDeposit)
    (reports : depositLeg botOperator log = some (txHash, deposit)) :
    log.transactionHash = some txHash :=
  (depositLeg_eq_some.mp reports).transaction

theorem withdrawLeg_tagged (txHash : TxHash) (log : Log) (withdraw : OperatorWithdraw × Log)
    (reports : withdrawLeg botOperator log = some (txHash, withdraw)) :
    log.transactionHash = some txHash :=
  (withdrawLeg_eq_some.mp reports).2.transaction

/-- Logs that leave the transaction alone change nothing about it. -/
theorem settlement_append_left {logs others : List Log} {txHash : TxHash}
    (untouched : ∀ log ∈ others, log.transactionHash ≠ some txHash) {deposit : OperatorDeposit}
    {withdraw : OperatorWithdraw} {log : Log} :
    Settlement botOperator (logs ++ others) txHash deposit withdraw log ↔
      Settlement botOperator logs txHash deposit withdraw log := by
  have deposits : legsOf (depositLeg botOperator) txHash others = [] :=
    legsOf_eq_nil (depositLeg_tagged txHash) untouched
  have withdraws : legsOf (withdrawLeg botOperator) txHash others = [] :=
    legsOf_eq_nil (withdrawLeg_tagged txHash) untouched
  constructor
  · intro settles
    constructor
    · simpa [legsOf_append, deposits] using settles.deposits
    · simpa [legsOf_append, withdraws] using settles.withdraws
    · exact settles.operator
  · intro settles
    constructor
    · simpa [legsOf_append, deposits] using settles.deposits
    · simpa [legsOf_append, withdraws] using settles.withdraws
    · exact settles.operator

theorem Settlement.log_mem {logs : List Log} {txHash : TxHash} {deposit : OperatorDeposit}
    {withdraw : OperatorWithdraw} {log : Log}
    (settles : Settlement botOperator logs txHash deposit withdraw log) : log ∈ logs := by
  obtain ⟨before, after, rfl, -⟩ := (legsOf_withdraw_eq_singleton.mp settles.withdraws).alone
  exact List.mem_append_right _ List.mem_cons_self

theorem mem_pairedSettlements_append {logs others : List Log} (apart : Apart logs others)
    {entry : RaindexTradeEvent × Log} :
    entry ∈ pairedSettlements botOperator (logs ++ others) ↔
      entry ∈ pairedSettlements botOperator logs ∨
        entry ∈ pairedSettlements botOperator others := by
  simp only [mem_pairedSettlements]
  constructor
  · rintro ⟨txHash, deposit, withdraw, log, settles, rfl⟩
    rcases List.mem_append.mp settles.log_mem with among | among
    · have untouched : ∀ other ∈ others, other.transactionHash ≠ some txHash :=
        fun other listed => apart log among other listed txHash settles.transaction
      exact .inl ⟨txHash, deposit, withdraw, log,
        (settlement_append_left untouched).mp settles, rfl⟩
    · have untouched : ∀ other ∈ logs, other.transactionHash ≠ some txHash :=
        fun other listed same => apart other listed log among txHash same settles.transaction
      exact .inr ⟨txHash, deposit, withdraw, log,
        (settlement_append_left untouched).mp (settles.of_perm List.perm_append_comm), rfl⟩
  · rintro (⟨txHash, deposit, withdraw, log, settles, rfl⟩ |
      ⟨txHash, deposit, withdraw, log, settles, rfl⟩)
    · have untouched : ∀ other ∈ others, other.transactionHash ≠ some txHash :=
        fun other listed => apart log settles.log_mem other listed txHash settles.transaction
      exact ⟨txHash, deposit, withdraw, log, (settlement_append_left untouched).mpr settles, rfl⟩
    · have untouched : ∀ other ∈ logs, other.transactionHash ≠ some txHash :=
        fun other listed same =>
          apart other listed log settles.log_mem txHash same settles.transaction
      exact ⟨txHash, deposit, withdraw, log,
        ((settlement_append_left untouched).mpr settles).of_perm List.perm_append_comm, rfl⟩

/-- What is found in batches is what is found in all of them. -/
theorem mem_pairedSettlements_flatten {batches : List (List Log)} (apart : batches.Pairwise Apart)
    {entry : RaindexTradeEvent × Log} :
    entry ∈ pairedSettlements botOperator batches.flatten ↔
      ∃ logs ∈ batches, entry ∈ pairedSettlements botOperator logs := by
  induction batches with
  | nil =>
      constructor
      · intro listed
        cases listed
      · rintro ⟨logs, listed, -⟩
        cases listed
  | cons logs rest rests =>
      obtain ⟨first, others⟩ := List.pairwise_cons.mp apart
      have together : Apart logs rest.flatten := by
        intro log among other later txHash
        obtain ⟨batch, listed, among'⟩ := List.mem_flatten.mp later
        exact first batch listed log among other among' txHash
      rw [List.flatten_cons, mem_pairedSettlements_append together, rests others]
      simp only [List.mem_cons, exists_eq_or_imp]

/-! ## The receipt -/

/-- A list that names every transaction once, of one transaction, has one entry. -/
theorem head?_eq_of_mem {logs : List Log} {txHash : TxHash}
    (one : ∀ log ∈ logs, log.transactionHash = some txHash) {entry : RaindexTradeEvent × Log}
    (listed : entry ∈ pairedSettlements botOperator logs) :
    (pairedSettlements botOperator logs).head? = some entry := by
  have pairwise := @transactions_pairwise botOperator logs
  have within : ∀ other ∈ pairedSettlements botOperator logs,
      other.2.transactionHash = some txHash := by
    intro other among
    obtain ⟨_, _, _, log, settles, rfl⟩ := mem_pairedSettlements.mp among
    exact one log settles.log_mem
  cases found : pairedSettlements botOperator logs with
  | nil =>
      rw [found] at listed
      cases listed
  | cons first rest =>
      rw [found] at listed pairwise within
      rcases List.mem_cons.mp listed with rfl | later
      · rfl
      · have different := (List.pairwise_cons.mp pairwise).1 entry later
        rw [within first List.mem_cons_self, within entry (List.mem_cons_of_mem _ later)]
          at different
        exact absurd rfl different

theorem identifyInventoryTrade_eq_ok {trade : InventoryTrade} {log : Log}
    {identified : IdentifiedTrade} :
    identifyInventoryTrade trade log = .ok identified ↔
      identified.trade = trade ∧ log.transactionHash = some identified.txHash ∧
        log.logIndex = some identified.logIndex := by
  obtain ⟨legs, txHash, logIndex⟩ := identified
  cases hash : log.transactionHash with
  | none => simp [identifyInventoryTrade, hash, bind, Except.bind]
  | some known =>
      cases index : log.logIndex with
      | none => simp [identifyInventoryTrade, hash, index, bind, Except.bind]
      | some place =>
          simp [identifyInventoryTrade, hash, index, bind, Except.bind, pure, Except.pure,
            eq_comm]

/-- The receipt's path takes the first pair, if there is one. -/
theorem tryInventoryTradeFromReceiptLogs_eq (inventoryAddress : Address) (logs : List Log) :
    tryInventoryTradeFromReceiptLogs inventoryAddress botOperator logs =
      match (pairedSettlements botOperator (inventoryLogsOf inventoryAddress logs)).head? with
      | some (.inventoryTrade trade, log) => (identifyInventoryTrade trade log).map some
      | _ => .ok none := by
  unfold tryInventoryTradeFromReceiptLogs
  cases listed : inventoryLogsOf inventoryAddress logs with
  | nil => rfl
  | cons log rest => rfl

theorem receipt_eq_ok_some {inventoryAddress : Address} {logs : List Log} {txHash : TxHash}
    (one : ∀ log ∈ logs, log.transactionHash = some txHash) {identified : IdentifiedTrade} :
    tryInventoryTradeFromReceiptLogs inventoryAddress botOperator logs = .ok (some identified) ↔
      ∃ log, (.inventoryTrade identified.trade, log) ∈
          pairedSettlements botOperator (inventoryLogsOf inventoryAddress logs) ∧
        log.transactionHash = some identified.txHash ∧
        log.logIndex = some identified.logIndex := by
  have own : ∀ log ∈ inventoryLogsOf inventoryAddress logs, log.transactionHash = some txHash :=
    fun log among => one log (List.mem_of_mem_filter among)
  rw [tryInventoryTradeFromReceiptLogs_eq]
  constructor
  · intro selected
    split at selected
    case h_2 => cases selected
    case h_1 trade log head =>
        have listed := List.mem_of_head? head
        cases converted : identifyInventoryTrade trade log with
        | error error =>
            rw [converted] at selected
            cases selected
        | ok found =>
            rw [converted] at selected
            cases selected
            obtain ⟨rfl, hash, index⟩ := identifyInventoryTrade_eq_ok.mp converted
            exact ⟨log, listed, hash, index⟩
  · rintro ⟨log, listed, hash, index⟩
    rw [head?_eq_of_mem own listed]
    have converted : identifyInventoryTrade identified.trade log = .ok identified :=
      identifyInventoryTrade_eq_ok.mpr ⟨rfl, hash, index⟩
    simp only [converted, Except.map]

end Pairing

/-! ## Both paths -/

/-- The logs of a transaction that the inventory query of a batch is answered with. -/
theorem filter_inventoryFilter (evm : EvmCtx) (batchStart batchEnd : Nat) (logs : List Log) :
    logs.filter (inventoryFilter evm batchStart batchEnd).accepts =
      inventoryLogsOf evm.inventoryAddress logs := by
  refine List.filter_congr ?_
  intro log among
  by_cases home : log.address = evm.inventoryAddress
  · cases topic : log.topic0 with
    | none => simp [Filter.accepts, inventoryFilter, home, topic]
    | some known => cases known <;> simp [Filter.accepts, inventoryFilter, home, topic]
  · simp [Filter.accepts, inventoryFilter, home]

theorem fromLog_eq_ok {event : RaindexTradeEvent} {log : Log} {emitted : EmittedOnChain}
    (complete : EmittedOnChain.fromLog event log = .ok emitted) :
    emitted.event = event ∧ log.transactionHash = some emitted.txHash ∧
      log.logIndex = some emitted.logIndex := by
  obtain ⟨txHash, hash, complete⟩ := bind_eq_ok.mp complete
  obtain ⟨logIndex, index, complete⟩ := bind_eq_ok.mp complete
  obtain ⟨blockNumber, number, complete⟩ := bind_eq_ok.mp complete
  cases complete
  refine ⟨rfl, ?_, ?_⟩
  · cases known : log.transactionHash with
    | none =>
        rw [known] at hash
        cases hash
    | some value =>
        rw [known] at hash
        cases hash
        rfl
  · cases known : log.logIndex with
    | none =>
        rw [known] at index
        cases index
    | some value =>
        rw [known] at index
        cases index
        rfl

/-- How settlements are found in the logs of the inventory. -/
structure PairsUnambiguously (evm : EvmCtx) (logs : List Log) : Prop where
  /-- One deposit, one withdrawal, one operator, and the trade is these. -/
  exactly : ∀ txHash entry,
    entry ∈ pairedSettlements evm.botOperator logs ∧ entry.2.transactionHash = some txHash ↔
      ∃ depositLog deposit withdrawLog withdraw,
        OnlyLeg Log.decodeOperatorDeposit evm.botOperator txHash logs depositLog deposit ∧
        OnlyLeg Log.decodeOperatorWithdraw evm.botOperator txHash logs withdrawLog withdraw ∧
        deposit.operator = withdraw.operator ∧
        entry = (.inventoryTrade { deposit, withdraw }, withdrawLog)
  once : ((pairedSettlements evm.botOperator logs).map fun entry => entry.2.transactionHash).Nodup
  unordered : ∀ others, logs.Perm others → ∀ entry,
    entry ∈ pairedSettlements evm.botOperator logs ↔
      entry ∈ pairedSettlements evm.botOperator others
  batched : ∀ batches : List (List Log), logs.Perm batches.flatten → batches.Pairwise Apart →
    ∀ entry, entry ∈ pairedSettlements evm.botOperator logs ↔
      ∃ batch ∈ batches, entry ∈ pairedSettlements evm.botOperator batch
  /-- What a batch is answered with for one transaction, and what its receipt has. -/
  receipt : ∀ txHash, (∀ log ∈ logs, log.transactionHash = some txHash) →
    ∀ batchStart batchEnd,
      (∀ identified, tryInventoryTradeFromReceiptLogs evm.inventoryAddress evm.botOperator logs =
          .ok (some identified) ↔
        ∃ log, (.inventoryTrade identified.trade, log) ∈ pairedSettlements evm.botOperator
            (logs.filter (inventoryFilter evm batchStart batchEnd).accepts) ∧
          log.transactionHash = some identified.txHash ∧
          log.logIndex = some identified.logIndex) ∧
      ∀ emitted ∈ tradeEvents evm.botOperator [] []
          (logs.filter (inventoryFilter evm batchStart batchEnd).accepts),
        ∃ trade, emitted.event = .inventoryTrade trade ∧
          tryInventoryTradeFromReceiptLogs evm.inventoryAddress evm.botOperator logs =
            .ok (some ⟨trade, emitted.txHash, emitted.logIndex⟩)

/-- What a batch enqueues of settlements comes from a pair. -/
theorem mem_tradeEvents_settlement {botOperator : Address} {logs : List Log}
    {emitted : EmittedOnChain} (enqueued : emitted ∈ tradeEvents botOperator [] [] logs) :
    ∃ trade log, (.inventoryTrade trade, log) ∈ pairedSettlements botOperator logs ∧
      EmittedOnChain.fromLog (.inventoryTrade trade) log = .ok emitted := by
  obtain ⟨⟨event, log⟩, sorted, complete⟩ := List.mem_filterMap.mp enqueued
  have listed : (event, log) ∈ pairedSettlements botOperator logs := by
    simpa [pairedSettlements, bucketInventoryLogs] using List.mem_mergeSort.mp sorted
  obtain ⟨_, deposit, withdraw, _, -, same⟩ := mem_pairedSettlements.mp listed
  cases same
  refine ⟨{ deposit, withdraw }, log, listed, ?_⟩
  simp only at complete
  cases built : EmittedOnChain.fromLog (.inventoryTrade { deposit, withdraw }) log with
  | error error =>
      rw [built] at complete
      cases complete
  | ok found =>
      rw [built] at complete
      cases complete
      rfl

theorem pairsUnambiguously (evm : EvmCtx) (logs : List Log) : PairsUnambiguously evm logs := by
  constructor
  · intro txHash entry
    rw [mem_pairedSettlements]
    constructor
    · rintro ⟨⟨other, deposit, withdraw, log, settles, rfl⟩, transaction⟩
      rw [settles.transaction] at transaction
      cases transaction
      obtain ⟨depositLog, only⟩ := legsOf_deposit_eq_singleton.mp settles.deposits
      exact ⟨depositLog, deposit, log, withdraw, only,
        legsOf_withdraw_eq_singleton.mp settles.withdraws, settles.operator, rfl⟩
    · rintro ⟨depositLog, deposit, log, withdraw, deposits, withdraws, operator, rfl⟩
      refine ⟨⟨txHash, deposit, withdraw, log, ?_, rfl⟩, withdraws.isLeg.transaction⟩
      constructor
      · exact legsOf_deposit_eq_singleton.mpr ⟨depositLog, deposits⟩
      · exact legsOf_withdraw_eq_singleton.mpr withdraws
      · exact operator
  · exact nodup_transactions logs
  · intro others same entry
    exact ⟨mem_pairedSettlements_of_perm same, mem_pairedSettlements_of_perm same.symm⟩
  · intro batches same apart entry
    rw [← mem_pairedSettlements_flatten apart]
    exact ⟨mem_pairedSettlements_of_perm same, mem_pairedSettlements_of_perm same.symm⟩
  · intro txHash one batchStart batchEnd
    rw [filter_inventoryFilter]
    refine ⟨fun identified => receipt_eq_ok_some one, ?_⟩
    intro emitted enqueued
    obtain ⟨trade, log, listed, complete⟩ := mem_tradeEvents_settlement enqueued
    obtain ⟨named, hash, index⟩ := fromLog_eq_ok complete
    exact ⟨trade, named, (receipt_eq_ok_some one).mpr ⟨log, listed, hash, index⟩⟩

end Liquidity.Backfill
