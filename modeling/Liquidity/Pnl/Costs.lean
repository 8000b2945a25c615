import Liquidity.Pnl.Report
import Liquidity.Pnl.Sessions
import Mathlib.Data.String.Basic

/-!
# Costs and revenue

Fees of tokenizations and bridges are read from the events that persist them, the
broker's fees, interest and dividends from its account activities. A broker fee
that repeats a tokenization fee is dropped. The costs of a symbol are those that
name it; the summary counts all of them.
-/

namespace Liquidity.Pnl

inductive CostCategory where
  | tokenizationFee
  | cctpFee
  | brokerFee
  | marginInterest
  | dividendIncome
  | cashCredit
  deriving DecidableEq, Repr

inductive AccountingBucket where
  | counterTrade
  | onchainNetting
  | directionalExposure
  | generic
  | dividendRevenue
  deriving DecidableEq, Repr

inductive AccountingEffect where
  | cost
  | revenue
  | none
  deriving DecidableEq, Repr

structure CostEntryInternal where
  category : CostCategory
  accountingBucket : AccountingBucket
  effect : AccountingEffect
  amountUsd : ℚ
  occurredAt : String
  aggregateType : String
  aggregateId : String
  eventRowid : Int
  symbol : Option Symbol
  detail : String
  deriving DecidableEq

inductive CostWarning where
  | unsafeCostSymbol (symbol : Symbol)
  | invalidPayload (rowid : Int)
  | duplicateTokenizationFee (aggregateId : String)
  | unsupportedCostEvent (rowid : Int) (aggregateType : String)
  | canceledActivity (id : String)
  | overlappingBrokerFee (aggregateId : String) (symbol : Symbol) (date : String) (amountUsd : ℚ)
  deriving DecidableEq

inductive CostError where
  | malformedPayload (rowid : Int) (reason : String)
  | invalidFinancialField (rowid : Int) (field : String)
  deriving DecidableEq

/-- A decimal field of a stored payload or an activity. -/
inductive PersistedDecimal where
  | absent
  | decimal (value : ℚ)
  | unreadable
  deriving DecidableEq

def PersistedDecimal.read (field : PersistedDecimal) (rowid : Int) (name : String) :
    Except CostError (Option ℚ) :=
  match field with
  | absent => .ok none
  | decimal value => .ok (some value)
  | unreadable => .error (.invalidFinancialField rowid name)

/-! ## Persisted fees -/

inductive CostAggregate where
  | tokenizedEquityMint
  | usdcRebalance
  | other (aggregateType : String)
  deriving DecidableEq

def CostAggregate.name : CostAggregate → String
  | tokenizedEquityMint => "TokenizedEquityMint"
  | usdcRebalance => "UsdcRebalance"
  | other aggregateType => aggregateType

inductive CostEventType where
  | mintRequested
  | tokensReceived
  | providerCompletionRecovered
  | bridged
  | bridgingCompletionRecovered
  | other
  deriving DecidableEq, Repr

/-- The fields of the record an event is stored under: the symbol of a mint, the
time and the fee of what ends a mint or a bridging. -/
structure CostRecord where
  symbol : Option String := none
  occurredAt : Option String := none
  fee : PersistedDecimal := .absent
  deriving DecidableEq

inductive CostPayload where
  | null
  | unnested
  | nested (record : CostRecord)
  deriving DecidableEq

structure CostEventRow where
  rowid : Int
  aggregateType : CostAggregate
  aggregateId : String
  eventType : CostEventType
  payload : CostPayload
  deriving DecidableEq

def costEntry (row : CostEventRow) (category : CostCategory) (accountingBucket : AccountingBucket)
    (effect : AccountingEffect) (amountUsd : ℚ) (occurredAt detail : String)
    (symbol : Option Symbol) : CostEntryInternal where
  category := category
  accountingBucket := accountingBucket
  effect := effect
  amountUsd := amountUsd
  occurredAt := occurredAt
  aggregateType := row.aggregateType.name
  aggregateId := row.aggregateId
  eventRowid := row.rowid
  symbol := symbol
  detail := detail

/-- What reading the persisted fees collects. -/
structure CostReplay where
  entries : List CostEntryInternal := []
  symbolsByMintAggregate : AList (fun _ : String => Symbol) := ∅
  countedTokenizationFeeAggregates : Finset String := ∅
  warnings : List CostWarning := []

/-- A requested mint names its symbol. -/
def CostReplay.mintRequested (replay : CostReplay) (row : CostEventRow) : CostReplay :=
  match row.payload with
  | .nested ⟨some symbol, _, _⟩ =>
      if isSafeSymbol symbol then
        { replay with
          symbolsByMintAggregate := replay.symbolsByMintAggregate.insert row.aggregateId symbol }
      else { replay with warnings := replay.warnings ++ [.unsafeCostSymbol symbol] }
  | _ => replay

def parseTokenizationTerminal (row : CostEventRow) (symbol : Option Symbol) :
    Except CostError (Option CostEntryInternal) :=
  match row.payload with
  | .nested terminal => do
      let fees ← terminal.fee.read row.rowid "fees"
      let some occurredAt := terminal.occurredAt
        | throw (.malformedPayload row.rowid "missing tokenization fee timestamp")
      let some fees := fees | throw (.malformedPayload row.rowid "missing tokenization fees")
      if fees = 0 then return none
      else
        return some (costEntry row .tokenizationFee .generic .cost fees occurredAt
          "Alpaca tokenization fee reported by tokenization provider" symbol)
  | _ => throw (.malformedPayload row.rowid "missing tokenization terminal payload")

def parseTokenizedEquityMintCostEvent (replay : CostReplay) (row : CostEventRow) :
    Except CostError (Option CostEntryInternal × CostReplay) :=
  match row.eventType with
  | .mintRequested => .ok (none, replay.mintRequested row)
  | .tokensReceived | .providerCompletionRecovered => do
      let symbol := replay.symbolsByMintAggregate.lookup row.aggregateId
      let entry ← parseTokenizationTerminal row symbol
      return (entry, replay)
  | _ => .ok (none, replay)

def parseUsdcRebalanceCostEvent (row : CostEventRow) :
    Except CostError (Option CostEntryInternal) :=
  match row.eventType with
  | .bridged | .bridgingCompletionRecovered =>
      match row.payload with
      | .nested bridged => do
          match ← bridged.fee.read row.rowid "fee_collected", bridged.occurredAt with
          | some feeCollected, some occurredAt =>
              if feeCollected = 0 then return none
              else
                return some (costEntry row .cctpFee .generic .cost feeCollected occurredAt
                  "CCTP fee_collected from bridge mint" none)
          | _, _ =>
              throw (.malformedPayload row.rowid "missing CCTP fee_collected or timestamp")
      | _ => throw (.malformedPayload row.rowid "missing CCTP bridge payload")
  | _ => .ok none

/-- Only the first fee of a mint counts. -/
def CostReplay.countTokenizationFee (replay : CostReplay) (row : CostEventRow)
    (entry : CostEntryInternal) : CostReplay :=
  if row.aggregateId ∈ replay.countedTokenizationFeeAggregates then
    { replay with warnings := replay.warnings ++ [.duplicateTokenizationFee row.aggregateId] }
  else
    { replay with
      countedTokenizationFeeAggregates :=
        insert row.aggregateId replay.countedTokenizationFeeAggregates
      entries := replay.entries ++ [entry] }

def CostReplay.applyRow (replay : CostReplay) (row : CostEventRow) :
    Except CostError CostReplay :=
  if row.payload = .null then
    .ok { replay with warnings := replay.warnings ++ [.invalidPayload row.rowid] }
  else
    match row.aggregateType with
    | .tokenizedEquityMint => do
        match ← parseTokenizedEquityMintCostEvent replay row with
        | (some entry, replay) => return replay.countTokenizationFee row entry
        | (none, replay) => return replay
    | .usdcRebalance => do
        match ← parseUsdcRebalanceCostEvent row with
        | some entry => return { replay with entries := replay.entries ++ [entry] }
        | none => return replay
    | .other aggregateType =>
        .ok { replay with
          warnings := replay.warnings ++ [.unsupportedCostEvent row.rowid aggregateType] }

def buildCostEntries (rows : List CostEventRow) : Except CostError CostReplay :=
  (rows.insertionSort fun first second => first.rowid ≤ second.rowid).foldlM CostReplay.applyRow {}

/-! ## Broker activities -/

structure AccountActivity where
  id : String
  activityType : String
  activitySubType : Option String := none
  /-- As `YYYY-MM-DD`. -/
  date : Option String := none
  createdAt : Option Time := none
  netAmount : PersistedDecimal := .absent
  symbol : Option String := none
  qty : Option String := none
  perShareAmount : Option String := none
  orderId : Option String := none
  transactionTime : Option Time := none
  description : Option String := none
  status : Option String := none
  currency : Option String := none
  deriving DecidableEq

def feeActivityTypes : List String := ["FEE", "PTC"]

def interestActivityTypes : List String := ["INT"]

def dividendActivityTypes : List String :=
  ["DIV", "DIVCGL", "DIVCGS", "DIVNRA", "DIVROC", "DIVTXEX", "CGD", "CIL"]

def cashCreditActivityTypes : List String := ["CSD"]

def activityTimestamp (calendar : Calendar) (activity : AccountActivity) : Option String :=
  match activity.transactionTime, activity.date with
  | some transactionTime, _ => some (calendar.toRfc3339 transactionTime)
  | none, some date => some date
  | none, none => activity.createdAt.map calendar.toRfc3339

/-- Money that leaves the account is a cost. -/
def signedEffect (signedAmount : ℚ) : AccountingEffect :=
  if signedAmount < 0 then .cost else .revenue

def classifyActivity (activityType : String) (signedAmount : ℚ) :
    Option (CostCategory × AccountingBucket × AccountingEffect) :=
  if activityType ∈ feeActivityTypes then
    some (.brokerFee, .counterTrade, signedEffect signedAmount)
  else if activityType ∈ interestActivityTypes then
    some (.marginInterest, .generic, signedEffect signedAmount)
  else if activityType ∈ dividendActivityTypes then
    some (.dividendIncome, if signedAmount < 0 then .generic else .dividendRevenue,
      signedEffect signedAmount)
  else if activityType ∈ cashCreditActivityTypes then
    some (.cashCredit, .generic, signedEffect signedAmount)
  else none

def activityDetail (activity : AccountActivity) : String :=
  "; ".intercalate (
    ["Alpaca account activity " ++ activity.activityType] ++
    (activity.activitySubType.map ("subtype " ++ ·)).toList ++
    (activity.qty.map ("qty " ++ ·)).toList ++
    (activity.perShareAmount.map ("per-share " ++ ·)).toList ++
    (activity.orderId.map ("order " ++ ·)).toList ++
    (activity.currency.map ("currency " ++ ·)).toList ++
    activity.description.toList)

/-- Activities are numbered downwards from -1. -/
def alpacaActivityRowid (index : Nat) : Except CostError Int :=
  if index < 2 ^ 63 then .ok (-1 - index)
  else .error (.malformedPayload (-2 ^ 63) "activity index cannot be represented as i64")

def parseAlpacaNetAmount (activity : AccountActivity) (rowid : Int) : Except CostError ℚ := do
  match ← activity.netAmount.read rowid "net_amount" with
  | some netAmount => return netAmount
  | none => throw (.malformedPayload rowid "missing Alpaca net_amount")

def alpacaActivitySymbol (activity : AccountActivity) (rowid : Int) :
    Except CostError (Option Symbol) :=
  match activity.symbol with
  | none => .ok none
  | some symbol =>
      if symbol.isEmpty then .ok none
      else if isSafeSymbol symbol then .ok (some symbol)
      else .error (.malformedPayload rowid "unsafe Alpaca account activity symbol")

/-- A corrected row counts like an executed one. -/
def countsActivity (activity : AccountActivity) (rowid : Int) : Except CostError Bool :=
  match activity.status with
  | none => .ok true
  | some status =>
      if status = "executed" ∨ status = "correct" then .ok true
      else if status = "canceled" then .ok false
      else .error (.malformedPayload rowid "unsupported Alpaca account activity status")

def activityEntry (calendar : Calendar) (activity : AccountActivity) (index : Nat) :
    Except CostError (List CostEntryInternal × List CostWarning) := do
  let eventRowid ← alpacaActivityRowid index
  let some occurredAt := activityTimestamp calendar activity
    | throw (.malformedPayload eventRowid "missing Alpaca timestamp/date")
  let signedAmount ← parseAlpacaNetAmount activity eventRowid
  if signedAmount = 0 then return ([], [])
  if activity.currency.any (fun currency => currency.toUpper ≠ "USD") then
    throw (.malformedPayload eventRowid "unsupported Alpaca account activity currency")
  if !(← countsActivity activity eventRowid) then return ([], [.canceledActivity activity.id])
  let some (category, accountingBucket, effect) :=
      classifyActivity activity.activityType signedAmount
    | throw (.malformedPayload eventRowid "unsupported Alpaca account activity type")
  let symbol ← alpacaActivitySymbol activity eventRowid
  return ([{
    category := category
    accountingBucket := accountingBucket
    effect := effect
    amountUsd := |signedAmount|
    occurredAt := occurredAt
    aggregateType := "AlpacaAccountActivity"
    aggregateId := activity.id
    eventRowid := eventRowid
    symbol := symbol
    detail := activityDetail activity }], [])

/-- Activities are taken in the order of their times, as texts. -/
def activitySortKey (calendar : Calendar) (activity : AccountActivity) : String ×ₗ String :=
  toLex ((activityTimestamp calendar activity).getD "", activity.id)

def buildAlpacaActivityCostEntries (calendar : Calendar) (activities : List AccountActivity) :
    Except CostError (List CostEntryInternal × List CostWarning) := do
  let sorted := activities.insertionSort fun first second =>
    activitySortKey calendar first ≤ activitySortKey calendar second
  let built ← sorted.zipIdx.mapM fun (activity, index) => activityEntry calendar activity index
  return (built.flatMap (·.1), built.flatMap (·.2))

/-! ## Fees listed twice -/

/-- What a fee is matched by. -/
structure OverlapKey where
  symbol : Symbol
  date : String
  amountUsd : ℚ
  deriving DecidableEq

def feeOverlapKey (calendar : Calendar) (category : CostCategory) (entry : CostEntryInternal) :
    Option OverlapKey :=
  if entry.category ≠ category ∨ entry.effect ≠ .cost then none
  else
    entry.symbol.map fun symbol =>
      ⟨symbol, dateKey calendar entry.occurredAt, entry.amountUsd⟩

def tokenizationFeeOverlapKey (calendar : Calendar) : CostEntryInternal → Option OverlapKey :=
  feeOverlapKey calendar .tokenizationFee

def alpacaFeeOverlapKey (calendar : Calendar) : CostEntryInternal → Option OverlapKey :=
  feeOverlapKey calendar .brokerFee

def tokenizationFeeKeys (calendar : Calendar) (tokenizationEntries : List CostEntryInternal) :
    Finset OverlapKey :=
  (tokenizationEntries.filterMap (tokenizationFeeOverlapKey calendar)).toFinset

/-- What is kept of the broker's entries, and a warning for each that is not. -/
def removeTokenizationFeeOverlaps (calendar : Calendar)
    (tokenizationEntries alpacaEntries : List CostEntryInternal) :
    List CostEntryInternal × List CostWarning :=
  let keys := tokenizationFeeKeys calendar tokenizationEntries
  (alpacaEntries.filter fun entry =>
      (alpacaFeeOverlapKey calendar entry).all fun key => key ∉ keys,
    alpacaEntries.filterMap fun entry =>
      match alpacaFeeOverlapKey calendar entry with
      | none => none
      | some key =>
          if key ∈ keys then
            some (.overlappingBrokerFee entry.aggregateId key.symbol key.date key.amountUsd)
          else none)

/-! ## Totals -/

structure CostSummaryAcc where
  counterTradeCostsUsd : ℚ := 0
  onchainNettingCostsUsd : ℚ := 0
  directionalExposureCostsUsd : ℚ := 0
  genericCostsUsd : ℚ := 0
  genericRevenueUsd : ℚ := 0
  dividendRevenueUsd : ℚ := 0
  tokenizationFeesUsd : ℚ := 0
  cctpFeesUsd : ℚ := 0
  brokerFeesUsd : ℚ := 0
  marginInterestUsd : ℚ := 0
  brokerFeeEntryCount : Nat := 0
  marginInterestEntryCount : Nat := 0
  dividendActivityEntryCount : Nat := 0
  deriving DecidableEq

def signedCategoryAmount (effect : AccountingEffect) (amount : ℚ) : ℚ :=
  match effect with
  | .cost => -amount
  | .revenue => amount
  | .none => 0

def addBucket (summary : CostSummaryAcc) (entry : CostEntryInternal) : CostSummaryAcc :=
  let amount := entry.amountUsd
  match entry.effect, entry.accountingBucket with
  | .cost, .counterTrade =>
      { summary with counterTradeCostsUsd := summary.counterTradeCostsUsd + amount }
  | .cost, .onchainNetting =>
      { summary with onchainNettingCostsUsd := summary.onchainNettingCostsUsd + amount }
  | .cost, .directionalExposure =>
      { summary with directionalExposureCostsUsd := summary.directionalExposureCostsUsd + amount }
  | .cost, _ => { summary with genericCostsUsd := summary.genericCostsUsd + amount }
  | .revenue, .dividendRevenue =>
      { summary with dividendRevenueUsd := summary.dividendRevenueUsd + amount }
  | .revenue, _ => { summary with genericRevenueUsd := summary.genericRevenueUsd + amount }
  | .none, _ => summary

def addCategory (summary : CostSummaryAcc) (entry : CostEntryInternal) : CostSummaryAcc :=
  let signedAmount := signedCategoryAmount entry.effect entry.amountUsd
  match entry.category with
  | .tokenizationFee =>
      { summary with tokenizationFeesUsd := summary.tokenizationFeesUsd + signedAmount }
  | .cctpFee => { summary with cctpFeesUsd := summary.cctpFeesUsd + signedAmount }
  | .brokerFee =>
      { summary with
        brokerFeesUsd := summary.brokerFeesUsd + signedAmount
        brokerFeeEntryCount := summary.brokerFeeEntryCount + 1 }
  | .marginInterest =>
      { summary with
        marginInterestUsd := summary.marginInterestUsd + signedAmount
        marginInterestEntryCount := summary.marginInterestEntryCount + 1 }
  | .dividendIncome =>
      { summary with dividendActivityEntryCount := summary.dividendActivityEntryCount + 1 }
  | .cashCredit => summary

def addCost (summary : CostSummaryAcc) (entry : CostEntryInternal) : CostSummaryAcc :=
  addCategory (addBucket summary entry) entry

def totalTrackedCosts (summary : CostSummaryAcc) : ℚ :=
  summary.counterTradeCostsUsd + summary.onchainNettingCostsUsd +
    summary.directionalExposureCostsUsd + summary.genericCostsUsd

def totalTrackedRevenue (summary : CostSummaryAcc) : ℚ :=
  summary.dividendRevenueUsd + summary.genericRevenueUsd

structure PnlCostSummary where
  totalTrackedCostsUsd : ℚ
  totalTrackedRevenueUsd : ℚ
  counterTradeCostsUsd : ℚ
  onchainNettingCostsUsd : ℚ
  directionalExposureCostsUsd : ℚ
  genericCostsUsd : ℚ
  dividendRevenueUsd : ℚ
  tokenizationFeesUsd : ℚ
  cctpFeesUsd : ℚ
  brokerFeesUsd : ℚ
  marginInterestUsd : ℚ
  costEntryCount : Nat
  deriving DecidableEq

def costSummaryToDto (summary : CostSummaryAcc) (costEntryCount : Nat) : PnlCostSummary where
  totalTrackedCostsUsd := totalTrackedCosts summary
  totalTrackedRevenueUsd := totalTrackedRevenue summary
  counterTradeCostsUsd := summary.counterTradeCostsUsd
  onchainNettingCostsUsd := summary.onchainNettingCostsUsd
  directionalExposureCostsUsd := summary.directionalExposureCostsUsd
  genericCostsUsd := summary.genericCostsUsd
  dividendRevenueUsd := summary.dividendRevenueUsd
  tokenizationFeesUsd := |summary.tokenizationFeesUsd|
  cctpFeesUsd := |summary.cctpFeesUsd|
  brokerFeesUsd := |summary.brokerFeesUsd|
  marginInterestUsd := |summary.marginInterestUsd|
  costEntryCount := costEntryCount

def summarizeCostEntries (entries : List CostEntryInternal) : PnlCostSummary :=
  costSummaryToDto (entries.foldl addCost {}) entries.length

/-- The amounts of the entries with an effect. -/
def amountOf (effect : AccountingEffect) (entries : List CostEntryInternal) : ℚ :=
  ((entries.filter fun entry => entry.effect = effect).map (·.amountUsd)).sum

@[simp] theorem amountOf_nil (effect : AccountingEffect) : amountOf effect [] = 0 := rfl

theorem amountOf_cons (effect : AccountingEffect) (entry : CostEntryInternal)
    (entries : List CostEntryInternal) :
    amountOf effect (entry :: entries) =
      (if entry.effect = effect then entry.amountUsd else 0) + amountOf effect entries := by
  by_cases same : entry.effect = effect <;> simp [amountOf, same]

@[simp] theorem amountOf_append (effect : AccountingEffect)
    (first second : List CostEntryInternal) :
    amountOf effect (first ++ second) = amountOf effect first + amountOf effect second := by
  simp [amountOf]

theorem totalTrackedCosts_addCost (summary : CostSummaryAcc) (entry : CostEntryInternal) :
    totalTrackedCosts (addCost summary entry) =
      totalTrackedCosts summary + if entry.effect = .cost then entry.amountUsd else 0 := by
  have category : totalTrackedCosts (addCost summary entry) =
      totalTrackedCosts (addBucket summary entry) := by
    unfold addCost addCategory
    cases entry.category <;> rfl
  rw [category]
  unfold addBucket
  cases entry.effect <;> cases entry.accountingBucket <;> simp [totalTrackedCosts] <;> ring

theorem totalTrackedRevenue_addCost (summary : CostSummaryAcc) (entry : CostEntryInternal) :
    totalTrackedRevenue (addCost summary entry) =
      totalTrackedRevenue summary + if entry.effect = .revenue then entry.amountUsd else 0 := by
  have category : totalTrackedRevenue (addCost summary entry) =
      totalTrackedRevenue (addBucket summary entry) := by
    unfold addCost addCategory
    cases entry.category <;> rfl
  rw [category]
  unfold addBucket
  cases entry.effect <;> cases entry.accountingBucket <;> simp [totalTrackedRevenue] <;> ring

theorem foldl_addCost (entries : List CostEntryInternal) (summary : CostSummaryAcc) :
    totalTrackedCosts (entries.foldl addCost summary) =
        totalTrackedCosts summary + amountOf .cost entries ∧
      totalTrackedRevenue (entries.foldl addCost summary) =
        totalTrackedRevenue summary + amountOf .revenue entries := by
  induction entries generalizing summary with
  | nil => simp
  | cons entry entries ih =>
      obtain ⟨costs, revenue⟩ := ih (addCost summary entry)
      constructor
      · rw [List.foldl_cons, costs, totalTrackedCosts_addCost, amountOf_cons, add_assoc]
      · rw [List.foldl_cons, revenue, totalTrackedRevenue_addCost, amountOf_cons, add_assoc]

/-- Whatever its bucket, an entry counts by its effect. -/
theorem summarizeCostEntries_costs (entries : List CostEntryInternal) :
    (summarizeCostEntries entries).totalTrackedCostsUsd = amountOf .cost entries := by
  show totalTrackedCosts (entries.foldl addCost {}) = _
  rw [(foldl_addCost entries {}).1]
  simp [totalTrackedCosts]

theorem summarizeCostEntries_revenue (entries : List CostEntryInternal) :
    (summarizeCostEntries entries).totalTrackedRevenueUsd = amountOf .revenue entries := by
  show totalTrackedRevenue (entries.foldl addCost {}) = _
  rw [(foldl_addCost entries {}).2]
  simp [totalTrackedRevenue]

end Liquidity.Pnl
