import Liquidity.Clearing.AfterClear
import Liquidity.FixedDecimal
import Liquidity.OnChainTrade
import Liquidity.Tokenization
import Mathlib.Data.List.DropRight

/-!
# The trade of a clear

The amounts of a clear are those of an input and an output token. Which of the two is
the equity is told by their symbols. Amounts are cut down to the units of the tokens,
the fill is priced, and a fill without equity is no trade.
-/

namespace Liquidity

namespace Text

def trim (text : String) : String :=
  String.ofList ((text.toList.dropWhile isWhiteSpace).rdropWhile isWhiteSpace)

def stripPrefix (start text : String) : Option String :=
  if start.toList.isPrefixOf text.toList then some (String.ofList (text.toList.drop start.length))
  else none

end Text

namespace Clearing

/-! ## Symbols -/

/-- Vault shares that wrap a tokenized equity, by the ticker. -/
structure TokenizedSymbol where
  symbol : Symbol
  deriving DecidableEq, Repr

/-- A symbol is trimmed and must not be empty. -/
def symbolNew (text : String) : Except OnChainError Symbol :=
  if (Text.trim text).isEmpty then .error .emptySymbol else .ok (Text.trim text)

def TokenizedSymbol.parse (input : String) : Except OnChainError TokenizedSymbol :=
  match Text.stripPrefix "wt" input with
  | none => .error (.validation (.notTokenizedEquity input))
  | some stripped => (symbolNew stripped).map .mk

/-- The equity, if the other side is cash. -/
def equityAgainst (cash equity : String) : Option TokenizedSymbol :=
  if cash = "USDC" then (TokenizedSymbol.parse equity).toOption else none

/-- Whoever takes in cash has sold. -/
def determineTradeDetails (onchainInputSymbol onchainOutputSymbol : String) :
    Except OnChainError (TokenizedSymbol × Direction) :=
  match equityAgainst onchainInputSymbol onchainOutputSymbol with
  | some equity => .ok (equity, .sell)
  | none =>
      match equityAgainst onchainOutputSymbol onchainInputSymbol with
      | some equity => .ok (equity, .buy)
      | none =>
          .error (.validation
            (.invalidSymbolConfiguration onchainInputSymbol onchainOutputSymbol))

/-! ## Amounts -/

structure TradeDetails where
  equitySymbol : TokenizedSymbol
  equityToken : Address
  usdcToken : Address
  equityAmount : FractionalShares
  usdcAmount : Usdc
  direction : Direction
  deriving DecidableEq

def refuse (invalid : Prop) [Decidable invalid] (error : TradeValidationError) :
    Except OnChainError Unit :=
  if invalid then .error (.validation error) else .ok ()

def usdcNew (value : ℚ) : Except OnChainError Usdc := do
  refuse (value < 0) (.negativeUsdc value)
  return value

def truncateToDp [FloatFormat] (value : ℚ) (decimalPlaces : Nat) : Except OnChainError ℚ :=
  (truncateToDecimals value decimalPlaces).mapError fun error => .validation (.float error)

/-- One side of a fill. -/
structure Leg where
  token : Address
  amount : ℚ
  deriving DecidableEq

/-- The equity and the cash of a fill. -/
def sides (inputSymbol outputSymbol : String) (input output : Leg) :
    Except OnChainError (Leg × Leg) :=
  let isWrappedEquity := fun symbol => (TokenizedSymbol.parse symbol).isOk
  if inputSymbol = "USDC" ∧ isWrappedEquity outputSymbol then .ok (output, input)
  else if outputSymbol = "USDC" ∧ isWrappedEquity inputSymbol then .ok (input, output)
  else .error (.validation (.invalidSymbolConfiguration inputSymbol outputSymbol))

def tryFromIo [FloatFormat] (inputSymbol : String) (input : Leg) (outputSymbol : String)
    (output : Leg) : Except OnChainError TradeDetails := do
  let (equitySymbol, direction) ← determineTradeDetails inputSymbol outputSymbol
  let (equity, usdc) ← sides inputSymbol outputSymbol input output
  refuse (equity.amount < 0) (.negativeShares equity.amount)
  refuse (usdc.amount < 0) (.negativeUsdc usdc.amount)
  let equityAmount ← truncateToDp equity.amount 18
  let usdcTruncated ← truncateToDp usdc.amount 6
  let usdcAmount ← usdcNew usdcTruncated
  return {
    equitySymbol, equityToken := equity.token, usdcToken := usdc.token
    equityAmount, usdcAmount, direction }

/-! ## The priced trade -/

structure TradeMetadata where
  txHash : TxHash
  logIndex : Nat
  gasUsed : Option Nat
  effectiveGasPrice : Option Nat
  blockNumber : Option Nat
  logTimestamp : Option Nat
  deriving DecidableEq, Repr

structure OnchainTrade where
  txHash : TxHash
  logIndex : Nat
  symbol : TokenizedSymbol
  equityToken : Address
  amount : FractionalShares
  direction : Direction
  price : Usdc
  blockNumber : Option Nat
  blockTimestamp : Option Time
  gasUsed : Option Nat
  effectiveGasPrice : Option Nat
  pythPrice : Option PythPrice
  deriving DecidableEq

abbrev PythFeedIds := Symbol → Option FeedId

def i64Max : Nat := 2 ^ 63 - 1

/-- The last second of the year 262142, the last that a timestamp can name. -/
def lastTimestamp : Nat := 8210266876799

def dateTimeFromTimestamp (secs : Nat) : Option Time :=
  if secs ≤ lastTimestamp then some secs else none

def timestampFromSecs (timestampSecs : Nat) : Except OnChainError (Option Time) :=
  if timestampSecs ≤ i64Max then .ok (dateTimeFromTimestamp timestampSecs)
  else .error (.intConversion timestampSecs)

def resolveBlockTimestamp (node : Node) (logTimestamp blockNumber : Option Nat) :
    Except OnChainError (Option Time) :=
  match logTimestamp, blockNumber with
  | some timestampSecs, _ => timestampFromSecs timestampSecs
  | none, none => .ok none
  | none, some blockNumber => do
      match ← asked (node.getBlockByNumber blockNumber) with
      | none => return none
      | some timestamp => timestampFromSecs timestamp

def rawPriceToPythPrice (price : Price) : Option PythPrice :=
  if price.publishTime ≤ i64Max then
    (dateTimeFromTimestamp price.publishTime).map fun publishTime =>
      { value := toString price.price, expo := price.expo
        conf := toString price.conf, publishTime }
  else none

/-- Whatever is missing or fails, the trade goes without. -/
def enrichWithPythPrice (node : Node) (pythFeedIds : PythFeedIds) (baseSymbol : Symbol)
    (blockNumber : Option Nat) : Option PythPrice := do
  let feedId ← pythFeedIds baseSymbol
  let blockNumber ← blockNumber
  let price ← (node.getPriceUnsafe feedId blockNumber).toOption
  rawPriceToPythPrice price

def finalizeOnchainTrade [FloatFormat] (node : Node) (pythFeedIds : PythFeedIds)
    (tradeDetails : TradeDetails) (metadata : TradeMetadata) :
    Except OnChainError (Option OnchainTrade) :=
  if tradeDetails.equityAmount = 0 then .ok none
  else do
    let pricePerShareUsdc ←
      (Decimal.div tradeDetails.usdcAmount tradeDetails.equityAmount).mapError .floatConversion
    refuse (pricePerShareUsdc < 0 ∨ pricePerShareUsdc = 0) (.nonPositivePrice pricePerShareUsdc)
    let blockTimestamp ← resolveBlockTimestamp node metadata.logTimestamp metadata.blockNumber
    let pythPrice := enrichWithPythPrice node pythFeedIds tradeDetails.equitySymbol.symbol
      metadata.blockNumber
    let price ← usdcNew pricePerShareUsdc
    return some {
      txHash := metadata.txHash, logIndex := metadata.logIndex
      symbol := tradeDetails.equitySymbol, equityToken := tradeDetails.equityToken
      amount := tradeDetails.equityAmount, direction := tradeDetails.direction, price
      blockNumber := metadata.blockNumber, blockTimestamp, gasUsed := metadata.gasUsed
      effectiveGasPrice := metadata.effectiveGasPrice, pythPrice }

/-! ## From the events -/

structure OrderFill where
  inputIndex : Nat
  inputAmount : ℚ
  outputIndex : Nat
  outputAmount : ℚ
  deriving DecidableEq

structure ReceiptMetadata where
  gasUsed : Option Nat
  effectiveGasPrice : Option Nat
  blockNumber : Option Nat
  deriving DecidableEq, Repr

/-- Nothing is known without a receipt. -/
def fetchReceiptMetadata (node : Node) (txHash : TxHash) : Except OnChainError ReceiptMetadata := do
  match ← asked (node.getTransactionReceipt txHash) with
  | some receipt =>
      return ⟨some receipt.gasUsed, some receipt.effectiveGasPrice, receipt.blockNumber⟩
  | none => return ⟨none, none, none⟩

def tryFromOrderAndFillDetails [FloatFormat] (node : Node) (pythFeedIds : PythFeedIds)
    (order : OrderV4) (fill : OrderFill) (log : Log) :
    Except OnChainError (Option OnchainTrade) := do
  let txHash ← required log.transactionHash .noTxHash
  let logIndex ← required log.logIndex .noLogIndex
  let receipt ← fetchReceiptMetadata node txHash
  let input ← required order.validInputs[fill.inputIndex]? (.noInputAtIndex fill.inputIndex)
  let output ← required order.validOutputs[fill.outputIndex]? (.noOutputAtIndex fill.outputIndex)
  let inputSymbol ← (node.symbol input.token).mapError .evm
  let outputSymbol ← (node.symbol output.token).mapError .evm
  let tradeDetails ← tryFromIo inputSymbol ⟨input.token, fill.inputAmount⟩
    outputSymbol ⟨output.token, fill.outputAmount⟩
  finalizeOnchainTrade node pythFeedIds tradeDetails
    { txHash, logIndex, gasUsed := receipt.gasUsed
      effectiveGasPrice := receipt.effectiveGasPrice
      blockNumber := log.blockNumber.or receipt.blockNumber
      logTimestamp := log.blockTimestamp }

def usizeTryFrom (index : Nat) : Except OnChainError Nat :=
  if index < 2 ^ 64 then .ok index else .error (.invalidIndex index)

/-- Only clears of the owner's orders are trades. If both are, it is alice's side. -/
def tryFromClearV3 [FloatFormat] (node : Node) (pythFeedIds : PythFeedIds) (orderbook : Address)
    (event : ClearV3) (log : Log) (orderOwner : Address) :
    Except OnChainError (Option OnchainTrade) :=
  if ¬ (event.alice.owner = orderOwner ∨ event.bob.owner = orderOwner) then .ok none
  else do
    let change ← fetchAfterClearEvent node orderbook log
    if event.alice.owner = orderOwner then
      let inputIndex ← usizeTryFrom event.clearConfig.aliceInputIOIndex
      let outputIndex ← usizeTryFrom event.clearConfig.aliceOutputIOIndex
      tryFromOrderAndFillDetails node pythFeedIds event.alice
        ⟨inputIndex, change.aliceInput, outputIndex, change.aliceOutput⟩ log
    else
      let inputIndex ← usizeTryFrom event.clearConfig.bobInputIOIndex
      let outputIndex ← usizeTryFrom event.clearConfig.bobOutputIOIndex
      tryFromOrderAndFillDetails node pythFeedIds event.bob
        ⟨inputIndex, change.bobInput, outputIndex, change.bobOutput⟩ log

/-! ## What a trade says of its fill -/

/-- The equity and the cash of an order that bought or sold. -/
def legs (input output : Leg) : Direction → Leg × Leg
  | .buy => (input, output)
  | .sell => (output, input)

theorem equityAgainst_eq_some {cash text : String} {equity : TokenizedSymbol} :
    equityAgainst cash text = some equity ↔
      cash = "USDC" ∧ TokenizedSymbol.parse text = .ok equity := by
  unfold equityAgainst
  by_cases isCash : cash = "USDC"
  · cases parsed : TokenizedSymbol.parse text <;> simp [isCash, Except.toOption]
  · simp [isCash]

theorem isOk_iff {text : String} :
    (TokenizedSymbol.parse text).isOk ↔ ∃ equity, TokenizedSymbol.parse text = .ok equity := by
  cases TokenizedSymbol.parse text <;> simp [Except.isOk, Except.toBool]

/-- The cash is what is called USDC, and the equity is on the other side. -/
theorem sides_of_determineTradeDetails {inputSymbol outputSymbol : String} (input output : Leg)
    {equitySymbol : TokenizedSymbol} {direction : Direction}
    (determined : determineTradeDetails inputSymbol outputSymbol =
      .ok (equitySymbol, direction)) :
    sides inputSymbol outputSymbol input output = .ok (legs input output direction) ∧
      (direction = .sell → inputSymbol = "USDC" ∧
        TokenizedSymbol.parse outputSymbol = .ok equitySymbol) ∧
      (direction = .buy → outputSymbol = "USDC" ∧
        TokenizedSymbol.parse inputSymbol = .ok equitySymbol) := by
  unfold determineTradeDetails at determined
  split at determined
  case h_1 equity sold =>
      cases determined
      obtain ⟨cash, parsed⟩ := equityAgainst_eq_some.mp sold
      refine ⟨?_, fun _ => ⟨cash, parsed⟩, by simp⟩
      exact if_pos ⟨cash, isOk_iff.mpr ⟨_, parsed⟩⟩
  case h_2 unsold =>
      split at determined
      case h_2 => cases determined
      case h_1 equity bought =>
          cases determined
          obtain ⟨cash, parsed⟩ := equityAgainst_eq_some.mp bought
          refine ⟨?_, by simp, fun _ => ⟨cash, parsed⟩⟩
          have other : ¬ (inputSymbol = "USDC" ∧ (TokenizedSymbol.parse outputSymbol).isOk) := by
            rintro ⟨cash, wrapped⟩
            obtain ⟨equity, parsed⟩ := isOk_iff.mp wrapped
            rw [equityAgainst_eq_some.mpr ⟨cash, parsed⟩] at unsold
            cases unsold
          exact (if_neg other).trans (if_pos ⟨cash, isOk_iff.mpr ⟨_, parsed⟩⟩)

theorem usdcNew_eq_ok {value amount : ℚ} (checked : usdcNew value = .ok amount) :
    amount = value := by
  obtain ⟨_, -, same⟩ := bind_eq_ok.mp checked
  cases same
  rfl

theorem required_eq_ok {α : Type} {field : Option α} {missing : TradeValidationError} {a : α} :
    required field missing = .ok a ↔ field = some a := by
  cases field <;> simp [required]

section Books

variable [FloatFormat] {node : Node} {order : OrderV4} {fill : OrderFill} {log : Log}
variable {pythFeedIds : PythFeedIds} {trade : OnchainTrade}

/-- The trade is of this equity, in whole units of its token, at the price that was paid
for a share in whole units of USDC. -/
structure OnchainTrade.Values (trade : OnchainTrade) (equity cash : Leg) : Prop where
  token : trade.equityToken = equity.token
  amount : truncateToDp equity.amount 18 = .ok trade.amount
  price : ∃ paid, truncateToDp cash.amount 6 = .ok paid ∧
    Decimal.div paid trade.amount = .ok trade.price

/-- The trade has the amounts of the fill, each on the side that the symbols of the tokens
say. -/
def OnchainTrade.Books (trade : OnchainTrade) (node : Node) (order : OrderV4)
    (fill : OrderFill) : Prop :=
  ∃ input output, order.validInputs[fill.inputIndex]? = some input ∧
    order.validOutputs[fill.outputIndex]? = some output ∧
    let (equity, cash) := legs ⟨input.token, fill.inputAmount⟩ ⟨output.token, fill.outputAmount⟩
      trade.direction
    trade.Values equity cash ∧ node.symbol cash.token = .ok "USDC" ∧
      ∃ text, node.symbol equity.token = .ok text ∧
        TokenizedSymbol.parse text = .ok trade.symbol

/-- What is read off an input and an output. -/
structure TradeDetails.Reads (details : TradeDetails) (equity cash : Leg) : Prop where
  token : details.equityToken = equity.token
  amount : truncateToDp equity.amount 18 = .ok details.equityAmount
  paid : truncateToDp cash.amount 6 = .ok details.usdcAmount

theorem tryFromIo_spec {inputSymbol outputSymbol : String} {input output : Leg}
    {details : TradeDetails}
    (built : tryFromIo inputSymbol input outputSymbol output = .ok details) :
    determineTradeDetails inputSymbol outputSymbol =
        .ok (details.equitySymbol, details.direction) ∧
      details.Reads (legs input output details.direction).1
        (legs input output details.direction).2 := by
  obtain ⟨⟨equitySymbol, direction⟩, determined, built⟩ := bind_eq_ok.mp built
  obtain ⟨⟨equity, usdc⟩, sided, built⟩ := bind_eq_ok.mp built
  obtain ⟨_, -, built⟩ := bind_eq_ok.mp built
  obtain ⟨_, -, built⟩ := bind_eq_ok.mp built
  obtain ⟨equityAmount, amount, built⟩ := bind_eq_ok.mp built
  obtain ⟨usdcTruncated, truncated, built⟩ := bind_eq_ok.mp built
  obtain ⟨usdcAmount, checked, built⟩ := bind_eq_ok.mp built
  cases built
  cases usdcNew_eq_ok checked
  have known := (sides_of_determineTradeDetails input output determined).1
  rw [sided] at known
  have same : (equity, usdc) = legs input output direction := Except.ok.inj known
  refine ⟨determined, ?_⟩
  rw [← same]
  exact ⟨rfl, amount, truncated⟩

theorem finalizeOnchainTrade_spec {details : TradeDetails} {metadata : TradeMetadata}
    (built : finalizeOnchainTrade node pythFeedIds details metadata = .ok (some trade)) :
    trade.symbol = details.equitySymbol ∧ trade.direction = details.direction ∧
      trade.equityToken = details.equityToken ∧ trade.amount = details.equityAmount ∧
      Decimal.div details.usdcAmount details.equityAmount = .ok trade.price := by
  unfold finalizeOnchainTrade at built
  split at built
  case isTrue => cases built
  case isFalse =>
      obtain ⟨pricePerShareUsdc, divided, built⟩ := bind_eq_ok.mp built
      obtain ⟨_, -, built⟩ := bind_eq_ok.mp built
      obtain ⟨blockTimestamp, -, built⟩ := bind_eq_ok.mp built
      obtain ⟨price, checked, built⟩ := bind_eq_ok.mp built
      cases built
      cases usdcNew_eq_ok checked
      exact ⟨rfl, rfl, rfl, rfl, mapError_eq_ok.mp divided⟩

/-- A trade that is built has the amounts of its fill. -/
theorem books_of_tryFromOrderAndFillDetails
    (built : tryFromOrderAndFillDetails node pythFeedIds order fill log = .ok (some trade)) :
    trade.Books node order fill := by
  obtain ⟨txHash, -, built⟩ := bind_eq_ok.mp built
  obtain ⟨logIndex, -, built⟩ := bind_eq_ok.mp built
  obtain ⟨receipt, -, built⟩ := bind_eq_ok.mp built
  obtain ⟨input, takes, built⟩ := bind_eq_ok.mp built
  obtain ⟨output, gives, built⟩ := bind_eq_ok.mp built
  obtain ⟨inputSymbol, inputNamed, built⟩ := bind_eq_ok.mp built
  obtain ⟨outputSymbol, outputNamed, built⟩ := bind_eq_ok.mp built
  obtain ⟨details, read, built⟩ := bind_eq_ok.mp built
  obtain ⟨determined, reads⟩ := tryFromIo_spec read
  obtain ⟨symbol, direction, token, amount, price⟩ := finalizeOnchainTrade_spec built
  rw [← symbol, ← direction] at determined
  rw [← direction] at reads
  have named := (sides_of_determineTradeDetails ⟨input.token, fill.inputAmount⟩
    ⟨output.token, fill.outputAmount⟩ determined).2
  have values : trade.Values
      (legs ⟨input.token, fill.inputAmount⟩ ⟨output.token, fill.outputAmount⟩ trade.direction).1
      (legs ⟨input.token, fill.inputAmount⟩ ⟨output.token, fill.outputAmount⟩
        trade.direction).2 := by
    refine ⟨token.trans reads.token, ?_, details.usdcAmount, reads.paid, ?_⟩
    · rw [amount]
      exact reads.amount
    · rw [amount]
      exact price
  refine ⟨input, output, required_eq_ok.mp takes, required_eq_ok.mp gives, values, ?_⟩
  have inputNamed := mapError_eq_ok.mp inputNamed
  have outputNamed := mapError_eq_ok.mp outputNamed
  cases side : trade.direction with
  | buy =>
      obtain ⟨cash, parsed⟩ := named.2 side
      exact ⟨cash ▸ outputNamed, _, inputNamed, parsed⟩
  | sell =>
      obtain ⟨cash, parsed⟩ := named.1 side
      exact ⟨cash ▸ inputNamed, _, outputNamed, parsed⟩

end Books

/-- The order of the owner in a clear, and what it took and gave. -/
def ownerSide (event : ClearV3) (orderOwner : Address) (change : ClearStateChangeV2) :
    OrderV4 × OrderFill :=
  if event.alice.owner = orderOwner then
    (event.alice, {
      inputIndex := event.clearConfig.aliceInputIOIndex, inputAmount := change.aliceInput
      outputIndex := event.clearConfig.aliceOutputIOIndex, outputAmount := change.aliceOutput })
  else
    (event.bob, {
      inputIndex := event.clearConfig.bobInputIOIndex, inputAmount := change.bobInput
      outputIndex := event.clearConfig.bobOutputIOIndex, outputAmount := change.bobOutput })

theorem usizeTryFrom_eq_ok {index converted : Nat} (converts : usizeTryFrom index = .ok converted) :
    converted = index := by
  unfold usizeTryFrom at converts
  split at converts <;> cases converts
  rfl

/-- A trade has the amounts of the owner's side of the change that was fetched. -/
theorem books_of_tryFromClearV3 [FloatFormat] {node : Node} {pythFeedIds : PythFeedIds}
    {orderbook : Address} {event : ClearV3} {log : Log} {orderOwner : Address}
    {trade : OnchainTrade} {change : ClearStateChangeV2}
    (fetched : fetchAfterClearEvent node orderbook log = .ok change)
    (built : tryFromClearV3 node pythFeedIds orderbook event log orderOwner = .ok (some trade)) :
    trade.Books node (ownerSide event orderOwner change).1
      (ownerSide event orderOwner change).2 := by
  unfold tryFromClearV3 at built
  split at built
  case isTrue => cases built
  case isFalse =>
      obtain ⟨same, read, built⟩ := bind_eq_ok.mp built
      rw [fetched] at read
      cases read
      split at built
      case isTrue alice =>
          obtain ⟨inputIndex, input, built⟩ := bind_eq_ok.mp built
          obtain ⟨outputIndex, output, built⟩ := bind_eq_ok.mp built
          cases usizeTryFrom_eq_ok input
          cases usizeTryFrom_eq_ok output
          rw [ownerSide, if_pos alice]
          exact books_of_tryFromOrderAndFillDetails built
      case isFalse bob =>
          obtain ⟨inputIndex, input, built⟩ := bind_eq_ok.mp built
          obtain ⟨outputIndex, output, built⟩ := bind_eq_ok.mp built
          cases usizeTryFrom_eq_ok input
          cases usizeTryFrom_eq_ok output
          rw [ownerSide, if_neg bob]
          exact books_of_tryFromOrderAndFillDetails built

end Clearing

end Liquidity
