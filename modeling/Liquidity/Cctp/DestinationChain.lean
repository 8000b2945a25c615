import Liquidity.Cctp.MintScan

/-!
# The destination chain

A message is received by a call. A call that succeeds logs the mint and then that the
message was received; its nonce is used up by it. Calls are batched into transactions in
any way, with other logs around them.
-/

namespace Liquidity.Cctp

open Receipts (TransactionReceipt)

/-- Logged by the contract that receives messages, for a message. -/
def Emission.IsReceived (transmitter : Address) (emission : Emission) : Prop :=
  emission.address = transmitter ∧ emission.signature = some .messageReceived

instance (transmitter : Address) (emission : Emission) :
    Decidable (emission.IsReceived transmitter) :=
  inferInstanceAs (Decidable (_ ∧ _))

/-- A call that succeeds, with what it logs between the mint and the message. -/
structure ReceiveCall (transmitter : Address) where
  message : List UInt8
  caller : Nat
  sender : Nat
  finalityThresholdExecuted : Nat
  tokenMessenger : Address
  mintRecipient : Nat
  amount : Nat
  mintToken : Nat
  feeCollected : Nat
  between : List Emission
  oneMint : ∀ emission ∈ between, emission.decodeMintAndWithdraw = none
  oneReceived : ∀ emission ∈ between, ¬ emission.IsReceived transmitter

namespace ReceiveCall

variable {transmitter : Address}

def nonce (call : ReceiveCall transmitter) : Nat := (readMessage call.message).nonce

def mintAndWithdraw (call : ReceiveCall transmitter) : Emission where
  address := call.tokenMessenger
  signature := some .mintAndWithdraw
  topics := [call.mintRecipient, call.mintToken]
  data := .mintAndWithdraw call.amount call.feeCollected

def messageReceived (call : ReceiveCall transmitter) : Emission where
  address := transmitter
  signature := some .messageReceived
  topics := [call.caller, call.nonce, call.finalityThresholdExecuted]
  data := .messageReceived (readMessage call.message).sourceDomain call.sender
    (readMessage call.message).messageBody

def emissions (call : ReceiveCall transmitter) : List Emission :=
  call.mintAndWithdraw :: call.between ++ [call.messageReceived]

end ReceiveCall

/-- A part of a transaction: some other log, or a call that receives a message. -/
inductive Step (transmitter : Address) where
  | other (emission : Emission) (foreign : ¬ emission.IsReceived transmitter)
  | receive (call : ReceiveCall transmitter)

def Step.emissions {transmitter : Address} : Step transmitter → List Emission
  | other emission _ => [emission]
  | receive call => call.emissions

def Step.calls {transmitter : Address} : Step transmitter → List (ReceiveCall transmitter)
  | other _ _ => []
  | receive call => [call]

/-- Logs are numbered within their block. -/
def logsOf (hash : TxHash) (emissions : List Emission) (offset : Nat) : List Log :=
  (emissions.zipIdx offset).map fun (emission, index) =>
    { emission with transactionHash := some hash, logIndex := some index }

structure Transaction (transmitter : Address) where
  hash : TxHash
  /-- The transaction did not revert. -/
  status : Bool
  steps : List (Step transmitter)

namespace Transaction

variable {transmitter : Address}

/-- A transaction that reverts has no effect. -/
def effects (transaction : Transaction transmitter) : List (Step transmitter) :=
  if transaction.status then transaction.steps else []

def emissions (transaction : Transaction transmitter) : List Emission :=
  transaction.effects.flatMap Step.emissions

def calls (transaction : Transaction transmitter) : List (ReceiveCall transmitter) :=
  transaction.effects.flatMap Step.calls

def logs (transaction : Transaction transmitter) (offset : Nat) : List Log :=
  logsOf transaction.hash transaction.emissions offset

def receipt (transaction : Transaction transmitter) (block offset : Nat) :
    TransactionReceipt Log where
  transactionHash := transaction.hash
  blockNumber := some block
  status := transaction.status
  logs := transaction.logs offset

end Transaction

abbrev Block (transmitter : Address) := List (Transaction transmitter)

namespace Block

variable {transmitter : Address}

def emissionCount (block : Block transmitter) : Nat :=
  (block.map fun transaction => transaction.emissions.length).sum

def logsFrom : Block transmitter → Nat → List Log
  | [], _ => []
  | transaction :: block, offset =>
      transaction.logs offset ++ logsFrom block (offset + transaction.emissions.length)

def receiptsFrom (number : Nat) : Block transmitter → Nat → List (TransactionReceipt Log)
  | [], _ => []
  | transaction :: block, offset =>
      transaction.receipt number offset ::
        receiptsFrom number block (offset + transaction.emissions.length)

theorem emissionCount_cons (transaction : Transaction transmitter) (block : Block transmitter) :
    emissionCount (transaction :: block) = transaction.emissions.length + block.emissionCount :=
  rfl

theorem logsFrom_append (first second : Block transmitter) (offset : Nat) :
    logsFrom (first ++ second) offset =
      logsFrom first offset ++ logsFrom second (offset + first.emissionCount) := by
  induction first generalizing offset with
  | nil => rfl
  | cons transaction first ih =>
      rw [List.cons_append, logsFrom, logsFrom, ih, List.append_assoc, emissionCount_cons,
        ← Nat.add_assoc]

theorem receiptsFrom_append (number : Nat) (first second : Block transmitter) (offset : Nat) :
    receiptsFrom number (first ++ second) offset =
      receiptsFrom number first offset ++
        receiptsFrom number second (offset + first.emissionCount) := by
  induction first generalizing offset with
  | nil => rfl
  | cons transaction first ih =>
      rw [List.cons_append, receiptsFrom, receiptsFrom, ih, List.cons_append, emissionCount_cons,
        ← Nat.add_assoc]

end Block

def callsOf {transmitter : Address} (blocks : List (Block transmitter)) :
    List (ReceiveCall transmitter) :=
  blocks.flatten.flatMap Transaction.calls

/-- The blocks of the chain, and the messages that are attested. A nonce names one
attested message, and it is used once. -/
structure History (transmitter : Address) where
  blocks : List (Block transmitter)
  genesis : blocks ≠ []
  hashes : (blocks.flatten.map (·.hash)).Nodup
  attested : List UInt8 → Prop
  wellFormed : ∀ message, attested message → messageBodyIndex ≤ message.length
  distinct : ∀ first second, attested first → attested second →
    (readMessage first).nonce = (readMessage second).nonce → first = second
  received : ∀ call ∈ callsOf blocks, attested call.message
  once : ((callsOf blocks).map (·.nonce)).Nodup

namespace History

variable {transmitter : Address}

def latest (history : History transmitter) : Nat := history.blocks.length - 1

def logs (history : History transmitter) (block : Nat) : List Log :=
  Block.logsFrom (history.blocks[block]?.getD []) 0

/-- The true answer to a query. -/
def answer (history : History transmitter) (filter : LogFilter) : List Log :=
  (List.range' filter.fromBlock (filter.toBlock + 1 - filter.fromBlock)).flatMap fun block =>
    (history.logs block).filter filter.accepts

def receipts (history : History transmitter) : List (TransactionReceipt Log) :=
  history.blocks.zipIdx.flatMap fun (block, number) => Block.receiptsFrom number block 0

/-- The nonce is used within the first blocks of the chain. -/
def Used (history : History transmitter) (blocks nonce : Nat) : Prop :=
  ∃ call ∈ callsOf (history.blocks.take blocks), call.nonce = nonce

instance (history : History transmitter) (blocks nonce : Nat) :
    Decidable (history.Used blocks nonce) :=
  inferInstanceAs (Decidable (∃ call ∈ _, _))

/-- A node that has the whole chain, and looks nonces up in its first blocks. -/
def node (history : History transmitter) (blocks : Nat) : Node where
  usedNonces nonce := .ok (if history.Used blocks nonce then 1 else 0)
  getBlockNumber := .ok history.latest
  getLogs filter := .ok (history.answer filter)
  awaitReceipt txHash :=
    match history.receipts.find? fun receipt => receipt.transactionHash = txHash with
    | some receipt => .ok receipt
    | none => .error (.receiptTimeout txHash 0)

end History

/-- A node that answers from the chain. The nonces may be looked up before the chain has
all its blocks; a query for logs is answered if its range is proper. -/
structure Truthful {transmitter : Address} (history : History transmitter) (blocks : Nat)
    (node : Node) : Prop where
  usedNonces : ∀ nonce, ∃ value, node.usedNonces nonce = .ok value ∧
    (value ≠ 0 ↔ history.Used blocks nonce)
  getBlockNumber : node.getBlockNumber = .ok history.latest
  getLogs : ∀ filter : LogFilter, filter.fromBlock ≤ filter.toBlock →
    filter.toBlock ≤ history.latest → node.getLogs filter = .ok (history.answer filter)
  awaitReceipt : ∀ receipt ∈ history.receipts,
    node.awaitReceipt receipt.transactionHash = .ok receipt

theorem Block.hashes_receiptsFrom {transmitter : Address} (number : Nat)
    (block : Block transmitter) (offset : Nat) :
    (block.receiptsFrom number offset).map (·.transactionHash) = block.map (·.hash) := by
  induction block generalizing offset with
  | nil => rfl
  | cons transaction block ih =>
      rw [receiptsFrom, List.map_cons, List.map_cons, ih]
      rfl

theorem find?_eq_of_nodup {α β : Type} [DecidableEq β] {key : α → β} {items : List α}
    (distinct : (items.map key).Nodup) {item : α} (listed : item ∈ items) :
    items.find? (fun other => key other = key item) = some item := by
  induction items with
  | nil => cases listed
  | cons first items ih =>
      obtain ⟨fresh, distinct⟩ := List.nodup_cons.mp distinct
      cases listed with
      | head => simp
      | tail _ listed =>
          have other : key first ≠ key item := fun same =>
            fresh (same ▸ List.mem_map_of_mem listed)
          rw [List.find?_cons_of_neg (by simpa using other)]
          exact ih distinct listed

theorem History.node_truthful {transmitter : Address} (history : History transmitter)
    (blocks : Nat) : Truthful history blocks (history.node blocks) where
  usedNonces nonce := by
    refine ⟨_, rfl, ?_⟩
    by_cases used : history.Used blocks nonce <;> simp [used]
  getBlockNumber := rfl
  getLogs _ _ _ := rfl
  awaitReceipt receipt listed := by
    have hashes : (history.receipts.map (·.transactionHash)).Nodup := by
      have same : history.receipts.map (·.transactionHash) =
          history.blocks.flatten.map (·.hash) := by
        rw [receipts, List.map_flatMap]
        simp only [Block.hashes_receiptsFrom]
        rw [List.map_flatten, List.flatMap_def]
        calc (history.blocks.zipIdx.map fun numbered => numbered.1.map (·.hash)).flatten
            = ((history.blocks.zipIdx.map Prod.fst).map (List.map (·.hash))).flatten := by
              rw [List.map_map]
              rfl
          _ = (history.blocks.map (List.map (·.hash))).flatten := by rw [List.zipIdx_map_fst]
      rw [same]
      exact history.hashes
    rw [node]
    simp only [find?_eq_of_nodup hashes listed]

/-! ## Where a message was received -/

section Logs

variable {transmitter : Address} {nonce offset : Nat} {hash : TxHash}

theorem logsOf_append (first second : List Emission) : logsOf hash (first ++ second) offset =
    logsOf hash first offset ++ logsOf hash second (offset + first.length) := by
  rw [logsOf, List.zipIdx_append, List.map_append]
  rfl

theorem logsOf_cons (emission : Emission) (emissions : List Emission) :
    logsOf hash (emission :: emissions) offset =
      { emission with transactionHash := some hash, logIndex := some offset } ::
        logsOf hash emissions (offset + 1) :=
  rfl

theorem mem_logsOf {emissions : List Emission} {log : Log}
    (listed : log ∈ logsOf hash emissions offset) :
    log.toEmission ∈ emissions ∧
      ∃ index, log.logIndex = some index ∧ offset ≤ index ∧ index < offset + emissions.length := by
  obtain ⟨⟨emission, index⟩, numbered, rfl⟩ := List.mem_map.mp listed
  obtain ⟨low, high, _⟩ := List.mem_zipIdx numbered
  exact ⟨List.fst_mem_of_mem_zipIdx numbered, index, rfl, low, high⟩

/-- A received message is logged by a call. -/
theorem exists_call_of_isReceived {steps : List (Step transmitter)} {emission : Emission}
    (listed : emission ∈ steps.flatMap Step.emissions) (received : emission.IsReceived transmitter) :
    ∃ call ∈ steps.flatMap Step.calls, emission = call.messageReceived := by
  obtain ⟨step, among, listed⟩ := List.mem_flatMap.mp listed
  cases step with
  | other own foreign =>
      rw [List.mem_singleton.mp listed] at received
      exact absurd received foreign
  | receive call =>
      refine ⟨call, List.mem_flatMap.mpr ⟨_, among, List.mem_singleton_self call⟩, ?_⟩
      obtain front | last := List.mem_append.mp listed
      · cases front with
        | head =>
            have signature := received.2
            cases signature
        | tail _ listed => exact absurd received (call.oneReceived emission listed)
      · exact List.mem_singleton.mp last

/-- The logs that say a message with a nonce was received. -/
def receivedLogs (transmitter : Address) (nonce : Nat) (logs : List Log) : List Log :=
  logs.filter fun log => log.address = transmitter && log.signature = some .messageReceived &&
    log.topics[1]? = some nonce

theorem receivedLogs_append (first second : List Log) :
    receivedLogs transmitter nonce (first ++ second) =
      receivedLogs transmitter nonce first ++ receivedLogs transmitter nonce second :=
  List.filter_append ..

theorem receivedLogs_nil {emissions : List Emission}
    (none : ∀ emission ∈ emissions, emission.IsReceived transmitter →
      emission.topics[1]? ≠ some nonce) :
    receivedLogs transmitter nonce (logsOf hash emissions offset) = [] := by
  rw [receivedLogs, List.filter_eq_nil_iff]
  intro log listed accepted
  simp only [Bool.and_eq_true, decide_eq_true_eq] at accepted
  exact none log.toEmission (mem_logsOf listed).1 accepted.1 accepted.2

theorem receivedLogs_nil_of_steps {steps : List (Step transmitter)}
    (unused : ∀ call ∈ steps.flatMap Step.calls, call.nonce ≠ nonce) :
    receivedLogs transmitter nonce (logsOf hash (steps.flatMap Step.emissions) offset) = [] := by
  refine receivedLogs_nil ?_
  intro emission listed received topic
  obtain ⟨call, among, rfl⟩ := exists_call_of_isReceived listed received
  exact unused call among (Option.some.inj topic)

theorem receivedLogs_nil_of_block {block : Block transmitter}
    (unused : ∀ transaction ∈ block, ∀ call ∈ transaction.calls, call.nonce ≠ nonce) :
    receivedLogs transmitter nonce (block.logsFrom offset) = [] := by
  induction block generalizing offset with
  | nil => rfl
  | cons transaction block ih =>
      rw [Block.logsFrom, receivedLogs_append, Transaction.logs,
        Transaction.emissions, receivedLogs_nil_of_steps (unused transaction List.mem_cons_self),
        List.nil_append]
      exact ih fun other listed => unused other (List.mem_cons_of_mem _ listed)

end Logs

/-- Where a call stands: its block, its transaction in that block, and the steps of the
transaction before and after it. -/
structure Location {transmitter : Address} (history : History transmitter)
    (call : ReceiveCall transmitter) where
  number : Nat
  before : Block transmitter
  transaction : Transaction transmitter
  after : Block transmitter
  stepsBefore : List (Step transmitter)
  stepsAfter : List (Step transmitter)
  mined : history.blocks[number]? = some (before ++ transaction :: after)
  status : transaction.status = true
  steps : transaction.steps = stepsBefore ++ .receive call :: stepsAfter

namespace Location

variable {transmitter : Address} {history : History transmitter} {call : ReceiveCall transmitter}

/-- How many logs of the transaction come before those of the call. -/
def ahead (location : Location history call) : List Emission :=
  location.stepsBefore.flatMap Step.emissions

/-- The index of the log that says the message was received. -/
def logIndex (location : Location history call) : Nat :=
  location.before.emissionCount + location.ahead.length + (call.between.length + 1)

theorem effects (location : Location history call) : location.transaction.effects =
    location.stepsBefore ++ .receive call :: location.stepsAfter := by
  rw [Transaction.effects, if_pos location.status, location.steps]

theorem emissions (location : Location history call) : location.transaction.emissions =
    location.ahead ++ (call.mintAndWithdraw :: call.between) ++ call.messageReceived ::
      location.stepsAfter.flatMap Step.emissions := by
  rw [Transaction.emissions, location.effects]
  simp [ahead, Step.emissions, ReceiveCall.emissions]

theorem calls (location : Location history call) : location.transaction.calls =
    location.stepsBefore.flatMap Step.calls ++ call :: location.stepsAfter.flatMap Step.calls := by
  rw [Transaction.calls, location.effects]
  simp [Step.calls]

theorem blocks (location : Location history call) : ∃ first last,
    history.blocks = first ++ (location.before ++ location.transaction :: location.after) :: last ∧
      first.length = location.number := by
  obtain ⟨small, is⟩ := List.getElem?_eq_some_iff.mp location.mined
  refine ⟨history.blocks.take location.number, history.blocks.drop (location.number + 1), ?_, ?_⟩
  · rw [← is, List.cons_getElem_drop_succ, List.take_append_drop]
  · rw [List.length_take]
    omega

/-- No other call has the nonce. -/
theorem alone (location : Location history call) :
    (∀ number block, number ≠ location.number → history.blocks[number]? = some block →
      ∀ transaction ∈ block, ∀ other ∈ transaction.calls, other.nonce ≠ call.nonce) ∧
    (∀ transaction ∈ location.before, ∀ other ∈ transaction.calls, other.nonce ≠ call.nonce) ∧
    (∀ transaction ∈ location.after, ∀ other ∈ transaction.calls, other.nonce ≠ call.nonce) ∧
    (∀ other ∈ location.stepsBefore.flatMap Step.calls, other.nonce ≠ call.nonce) ∧
    ∀ other ∈ location.stepsAfter.flatMap Step.calls, other.nonce ≠ call.nonce := by
  obtain ⟨first, last, blocks, long⟩ := location.blocks
  have split : callsOf history.blocks =
      (first.flatten.flatMap Transaction.calls ++ location.before.flatMap Transaction.calls ++
        location.stepsBefore.flatMap Step.calls) ++ call ::
      (location.stepsAfter.flatMap Step.calls ++ location.after.flatMap Transaction.calls ++
        last.flatten.flatMap Transaction.calls) := by
    rw [blocks, callsOf]
    simp [location.calls]
  have once := history.once
  rw [split, List.map_append, List.map_cons, List.perm_middle.nodup_iff, List.nodup_cons,
    ← List.map_append] at once
  have apart : ∀ other ∈ first.flatten.flatMap Transaction.calls ++
      location.before.flatMap Transaction.calls ++ location.stepsBefore.flatMap Step.calls ++
      (location.stepsAfter.flatMap Step.calls ++ location.after.flatMap Transaction.calls ++
        last.flatten.flatMap Transaction.calls), other.nonce ≠ call.nonce :=
    fun other listed same => once.1 (same ▸ List.mem_map_of_mem listed)
  simp only [List.forall_mem_append] at apart
  obtain ⟨⟨⟨inFirst, inBefore⟩, stepsBefore⟩, ⟨stepsAfter, inAfter⟩, inLast⟩ := apart
  refine ⟨?_, ?_, ?_, stepsBefore, stepsAfter⟩
  · intro number block other mined transaction listed later among
    have either : block ∈ first ∨ block ∈ last := by
      rw [blocks] at mined
      obtain low | high := Nat.lt_or_gt_of_ne other
      · rw [List.getElem?_append_left (by omega)] at mined
        exact .inl (List.mem_of_getElem? mined)
      · obtain ⟨more, rfl⟩ := Nat.exists_eq_add_of_lt high
        rw [List.getElem?_append_right (by omega), long,
          show location.number + more + 1 - location.number = more + 1 by omega,
          List.getElem?_cons_succ] at mined
        exact .inr (List.mem_of_getElem? mined)
    obtain among' | among' := either
    · exact inFirst later (List.mem_flatMap.mpr
        ⟨transaction, List.mem_flatten.mpr ⟨block, among', listed⟩, among⟩)
    · exact inLast later (List.mem_flatMap.mpr
        ⟨transaction, List.mem_flatten.mpr ⟨block, among', listed⟩, among⟩)
  · exact fun transaction listed later among =>
      inBefore later (List.mem_flatMap.mpr ⟨transaction, listed, among⟩)
  · exact fun transaction listed later among =>
      inAfter later (List.mem_flatMap.mpr ⟨transaction, listed, among⟩)

/-- The log that says the message was received. -/
def receivedLog (location : Location history call) : Log :=
  { call.messageReceived with
    transactionHash := some location.transaction.hash, logIndex := some location.logIndex }

theorem receivedLogs_transaction (location : Location history call) :
    receivedLogs transmitter call.nonce
      (location.transaction.logs location.before.emissionCount) = [location.receivedLog] := by
  obtain ⟨_, _, _, stepsBefore, stepsAfter⟩ := location.alone
  have inner : ∀ emission ∈ call.mintAndWithdraw :: call.between,
      ¬ emission.IsReceived transmitter := by
    intro emission listed
    cases listed with
    | head =>
        intro received
        have signature := received.2
        cases signature
    | tail _ listed => exact call.oneReceived emission listed
  rw [Transaction.logs, location.emissions, logsOf_append, logsOf_append, receivedLogs_append,
    receivedLogs_append, ahead, receivedLogs_nil_of_steps stepsBefore, List.nil_append,
    receivedLogs_nil fun emission listed received => absurd received (inner emission listed),
    List.nil_append, logsOf_cons]
  have own : receivedLog location = { call.messageReceived with
      transactionHash := some location.transaction.hash
      logIndex := some (location.before.emissionCount +
        (location.stepsBefore.flatMap Step.emissions ++
          call.mintAndWithdraw :: call.between).length) } := by
    simp [receivedLog, logIndex, ahead, Nat.add_assoc]
  rw [← own]
  have rest : receivedLogs transmitter call.nonce (logsOf location.transaction.hash
      (location.stepsAfter.flatMap Step.emissions) (location.before.emissionCount +
        (location.stepsBefore.flatMap Step.emissions ++
          call.mintAndWithdraw :: call.between).length + 1)) = [] :=
    receivedLogs_nil_of_steps stepsAfter
  rw [receivedLogs] at rest ⊢
  rw [List.filter_cons_of_pos, rest]
  simp [receivedLog, ReceiveCall.messageReceived]

/-- Of all logs of the chain, one says so. -/
theorem receivedLogs_history (location : Location history call) (number : Nat) :
    receivedLogs transmitter call.nonce (history.logs number) =
      if number = location.number then [location.receivedLog] else [] := by
  obtain ⟨elsewhere, before, after, _, _⟩ := location.alone
  by_cases here : number = location.number
  · rw [if_pos here, History.logs, here, location.mined, Option.getD_some, Block.logsFrom_append,
      Block.logsFrom, Nat.zero_add, receivedLogs_append, receivedLogs_append,
      receivedLogs_nil_of_block before, receivedLogs_nil_of_block after,
      location.receivedLogs_transaction]
    rfl
  · rw [if_neg here, History.logs]
    cases mined : history.blocks[number]? with
    | none => rfl
    | some block => exact receivedLogs_nil_of_block (elsewhere number block here mined)

theorem receipt_mem (location : Location history call) :
    location.transaction.receipt location.number location.before.emissionCount ∈
      history.receipts := by
  refine List.mem_flatMap.mpr ⟨(location.before ++ location.transaction :: location.after,
    location.number), ?_, ?_⟩
  · exact List.mem_zipIdx_iff_getElem?.mpr location.mined
  · dsimp only
    rw [Block.receiptsFrom_append, Block.receiptsFrom, Nat.zero_add]
    exact List.mem_append_right _ List.mem_cons_self

theorem number_le_latest (location : Location history call) :
    location.number ≤ history.latest := by
  obtain ⟨small, _⟩ := List.getElem?_eq_some_iff.mp location.mined
  rw [History.latest]
  omega

end Location

/-- Every call of the chain stands somewhere. -/
theorem exists_location {transmitter : Address} {history : History transmitter}
    {call : ReceiveCall transmitter} (listed : call ∈ callsOf history.blocks) :
    Nonempty (Location history call) := by
  obtain ⟨transaction, among, listed⟩ := List.mem_flatMap.mp listed
  obtain ⟨block, mined, among⟩ := List.mem_flatten.mp among
  obtain ⟨number, mined⟩ := List.mem_iff_getElem?.mp mined
  obtain ⟨before, after, rfl⟩ := List.append_of_mem among
  obtain ⟨step, effect, own⟩ := List.mem_flatMap.mp listed
  rw [Transaction.effects] at effect
  split at effect
  case isTrue status =>
      obtain ⟨stepsBefore, stepsAfter, steps⟩ := List.append_of_mem effect
      cases step with
      | other => cases own
      | receive _ =>
          obtain rfl := List.mem_singleton.mp own
          exact ⟨⟨number, before, transaction, after, stepsBefore, stepsAfter, mined, status,
            steps⟩⟩
  case isFalse => cases effect

end Liquidity.Cctp
