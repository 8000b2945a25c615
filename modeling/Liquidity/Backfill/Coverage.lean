import Liquidity.Backfill.World

/-!
# No block is skipped

The checkpoint of an orderbook stands for all blocks from its deployment on. A
range that is enqueued starts right after what some checkpoint stood for, and
what a checkpoint stands for never shrinks. So when the range is scanned, however
late, its end may become the checkpoint.

The one thing this rests on is that a range is scanned for the orderbook whose
checkpoint it starts at. A job does not say which one that was.
-/

namespace Liquidity.Backfill

open Process

/-! ## Trades of a block -/

/-- A log of an order that was cleared or taken. -/
structure OrderFilled (evm : EvmCtx) (logs : List Log) (emitted : EmittedOnChain) (log : Log)
    (event : RaindexTradeEvent) : Prop where
  listed : log ∈ logs
  address : log.address = evm.orderbook
  stands : log.removed = false
  decodes : orderTrade log = some (event, log)
  complete : EmittedOnChain.fromLog event log = .ok emitted

/-- A settlement of the inventory. -/
structure InventorySettled (evm : EvmCtx) (logs : List Log) (emitted : EmittedOnChain) (log : Log)
    (txHash : TxHash) (deposit : OperatorDeposit) (withdraw : OperatorWithdraw) : Prop where
  settles : Settlement evm.botOperator (logs.filter fun log => log.address = evm.inventoryAddress)
    txHash deposit withdraw log
  complete : EmittedOnChain.fromLog (.inventoryTrade { deposit, withdraw }) log = .ok emitted

/-- A trade that some logs report. -/
def Reports (evm : EvmCtx) (logs : List Log) (emitted : EmittedOnChain) : Prop :=
  (∃ log event, OrderFilled evm logs emitted log event) ∨
    ∃ log txHash deposit withdraw, InventorySettled evm logs emitted log txHash deposit withdraw

namespace World

/-- The block lies in a batch that was scanned for the orderbook. -/
def Scanned (world : World) (orderbook : Address) (block : Nat) : Prop :=
  ∃ scan ∈ world.scanned, scan.evm.orderbook = orderbook ∧ scan.batchStart ≤ block ∧
    block ≤ scan.batchEnd

/-- Every trade of the block was enqueued. -/
def Accounted (world : World) (chain : Chain) (evm : EvmCtx) (block : Nat) : Prop :=
  ∀ emitted, Reports evm (chain.logs block) emitted → emitted ∈ world.accounting

/-- What was scanned stays scanned, and what was enqueued stays enqueued. -/
structure Grows (before after : World) : Prop where
  scanned : ∀ scan ∈ before.scanned, scan ∈ after.scanned
  accounting : ∀ trade ∈ before.accounting, trade ∈ after.accounting

theorem Grows.refl (world : World) : Grows world world := ⟨fun _ => id, fun _ => id⟩

theorem Grows.trans {first second third : World} (one : Grows first second)
    (two : Grows second third) : Grows first third :=
  ⟨fun scan listed => two.scanned scan (one.scanned scan listed),
    fun trade listed => two.accounting trade (one.accounting trade listed)⟩

variable {before after : World}

theorem Scanned.grows {orderbook : Address} {block : Nat} (scanned : before.Scanned orderbook block)
    (grows : Grows before after) : after.Scanned orderbook block := by
  obtain ⟨scan, listed, rest⟩ := scanned
  exact ⟨scan, grows.scanned scan listed, rest⟩

theorem Accounted.grows {chain : Chain} {evm : EvmCtx} {block : Nat}
    (accounted : before.Accounted chain evm block) (grows : Grows before after) :
    after.Accounted chain evm block :=
  fun emitted reports => grows.accounting emitted (accounted emitted reports)

end World

/-! ## A truthful answer covers its blocks -/

section Answer

variable {chain : Chain} {evm : EvmCtx}

theorem Chain.mem_answer {filter : Filter} {log : Log} {block : Nat}
    (after : filter.fromBlock ≤ block) (upTo : block ≤ filter.toBlock)
    (listed : log ∈ chain.logs block) (accepts : filter.accepts log = true) :
    log ∈ chain.answer filter := by
  refine List.mem_flatMap.mpr ⟨block, ?_, List.mem_filter.mpr ⟨listed, accepts⟩⟩
  exact List.mem_range'_1.mpr ⟨after, by omega⟩

/-- If only one element of a list contributes, its contribution is all. -/
theorem flatMap_eq_of_unique {α β : Type} {f : α → List β} {a : α} {list : List α}
    (member : a ∈ list) (nodup : list.Nodup) (others : ∀ b ∈ list, b ≠ a → f b = []) :
    list.flatMap f = f a := by
  induction list with
  | nil => cases member
  | cons head tail ih =>
      obtain ⟨fresh, nodupTail⟩ := List.nodup_cons.mp nodup
      rw [List.flatMap_cons]
      rcases List.mem_cons.mp member with rfl | inTail
      · have rest : tail.flatMap f = [] := by
          refine List.flatMap_eq_nil_iff.mpr fun b listed => others b (by simp [listed]) ?_
          rintro rfl
          exact fresh listed
        rw [rest, List.append_nil]
      · have here : f head = [] := by
          refine others head (by simp) ?_
          rintro rfl
          exact fresh inTail
        rw [here, List.nil_append]
        exact ih inTail nodupTail fun b listed => others b (by simp [listed])

/-- A kind of leg that is recognised by a topic and carries the hash of its
transaction. -/
structure Recognises {β : Type} (leg : Log → Option (TxHash × β)) (topic : Topic) : Prop where
  topic : ∀ log entry, leg log = some entry → log.topic0 = some topic
  hash : ∀ log txHash entry, leg log = some (txHash, entry) → log.transactionHash = some txHash

theorem recognises_deposit (botOperator : Address) :
    Recognises (depositLeg botOperator) .operatorDeposit :=
  ⟨fun _ _ reports => (inventoryLeg_spec reports).1, fun _ _ _ reports => (inventoryLeg_spec reports).2⟩

theorem recognises_withdraw (botOperator : Address) :
    Recognises (withdrawLeg botOperator) .operatorWithdraw := by
  refine ⟨fun log entry reports => ?_, fun log txHash entry reports => ?_⟩
  · obtain ⟨_, found, -⟩ := Option.map_eq_some_iff.mp reports
    exact (inventoryLeg_spec found).1
  · obtain ⟨_, found, same⟩ := Option.map_eq_some_iff.mp reports
    cases same
    exact (inventoryLeg_spec found).2

section Legs

variable {β : Type} {leg : Log → Option (TxHash × β)} {topic : Topic} {txHash : TxHash}

theorem mem_legsOf {logs : List Log} {entry : β} :
    entry ∈ legsOf leg txHash logs ↔ ∃ log ∈ logs, leg log = some (txHash, entry) := by
  simp only [legsOf, List.mem_filterMap, Option.bind_eq_some_iff]
  constructor
  · rintro ⟨log, listed, ⟨other, found⟩, reports, same⟩
    simp only [Option.ite_none_right_eq_some, Option.some.injEq] at same
    obtain ⟨rfl, rfl⟩ := same
    exact ⟨log, listed, reports⟩
  · rintro ⟨log, listed, reports⟩
    exact ⟨log, listed, (txHash, entry), reports, by simp⟩

/-- The topics of a filter do not matter to a leg whose topic is among them. -/
theorem legsOf_accepts (recognises : Recognises leg topic) {filter : Filter}
    (asked : topic ∈ filter.topics) (logs : List Log) :
    legsOf leg txHash (logs.filter filter.accepts) =
      legsOf leg txHash (logs.filter fun log => log.address = filter.address) := by
  rw [legsOf, legsOf, List.filterMap_filter, List.filterMap_filter]
  refine List.filterMap_congr fun log _ => ?_
  cases reports : leg log with
  | none => simp
  | some entry =>
      have named := recognises.topic log entry reports
      simp [Filter.accepts, named, asked]

/-- The legs of a transaction are all in its block. -/
theorem legsOf_answer (recognises : Recognises leg topic) {filter : Filter} {block : Nat}
    (after : filter.fromBlock ≤ block) (upTo : block ≤ filter.toBlock)
    {log : Log} (listed : log ∈ chain.logs block) (hash : log.transactionHash = some txHash) :
    legsOf leg txHash (chain.answer filter) =
      legsOf leg txHash ((chain.logs block).filter filter.accepts) := by
  rw [Chain.answer, legsOf, List.filterMap_flatMap]
  refine flatMap_eq_of_unique ?_ ?_ ?_
  · exact List.mem_range'_1.mpr ⟨after, by omega⟩
  · exact List.nodup_range'
  · intro other _ apart
    refine List.eq_nil_iff_forall_not_mem.mpr fun entry found => ?_
    obtain ⟨log', listed', reports⟩ := mem_legsOf.mp found
    exact apart (chain.inOneBlock (List.mem_filter.mp listed').1 listed
      (recognises.hash log' txHash entry reports) hash)

end Legs

/-- A trade of a block is among those of a batch around it. -/
theorem Reports.mem_tradeEvents {batchStart batchEnd block : Nat} (after : batchStart ≤ block)
    (upTo : block ≤ batchEnd) {emitted : EmittedOnChain}
    (reports : Reports evm (chain.logs block) emitted) :
    emitted ∈ tradeEvents evm.botOperator (chain.answer (clearFilter evm batchStart batchEnd))
      (chain.answer (takeFilter evm batchStart batchEnd))
      (chain.answer (inventoryFilter evm batchStart batchEnd)) := by
  rcases reports with ⟨log, event, filled⟩ | ⟨log, txHash, deposit, withdraw, settled⟩
  · refine order_mem_tradeEvents ?_ filled.stands filled.decodes filled.complete
    have topic : log.topic0 = some .clearV3 ∨ log.topic0 = some .takeOrderV3 := by
      have decodes := filled.decodes
      unfold orderTrade Log.decodeClearV3 Log.decodeTakeOrderV3 at decodes
      grind
    rcases topic with clear | take
    · exact .inl (Chain.mem_answer after upTo filled.listed
        (by simp [Filter.accepts, clearFilter, filled.address, clear]))
    · exact .inr (Chain.mem_answer after upTo filled.listed
        (by simp [Filter.accepts, takeFilter, filled.address, take]))
  · obtain ⟨source, listed, found⟩ : ∃ source ∈ (chain.logs block).filter fun log =>
        log.address = evm.inventoryAddress,
        depositLeg evm.botOperator source = some (txHash, deposit) :=
      mem_legsOf.mp (by simp [settled.settles.deposits])
    have inBlock := (List.mem_filter.mp listed).1
    have hash := (recognises_deposit evm.botOperator).hash source txHash deposit found
    have settles : Settlement evm.botOperator (chain.answer (inventoryFilter evm batchStart batchEnd))
        txHash deposit withdraw log := by
      refine ⟨?_, ?_, settled.settles.operator⟩
      · rw [legsOf_answer (recognises_deposit _) after upTo inBlock hash,
          legsOf_accepts (recognises_deposit _) (by simp [inventoryFilter])]
        exact settled.settles.deposits
      · rw [legsOf_answer (recognises_withdraw _) after upTo inBlock hash,
          legsOf_accepts (recognises_withdraw _) (by simp [inventoryFilter])]
        exact settled.settles.withdraws
    exact settles.mem_tradeEvents settled.complete

end Answer

end Liquidity.Backfill
