import Liquidity.Clearing.Trade
import Mathlib.Data.List.Pairwise
import Mathlib.Data.List.Perm.Subperm

/-!
# A clear and its own state change

In a block every clear is followed at once by its AfterClearV2. A node may leave any
of these out of its answer, but the receipts it gives are complete. A clear gets its
own state change unless the answer has a later one of the transaction and not its
own: the receipt is looked at only if the answer has none.
-/

namespace Liquidity.Clearing

/-- The logs of a block, in which nothing comes between a clear and its state change. -/
structure Block (orderbook : Address) where
  number : Nat
  logs : List Log
  numbered : ∀ log ∈ logs, log.blockNumber = some number
  hashed : ∀ log ∈ logs, log.transactionHash.isSome
  indexed : ∀ log ∈ logs, log.logIndex.isSome
  increasing : logs.Pairwise fun log later => log.place < later.place
  followed : ∀ clear ∈ logs, clear.Emits orderbook .clearV3 →
    ∃ own ∈ logs, own.Emits orderbook .afterClearV2 ∧ own.afterClear.isSome ∧
      own.transactionHash = clear.transactionHash ∧
      own.logIndex = clear.logIndex.map (· + 1)

variable {orderbook : Address}

/-- `own` is what was emitted for `clear`. -/
structure Block.Clears (block : Block orderbook) (clear own : Log) (change : ClearStateChangeV2) :
    Prop where
  clear_mem : clear ∈ block.logs
  isClear : clear.Emits orderbook .clearV3
  own_mem : own ∈ block.logs
  isAfterClear : own.Emits orderbook .afterClearV2
  change : own.afterClear = some change
  transaction : own.transactionHash = clear.transactionHash
  next : own.logIndex = clear.logIndex.map (· + 1)

/-- A node that may leave out state changes of the block, and nothing of a receipt. -/
structure Node.Serves (node : Node) (block : Block orderbook) : Prop where
  logs : ∃ answer, node.getLogs ⟨block.number, orderbook, .afterClearV2⟩ = .ok answer ∧
    answer.Subperm (block.logs.filter fun log => log.Emits orderbook .afterClearV2)
  receipts : ∀ txHash, ∃ receipt, node.getTransactionReceipt txHash = .ok (some receipt) ∧
    receipt.logs.Perm (block.logs.filter fun log => log.transactionHash = some txHash)

/-- The answer of the node has the log. -/
def Node.Lists (node : Node) (block : Block orderbook) (log : Log) : Prop :=
  ∃ answer, node.getLogs ⟨block.number, orderbook, .afterClearV2⟩ = .ok answer ∧ log ∈ answer

theorem lists_iff {node : Node} {block : Block orderbook} {answer : List Log} {log : Log}
    (answered : node.getLogs ⟨block.number, orderbook, .afterClearV2⟩ = .ok answer) :
    node.Lists block log ↔ log ∈ answer := by
  constructor
  · rintro ⟨other, same, among⟩
    rw [answered] at same
    cases same
    exact among
  · intro among
    exact ⟨answer, answered, among⟩

/-- A later log of the same transaction. -/
def Log.Follows (later clear : Log) : Prop :=
  later.transactionHash = clear.transactionHash ∧ clear.place < later.place

/-- The answer has the state change of the clear, or none of a later one. -/
def Node.Covers (node : Node) (block : Block orderbook) (clear own : Log) : Prop :=
  node.Lists block own ∨ ∀ later, node.Lists block later → ¬ later.Follows clear

/-! ## Places in a block -/

section Places

variable {block : Block orderbook} {clear own : Log} {change : ClearStateChangeV2}

theorem Block.place_injective (block : Block orderbook) {log other : Log} (among : log ∈ block.logs)
    (listed : other ∈ block.logs) (same : log.place = other.place) : log = other := by
  by_contra different
  have symmetric : Std.Symm fun first second : Log => first.place ≠ second.place :=
    ⟨fun _ _ unlike => unlike.symm⟩
  have apart : block.logs.Pairwise fun first second => first.place ≠ second.place :=
    block.increasing.imp ne_of_lt
  exact apart.forall among listed different same

theorem Block.Clears.places (clears : block.Clears clear own change) :
    ∃ index : Nat, clear.place = index ∧ own.place = (index + 1 : Nat) := by
  obtain ⟨index, known⟩ := Option.isSome_iff_exists.mp (block.indexed clear clears.clear_mem)
  have after := clears.next
  rw [known] at after
  exact ⟨index, Log.place_eq known, Log.place_eq after⟩

theorem Block.Clears.follows (clears : block.Clears clear own change) : own.Follows clear := by
  obtain ⟨index, place, after⟩ := clears.places
  refine ⟨clears.transaction, ?_⟩
  rw [place, after]
  exact WithBot.coe_lt_coe.mpr (Nat.lt_succ_self index)

/-- Nothing of the block is between. -/
theorem Block.Clears.place_le (clears : block.Clears clear own change) {later : Log}
    (behind : clear.place < later.place) : own.place ≤ later.place := by
  obtain ⟨index, place, after⟩ := clears.places
  rw [place] at behind
  rw [after]
  cases known : later.logIndex with
  | none =>
      rw [Log.place, known] at behind
      exact absurd behind not_lt_bot
  | some other =>
      rw [Log.place_eq known] at behind ⊢
      exact WithBot.coe_le_coe.mpr (WithBot.coe_lt_coe.mp behind)

end Places

/-! ## What is found -/

theorem minByLogIndex_eq_none {logs : List Log} : minByLogIndex logs = none ↔ logs = [] :=
  List.argmin_eq_none

theorem mem_of_minByLogIndex {logs : List Log} {least : Log}
    (found : minByLogIndex logs = some least) : least ∈ logs :=
  List.argmin_mem found

theorem minByLogIndex_le {logs : List Log} {least other : Log}
    (found : minByLogIndex logs = some least) (among : other ∈ logs) : least.place ≤ other.place :=
  List.le_of_mem_argmin among found

/-- The candidates in an answer are what follows the clear. -/
theorem mem_candidates {answer : List Log} {clear later : Log} :
    (later ∈ answer.filter fun log =>
        log.transactionHash = clear.transactionHash ∧ clear.place < log.place) ↔
      later ∈ answer ∧ later.Follows clear := by
  rw [List.mem_filter, decide_eq_true_eq, Log.Follows]

theorem laterInBlock_eq_none {answer : List Log} {clear : Log} :
    laterInBlock clear answer = none ↔ ∀ later ∈ answer, ¬ later.Follows clear := by
  rw [laterInBlock, minByLogIndex_eq_none, List.eq_nil_iff_forall_not_mem]
  simp only [mem_candidates, not_and]

section Found

variable {block : Block orderbook} {clear own : Log} {change : ClearStateChangeV2}
  (clears : block.Clears clear own change)
include clears

/-- Among logs of the block that come after the clear, its own is the nearest. -/
theorem minByLogIndex_eq_own {logs : List Log} (among : own ∈ logs)
    (within : ∀ log ∈ logs, log ∈ block.logs ∧ clear.place < log.place) :
    minByLogIndex logs = some own := by
  cases found : minByLogIndex logs with
  | none =>
      rw [minByLogIndex_eq_none.mp found] at among
      cases among
  | some least =>
      obtain ⟨listed, behind⟩ := within least (mem_of_minByLogIndex found)
      have place := le_antisymm (minByLogIndex_le found among) (clears.place_le behind)
      rw [block.place_injective listed clears.own_mem place]

theorem laterInReceipt_eq_own {logs : List Log} {index : Nat} (known : clear.logIndex = some index)
    {txHash : TxHash} (transaction : clear.transactionHash = some txHash)
    (complete : logs.Perm (block.logs.filter fun log => log.transactionHash = some txHash)) :
    laterInReceipt orderbook index logs = some own := by
  have place := Log.place_eq known
  have after : own.logIndex = some (index + 1) := by
    rw [clears.next, known]
    rfl
  refine minByLogIndex_eq_own clears ?_ ?_
  · have same : own.transactionHash = some txHash := clears.transaction.trans transaction
    have listed : own ∈ logs :=
      complete.mem_iff.mpr (List.mem_filter.mpr ⟨clears.own_mem, by simpa using same⟩)
    exact List.mem_filter.mpr ⟨listed, by simp [clears.isAfterClear, after]⟩
  · intro log among
    obtain ⟨listed, later⟩ := List.mem_filter.mp among
    refine ⟨List.mem_of_mem_filter (complete.mem_iff.mp listed), ?_⟩
    cases found : log.logIndex with
    | none => simp [found] at later
    | some other =>
        have less : index < other := by
          simp only [found, Option.any_some, Bool.decide_and, Bool.and_eq_true,
            decide_eq_true_eq] at later
          exact later.2
        rw [place, Log.place_eq found]
        exact WithBot.coe_lt_coe.mpr less

variable {node : Node} (serves : node.Serves block)
include serves

/-- Any later state change in the answer is taken; without one, its own is found. -/
theorem findAfterClear_eq {answer : List Log}
    (answered : node.getLogs ⟨block.number, orderbook, .afterClearV2⟩ = .ok answer) :
    findAfterClear node orderbook clear = .ok ((laterInBlock clear answer).getD own) := by
  obtain ⟨index, known⟩ := Option.isSome_iff_exists.mp (block.indexed clear clears.clear_mem)
  obtain ⟨txHash, transaction⟩ :=
    Option.isSome_iff_exists.mp (block.hashed clear clears.clear_mem)
  obtain ⟨receipt, received, complete⟩ := serves.receipts txHash
  have numbered := block.numbered clear clears.clear_mem
  have fallback := laterInReceipt_eq_own clears known transaction complete
  cases found : laterInBlock clear answer with
  | some later =>
      simp [findAfterClear, required, asked, numbered, transaction, known, answered, found,
        Except.mapError, bind, Except.bind, pure, Except.pure]
  | none =>
      simp [findAfterClear, required, asked, numbered, transaction, known, answered, found,
        received, fallback, Except.mapError, bind, Except.bind, pure, Except.pure]

/-- It is its own exactly when the answer covers the clear. -/
theorem findAfterClear_eq_own_iff :
    findAfterClear node orderbook clear = .ok own ↔ node.Covers block clear own := by
  obtain ⟨answer, answered, partly⟩ := serves.logs
  have lists (log : Log) : node.Lists block log ↔ log ∈ answer := lists_iff answered
  have within : ∀ log ∈ answer, log ∈ block.logs := fun log among =>
    List.mem_of_mem_filter (partly.subset among)
  rw [findAfterClear_eq clears serves answered, Node.Covers]
  simp only [lists, Except.ok.injEq]
  constructor
  · intro selected
    cases found : laterInBlock clear answer with
    | none => exact .inr (laterInBlock_eq_none.mp found)
    | some later =>
        rw [found, Option.getD_some] at selected
        have among := (mem_candidates.mp (mem_of_minByLogIndex found)).1
        exact .inl (selected ▸ among)
  · rintro (among | nothing)
    · have found : laterInBlock clear answer = some own := by
        refine minByLogIndex_eq_own clears (mem_candidates.mpr ⟨among, clears.follows⟩) ?_
        intro log listed
        obtain ⟨among', follows⟩ := mem_candidates.mp listed
        exact ⟨within log among', follows.2⟩
      rw [found, Option.getD_some]
    · rw [laterInBlock_eq_none.mpr nothing, Option.getD_none]

theorem fetchAfterClearEvent_of_found {found : Log}
    (selected : findAfterClear node orderbook clear = .ok found) :
    fetchAfterClearEvent node orderbook clear = .ok change ↔ found.afterClear = some change := by
  obtain ⟨answer, answered, partly⟩ := serves.logs
  have emits : found.Emits orderbook .afterClearV2 := by
    rw [findAfterClear_eq clears serves answered] at selected
    cases later : laterInBlock clear answer with
    | none =>
        rw [later] at selected
        cases selected
        exact clears.isAfterClear
    | some listed =>
        rw [later] at selected
        cases selected
        have among := (mem_candidates.mp (mem_of_minByLogIndex later)).1
        exact of_decide_eq_true (List.mem_filter.mp (partly.subset among)).2
  simp only [fetchAfterClearEvent, selected, bind, Except.bind, Log.decodeAfterClearV2, emits.2]
  cases found.afterClear with
  | none => simp
  | some decoded => simp

/-- What is fetched is its own state change, unless the node left that out and the
nearest it did list says something else. -/
theorem fetchAfterClearEvent_iff :
    fetchAfterClearEvent node orderbook clear = .ok change ↔
      node.Covers block clear own ∨
        ∃ nearest, node.Lists block nearest ∧ nearest.Follows clear ∧
          (∀ later, node.Lists block later → later.Follows clear →
            nearest.place ≤ later.place) ∧
          nearest.afterClear = some change := by
  obtain ⟨answer, answered, partly⟩ := serves.logs
  have lists (log : Log) : node.Lists block log ↔ log ∈ answer := lists_iff answered
  have within : ∀ log ∈ answer, log ∈ block.logs := fun log among =>
    List.mem_of_mem_filter (partly.subset among)
  have selected := findAfterClear_eq clears serves answered
  rw [fetchAfterClearEvent_of_found clears serves selected]
  simp only [lists]
  cases found : laterInBlock clear answer with
  | none =>
      have covered : node.Covers block clear own := by
        right
        intro later listed
        exact laterInBlock_eq_none.mp found later ((lists later).mp listed)
      constructor
      · intro _
        exact .inl covered
      · intro _
        exact clears.change
  | some nearest =>
      obtain ⟨among, follows⟩ := mem_candidates.mp (mem_of_minByLogIndex found)
      have least : ∀ later ∈ answer, later.Follows clear → nearest.place ≤ later.place :=
        fun later listed behind => minByLogIndex_le found (mem_candidates.mpr ⟨listed, behind⟩)
      constructor
      · intro same
        exact .inr ⟨nearest, among, follows, least, same⟩
      · rintro (covered | ⟨other, listed, behind, first, same⟩)
        · rw [← findAfterClear_eq_own_iff clears serves, selected, found] at covered
          rw [Except.ok.inj covered]
          exact clears.change
        · have place := le_antisymm (least other listed behind) (first nearest among follows)
          rw [Option.getD_some,
            block.place_injective (within nearest among) (within other listed) place]
          exact same

end Found

/-! ## Every clear of a block -/

/-- Each clear is accounted with what was emitted for it. Every lookup may be
answered differently. -/
structure PricedByOwnChange [FloatFormat] (block : Block orderbook) (nodes : Log → Node) : Prop where
  found : ∀ clear own change, block.Clears clear own change →
    findAfterClear (nodes clear) orderbook clear = .ok own ∧
      fetchAfterClearEvent (nodes clear) orderbook clear = .ok change
  apart : ∀ clear own change other otherOwn otherChange, block.Clears clear own change →
    block.Clears other otherOwn otherChange → clear ≠ other →
      findAfterClear (nodes clear) orderbook clear ≠ findAfterClear (nodes other) orderbook other
  amounts : ∀ clear own change, block.Clears clear own change →
    ∀ pythFeedIds event orderOwner trade,
      tryFromClearV3 (nodes clear) pythFeedIds orderbook event clear orderOwner =
          .ok (some trade) →
        trade.Books (nodes clear) (ownerSide event orderOwner change).1
          (ownerSide event orderOwner change).2

/-- Different clears have different state changes. -/
theorem Block.Clears.clear_eq {block : Block orderbook} {clear own other : Log}
    {change otherChange : ClearStateChangeV2} (clears : block.Clears clear own change)
    (otherClears : block.Clears other own otherChange) : clear = other := by
  obtain ⟨index, place, after⟩ := clears.places
  obtain ⟨otherIndex, otherPlace, otherAfter⟩ := otherClears.places
  apply block.place_injective clears.clear_mem otherClears.clear_mem
  rw [after] at otherAfter
  have same : index + 1 = otherIndex + 1 := WithBot.coe_injective otherAfter
  rw [place, otherPlace, Nat.succ_injective same]

/-- The clears of a block are priced with their own changes exactly when every answer
covers the clear it was asked for; and one is priced right by accident only if the
nearest change in the answer says the same. -/
theorem pricedByOwnChange_iff [FloatFormat] {block : Block orderbook} {nodes : Log → Node}
    (serves : ∀ clear ∈ block.logs, (nodes clear).Serves block) :
    (PricedByOwnChange block nodes ↔
      ∀ clear own change, block.Clears clear own change →
        (nodes clear).Covers block clear own) ∧
    ∀ clear own change, block.Clears clear own change →
      (fetchAfterClearEvent (nodes clear) orderbook clear = .ok change ↔
        (nodes clear).Covers block clear own ∨
          ∃ nearest, (nodes clear).Lists block nearest ∧ nearest.Follows clear ∧
            (∀ later, (nodes clear).Lists block later → later.Follows clear →
              nearest.place ≤ later.place) ∧
            nearest.afterClear = some change) := by
  constructor
  · constructor
    · intro priced clear own change clears
      have served := serves clear clears.clear_mem
      exact (findAfterClear_eq_own_iff clears served).mp (priced.found clear own change clears).1
    · intro covers
      have found (clear own : Log) (change : ClearStateChangeV2)
          (clears : block.Clears clear own change) :
          findAfterClear (nodes clear) orderbook clear = .ok own :=
        (findAfterClear_eq_own_iff clears (serves clear clears.clear_mem)).mpr
          (covers clear own change clears)
      have fetched (clear own : Log) (change : ClearStateChangeV2)
          (clears : block.Clears clear own change) :
          fetchAfterClearEvent (nodes clear) orderbook clear = .ok change :=
        (fetchAfterClearEvent_of_found clears (serves clear clears.clear_mem)
          (found clear own change clears)).mpr clears.change
      constructor
      · intro clear own change clears
        exact ⟨found clear own change clears, fetched clear own change clears⟩
      · intro clear own change other otherOwn otherChange clears otherClears different same
        rw [found clear own change clears, found other otherOwn otherChange otherClears] at same
        cases same
        exact different (clears.clear_eq otherClears)
      · intro clear own change clears pythFeedIds event orderOwner trade built
        exact books_of_tryFromClearV3 (fetched clear own change clears) built
  · intro clear own change clears
    exact fetchAfterClearEvent_iff clears (serves clear clears.clear_mem)

/-! ## A transaction with two clears -/

def sampleLog (topic : Topic) (afterClear : Option ClearStateChangeV2) (index : Nat) : Log :=
  ⟨1, some topic, afterClear, some 10, none, some 7, some index⟩

def firstChange : ClearStateChangeV2 := ⟨1, 100, 100, 1⟩

def secondChange : ClearStateChangeV2 := ⟨2, 240, 240, 2⟩

def twoClears : Block 1 where
  number := 10
  logs :=
    [sampleLog .clearV3 none 0, sampleLog .afterClearV2 (some firstChange) 1,
      sampleLog .clearV3 none 2, sampleLog .afterClearV2 (some secondChange) 3]
  numbered := by decide
  hashed := by decide
  indexed := by decide
  increasing := by decide +kernel
  followed := by decide +kernel

/-- Receipts are complete. The tokens are USDC and shares of AAPL. -/
def answering (answer : List Log) : Node where
  getLogs := fun _ => .ok answer
  getTransactionReceipt := fun txHash =>
    .ok (some ⟨twoClears.logs.filter fun log => log.transactionHash = some txHash, 21000, 1,
      some 10⟩)
  getBlockByNumber := fun _ => .ok (some 1700000000)
  symbol := fun token => .ok (if token = 5 then "USDC" else "wtAAPL")
  getPriceUnsafe := fun _ _ => .error ⟨"unknown feed"⟩

theorem answering_serves {answer : List Log}
    (partly : answer.Subperm (twoClears.logs.filter fun log => log.Emits 1 .afterClearV2)) :
    (answering answer).Serves twoClears :=
  ⟨⟨answer, rfl, partly⟩, fun _ => ⟨_, rfl, List.Perm.refl _⟩⟩

/-- Answered in full, in any order, both clears are priced with their own changes. -/
theorem pricedByOwnChange_of_complete : @PricedByOwnChange 1 .exact twoClears fun _ =>
    answering [sampleLog .afterClearV2 (some secondChange) 3,
      sampleLog .afterClearV2 (some firstChange) 1] := by
  have partly : [sampleLog .afterClearV2 (some secondChange) 3,
      sampleLog .afterClearV2 (some firstChange) 1].Subperm
        (twoClears.logs.filter fun log => log.Emits 1 .afterClearV2) :=
    (List.Perm.swap _ _ []).subperm
  refine (@pricedByOwnChange_iff 1 .exact _ _ fun _ _ => answering_serves partly).1.mpr ?_
  intro clear own change clears
  have listed : ∀ log ∈ twoClears.logs, log.Emits 1 .afterClearV2 →
      log ∈ [sampleLog .afterClearV2 (some secondChange) 3,
        sampleLog .afterClearV2 (some firstChange) 1] := by
    decide +kernel
  exact .inl ⟨_, rfl, listed own clears.own_mem clears.isAfterClear⟩

/-- In the first clear the owner, alice, sells a share for 100 USDC. -/
example : (@tryFromClearV3 .exact (answering [sampleLog .afterClearV2 (some firstChange) 1])
      (fun _ => none) 1 ⟨⟨3, [⟨5⟩], [⟨6⟩]⟩, ⟨4, [⟨6⟩], [⟨5⟩]⟩, ⟨0, 0, 0, 0⟩⟩
      (sampleLog .clearV3 none 0) 3).toOption =
    some (some ⟨7, 0, ⟨"AAPL"⟩, 6, 1, .sell, 100, some 10, some 1700000000, some 21000, some 1,
      none⟩) := by
  decide +kernel

/-- If the node leaves out the first change only, the first clear takes the second. -/
theorem first_clear_takes_second_change :
    (answering [sampleLog .afterClearV2 (some secondChange) 3]).Serves twoClears ∧
      twoClears.Clears (sampleLog .clearV3 none 0) (sampleLog .afterClearV2 (some firstChange) 1)
        firstChange ∧
      fetchAfterClearEvent (answering [sampleLog .afterClearV2 (some secondChange) 3]) 1
        (sampleLog .clearV3 none 0) = .ok secondChange ∧
      ¬ @PricedByOwnChange 1 .exact twoClears fun _ =>
        answering [sampleLog .afterClearV2 (some secondChange) 3] := by
  have clears : twoClears.Clears (sampleLog .clearV3 none 0)
      (sampleLog .afterClearV2 (some firstChange) 1) firstChange := by
    constructor <;> decide +kernel
  have taken : fetchAfterClearEvent (answering [sampleLog .afterClearV2 (some secondChange) 3]) 1
      (sampleLog .clearV3 none 0) = .ok secondChange := by
    decide +kernel
  refine ⟨answering_serves ?_, clears, taken, ?_⟩
  · exact List.Sublist.subperm (by decide +kernel)
  · intro priced
    have own := (@PricedByOwnChange.found 1 .exact _ _ priced _ _ _ clears).2
    rw [taken] at own
    exact absurd own (by decide +kernel)

end Liquidity.Clearing
