import Liquidity.FillAccounting.ExactlyOnce

/-!
# Serialised fill accounting

Inside one process the deliveries of a symbol run one at a time. A run may be
killed after any store access and be delivered again, any number of times and
in any order relative to the deliveries of other fills.

Then the obstacle of `ExactlyOnce` cannot arise: between a run's read of the log
and its acknowledgement nobody records a fill of the symbol. The proof follows
one run through its store accesses. What it learned about its own symbol stays
true in between, because the other runs are confined to theirs; the books kept
in the stores (`Books`) tie the marker of a trade to the fill of its position,
so a run that finds the marker knows the fill was recorded.
-/

namespace Liquidity.FillAccounting

open EventSourcing Process

section Serialized

variable (chain : TradeId → Symbol)

/-- Counting is in order, and a trade marked acknowledged has its fill recorded. -/
structure Books (stores : Stores) : Prop where
  counted : AllCountedOnce stores
  recorded : ∀ id, OnChainTrade.Acknowledged (stores.trades id) →
    id ∈ Position.filledIds (stores.positions (chain id))

/-- What a run of this symbol relies on while it waits. -/
def Undisturbed (symbol : Symbol) (before after : Stores) : Prop :=
  Position.filledIds (after.positions symbol) = Position.filledIds (before.positions symbol) ∧
    ∀ id, chain id = symbol → after.trades id = before.trades id

/-- What a run of this symbol leaves alone. -/
def Confined (symbol : Symbol) (before after : Stores) : Prop :=
  (∀ other, other ≠ symbol → after.positions other = before.positions other) ∧
    ∀ id, chain id ≠ symbol → after.trades id = before.trades id

/-- Where a run that succeeds leaves its fill: recorded once, marked, and drained
from the pending set. -/
structure Accounted [FloatFormat] (trade : OnchainTrade) (stores : Stores) : Prop where
  recorded_once :
    (Position.filledIds (stores.positions trade.symbol)).count trade.tradeId = 1
  acknowledged : OnChainTrade.Acknowledged (stores.trades trade.tradeId)
  drained : ∃ entity,
    Position.aggregate.lifecycle (stores.positions trade.symbol) = .live entity ∧
      trade.tradeId ∉ entity.pendingAcknowledgedTradeIds

/-- Deliveries of what is on chain, one at a time for each symbol. -/
def serialized [FloatFormat] :=
  system (fun delivery => delivery.trade.symbol = chain delivery.trade.tradeId)
    (fun a b => a.trade.symbol = b.trade.symbol)

variable {chain}

theorem Books.empty : Books chain Stores.empty where
  counted := fun _ => CountedOnce.nil
  recorded := fun _ marked => absurd marked OnChainTrade.not_acknowledged_nil

theorem Confined.refl (symbol : Symbol) (stores : Stores) : Confined chain symbol stores stores :=
  ⟨fun _ _ => rfl, fun _ _ => rfl⟩

/-- Two runs of different symbols do not disturb each other. -/
theorem Confined.undisturbed {first second : Symbol} (apart : first ≠ second)
    {before after : Stores} (confined : Confined chain first before after) :
    Undisturbed chain second before after :=
  ⟨congrArg Position.filledIds (confined.1 second apart.symm),
    fun id own => confined.2 id (own ▸ apart.symm)⟩

/-- A command on a trade keeps the books if the marker, once set, has its fill. -/
theorem Books.append_trade {stores : Stores} (books : Books chain stores) {id : TradeId}
    {events : List OnChainTradeEvent}
    (covered : OnChainTrade.Acknowledged (stores.trades id ++ events) →
      id ∈ Position.filledIds (stores.positions (chain id))) :
    Books chain { stores with trades := stores.trades.append id events } where
  counted := books.counted
  recorded := by
    intro other marked
    by_cases same : other = id
    · subst same
      exact covered (by simpa using marked)
    · exact books.recorded other (by simpa [same] using marked)

/-- Fills are never taken back, so a batch on a position keeps the books if it
keeps the counting. -/
theorem Books.append_position {stores : Stores} (books : Books chain stores) {symbol : Symbol}
    {events : List PositionEvent} (keeps : CountedOnce (stores.positions symbol ++ events)) :
    Books chain { stores with positions := stores.positions.append symbol events } where
  counted := books.counted.append keeps
  recorded := by
    intro id marked
    have known := books.recorded id marked
    by_cases same : chain id = symbol
    · simp only [same, Streams.append_self, Position.filledIds_append] at known ⊢
      exact List.mem_append_left _ known
    · simpa [same] using known

theorem confined_append_trade {stores : Stores} {id : TradeId} {symbol : Symbol}
    (own : chain id = symbol) (events : List OnChainTradeEvent) :
    Confined chain symbol stores { stores with trades := stores.trades.append id events } := by
  refine ⟨fun _ _ => rfl, fun other elsewhere => ?_⟩
  have different : other ≠ id := by
    rintro rfl
    exact elsewhere own
  simp [different]

theorem confined_append_position (stores : Stores) (symbol : Symbol)
    (events : List PositionEvent) :
    Confined chain symbol stores
      { stores with positions := stores.positions.append symbol events } :=
  ⟨fun other elsewhere => by simp [elsewhere], fun _ _ => rfl⟩

/-! ## One run -/

section OneRun

variable [FloatFormat] {trade : OnchainTrade} {stores : Stores}

/-- A piece of the run of `trade`, followed through its store accesses. -/
abbrev Carries (chain : TradeId → Symbol) (trade : OnchainTrade) {α : Type} (program : Run α)
    (post : Except TradeAccountingError α → Stores → Prop) (stores : Stores) : Prop :=
  program.Sat handle (Books chain) (fun _ _ => True) (Undisturbed chain trade.symbol)
    (fun _ => Confined chain trade.symbol) post stores

/-- Nothing is asked of the result. -/
abbrev anyhow {α : Type} : Except TradeAccountingError α → Stores → Prop := fun _ _ => True

/-- Asked only of a run that goes on. -/
abbrev onOk {α : Type} (post : α → Stores → Prop) : Except TradeAccountingError α → Stores → Prop
  | .ok value, stores => post value stores
  | .error _, _ => True

/-- A command that does not set the marker. -/
theorem carries_sendTrade (own : trade.symbol = chain trade.tradeId)
    {command : OnChainTradeCommand} (other : command ≠ .acknowledge) {α : Type}
    {f : Except (SendError OnChainTradeError) Unit → Run α}
    {post : Except TradeAccountingError α → Stores → Prop}
    (next : ∀ answer after, Carries chain trade (f answer) post after) :
    Carries chain trade (sendTrade trade.tradeId command >>= f) post stores := by
  refine Prog.Sat.perform fun s₁ _ books _ choice answer s₂ handled => ?_
  rcases handle_sendTrade handled with ⟨error, -, rfl, -⟩ | ⟨events, sent, -, rfl⟩
  · exact ⟨books, Confined.refl _ _, next _ _⟩
  · refine ⟨books.append_trade fun marked => ?_, confined_append_trade own.symm events, next _ _⟩
    exact books.recorded _ (OnChainTrade.acknowledged_of_send other sent marked)

theorem carries_executeWitnessTrade (own : trade.symbol = chain trade.tradeId) (blockNumber : Nat)
    (blockTimestamp : Time) :
    Carries chain trade (executeWitnessTrade trade blockNumber blockTimestamp) anyhow stores := by
  refine carries_sendTrade own (by simp) fun answer after => ?_
  split <;> trivial

theorem carries_executeEnrichTrade (own : trade.symbol = chain trade.tradeId) :
    Carries chain trade (executeEnrichTrade trade) anyhow stores := by
  unfold executeEnrichTrade
  split
  · exact carries_sendTrade own (by simp) fun _ _ => trivial
  · trivial

/-- Settling a recorded and marked fill completes the run. -/
theorem carries_executeSettleFill (own : trade.symbol = chain trade.tradeId)
    (recorded : trade.tradeId ∈ Position.filledIds (stores.positions trade.symbol))
    (marked : OnChainTrade.Acknowledged (stores.trades trade.tradeId)) :
    Carries chain trade (executeSettleFill trade) (onOk fun _ => Accounted trade) stores := by
  refine Prog.Sat.perform fun s₁ moved books _ choice answer s₂ handled => ?_
  rw [← moved.1] at recorded
  rw [← moved.2 _ own.symm] at marked
  rcases handle_sendPosition handled with ⟨error, rfl, rfl, -⟩ | ⟨events, sent, rfl, rfl⟩
  · exact ⟨books, Confined.refl _ _, trivial⟩
  · have keeps : CountedOnce (s₁.positions trade.symbol ++ events) :=
      (books.counted _).send (by rintro _ _ _ _ _ _ _ ⟨⟩) sent
    refine ⟨books.append_position keeps, confined_append_position _ _ _, ?_⟩
    refine ⟨?_, marked, ?_⟩
    · have member : trade.tradeId ∈ Position.filledIds (s₁.positions trade.symbol ++ events) := by
        rw [Position.filledIds_append]
        exact List.mem_append_left _ recorded
      simpa using List.count_eq_one_of_mem keeps.once member
    · obtain ⟨entity, live, drained⟩ := Position.settle_drains sent (by
        rintro empty
        simp [empty] at recorded)
      exact ⟨entity, by simpa using live, drained⟩

/-- A trade found in the store is settled if it carries the marker, and resumed
otherwise. -/
theorem carries_resumeWitnessed (own : trade.symbol = chain trade.tradeId) {state : OnChainTrade}
    (books : Books chain stores)
    (found : OnChainTrade.aggregate.lifecycle (stores.trades trade.tradeId) = .live state) :
    Carries chain trade (resumeWitnessed trade state)
      (onOk fun goesOn after => goesOn = false → Accounted trade after) stores := by
  unfold resumeWitnessed
  split
  · rename_i marker
    have marked : OnChainTrade.Acknowledged (stores.trades trade.tradeId) :=
      ⟨state, found, marker⟩
    have recorded := books.recorded _ marked
    rw [← own] at recorded
    exact (carries_executeSettleFill own recorded marked).seq (fun _ _ settled _ => settled)
      (fun _ _ _ => trivial)
  · split
    · exact (carries_executeEnrichTrade own).seq (fun _ _ _ goesOn => by cases goesOn)
        (fun _ _ _ => trivial)
    · intro goesOn
      cases goesOn

/-- A run that stops at its entry has found the fill fully accounted. -/
theorem carries_witnessOrResume (own : trade.symbol = chain trade.tradeId) (blockNumber : Nat)
    (blockTimestamp : Time) :
    Carries chain trade (witnessOrResume trade blockNumber blockTimestamp)
      (onOk fun goesOn after => goesOn = false → Accounted trade after) stores := by
  refine Prog.Sat.perform fun s₁ _ books _ choice answer s₂ handled => ?_
  obtain ⟨rfl, loaded⟩ := handle_loadTrade handled
  refine ⟨books, Confined.refl _ _, ?_⟩
  match answer with
  | .error _ => trivial
  | .ok (some state) =>
      have found := loaded.resolve_left (by simp)
      exact carries_resumeWitnessed own books
        (OnChainTrade.aggregate.load_eq_some.mp found.symm)
  | .ok none =>
      refine (carries_executeWitnessTrade own _ _).seq (fun witnessed after _ => ?_)
        (fun _ _ _ => trivial)
      cases witnessed with
      | true =>
          exact (carries_executeEnrichTrade own).seq (fun _ _ _ goesOn => by cases goesOn)
            (fun _ _ _ => trivial)
      | false =>
          refine Prog.Sat.perform fun s₃ _ books _ choice answer s₄ handled => ?_
          obtain ⟨rfl, loaded⟩ := handle_loadTrade handled
          refine ⟨books, Confined.refl _ _, ?_⟩
          match answer with
          | .error _ => trivial
          | .ok none => trivial
          | .ok (some state) =>
              have found := loaded.resolve_left (by simp)
              exact carries_resumeWitnessed own books
                (OnChainTrade.aggregate.load_eq_some.mp found.symm)

theorem carries_positionFillAlreadyRecorded :
    Carries chain trade (positionFillAlreadyRecorded trade.symbol trade.tradeId)
      (onOk fun recorded after => recorded ↔
        trade.tradeId ∈ Position.filledIds (after.positions trade.symbol)) stores := by
  refine Prog.Sat.perform fun s₁ _ books _ choice answer s₂ handled => ?_
  obtain ⟨rfl, ⟨error, rfl⟩ | rfl⟩ := handle_fillRecorded handled
  · exact ⟨books, Confined.refl _ _, trivial⟩
  · exact ⟨books, Confined.refl _ _, Position.recordedIn_iff⟩

/-- The log read before the acknowledgement still holds when it arrives, so the
fill is not displaced. -/
theorem carries_executeAcknowledgeFill (threshold : ExecutionThreshold) (blockTimestamp : Time)
    (unseen : trade.tradeId ∉ Position.filledIds (stores.positions trade.symbol)) :
    Carries chain trade (executeAcknowledgeFill trade threshold blockTimestamp)
      (onOk fun _ after => trade.tradeId ∈ Position.filledIds (after.positions trade.symbol))
      stores := by
  refine Prog.Sat.perform fun s₁ moved books _ choice answer s₂ handled => ?_
  rw [← moved.1] at unseen
  rcases handle_sendPosition handled with ⟨error, rfl, rfl, refused⟩ | ⟨events, sent, rfl, rfl⟩
  · refine ⟨books, Confined.refl _ _, ?_⟩
    split
    case h_2 duplicate eq =>
      cases eq
      have known := Position.send_acknowledge_duplicate (refused.resolve_left (by simp))
      exact absurd ((books.counted _).known known) unseen
    all_goals trivial
  · have keeps : CountedOnce (s₁.positions trade.symbol ++ events) := by
      refine (books.counted _).send ?_ sent
      rintro _ _ _ _ _ _ _ ⟨⟩ displaced
      exact unseen ((books.counted _).settled _ displaced.1).1
    refine ⟨books.append_position keeps, confined_append_position _ _ _, ?_⟩
    obtain ⟨-, -, opening, -, rfl⟩ := Position.send_acknowledge sent
    show _ ∈ Position.filledIds _
    simp [Position.filledIds, PositionEvent.filledTradeId?]

theorem carries_accountForOnchainFill (own : trade.symbol = chain trade.tradeId)
    (blockNumber : Nat) (threshold : ExecutionThreshold) :
    Carries chain trade (accountForOnchainFill trade blockNumber threshold)
      (onOk fun outcome after => match outcome with
        | .alreadyAcknowledged => Accounted trade after
        | .accounted tradeId => tradeId = trade.tradeId ∧
            trade.tradeId ∈ Position.filledIds (after.positions trade.symbol)) stores := by
  unfold accountForOnchainFill
  split
  · trivial
  · refine (carries_witnessOrResume own _ _).seq (fun goesOn after stopped => ?_)
      (fun _ _ _ => trivial)
    cases goesOn with
    | false => exact stopped rfl
    | true =>
        refine carries_positionFillAlreadyRecorded.seq (fun recorded later read => ?_)
          (fun _ _ _ => trivial)
        cases recorded with
        | true => exact ⟨rfl, read.mp rfl⟩
        | false =>
            have unseen := fun seen => Bool.false_ne_true (read.mpr seen)
            exact (carries_executeAcknowledgeFill _ _ unseen).seq
              (fun _ _ applied => ⟨rfl, applied⟩) (fun _ _ _ => trivial)

/-- Marking a trade whose fill is recorded keeps the books. -/
theorem carries_executeMarkAcknowledged (own : trade.symbol = chain trade.tradeId)
    (recorded : trade.tradeId ∈ Position.filledIds (stores.positions trade.symbol)) :
    Carries chain trade (executeMarkAcknowledged trade.tradeId)
      (onOk fun _ after =>
        trade.tradeId ∈ Position.filledIds (after.positions trade.symbol) ∧
          OnChainTrade.Acknowledged (after.trades trade.tradeId)) stores := by
  refine Prog.Sat.perform fun s₁ moved books _ choice answer s₂ handled => ?_
  rw [← moved.1] at recorded
  rcases handle_sendTrade handled with ⟨error, rfl, rfl, refused⟩ | ⟨events, sent, rfl, rfl⟩
  · refine ⟨books, Confined.refl _ _, ?_⟩
    split
    case h_2 eq =>
      cases eq
      exact ⟨recorded, OnChainTrade.send_acknowledge_repeated (refused.resolve_left (by simp))⟩
    all_goals trivial
  · refine ⟨books.append_trade fun _ => own ▸ recorded, confined_append_trade own.symm events, ?_⟩
    exact ⟨recorded, by simpa using OnChainTrade.send_acknowledge_ok sent⟩

/-- A whole run that succeeds leaves its fill accounted for. -/
theorem carries_accountMarkSettle (own : trade.symbol = chain trade.tradeId)
    (blockNumber : Nat) (threshold : ExecutionThreshold) :
    Carries chain trade (accountMarkSettle trade blockNumber threshold)
      (onOk fun _ => Accounted trade) stores := by
  refine (carries_accountForOnchainFill own _ _).seq (fun outcome after accounted => ?_)
    (fun _ _ _ => trivial)
  cases outcome with
  | alreadyAcknowledged => exact accounted
  | accounted tradeId =>
      obtain ⟨rfl, recorded⟩ := accounted
      refine (carries_executeMarkAcknowledged own recorded).seq (fun _ later marked => ?_)
        (fun _ _ _ => trivial)
      exact (carries_executeSettleFill own marked.1 marked.2).seq (fun _ _ settled => settled)
        (fun _ _ _ => trivial)

end OneRun

/-! ## Every schedule -/

section Schedules

variable [FloatFormat]

omit [FloatFormat] in
theorem Undisturbed.trans {symbol : Symbol} {first second third : Stores}
    (before : Undisturbed chain symbol first second)
    (after : Undisturbed chain symbol second third) : Undisturbed chain symbol first third :=
  ⟨after.1.trans before.1, fun id own => (after.2 id own).trans (before.2 id own)⟩

/-- Commands of other subsystems do not disturb a run. -/
theorem environment_undisturbed {other : OtherCommand} {stores next : Stores} (symbol : Symbol)
    (changed : (serialized chain).environment other stores = some next) :
    Undisturbed chain symbol stores next := by
  cases changed
  cases sent : Position.aggregate.send other.now other.command (stores.positions other.symbol) with
  | error error => exact ⟨rfl, fun _ _ => rfl⟩
  | ok events =>
      refine ⟨?_, fun _ _ => rfl⟩
      by_cases same : symbol = other.symbol
      · subst same
        obtain ⟨filled, -, -⟩ := Position.readings_append_unrelated
          (Position.send_unrelated other.notFill sent) (stores.positions other.symbol)
        simpa [commitPosition] using filled
      · simp [commitPosition, same]

theorem environment_books {other : OtherCommand} {stores next : Stores} (books : Books chain stores)
    (changed : (serialized chain).environment other stores = some next) : Books chain next := by
  cases changed
  cases sent : Position.aggregate.send other.now other.command (stores.positions other.symbol) with
  | error error => exact books
  | ok events =>
      exact books.append_position
        ((books.counted _).append_unrelated (Position.send_unrelated other.notFill sent))

/-- The proofs of single runs fit together. -/
theorem serialized_compatible (chain : TradeId → Symbol) :
    (serialized chain).Compatible (Books chain) (fun _ _ _ => True)
      (fun delivery => Undisturbed chain delivery.trade.symbol)
      (fun delivery _ => Confined chain delivery.trade.symbol)
      (fun delivery => onOk fun _ => Accounted delivery.trade) where
  rely_refl := fun _ _ => ⟨rfl, fun _ _ => rfl⟩
  rely_trans := fun _ _ _ _ before after => before.trans after
  exclusive_symm := fun a b => by simp [serialized, system, eq_comm]
  program := fun delivery stores _ deliverable =>
    carries_accountMarkSettle (by simpa [serialized, system] using deliverable) _ _
  meet := fun a b _ _ _ apart _ confined =>
    confined.undisturbed (by simpa [serialized, system] using apart)
  env_inv := fun _ _ _ books changed => environment_books books changed
  env_rely := fun _ _ _ _ _ changed => environment_undisturbed _ changed

theorem serialized_sound {schedule : List (Act Choice Delivery OtherCommand)}
    {final : Config Op Op.Ret TradeAccountingError FillAccountingOutcome Stores Delivery}
    (ran : (serialized chain).run ⟨Stores.empty, []⟩ schedule = some final) :
    (serialized chain).Sound (Books chain) (fun _ _ _ => True)
      (fun delivery => Undisturbed chain delivery.trade.symbol)
      (fun delivery _ => Confined chain delivery.trade.symbol)
      (fun delivery => onOk fun _ => Accounted delivery.trade) final :=
  (System.Sound.initial Books.empty).run (serialized_compatible chain)
    ((serialized chain).meetsAll_true _ _) ran

/-- Whatever crashes and deliveries came before: a run that returns success leaves
its fill recorded exactly once, marked and drained, and in every reachable state
a position's pending set holds exactly the fills applied and not settled since,
each of them recorded. -/
theorem serialized_accounting (chain : TradeId → Symbol)
    (schedule : List (Act Choice Delivery OtherCommand))
    (final : Config Op Op.Ret TradeAccountingError FillAccountingOutcome Stores Delivery)
    (ran : (serialized chain).run ⟨Stores.empty, []⟩ schedule = some final) :
    (∀ index choice next delivery outcome,
      (serialized chain).act final (.step index choice) = some next →
        next.threads[index]? = some ⟨delivery, .done outcome⟩ →
          Accounted delivery.trade next.shared) ∧
      ∀ symbol entity,
        Position.aggregate.lifecycle (final.shared.positions symbol) = .live entity →
          ∀ id,
            (id ∈ entity.pendingAcknowledgedTradeIds ↔
              ∃ before appliedAt after,
                final.shared.positions symbol =
                    before ++ .onChainFillApplied id appliedAt :: after ∧
                  Position.settledIn after id = false) ∧
            (id ∈ entity.pendingAcknowledgedTradeIds →
              id ∈ Position.filledIds (final.shared.positions symbol)) := by
  have sound := serialized_sound ran
  refine ⟨?_, ?_⟩
  · intro index choice next delivery outcome acted returned
    obtain ⟨label, op, cont, answer, shared, found, handled, rfl⟩ :=
      (serialized chain).advance_eq_some acted
    obtain ⟨-, -, rest⟩ := sound.operation found trivial handled
    obtain ⟨inBounds, -⟩ := List.getElem?_eq_some_iff.mp found
    simp only [List.getElem?_set_self inBounds, Option.some.injEq, Thread.mk.injEq] at returned
    obtain ⟨rfl, finished⟩ := returned
    rw [finished] at rest
    exact rest
  · intro symbol entity live id
    obtain ⟨-, pending⟩ := Position.lifecycle_memory live
    rw [pending]
    exact ⟨Position.mem_pendingIds, (sound.holds.counted symbol).pending id⟩

end Schedules

end Serialized

/-- Fill 1 is witnessed, recorded in the log and then lost to a crash before it is
marked; fill 2 is delivered in between, and the redelivery of fill 1 is left with
one store access to make. -/
def crashedAndRedelivered : List (Act Choice Delivery OtherCommand) :=
  [.start (sampleDelivery 1)] ++ List.replicate 4 (access 0) ++ [.crash 0] ++
    [.start (sampleDelivery 2)] ++ List.replicate 6 (access 0) ++ [.crash 0] ++
    [.start (sampleDelivery 1)] ++ List.replicate 3 (access 0)

theorem serialized_accounting_redelivered :
    ∃ final next, (@serialized (fun _ => "AAPL") FloatFormat.exact).run ⟨Stores.empty, []⟩
        crashedAndRedelivered = some final ∧
      (@serialized (fun _ => "AAPL") FloatFormat.exact).act final (access 0) = some next ∧
      @Accounted FloatFormat.exact (sampleDelivery 1).trade next.shared := by
  have runs : (((@serialized (fun _ => "AAPL") FloatFormat.exact).run ⟨Stores.empty, []⟩
      crashedAndRedelivered).bind fun final =>
        ((@serialized (fun _ => "AAPL") FloatFormat.exact).act final (access 0)).bind fun next =>
          next.threads[0]?.bind fun thread =>
            match thread with
            | ⟨delivery, .done outcome⟩ => some (delivery, outcome)
            | _ => none) =
      some (sampleDelivery 1, .accounted ⟨1, 0⟩) := by
    decide +kernel
  obtain ⟨final, ran, after⟩ := Option.bind_eq_some_iff.mp runs
  obtain ⟨next, acted, returned⟩ := Option.bind_eq_some_iff.mp after
  obtain ⟨⟨delivery, rest⟩, atZero, shape⟩ := Option.bind_eq_some_iff.mp returned
  refine ⟨final, next, ran, acted, ?_⟩
  cases rest with
  | done outcome =>
      cases shape
      exact (@serialized_accounting FloatFormat.exact (fun _ => "AAPL") crashedAndRedelivered
        final ran).1 0 _ next _ _ acted atZero
  | fail => cases shape
  | call => cases shape

end Liquidity.FillAccounting
