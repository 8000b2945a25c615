import Liquidity.FillAccounting.Pipeline

/-!
# Counting a fill once across processes

Nothing serialises two processes, so any number of runs of one fill may be
under way. A run reads the event log and, some time later, sends the
acknowledgement; the two memories of the position have to catch whatever
happened in between.

They do, except in one situation. Between the read and the acknowledgement
another run may apply, mark and settle the same fill, which empties the pending
set, and a newer fill may take the slot. The position then knows the fill in
neither memory and applies it again. `counted_once` shows that this situation,
`Displaced`, is the only obstacle, for every schedule; `acknowledge_recounts_iff`
shows that it is a real one in every state, and `fill_counted_twice` is a
schedule that reaches it.
-/

namespace Liquidity.FillAccounting

open EventSourcing Process

/-- The fill has been settled, and a fill other than it was recorded last. -/
def Displaced (stream : List PositionEvent) (id : TradeId) : Prop :=
  Position.settledIn stream id ∧ (Position.filledIds stream).getLast? ≠ some id

instance (stream : List PositionEvent) (id : TradeId) : Decidable (Displaced stream id) :=
  inferInstanceAs (Decidable (_ ∧ _))

/-- No run acknowledges a fill that is displaced when the command arrives. -/
def NotDisplaced : System.Permits Op Stores Delivery
  | _, .sendPosition symbol (.acknowledgeOnChainFill _ _ id _ _ _ _), stores =>
      ¬ Displaced (stores.positions symbol) id
  | _, _, _ => True

instance (delivery : Delivery) (op : Op) (stores : Stores) :
    Decidable (NotDisplaced delivery op stores) := by
  unfold NotDisplaced
  split <;> infer_instance

/-- Each fill is recorded once; it is pending from then on until it is settled,
and nothing else is ever pending or settled. -/
structure CountedOnce (stream : List PositionEvent) : Prop where
  once : (Position.filledIds stream).Nodup
  covered : ∀ id ∈ Position.filledIds stream,
    id ∈ Position.pendingIds stream ∨ Position.settledIn stream id
  pending : ∀ id ∈ Position.pendingIds stream, id ∈ Position.filledIds stream
  settled : ∀ id, Position.settledIn stream id →
    id ∈ Position.filledIds stream ∧ id ∉ Position.pendingIds stream

theorem CountedOnce.nil : CountedOnce [] where
  once := List.nodup_nil
  covered := by simp
  pending := by simp
  settled := by simp [Position.settledIn]

theorem CountedOnce.append_unrelated {stream events : List PositionEvent}
    (h : CountedOnce stream) (unrelated : ∀ event ∈ events, event.unrelatedToFills) :
    CountedOnce (stream ++ events) := by
  obtain ⟨filled, pending, settled⟩ := Position.readings_append_unrelated unrelated stream
  constructor <;> simp only [filled, pending, settled]
  · exact h.once
  · exact h.covered
  · exact h.pending
  · exact h.settled

/-- A new fill may be recorded, together with its application. -/
theorem CountedOnce.append_fill {stream : List PositionEvent} {id : TradeId}
    (h : CountedOnce stream) (unseen : id ∉ Position.filledIds stream) (amount : FractionalShares)
    (direction : Direction) (priceUsdc : ℚ) (blockTimestamp now : Time) :
    CountedOnce (stream ++ [.onChainOrderFilled id amount direction priceUsdc blockTimestamp now,
      .onChainFillApplied id now]) := by
  obtain ⟨filled, pending, settled⟩ := Position.readings_append_fill stream id amount direction
    priceUsdc blockTimestamp now
  have unsettled : Position.settledIn stream id = false := by
    by_contra isSettled
    exact unseen (h.settled id (by simpa using isSettled)).1
  constructor <;> simp only [filled, pending, settled]
  · exact h.once.append (List.nodup_singleton id) (by simpa using unseen)
  · intro other member
    rcases List.mem_append.mp member with old | isNew
    · exact (h.covered other old).imp_left (Finset.mem_insert_of_mem ·)
    · exact .inl (by simp [List.mem_singleton.mp isNew])
  · intro other member
    rcases Finset.mem_insert.mp member with rfl | old
    · simp
    · exact List.mem_append_left _ (h.pending other old)
  · intro other isSettled
    have different : other ≠ id := by
      rintro rfl
      simp [unsettled] at isSettled
    obtain ⟨isFilled, notPending⟩ := h.settled other isSettled
    exact ⟨List.mem_append_left _ isFilled, by simp [different, notPending]⟩

theorem CountedOnce.append_settled {stream : List PositionEvent} (h : CountedOnce stream)
    {id : TradeId} (isPending : id ∈ Position.pendingIds stream) (now : Time) :
    CountedOnce (stream ++ [.onChainFillSettled id now]) := by
  obtain ⟨filled, pending, settled⟩ := Position.readings_append_settled stream id now
  constructor <;> simp only [filled, pending, settled]
  · exact h.once
  · intro other member
    by_cases same : other = id
    · exact .inr (by simp [same])
    · exact (h.covered other member).imp (by simp [same]) (by simp +contextual)
  · exact fun other member => h.pending other (Finset.mem_of_mem_erase member)
  · intro other isSettled
    by_cases same : other = id
    · subst same
      exact ⟨h.pending other isPending, by simp⟩
    · obtain ⟨isFilled, notPending⟩ := h.settled other (by simpa [Ne.symm same] using isSettled)
      exact ⟨isFilled, by simp [notPending]⟩

/-- A fill that one of the two memories holds was recorded. -/
theorem CountedOnce.known {stream : List PositionEvent} (h : CountedOnce stream) {id : TradeId}
    (known : (Position.filledIds stream).getLast? = some id ∨ id ∈ Position.pendingIds stream) :
    id ∈ Position.filledIds stream :=
  known.elim List.mem_of_getLast? (h.pending id)

/-- What an accepted command does to a stream, the acknowledgement of a displaced
fill apart. -/
theorem CountedOnce.send [FloatFormat] {stream events : List PositionEvent} (h : CountedOnce stream)
    {now : Time} {command : PositionCommand}
    (permitted : ∀ symbol threshold id amount direction priceUsdc blockTimestamp,
      command = .acknowledgeOnChainFill symbol threshold id amount direction priceUsdc
        blockTimestamp → ¬ Displaced stream id)
    (sent : Position.aggregate.send now command stream = .ok events) :
    CountedOnce (stream ++ events) := by
  cases command with
  | acknowledgeOnChainFill symbol threshold id amount direction priceUsdc blockTimestamp =>
      obtain ⟨notPending, notLast, opening, unrelated, rfl⟩ := Position.send_acknowledge sent
      -- A recorded fill is pending or settled; the guard excludes the first and,
      -- with the slot taken by another fill, the condition excludes the second.
      have unseen : id ∉ Position.filledIds stream := fun seen =>
        (h.covered id seen).elim notPending fun settled =>
          permitted _ _ _ _ _ _ _ rfl ⟨settled, notLast⟩
      obtain ⟨filled, -, -⟩ := Position.readings_append_unrelated unrelated stream
      rw [← List.append_assoc]
      exact (h.append_unrelated unrelated).append_fill (by rwa [filled]) _ _ _ _ _
  | settleOnChainFill id =>
      rcases Position.send_settle sent with ⟨rfl, -⟩ | ⟨rfl, isPending⟩
      · simpa using h
      · exact h.append_settled isPending now
  | _ => exact h.append_unrelated (Position.send_unrelated rfl sent)

/-- The invariant of the stores. -/
def AllCountedOnce (stores : Stores) : Prop := ∀ symbol, CountedOnce (stores.positions symbol)

theorem AllCountedOnce.append {stores : Stores} (h : AllCountedOnce stores) {symbol : Symbol}
    {events : List PositionEvent} (keeps : CountedOnce (stores.positions symbol ++ events)) :
    AllCountedOnce { stores with positions := stores.positions.append symbol events } := by
  intro other
  by_cases same : other = symbol
  · subst same
    simpa using keeps
  · simpa [same] using h other

section Schedules

variable [FloatFormat]

/-- One store access of a run. -/
theorem AllCountedOnce.handle {stores next : Stores} (h : AllCountedOnce stores)
    {delivery : Delivery} {op : Op} {choice : Choice} {answer : op.Ret}
    (permitted : NotDisplaced delivery op stores)
    (handled : handle choice op stores = some (answer, next)) : AllCountedOnce next := by
  cases op with
  | loadTrade id =>
      obtain ⟨rfl, -⟩ := handle_loadTrade handled
      exact h
  | sendTrade id command =>
      rcases handle_sendTrade handled with ⟨_, -, rfl, -⟩ | ⟨events, -, -, rfl⟩
      · exact h
      · exact h
  | fillRecorded symbol id =>
      obtain ⟨rfl, -⟩ := handle_fillRecorded handled
      exact h
  | sendPosition symbol command =>
      rcases handle_sendPosition handled with ⟨_, -, rfl, -⟩ | ⟨events, sent, -, rfl⟩
      · exact h
      · refine h.append ((h symbol).send ?_ sent)
        rintro _ _ id _ _ _ _ rfl
        exact permitted

/-- Commands of other subsystems do not concern fills. -/
theorem AllCountedOnce.environment {stores next : Stores} (h : AllCountedOnce stores)
    {deliverable : Delivery → Bool} {exclusive : Delivery → Delivery → Bool} {other : OtherCommand}
    (changed : (system deliverable exclusive).environment other stores = some next) :
    AllCountedOnce next := by
  cases changed
  cases sent : Position.aggregate.send other.now other.command (stores.positions other.symbol) with
  | error error => exact h
  | ok events => exact h.append ((h _).append_unrelated (Position.send_unrelated other.notFill sent))

/-- Whatever runs and other subsystems do in whatever order, no position records
a fill twice, as long as no run acknowledges a displaced fill. -/
theorem counted_once (deliverable : Delivery → Bool) (exclusive : Delivery → Delivery → Bool)
    (schedule : List (Act Choice Delivery OtherCommand))
    (final : Config Op Op.Ret TradeAccountingError FillAccountingOutcome Stores Delivery)
    (ran : (system deliverable exclusive).run ⟨Stores.empty, []⟩ schedule = some final)
    (meets : (system deliverable exclusive).MeetsAll NotDisplaced ⟨Stores.empty, []⟩ schedule)
    (symbol : Symbol) (id : TradeId) :
    (Position.filledIds (final.shared.positions symbol)).count id ≤ 1 := by
  have holds : AllCountedOnce final.shared :=
    (system deliverable exclusive).run_invariant
      (fun _ _ _ _ _ _ h permitted handled => h.handle permitted handled)
      (fun _ _ _ h changed => h.environment changed) (fun _ => CountedOnce.nil) meets ran
  exact List.nodup_iff_count_le_one.mp (holds symbol).once id

/-- The condition is exact: a live position counts a fill a second time if and
only if the fill is displaced when its acknowledgement arrives. -/
theorem acknowledge_recounts_iff {stream : List PositionEvent} {entity : Position} {id : TradeId}
    (h : CountedOnce stream) (live : Position.aggregate.lifecycle stream = .live entity)
    (now : Time) (symbol : Symbol) (threshold : ExecutionThreshold) (amount : FractionalShares)
    (direction : Direction) (priceUsdc : ℚ) (blockTimestamp : Time) :
    (∃ events, Position.aggregate.send now (.acknowledgeOnChainFill symbol threshold id amount
        direction priceUsdc blockTimestamp) stream = .ok events ∧
      1 < (Position.filledIds (stream ++ events)).count id) ↔ Displaced stream id := by
  constructor
  · rintro ⟨events, sent, twice⟩
    by_contra notDisplaced
    have kept := h.send (by rintro _ _ _ _ _ _ _ ⟨⟩; exact notDisplaced) sent
    exact absurd (List.nodup_iff_count_le_one.mp kept.once id) (Nat.not_le.mpr twice)
  · intro displaced
    obtain ⟨slot, pending⟩ := Position.lifecycle_memory live
    obtain ⟨isFilled, notPending⟩ := h.settled id displaced.1
    refine ⟨[.onChainOrderFilled id amount direction priceUsdc blockTimestamp now,
      .onChainFillApplied id now], ?_, ?_⟩
    · refine Position.aggregate.send_eq_ok.mpr (.inr ⟨entity, live, ?_⟩)
      have unknown : entity.knowsFill id = false := by
        simp [Position.knowsFill, slot, pending, displaced.2, notPending]
      simp [Position.aggregate, Position.transition,
        Position.acknowledgeOnChainFillTransitionEvents, unknown]
    · obtain ⟨filled, -, -⟩ := Position.readings_append_fill stream id amount direction priceUsdc
        blockTimestamp now
      simpa [filled, List.count_append] using List.count_pos_iff.mpr isFilled

end Schedules

/-! ## Two schedules -/

/-- A delivery of a buy of five shares, told apart by its transaction. -/
def sampleDelivery (txHash : TxHash) : Delivery where
  trade :=
    { txHash, logIndex := 0, symbol := "AAPL", amount := 5, direction := .buy, price := 100
      blockTimestamp := some 0, gasUsed := none, effectiveGasPrice := none, pythPrice := none }
  blockNumber := 1
  threshold := .shares ⟨1, Positive.one_pos⟩

/-- A thread performs its next store access. -/
def access (index : Nat) : Act Choice Delivery OtherCommand := .step index ⟨0, true⟩

/-- Two runs of fill 1 and one of fill 2 are started. The first run of fill 1
reads the log; the second one applies, marks and settles the fill. -/
def racingRuns : List (Act Choice Delivery OtherCommand) :=
  [.start (sampleDelivery 1), .start (sampleDelivery 1), .start (sampleDelivery 2)] ++
    List.replicate 3 (access 0) ++ List.replicate 5 (access 1)

/-- Fill 2 takes the slot before the first run of fill 1 sends its acknowledgement. -/
def displacingSchedule : List (Act Choice Delivery OtherCommand) :=
  racingRuns ++ List.replicate 4 (access 2) ++ [access 0]

/-- The same runs, with the acknowledgement sent before fill 2 takes the slot. -/
def slotHolds : List (Act Choice Delivery OtherCommand) :=
  racingRuns ++ [access 0] ++ List.replicate 4 (access 2)

/-- The pipeline without any condition on its schedules does count a fill twice. -/
theorem fill_counted_twice :
    ¬ ∀ (schedule : List (Act Choice Delivery OtherCommand))
      (final : Config Op Op.Ret TradeAccountingError FillAccountingOutcome Stores Delivery),
      (@system FloatFormat.exact (fun _ => true) fun _ _ => false).run ⟨Stores.empty, []⟩
        schedule = some final →
        ∀ symbol id, (Position.filledIds (final.shared.positions symbol)).count id ≤ 1 := by
  intro claim
  have twice : ((@system FloatFormat.exact (fun _ => true) fun _ _ => false).run ⟨Stores.empty, []⟩
      displacingSchedule).map (fun final =>
        (Position.filledIds (final.shared.positions "AAPL")).count ⟨1, 0⟩) = some 2 := by
    decide +kernel
  obtain ⟨final, ran, count⟩ := Option.map_eq_some_iff.mp twice
  have once := claim displacingSchedule final ran "AAPL" ⟨1, 0⟩
  omega

theorem counted_once_racing :
    ∃ final, (@system FloatFormat.exact (fun _ => true) fun _ _ => false).run
      ⟨Stores.empty, []⟩ slotHolds =
        some final ∧
      (Position.filledIds (final.shared.positions "AAPL")).count ⟨1, 0⟩ ≤ 1 := by
  have runs : ((@system FloatFormat.exact (fun _ => true) fun _ _ => false).run ⟨Stores.empty, []⟩
      slotHolds).isSome := by decide +kernel
  obtain ⟨final, ran⟩ := Option.isSome_iff_exists.mp runs
  exact ⟨final, ran, @counted_once FloatFormat.exact _ _ slotHolds final ran (by decide +kernel) _ _⟩

end Liquidity.FillAccounting
