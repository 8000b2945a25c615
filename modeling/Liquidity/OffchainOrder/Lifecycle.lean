import Liquidity.EventSourcing.Runs
import Liquidity.OffchainOrder.Finalization

/-!
# The life of an offchain order

Whatever commands are sent to an order and whatever the broker answers while a
cancellation is handled, the order never gets stuck on its own events, an ended
order stays as it is, and on the way there the order loses nothing: not its
terms, not the broker's identifier, not the fill it has recorded.
-/

namespace Liquidity

open EventSourcing

/-- The fill quantity a command reports from the broker is not negative. -/
def OffchainOrderCommand.ReportsNonneg : OffchainOrderCommand → Prop
  | .updatePartialFill sharesFilled _ _ => 0 ≤ sharesFilled
  | _ => True

/-- The fill quantity an event records is not negative. -/
def OffchainOrderEvent.RecordsNonneg : OffchainOrderEvent → Prop
  | .partiallyFilled sharesFilled _ _ => 0 ≤ sharesFilled
  | _ => True

def OffchainOrderEvent.isPartialFill : OffchainOrderEvent → Bool
  | .partiallyFilled .. => true
  | _ => false

namespace OffchainOrder

def isFilled : OffchainOrder → Bool
  | .filled .. => true
  | _ => false

def placedAt (order : OffchainOrder) : Time := order.terms.placedAt

/-- The cumulative fill on record. -/
def cumulativeFill (order : OffchainOrder) : FractionalShares :=
  (order.recordedFill.map RetainedFill.sharesFilled).getD 0

/-! ## What is reported covers what is recorded -/

/-- The states in which commands record a fill. -/
def Admits (entity : OffchainOrder) : OffchainOrderEvent → Prop
  | .partiallyFilled sharesFilled _ _ => 0 ≤ sharesFilled → entity.cumulativeFill ≤ sharesFilled
  | _ => True

/-- Nothing is recorded before a cancellation but a positive fill that the order
does not have yet, and that comes first. -/
structure FillFirst (localFilled : Option FractionalShares) (events : List OffchainOrderEvent) :
    Prop where
  head : ∀ sharesFilled avgPrice at_,
    events.head? = some (.partiallyFilled sharesFilled avgPrice at_) →
      0 < sharesFilled ∧ coveredLocally localFilled sharesFilled = false
  tail : ∀ event ∈ events.tail, event.isPartialFill = false

theorem FillFirst.nil (localFilled : Option FractionalShares) : FillFirst localFilled [] :=
  ⟨by simp, by simp⟩

theorem FillFirst.single {localFilled : Option FractionalShares} {event : OffchainOrderEvent}
    (other : event.isPartialFill = false) : FillFirst localFilled [event] := by
  refine ⟨?_, by simp⟩
  rintro _ _ _ ⟨⟩
  cases other

theorem FillFirst.fill {localFilled : Option FractionalShares} {sharesFilled : FractionalShares}
    {avgPrice : Usd} {at_ : Time} (positive : ¬ sharesFilled ≤ 0)
    (uncovered : ¬ coveredLocally localFilled sharesFilled = true) :
    FillFirst localFilled [.partiallyFilled sharesFilled avgPrice at_] := by
  refine ⟨?_, by simp⟩
  rintro _ _ _ ⟨⟩
  exact ⟨not_le.mp positive, by simpa using uncovered⟩

/-- More may follow, as long as it is not a fill. -/
theorem FillFirst.concat {localFilled : Option FractionalShares} {events : List OffchainOrderEvent}
    (first : FillFirst localFilled events) {event : OffchainOrderEvent}
    (other : event.isPartialFill = false) : FillFirst localFilled (events ++ [event]) := by
  cases events with
  | nil => exact .single other
  | cons head tail =>
      refine ⟨first.head, ?_⟩
      intro event' member
      rcases List.mem_append.mp member with earlier | last
      · exact first.tail event' earlier
      · rw [List.mem_singleton.mp last]
        exact other

theorem reconcileTerminalFill_fillFirst {executorOrderId : ExecutorOrderId}
    {localFilled sharesFilled : Option FractionalShares} {avgPrice : Option Usd}
    {brokerTimestamp : Time} {terminalEvent : OffchainOrderEvent}
    {events : List OffchainOrderEvent} (other : terminalEvent.isPartialFill = false)
    (h : reconcileTerminalFill executorOrderId localFilled sharesFilled avgPrice brokerTimestamp
      terminalEvent = .ok events) : FillFirst localFilled events := by
  unfold reconcileTerminalFill at h
  repeat' split at h
  all_goals cases h
  all_goals first
    | exact .single other
    | exact (FillFirst.fill ‹_› ‹_›).concat other

theorem reconcilePreCancel_fillFirst {services : OrderServices}
    {executorOrderId : ExecutorOrderId} {localFilled : Option FractionalShares}
    {reason : CancellationReason} {events : List OffchainOrderEvent}
    (h : reconcilePreCancel services executorOrderId localFilled reason = .ok events) :
    FillFirst localFilled events := by
  unfold reconcilePreCancel at h
  split at h
  case h_1 => cases h
  case h_2 =>
      repeat' split at h
      all_goals cases h
      all_goals first
        | exact .nil _
        | exact .fill ‹_› ‹_›
  case h_3 =>
      cases h
      exact .single rfl
  case h_4 => exact reconcileTerminalFill_fillFirst rfl h
  case h_5 => exact reconcileTerminalFill_fillFirst rfl h
  all_goals
    cases h
    exact .nil _

theorem cancelLiveOrderEvents_fillFirst {services : OrderServices}
    {executorOrderId : ExecutorOrderId} {localFilled : Option FractionalShares}
    {reason : CancellationReason} {events : List OffchainOrderEvent}
    (h : cancelLiveOrderEvents services executorOrderId localFilled reason = .ok events) :
    FillFirst localFilled events := by
  obtain ⟨reconciled, pre, rest⟩ := bind_eq_ok.mp h
  have first := reconcilePreCancel_fillFirst pre
  split at rest
  · cases rest
    exact first
  · split at rest <;> cases rest
    · exact first.concat rfl
    · exact first.concat rfl

/-- Cancelling an order admits what it records. -/
theorem FillFirst.admits {localFilled : Option FractionalShares}
    {events part : List OffchainOrderEvent} {event : OffchainOrderEvent}
    {entity middle : OffchainOrder} (first : FillFirst localFilled events)
    (recorded : localFilled.getD 0 = entity.cumulativeFill)
    (within : part ++ [event] <+: events)
    (reached : aggregate.replay (.live entity) part = .live middle) : middle.Admits event := by
  refine Aggregate.admits_head within reached ?_ ?_
  · intro event found
    cases event with
    | partiallyFilled sharesFilled avgPrice at_ =>
        obtain ⟨positive, uncovered⟩ := first.head _ _ _ found
        intro _
        rw [← recorded]
        cases localFilled with
        | none => exact positive.le
        | some localSharesFilled =>
            have more : localSharesFilled < sharesFilled := by
              simpa [coveredLocally, brokerFillExceedsLocal] using uncovered
            exact more.le
    | _ => trivial
  · intro event member entity
    cases event with
    | partiallyFilled => cases first.tail _ member
    | _ => trivial

theorem admitting : aggregate.Admitting Admits where
  initialise := by
    intro context command events begun part event within entity reached
    change initialise context command = .ok events at begun
    cases command with
    | place =>
        cases begun
        cases event with
        | partiallyFilled =>
            have member := within.subset (List.mem_append_right part (List.mem_singleton_self _))
            cases List.mem_singleton.mp member
        | _ => trivial
    | _ => cases begun
  transition := by
    intro services entity command events moved part event within middle reached
    change entity.transition services command = .ok events at moved
    cases command with
    | cancelOrder reason =>
        cases entity with
        | submitted => exact (cancelLiveOrderEvents_fillFirst moved).admits rfl within reached
        | partiallyFilled => exact (cancelLiveOrderEvents_fillFirst moved).admits rfl within reached
        | cancelling =>
            cases moved
            simp at within
        | pending | filled | failed | cancelled => cases moved
    | place =>
        simp only [transition, validatePlaceReplay] at moved
        split at moved <;> cases moved
        simp at within
    | updatePartialFill sharesFilled avgPrice at_ =>
        cases entity with
        | submitted =>
            cases moved
            exact Aggregate.admits_single within reached fun nonneg => nonneg
        | partiallyFilled terms localFilled =>
            simp only [transition] at moved
            split at moved <;> cases moved
            · rename_i exceeds
              refine Aggregate.admits_single within reached fun _ => ?_
              exact (of_decide_eq_true exceeds).le
            · simp at within
        | cancelling terms retainedFill =>
            simp only [transition] at moved
            split at moved <;> cases moved
            · rename_i exceeds
              refine Aggregate.admits_single within reached fun _ => ?_
              exact (of_decide_eq_true exceeds).le
            · simp at within
        | pending | filled | failed | cancelled => cases moved
    | confirmCancellation | completeFill | markAccepted | markPlacementFailed | markFailed =>
        cases entity <;> cases moved <;> first
          | exact Aggregate.admits_single within reached (show Admits _ _ from trivial)
          | simp at within

/-- Only reports of a negative fill record one. -/
theorem transition_recordsNonneg {services : OrderServices} {entity : OffchainOrder}
    {command : OffchainOrderCommand} {events : List OffchainOrderEvent}
    (nonneg : command.ReportsNonneg) (moved : entity.transition services command = .ok events) :
    ∀ event ∈ events, event.RecordsNonneg := by
  have cancelled : ∀ {localFilled}, FillFirst localFilled events →
      ∀ event ∈ events, event.RecordsNonneg := by
    intro localFilled first event member
    cases event with
    | partiallyFilled =>
        cases events with
        | nil => cases member
        | cons head tail =>
            rcases List.mem_cons.mp member with rfl | later
            · exact (first.head _ _ _ rfl).1.le
            · cases first.tail _ later
    | _ => trivial
  cases command with
  | cancelOrder reason =>
      cases entity with
      | submitted => exact cancelled (cancelLiveOrderEvents_fillFirst moved)
      | partiallyFilled => exact cancelled (cancelLiveOrderEvents_fillFirst moved)
      | cancelling =>
          cases moved
          simp
      | pending | filled | failed | cancelled => cases moved
  | place =>
      simp only [transition, validatePlaceReplay] at moved
      split at moved <;> cases moved
      simp
  | updatePartialFill =>
      have reported : (0 : ℚ) ≤ _ := nonneg
      cases entity with
      | partiallyFilled | cancelling =>
          simp only [transition] at moved
          split at moved <;> cases moved <;> simp [OffchainOrderEvent.RecordsNonneg, reported]
      | submitted =>
          cases moved
          simp [OffchainOrderEvent.RecordsNonneg, reported]
      | pending | filled | failed | cancelled => cases moved
  | confirmCancellation | completeFill | markAccepted | markPlacementFailed | markFailed =>
      cases entity <;> cases moved <;> simp [OffchainOrderEvent.RecordsNonneg]

/-- A run in which no negative fill is reported records none. -/
theorem sends_recordsNonneg {commands : List (OrderServices × OffchainOrderCommand)}
    (reported : ∀ step ∈ commands, step.2.ReportsNonneg) :
    ∀ event ∈ aggregate.sends commands [], event.RecordsNonneg := by
  refine aggregate.sends_invariant_of (fun stream => ∀ event ∈ stream, event.RecordsNonneg)
    (fun step => step.2.ReportsNonneg) ?_ reported (by simp)
  intro services command stream events nonneg sofar sent event member
  rcases List.mem_append.mp member with earlier | added
  · exact sofar event earlier
  · rcases aggregate.send_eq_ok.mp sent with ⟨_, begun⟩ | ⟨entity, _, moved⟩
    · change initialise services command = .ok events at begun
      cases command <;> cases begun
      cases List.mem_singleton.mp added
      trivial
    · exact transition_recordsNonneg nonneg moved event added

/-! ## What an order never loses -/

/-- A later state of an order, with everything it had. -/
structure Progress (order later : OffchainOrder) : Prop where
  evolved : Evolved order later
  coherent : later.Coherent
  executor : later.executor = order.executor
  placedAt : later.placedAt = order.placedAt

theorem Progress.pointsAt {order later : OffchainOrder} (progress : Progress order later)
    {id : ExecutorOrderId} (known : order.pointsAt = some id) : later.pointsAt = some id := by
  have left : order.isPending = false := by
    cases order with
    | pending => cases known
    | _ => rfl
  rw [(progress.evolved.submitted left).2.2, known]

theorem Progress.step {first order next : OffchainOrder} {event : OffchainOrderEvent}
    (progress : Progress first order) (evolved : order.evolve event = .ok (some next)) :
    Progress first next := by
  obtain ⟨step, coherent⟩ := evolve_evolved progress.coherent evolved
  have kept : next.executor = order.executor ∧ next.placedAt = order.placedAt := by
    cases event <;> cases order <;> cases evolved <;> exact ⟨rfl, rfl⟩
  exact ⟨progress.evolved.trans step, coherent, kept.1.trans progress.executor,
    kept.2.trans progress.placedAt⟩

/-- A fill is only ever replaced by one that covers it. -/
theorem cumulativeFill_step {order next : OffchainOrder} {event : OffchainOrderEvent}
    (nonneg : event.RecordsNonneg) (added : aggregate.Added Admits order event next) :
    order.isFilled = false ∧
      (next.isFilled = false → order.cumulativeFill ≤ next.cumulativeFill) := by
  obtain ⟨admitted, evolved⟩ := added
  change order.evolve event = .ok (some next) at evolved
  cases event with
  | partiallyFilled =>
      have covers := admitted nonneg
      cases order <;> cases evolved <;> exact ⟨rfl, fun _ => covers⟩
  | _ => cases order <;> cases evolved <;> exact ⟨rfl, fun open_ => by cases open_ <;> rfl⟩

/-- Every fill that is kept has its price. -/
def Priced (order : OffchainOrder) : Prop :=
  ∀ retained, order.recordedFill = some retained →
    ∃ sharesFilled avgPrice at_, retained = .priced sharesFilled avgPrice at_

theorem Priced.evolve {order next : OffchainOrder} {event : OffchainOrderEvent}
    (priced : Priced order) (evolved : order.evolve event = .ok (some next)) : Priced next := by
  cases event <;> cases order <;> cases evolved <;> first
    | exact priced
    | (rintro _ ⟨⟩; exact ⟨_, _, _, rfl⟩)
    | nofun

theorem Priced.written {stream : List OffchainOrderEvent} {order : OffchainOrder}
    (written : aggregate.Written (aggregate.Added Admits) stream order) : Priced order := by
  induction written with
  | @first event order originates =>
      cases event <;> cases originates
      nofun
  | next written added ih => exact ih.evolve added.2

theorem accepting : aggregate.Accepting where
  initialise := by
    intro services command events begun
    change initialise services command = .ok events at begun
    cases command <;> cases begun
    nofun
  transition := by
    intro services entity command events moved
    obtain ⟨next, applied⟩ := transition_applies moved
    rw [applied]
    nofun

/-- An ended order is what it is. -/
theorem sends_of_isTerminal (more : List (OrderServices × OffchainOrderCommand))
    {stream : List OffchainOrderEvent} {ended : OffchainOrder}
    (live : aggregate.lifecycle stream = .live ended) (terminal : ended.isTerminal) :
    aggregate.lifecycle (aggregate.sends more stream) = .live ended := by
  refine aggregate.sends_invariant (fun stream => aggregate.lifecycle stream = .live ended) ?_
    more live
  intro services command stream events sofar sent
  obtain ⟨next, live, step⟩ := send_continues sent ended sofar
  rw [live, step.terminal terminal]

/-- What holds of the orders at two moments of a run. -/
structure KeptBetween (first last : OffchainOrder) : Prop where
  symbol : last.symbol = first.symbol
  direction : last.direction = first.direction
  executor : last.executor = first.executor
  placedAt : last.placedAt = first.placedAt
  executorOrderId : ∀ id, first.pointsAt = some id → last.pointsAt = some id

/-- The life of an order, over every run of commands: its own events are accepted,
an ended order stays as it is, nothing is lost on the way, every kept fill has a
price, and unless a negative fill is reported the recorded fill only grows. -/
theorem order_lifecycle (commands : List (OrderServices × OffchainOrderCommand)) :
    let stream := aggregate.sends commands []
    (∀ before, before <+: stream → aggregate.lifecycle before ≠ .failed) ∧
      (∀ more ended, aggregate.lifecycle stream = .live ended → ended.isTerminal →
        aggregate.lifecycle (aggregate.sends (commands ++ more) []) = .live ended) ∧
      (∀ before during first last, before ++ during <+: stream →
        aggregate.lifecycle before = .live first →
        aggregate.lifecycle (before ++ during) = .live last →
          KeptBetween first last ∧
          ((∀ step ∈ commands, step.2.ReportsNonneg) → last.isFilled = false →
            first.cumulativeFill ≤ last.cumulativeFill)) ∧
      ∀ before last, before <+: stream → aggregate.lifecycle before = .live last → Priced last := by
  intro stream
  have accepted : aggregate.lifecycle stream ≠ .failed := accepting.sends commands
  refine ⟨fun before part => Aggregate.lifecycle_ne_failed_of_prefix part accepted, ?_, ?_, ?_⟩
  · intro more ended live terminal
    rw [Aggregate.sends_append]
    exact sends_of_isTerminal more live terminal
  · intro before during first last part starts ends
    constructor
    · have start : Progress first first := ⟨.refl _, lifecycle_coherent starts, rfl, rfl⟩
      have progress : Progress first last := by
        refine admitting.between commands part starts ends (Progress first) start ?_
        exact fun _ sofar added => sofar.step added.2
      exact ⟨progress.evolved.symbol, progress.evolved.direction, progress.executor,
        progress.placedAt, fun id => progress.pointsAt⟩
    · intro reported unfilled
      have grows : last.isFilled = false → first.cumulativeFill ≤ last.cumulativeFill := by
        refine admitting.between commands part starts ends
          (fun order => order.isFilled = false → first.cumulativeFill ≤ order.cumulativeFill)
          (fun _ => le_rfl) ?_
        intro order event next member sofar added _
        have recorded : event.RecordsNonneg :=
          sends_recordsNonneg reported event (part.subset (List.mem_append_right before member))
        obtain ⟨open_, covers⟩ := cumulativeFill_step recorded added
        exact (sofar open_).trans (covers ‹_›)
      exact grows unfilled
  · intro before last part live
    exact .written (admitting.written commands part live)

/-- An order that is filled a little while its cancellation is under way. -/
def cancelledRun : List (OrderServices × OffchainOrderCommand) :=
  let services (now : Time) (status : OrderState) : OrderServices :=
    ⟨now, some status, some .requested⟩
  [(services 1 .pending, .place "AAPL" ⟨5, Positive.five_pos⟩ .sell .dryRun ⟨7⟩ .market),
    (services 2 .pending, .markAccepted ⟨"b1"⟩ ⟨5, Positive.five_pos⟩ 2 .regular none),
    (services 3 .pending, .updatePartialFill 1 10 3),
    (services 4 (.partiallyFilled ⟨"b1"⟩ 2 (some 11) 4), .cancelOrder .unrequested),
    (services 5 .pending, .updatePartialFill 1 10 3),
    (services 6 .pending, .confirmCancellation 6),
    (services 7 .pending, .completeFill 12 7)]

theorem order_lifecycle_cancelled : ∃ first last,
    aggregate.lifecycle ((aggregate.sends cancelledRun []).take 3) = .live first ∧
      aggregate.lifecycle (aggregate.sends cancelledRun []) = .live last ∧
      KeptBetween first last ∧ first.cumulativeFill ≤ last.cumulativeFill ∧
      last.cumulativeFill = 2 := by
  have early : aggregate.lifecycle ((aggregate.sends cancelledRun []).take 3) =
      .live (.partiallyFilled ⟨"AAPL", ⟨5, Positive.five_pos⟩, .sell, .dryRun, 1⟩ 1 ⟨"b1"⟩ 10 2 3
        .regular) := by decide +kernel
  have late : aggregate.lifecycle (aggregate.sends cancelledRun []) =
      .live (.cancelled ⟨"AAPL", ⟨5, Positive.five_pos⟩, .sell, .dryRun, 1⟩ (some (.priced 2 11 4))
        ⟨"b1"⟩ .unrequested 6) := by decide +kernel
  have life := order_lifecycle cancelledRun
  have whole : (aggregate.sends cancelledRun []).take 3 ++ (aggregate.sends cancelledRun []).drop 3 =
      aggregate.sends cancelledRun [] := List.take_append_drop ..
  obtain ⟨kept, grows⟩ := life.2.2.1 _ _ _ _ (by rw [whole]) early (by rw [whole]; exact late)
  refine ⟨_, _, early, late, kept, grows ?_ rfl, rfl⟩
  simp [cancelledRun, OffchainOrderCommand.ReportsNonneg]

end OffchainOrder

end Liquidity
