import Liquidity.Hedging.Discipline

/-!
# Every hedging job is disciplined

Each program is followed through its operations once. What it carries from one
operation to the next is stable under `Moves`: an order it has seen is still
there, evolved (`Was`), and an identifier stays with its symbol. The results are
assembled in `disciplined`, the only statement the later modules use.
-/

namespace Liquidity.Hedging

open EventSourcing Process OffchainOrder

/-- The order stored under this identifier has been `order` at some time. -/
def Was (order : OffchainOrder) (id : OffchainOrderId) (world : World) : Prop :=
  ∃ current, OffchainOrder.aggregate.lifecycle (world.orders id) = .live current ∧
    Evolved order current

/-- A loaded order has been stored under this identifier, if there was one. -/
def Seen (loaded : Option OffchainOrder) (id : OffchainOrderId) (world : World) : Prop :=
  ∀ order, loaded = some order → Was order id world

theorem Was.moved {order : OffchainOrder} {id : OffchainOrderId} {world later : World}
    (was : Was order id world) (moved : Moves world later) : Was order id later := by
  obtain ⟨current, live, evolved⟩ := was
  obtain ⟨next, live', step⟩ := moved.orders id current live
  exact ⟨next, live', evolved.trans step⟩

/-- An order that has ended is still stored as it ended. -/
theorem Was.ended {order : OffchainOrder} {id : OffchainOrderId} {world : World}
    (was : Was order id world) (terminal : order.isTerminal) :
    OffchainOrder.aggregate.lifecycle (world.orders id) = .live order := by
  obtain ⟨current, live, evolved⟩ := was
  rwa [evolved.terminal terminal] at live

section Fits

variable [FloatFormat] {world : World} {id : OffchainOrderId}

/-- A command that finishes an order fits if, when it acts on a sound basis, it
accounts for the order. -/
theorem fit_finishes {order : OffchainOrder} {command : PositionCommand} {basis : Basis}
    (was : Was order id world) (finishes : Finishes command id order)
    (accounts : basis.Sound (world.orders id) → AccountsFor command id (world.orders id))
    (symbol : Symbol) : Fit (.sendPosition symbol command basis) world := by
  rcases finishes with ⟨_, _, _, _, rfl, points⟩ | ⟨_, _, rfl⟩ | ⟨_, rfl⟩
  · obtain ⟨current, live, evolved⟩ := was
    have left : order.isPending = false := by
      cases order with
      | pending => cases points
      | _ => rfl
    refine ⟨accounts, current, live, evolved.direction, ?_⟩
    rw [(evolved.submitted left).2.2, points]
    rfl
  · exact accounts
  · exact accounts

/-- The classifier's command for an ended order fits. -/
theorem fit_finalizing {order : OffchainOrder} {command : PositionCommand}
    (was : Was order id world) (chosen : finalizingCommand order id = some command)
    (symbol : Symbol) (basis : Basis) : Fit (.sendPosition symbol command basis) world := by
  have live := was.ended (finalizingCommand_isTerminal chosen)
  refine fit_finishes was (finalizingCommand_finishes chosen) ?_ symbol
  intro _ stored shares found filled
  rw [live] at found
  cases found
  obtain ⟨executorOrderId, price, at_, same⟩ :=
    finalizingCommand_of_fill (lifecycle_coherent live) filled id
  rw [chosen] at same
  exact ⟨executorOrderId, price, at_, Option.some.inj same⟩

/-- Releasing the claim without a fill fits: it is sound only if there is none. -/
theorem fit_unfilled {basis : Basis} (unfilled : basis = .failedOrder ∨ basis = .noOrder)
    (symbol : Symbol) (error : String) :
    Fit (.sendPosition symbol (.failOffChainOrder id error) basis) world := by
  intro sound stored shares found filled
  have none_stored : storedFill (world.orders id) = none := by
    rcases unfilled with rfl | rfl <;> exact sound
  rw [storedFill, found] at none_stored
  exact absurd (filled.symm.trans none_stored) (by simp)

omit [FloatFormat] in
/-- The command of a rejection completes with the fill its snapshot has. -/
theorem rejectionCommand_of_fill {order : OffchainOrder} (coherent : order.Coherent)
    (notFilled : ∀ terms executorOrderId price submittedAt filledAt,
      order ≠ .filled terms executorOrderId price submittedAt filledAt)
    {shares : Positive} (filled : pricedFill order.recordedFill = some shares) (error : String) :
    ∃ executorOrderId price brokerTimestamp,
      rejectionCommand id error order = .completeOffChainOrder id shares order.direction
        executorOrderId price brokerTimestamp := by
  have positive : Positive.new shares.inner = some shares := Positive.new_eq_some.mpr rfl
  cases order with
  | pending | submitted => cases filled
  | filled => exact absurd rfl (notFilled _ _ _ _ _)
  | partiallyFilled terms sharesFilled executorOrderId avgPrice submittedAt at_ session =>
      obtain rfl := Positive.new_eq_some.mp filled
      exact ⟨executorOrderId, avgPrice, at_, by
        simp [rejectionCommand, positionCommandForRetainedFill, positive, direction,
          OffchainOrder.terms]⟩
  | cancelling terms retainedFill executorOrderId reason submittedAt requestedAt session =>
      obtain ⟨avgPrice, at_, rfl⟩ := pricedFill_eq_some filled
      exact ⟨executorOrderId, avgPrice, at_, by
        simp [rejectionCommand, positionCommandForRetainedFill, positive, direction,
          OffchainOrder.terms]⟩
  | failed terms retainedFill executorOrderId reason failedAt =>
      obtain ⟨avgPrice, at_, rfl⟩ := pricedFill_eq_some filled
      cases executorOrderId with
      | none => cases coherent
      | some executorOrderId =>
          exact ⟨executorOrderId, avgPrice, at_, by
            simp [rejectionCommand, positionCommandForRetainedFill, positive, direction,
              OffchainOrder.terms]⟩
  | cancelled terms retainedFill executorOrderId reason cancelledAt =>
      obtain ⟨avgPrice, at_, rfl⟩ := pricedFill_eq_some filled
      exact ⟨executorOrderId, avgPrice, at_, by
        simp [rejectionCommand, terminalPositionFinalization, classifyTerminalFill, positive,
          direction, OffchainOrder.terms]⟩

omit [FloatFormat] in
/-- Whatever a rejection sends finishes the order. -/
theorem rejectionCommand_finishes (id : OffchainOrderId) (order : OffchainOrder) (error : String) :
    Finishes (rejectionCommand id error order) id order := by
  have retained : ∀ sharesFilled executorOrderId avgPrice at_,
      order.pointsAt = some executorOrderId →
      Finishes (positionCommandForRetainedFill id sharesFilled order.direction executorOrderId
        avgPrice at_ error) id order := by
    intro sharesFilled executorOrderId avgPrice at_ points
    unfold positionCommandForRetainedFill
    split
    · exact .inr (.inr ⟨_, rfl⟩)
    · exact .inl ⟨_, _, _, _, rfl, points⟩
  cases order with
  | pending | submitted | filled => exact .inr (.inr ⟨error, rfl⟩)
  | partiallyFilled => exact retained _ _ _ _ rfl
  | cancelling terms retainedFill =>
      match retainedFill with
      | some (.priced ..) => exact retained _ _ _ _ rfl
      | some (.unpriced _) | none => exact .inr (.inr ⟨error, rfl⟩)
  | failed terms retainedFill executorOrderId =>
      match retainedFill, executorOrderId with
      | some (.priced ..), some _ => exact retained _ _ _ _ rfl
      | some (.priced ..), none | some (.unpriced _), _ | none, _ =>
          exact .inr (.inr ⟨error, rfl⟩)
  | cancelled terms retainedFill executorOrderId reason cancelledAt =>
      match retainedFill with
      | none => exact .inr (.inl ⟨reason, cancelledAt, rfl⟩)
      | some (.unpriced sharesFilled) =>
          simp only [rejectionCommand, terminalPositionFinalization, classifyTerminalFill]
          split <;> rename_i classified <;> split at classified <;> cases classified
          · exact .inr (.inl ⟨_, _, rfl⟩)
          · exact .inr (.inr ⟨_, rfl⟩)
      | some (.priced sharesFilled avgPrice at_) =>
          simp only [rejectionCommand, terminalPositionFinalization, classifyTerminalFill]
          split <;> rename_i classified <;> split at classified <;> cases classified
          · exact .inl ⟨_, _, _, _, rfl, rfl⟩
          · exact .inr (.inl ⟨_, _, rfl⟩)

/-- A rejection of an order that was not filled when it was seen fits. -/
theorem fit_rejection {order : OffchainOrder} (was : Was order id world)
    (coherent : order.Coherent)
    (notFilled : ∀ terms executorOrderId price submittedAt filledAt,
      order ≠ .filled terms executorOrderId price submittedAt filledAt)
    (symbol : Symbol) (error : String) :
    Fit (.sendPosition symbol (rejectionCommand id error order) (.rejected order)) world := by
  refine fit_finishes was (rejectionCommand_finishes id order error) ?_ symbol
  intro sound stored shares found filled
  have same : pricedFill order.recordedFill = some shares := by
    simp only [Basis.Sound, storedFill, found, filled] at sound
    rcases sound with absent | same
    · cases absent
    · exact same.symm
  obtain ⟨current, live, evolved⟩ := was
  rw [live] at found
  cases found
  obtain ⟨executorOrderId, price, at_, completes⟩ :=
    rejectionCommand_of_fill coherent notFilled same error
  exact ⟨executorOrderId, price, at_, evolved.direction ▸ completes⟩

end Fits

/-! ## Single operations -/

section Conduct

variable [FloatFormat]

/-- A piece of a hedging job, followed through its operations. -/
abbrev Conducts {α : Type} (program : Hedge α) (post : Except HedgeError α → World → Prop)
    (world : World) : Prop :=
  program.Fits handle Consistent Moves Fit post world

/-- Nothing is asked of the result. -/
abbrev anyhow {α : Type} : Except HedgeError α → World → Prop := fun _ _ => True

/-- Asked only of a job that goes on. -/
abbrev onOk {α : Type} (post : α → World → Prop) : Except HedgeError α → World → Prop
  | .ok value, world => post value world
  | .error _, _ => True

variable {world : World} {symbol : Symbol} {id : OffchainOrderId}

/-- The claim and the anchor of a loaded position belong to its symbol. -/
def Owned (position : Option Position) (symbol : Symbol) (world : World) : Prop :=
  ∀ found, position = some found → ∀ id,
    found.pendingOffchainOrderId = some id ∨ found.lastFailedOffchainOrderId = some id →
      (id, symbol) ∈ world.minted

theorem Consistent.owned (h : Consistent world) {viewed : List PositionEvent}
    (seen : viewed <+: world.positions symbol) {position : Position}
    (live : Position.aggregate.lifecycle viewed = .live position) :
    Owned (some position) symbol world := by
  intro found isFound id slot
  cases isFound
  obtain ⟨event, member, placed⟩ := Position.slot_placed live slot
  exact h.placed symbol event (seen.subset member) id placed

theorem conducts_loadPosition :
    Conducts (loadPosition symbol) (onOk fun position after => Owned position symbol after)
      world := by
  refine Prog.Fits.perform fun s₁ _ books => ⟨trivial, ?_⟩
  intro choice answer s₂ handled _ _
  obtain ⟨rfl, loaded⟩ := handle_loadPosition handled
  refine Prog.Fits.lift ?_
  cases answer with
  | error => trivial
  | ok position =>
      rintro found rfl
      exact books.owned (List.prefix_refl _) (loaded found rfl) found rfl

theorem conducts_loadOrder :
    Conducts (loadOrder id) (onOk fun order after => Seen order id after) world := by
  refine Prog.Fits.perform fun s₁ _ _ => ⟨trivial, ?_⟩
  intro choice answer s₂ handled _ _
  obtain ⟨rfl, loaded⟩ := handle_loadOrder handled
  refine Prog.Fits.lift ?_
  cases answer with
  | error => trivial
  | ok order =>
      rintro found rfl
      exact ⟨found, loaded found rfl, Evolved.refl _⟩

/-- What a view shows has been stored: the order has only evolved since. -/
theorem conducts_loadOrderView :
    Conducts (loadOrderView id) (onOk fun order after => Seen order id after) world := by
  refine Prog.Fits.perform fun s₁ _ books => ⟨trivial, ?_⟩
  intro choice answer s₂ handled _ _
  obtain ⟨rfl, loaded⟩ := handle_loadOrderView handled
  refine Prog.Fits.lift ?_
  cases answer with
  | error => trivial
  | ok order =>
      rintro found rfl
      obtain ⟨viewed, ⟨rest, whole⟩, live⟩ := loaded found rfl
      have replayed : OffchainOrder.aggregate.lifecycle (s₂.orders id) =
          OffchainOrder.aggregate.replay (.live found) rest := by
        rw [← whole, Aggregate.lifecycle_append, live]
      cases now : OffchainOrder.aggregate.lifecycle (s₂.orders id) with
      | live current =>
          exact ⟨current, now, replay_evolved (lifecycle_coherent live) (replayed ▸ now)⟩
      | failed => exact absurd now (books.sane id)
      | uninitialized =>
          have empty := OffchainOrder.aggregate.lifecycle_eq_uninitialized.mp now
          rw [empty] at whole
          obtain ⟨rfl, -⟩ := List.append_eq_nil_iff.mp whole
          cases live

theorem conducts_trySendPosition {command : PositionCommand} {basis : Basis}
    (fits : ∀ later, Moves world later → Fit (.sendPosition symbol command basis) later) {α : Type}
    {f : Except (SendError PositionError) Unit → Hedge α}
    {post : Except HedgeError α → World → Prop}
    (next : ∀ answer later, Moves world later → Consistent later →
      Conducts (f answer) post later) :
    Conducts (trySendPosition symbol command basis >>= f) post world := by
  refine Prog.Fits.perform fun s₁ moved books => ⟨fits s₁ moved, ?_⟩
  intro choice answer s₂ handled books₂ moved₂
  exact next answer s₂ (moved.trans moved₂) books₂

theorem conducts_sendPosition {command : PositionCommand} {basis : Basis}
    (fits : ∀ later, Moves world later → Fit (.sendPosition symbol command basis) later) :
    Conducts (sendPosition symbol command basis) anyhow world :=
  conducts_trySendPosition fits fun _ _ _ _ => Prog.Fits.lift trivial

/-- A command on an order, with what its acceptance tells. -/
theorem conducts_sendOrder {command : OffchainOrderCommand} (tells : World → Prop)
    (fits : ∀ later, Moves world later → Consistent later → Fit (.sendOrder id command) later)
    (accepted : ∀ before services events, Moves world before → Consistent before →
      OffchainOrder.aggregate.send services command (before.orders id) = .ok events →
        tells { before with orders := before.orders.append id events }) :
    Conducts (sendOrder id command) (onOk fun _ => tells) world := by
  refine Prog.Fits.perform fun s₁ moved books => ⟨fits s₁ moved books, ?_⟩
  intro choice answer s₂ handled _ _
  refine Prog.Fits.lift ?_
  rcases handle_sendOrder handled with ⟨rfl, error, rfl⟩ | ⟨events, sent, rfl, rfl⟩
  · trivial
  · exact accepted s₁ choice.services events moved books sent

theorem conducts_push {job : Job} (fits : ∀ later, Moves world later → Fit (.push job) later) :
    Conducts (push job) anyhow world := by
  refine Prog.Fits.perform fun s₁ moved books => ⟨fits s₁ moved, ?_⟩
  intro choice answer s₂ handled _ _
  exact Prog.Fits.lift trivial

/-- Commands on an order that neither create nor accept it fit in every state. -/
theorem conducts_sendOrder_plain {command : OffchainOrderCommand}
    (plain : ∀ later, Fit (.sendOrder id command) later) :
    Conducts (sendOrder id command) anyhow world := by
  refine Prog.Fits.perform fun s₁ _ _ => ⟨plain s₁, ?_⟩
  intro choice answer s₂ handled _ _
  exact Prog.Fits.lift trivial

/-- The world a piece of a job leaves behind has moved forward. -/
theorem Conducts.framed {α : Type} {program : Hedge α} {post : Except HedgeError α → World → Prop}
    (h : Conducts program post world) :
    Conducts program (fun result after => post result after ∧ Moves world after) world :=
  h.frame Moves.refl fun _ _ _ => Moves.trans

/-! ## Jobs that finish an order -/

theorem conducts_sendIfClaimed {command : PositionCommand} {basis : Basis}
    (fits : ∀ later, Moves world later → Fit (.sendPosition symbol command basis) later) :
    Conducts (sendIfClaimed symbol id command basis) anyhow world := by
  refine Prog.Fits.perform fun s₁ moved _ => ⟨trivial, ?_⟩
  intro choice answer s₂ handled _ moved₂
  have reached : Conducts (Prog.liftExcept (answer.mapError .position))
      (fun _ after => Moves world after) s₂ := Prog.Fits.lift (moved.trans moved₂)
  refine reached.seq (fun position after moved₃ => ?_) (fun _ _ _ => trivial)
  split
  · trivial
  · exact conducts_sendPosition fun later moved₄ => fits later (moved₃.trans moved₄)

theorem conducts_reconcileOrderFill (job : ReconcileOrderFill) :
    Conducts (reconcileOrderFill job) anyhow world := by
  -- Whoever filled the order, it keeps the quantity it was accepted with.
  have filled : ∀ {order : OffchainOrder} {before : World}
      {terms : OrderTerms} {executorOrderId : ExecutorOrderId} {price : Usd} {at₁ at₂ : Time},
      terms = order.terms →
      OffchainOrder.aggregate.lifecycle (before.orders job.offchainOrderId) =
        .live (.filled terms executorOrderId price at₁ at₂) →
      ∀ later, Moves before later →
        Fit (.sendPosition order.symbol (reconciledFill job order) .unspecified) later := by
    intro order before terms executorOrderId price at₁ at₂ same live later moved
    have ended := (Was.moved ⟨_, live, Evolved.refl _⟩ moved).ended rfl
    refine ⟨fun _ stored shares found isFilled => ?_, _, ended, ?_⟩
    · rw [ended] at found
      cases found
      cases isFilled
      exact ⟨_, _, _, by rw [same]; rfl⟩
    · rw [same]
      exact ⟨rfl, rfl⟩
  have afterCompletion : ∀ {order : OffchainOrder} {before : World},
      Was order job.offchainOrderId before → order.isPending = false →
      Conducts (do
        sendOrder job.offchainOrderId (.completeFill job.price job.brokerTimestamp)
        sendIfClaimed order.symbol job.offchainOrderId (reconciledFill job order) .unspecified)
        anyhow before := by
    intro order before was submitted
    refine (conducts_sendOrder (fun after => ∃ executorOrderId submittedAt,
        OffchainOrder.aggregate.lifecycle (after.orders job.offchainOrderId) =
          .live (.filled order.terms executorOrderId job.price submittedAt job.brokerTimestamp))
      (fun _ _ _ => by exact trivial) ?_).seq ?_ (fun _ _ _ => trivial)
    · intro s₁ services events moved _ sent
      obtain ⟨earlier, executorOrderId, submittedAt, present, live⟩ := send_completeFill sent
      obtain ⟨current, found, evolved⟩ := was.moved moved
      rw [present] at found
      cases found
      rw [← (evolved.submitted submitted).2.1]
      exact ⟨executorOrderId, submittedAt, by simpa using live⟩
    · rintro _ after ⟨executorOrderId, submittedAt, live⟩
      exact conducts_sendIfClaimed (filled rfl live)
  refine conducts_loadOrder.seq (fun loaded before seen => ?_) (fun _ _ _ => trivial)
  cases loaded with
  | none => trivial
  | some order =>
      have was := seen order rfl
      cases order with
      | filled => exact conducts_sendIfClaimed (filled rfl (was.ended rfl))
      | submitted | partiallyFilled | cancelling => exact afterCompletion was rfl
      | pending | failed | cancelled => trivial

theorem conducts_handleOrderRejection (job : HandleOrderRejection) (now : Time) :
    Conducts (handleOrderRejection job now) anyhow world := by
  have rejects : ∀ {order : OffchainOrder} {before : World},
      Was order job.offchainOrderId before → order.Coherent →
      (∀ terms executorOrderId price submittedAt filledAt,
        order ≠ .filled terms executorOrderId price submittedAt filledAt) →
      Conducts (sendIfClaimed order.symbol job.offchainOrderId
        (rejectionCommand job.offchainOrderId job.error order) (.rejected order)) anyhow before :=
    fun was coherent notFilled => conducts_sendIfClaimed fun _ moved =>
      fit_rejection (was.moved moved) coherent notFilled _ _
  refine conducts_loadOrder.seq (fun loaded before seen => ?_) (fun _ _ _ => trivial)
  match loaded, seen with
  | none, _ => trivial
  | some order, seen =>
      have was := seen order rfl
      cases order with
      | failed => exact rejects was (lifecycle_coherent (was.ended rfl)) (by simp)
      | cancelled => exact rejects was trivial (by simp)
      | pending | submitted | partiallyFilled | cancelling =>
          refine (conducts_sendOrder_plain fun _ => by exact trivial).framed.seq ?_
            (fun _ _ _ => trivial)
          rintro _ after ⟨-, moved⟩
          exact rejects (was.moved moved) trivial (by simp)
      | filled => trivial

/-! ## Polling -/

theorem conducts_finalizePositionForTerminalOrder :
    Conducts (finalizePositionForTerminalOrder id symbol) anyhow world := by
  refine conducts_loadOrderView.seq (fun loaded before seen => ?_) (fun _ _ _ => trivial)
  cases loaded with
  | none => trivial
  | some order =>
      have was := seen order rfl
      dsimp only
      split
      · trivial
      · rename_i command chosen
        exact conducts_sendIfClaimed fun later moved => fit_finalizing (was.moved moved) chosen _ _

theorem conducts_recordPartialFill (brokerSharesFilled : FractionalShares) (avgPrice : Option Usd)
    (at_ : Time) :
    Conducts (recordPartialFill id brokerSharesFilled avgPrice at_) anyhow world := by
  unfold recordPartialFill
  split
  · trivial
  · split
    · trivial
    · refine conducts_loadOrderView.seq (fun loaded before _ => ?_) (fun _ _ _ => trivial)
      split
      · trivial
      · exact conducts_sendOrder_plain fun _ => by exact trivial

theorem conducts_enqueueRejection (errorReason : Option String) (brokerFailedAt : Option Time) :
    Conducts (enqueueRejection id errorReason brokerFailedAt) anyhow world :=
  conducts_push fun _ _ => trivial

theorem conducts_recoverUnrequestedCancellation (cancelledAt : Time) :
    Conducts (recoverUnrequestedCancellation id symbol cancelledAt) anyhow world := by
  refine (conducts_sendOrder_plain fun _ => by exact trivial).seq (fun _ before _ => ?_)
    (fun _ _ _ => trivial)
  refine conducts_loadOrder.seq (fun loaded after _ => ?_) (fun _ _ _ => trivial)
  split
  · trivial
  · exact (conducts_sendOrder_plain fun _ => by exact trivial).seq
      (fun _ _ _ => conducts_finalizePositionForTerminalOrder) (fun _ _ _ => trivial)
  · exact conducts_finalizePositionForTerminalOrder

theorem conducts_confirmCancellation (cancelledAt : Time) :
    Conducts (confirmCancellation id symbol cancelledAt) anyhow world := by
  refine conducts_loadOrderView.seq (fun loaded after _ => ?_) (fun _ _ _ => trivial)
  split
  · trivial
  · exact (conducts_sendOrder_plain fun _ => by exact trivial).seq
      (fun _ _ _ => conducts_finalizePositionForTerminalOrder) (fun _ _ _ => trivial)
  · exact conducts_recoverUnrequestedCancellation _
  · exact conducts_recoverUnrequestedCancellation _
  all_goals exact conducts_enqueueRejection _ _

theorem conducts_dispatchForBrokerState (state : OrderState) :
    Conducts (dispatchForBrokerState id symbol state) anyhow world := by
  unfold dispatchForBrokerState
  split
  · exact conducts_push fun _ _ => trivial
  · exact (conducts_recordPartialFill _ _ _).seq (fun _ _ _ => conducts_enqueueRejection _ _)
      (fun _ _ _ => trivial)
  · split
    · trivial
    · exact conducts_enqueueRejection _ _
  · exact conducts_enqueueRejection _ _
  · split
    · split
      · exact (conducts_recordPartialFill _ _ _).seq
          (fun _ _ _ => conducts_confirmCancellation _) (fun _ _ _ => trivial)
      · trivial
    · exact conducts_confirmCancellation _
  · exact (conducts_recordPartialFill _ _ _).seq (fun _ _ _ => conducts_push fun _ _ => trivial)
      (fun _ _ _ => trivial)
  · exact conducts_push fun _ _ => trivial
  · exact conducts_push fun _ _ => trivial

theorem conducts_pollOrderStatus (config : HedgeConfig) :
    Conducts (pollOrderStatus config id) anyhow world := by
  refine conducts_loadOrderView.seq (fun loaded before _ => ?_) (fun _ _ _ => trivial)
  split
  · trivial
  · split
    · trivial
    · split
      · trivial
      · trivial
      · exact conducts_finalizePositionForTerminalOrder
      · exact conducts_push fun _ _ => trivial
      -- A live order is asked about at the broker.
      all_goals
        refine Prog.Fits.perform fun s₁ _ _ => ⟨trivial, ?_⟩
        intro choice answer s₂ _ _ _
        cases answer with
        | error => trivial
        | ok state => exact conducts_dispatchForBrokerState state

/-! ## Placing -/

/-- The broker holds an order of this identifier and symbol, and of this side
unless sides have crossed. -/
def Holds (id : ExecutorOrderId) (symbol : Symbol) (side : Direction) (world : World) : Prop :=
  ∃ held ∈ world.broker, held.id = id ∧ held.symbol = symbol ∧
    (held.side = side ∨ CrossedSides world)

omit [FloatFormat] in
theorem Holds.moved {executorOrderId : ExecutorOrderId} {side : Direction} {later : World}
    (holds : Holds executorOrderId symbol side world) (moved : Moves world later) :
    Holds executorOrderId symbol side later := by
  obtain ⟨held, member, sameId, sameSymbol, sameSide⟩ := holds
  refine ⟨held, moved.broker.subset member, sameId, sameSymbol, sameSide.imp_right ?_⟩
  rintro ⟨entry, met, crossed⟩
  exact ⟨entry, moved.duplicates met, crossed⟩

omit [FloatFormat] in
theorem held_moved {key : ClientOrderId} {existing : BrokerOrder} {later : World}
    (held : world.held key = some existing) (moved : Moves world later) :
    later.held key = some existing := by
  obtain ⟨rest, same⟩ := moved.broker
  unfold World.held at held ⊢
  rw [← same, List.find?_append, held]
  rfl

/-- The order under a key has the symbol the key was drawn for. -/
theorem Consistent.held_symbol (h : Consistent world) {key : ClientOrderId}
    {existing : BrokerOrder} (held : world.held key = some existing)
    (owned : (⟨key.uuid⟩, symbol) ∈ world.minted) :
    existing ∈ world.broker ∧ existing.symbol = symbol := by
  have member := List.mem_of_find?_eq_some held
  have sameKey : existing.clientOrderId = key := by simpa using List.find?_some held
  have known := h.keys existing member
  rw [sameKey] at known
  exact ⟨member, h.unique _ _ _ known owned⟩

/-- A successful placement names a broker order of the requested symbol and, if it
was adopted, of the requested side unless sides have crossed. -/
theorem conducts_placeOrAdopt {request : OrderRequest} {fallbackExtended : Bool}
    {fallbackPrice : Option Positive}
    (owned : (⟨request.clientOrderId.uuid⟩, request.symbol) ∈ world.minted) :
    Conducts (placeOrAdopt request fallbackExtended fallbackPrice)
      (onOk fun answer after => ∀ result, answer = .ok result →
        Holds result.executorOrderId request.symbol request.side after) world := by
  refine Prog.Fits.perform fun s₁ moved books => ⟨moved.minted owned, ?_⟩
  intro choice answer s₂ handled books₂ moved₂
  rcases handle_postOrder handled with ⟨existing, held, rfl, rfl⟩ | ⟨-, -, answered, rfl⟩ |
    ⟨rfl, message, rfl⟩
  · refine Prog.Fits.perform fun s₃ moved₃ books₃ => ⟨trivial, ?_⟩
    intro choice' found s₄ looked _ _
    obtain ⟨rfl, isHeld⟩ := handle_getOrderByClientOrderId looked
    match found, isHeld with
    | .error message, _ => exact fun _ impossible => by cases impossible
    | .ok none, _ => exact fun _ impossible => by cases impossible
    | .ok (some adopted), isHeld =>
        have same := isHeld adopted rfl
        have original : s₄.held request.clientOrderId = some existing :=
          held_moved (held_moved held moved₂) moved₃
        rw [original] at same
        cases same
        obtain ⟨member, symbolOk⟩ := books₃.held_symbol original
          (moved₃.minted (moved₂.minted (moved.minted owned)))
        have met : (request, existing) ∈ s₄.duplicates := moved₃.duplicates (by simp)
        have holds : Holds existing.id request.symbol request.side s₄ := by
          refine ⟨existing, member, rfl, symbolOk, ?_⟩
          by_cases sameSide : existing.side = request.side
          · exact .inl sameSide
          · exact .inr ⟨_, met, sameSide⟩
        dsimp only
        split
        · exact fun _ impossible => by cases impossible
        · rintro result ⟨⟩
          exact holds
  · rcases answered with rfl | ⟨message, rfl⟩
    · rintro result ⟨⟩
      exact ⟨_, List.mem_append_right _ (List.mem_singleton_self _), rfl, rfl, .inl rfl⟩
    · exact fun _ impossible => by cases impossible
  · exact fun _ impossible => by cases impossible

theorem conducts_placeAtBroker {placement : OffchainOrderPlacement}
    (owned : (⟨placement.clientOrderId.uuid⟩, placement.symbol) ∈ world.minted) :
    Conducts (placeAtBroker placement) (onOk fun answer after => ∀ result, answer = .ok result →
      Holds result.executorOrderId placement.symbol placement.direction after) world := by
  unfold placeAtBroker placeMarketOrder placeLimitOrder
  split <;> split
  · exact fun _ impossible => by cases impossible
  · exact conducts_placeOrAdopt owned
  · exact fun _ impossible => by cases impossible
  · exact conducts_placeOrAdopt owned

/-- The stored order has this symbol and direction. -/
def Stands (id : OffchainOrderId) (symbol : Symbol) (direction : Direction) (world : World) : Prop :=
  ∃ order, OffchainOrder.aggregate.lifecycle (world.orders id) = .live order ∧
    order.symbol = symbol ∧ order.direction = direction

omit [FloatFormat] in
theorem Stands.moved {direction : Direction} {later : World}
    (stands : Stands id symbol direction world) (moved : Moves world later) :
    Stands id symbol direction later := by
  obtain ⟨order, live, sameSymbol, sameDirection⟩ := stands
  obtain ⟨next, live', evolved⟩ := moved.orders id order live
  exact ⟨next, live', evolved.symbol.trans sameSymbol, evolved.direction.trans sameDirection⟩

theorem conducts_placeOffchainOrderAtBroker {placement : OffchainOrderPlacement} {now : Time}
    (owned : (id, placement.symbol) ∈ world.minted)
    (keyOwned : (⟨placement.clientOrderId.uuid⟩, placement.symbol) ∈ world.minted) :
    Conducts (placeOffchainOrderAtBroker id placement now)
      (onOk fun order after => Seen order id after) world := by
  refine (Conducts.framed (conducts_sendOrder
    (Stands id placement.symbol placement.direction)
    (fun later moved _ => by exact moved.minted owned) ?_)).seq ?_ (fun _ _ _ => trivial)
  · intro before services events _ _ sent
    obtain ⟨order, live, same⟩ := send_place sent
    exact ⟨order, by simpa using live, same⟩
  rintro _ recorded ⟨stands, moved⟩
  refine conducts_loadOrder.framed.seq ?_ (fun _ _ _ => trivial)
  rintro loaded before ⟨seen, moved₂⟩
  split
  case h_2 => exact seen
  case h_1 =>
    refine (conducts_placeAtBroker (moved₂.minted (moved.minted keyOwned))).framed.seq ?_
      (fun _ _ _ => trivial)
    rintro answer after ⟨holds, moved₃⟩
    cases answer with
    | error message =>
        exact (conducts_sendOrder_plain fun _ => by exact trivial).seq
          (fun _ _ _ => conducts_loadOrder) (fun _ _ _ => trivial)
    | ok result =>
        refine (conducts_sendOrder (fun _ => True) ?_ (fun _ _ _ _ _ _ => trivial)).seq
          (fun _ _ _ => conducts_loadOrder) (fun _ _ _ => trivial)
        intro later moved₄ _
        obtain ⟨held, member, sameId, sameSymbol, side⟩ := (holds result rfl).moved moved₄
        obtain ⟨order, live, symbolOk, directionOk⟩ :=
          stands.moved (moved₂.trans (moved₃.trans moved₄))
        exact ⟨held, member, sameId, order, live, sameSymbol.trans symbolOk.symm,
          side.imp_left (·.trans directionOk.symm)⟩

theorem conducts_placeUnderAnchor {shares : Positive} {direction : Direction}
    {executor : SupportedExecutor} {kind : CounterTradeOrderKind} {now : Time}
    (owned : (id, symbol) ∈ world.minted) :
    Conducts (placeUnderAnchor symbol id symbol shares direction executor kind now)
      (onOk fun order after => Seen order id after) world := by
  have anchors : Conducts (loadAnchor symbol)
      (onOk fun anchor after => ∀ earlier, anchor = some earlier →
        (earlier, symbol) ∈ after.minted) world := by
    refine conducts_loadPosition.seq (fun position after known => ?_) (fun _ _ _ => trivial)
    intro earlier found
    obtain ⟨loaded, rfl, anchored⟩ := Option.bind_eq_some_iff.mp found
    exact known loaded rfl earlier (.inr anchored)
  refine anchors.framed.seq ?_ (fun _ _ _ => trivial)
  rintro anchor after ⟨known, moved⟩
  refine conducts_placeOffchainOrderAtBroker (moved.minted owned) ?_
  cases anchor with
  | none => exact moved.minted owned
  | some earlier => exact known earlier rfl

/-! ## Following up on a placement -/

theorem conducts_finalizeCancelled {order : OffchainOrder} (was : Was order id world) :
    Conducts (finalizeCancelledPositionOrLogUnpriced symbol id order) anyhow world := by
  unfold finalizeCancelledPositionOrLogUnpriced
  split
  · rename_i command chosen
    exact conducts_sendPosition fun later moved => fit_finalizing (was.moved moved) chosen _ _
  · trivial

theorem conducts_routePlacementOutcome {placed : Option OffchainOrder} (seen : Seen placed id world) :
    Conducts (routePlacementOutcome symbol id placed) anyhow world := by
  match placed, seen with
  | none, _ => exact conducts_sendPosition fun _ _ => fit_unfilled (.inr rfl) _ _
  | some order, seen =>
      have was := seen order rfl
      cases order with
      | failed =>
          exact conducts_sendPosition fun later moved =>
            fit_unfilled (.inl rfl) _ _
      | submitted | partiallyFilled | cancelling => exact conducts_push fun _ _ => trivial
      | pending | filled => trivial
      | cancelled => exact conducts_finalizeCancelled was

theorem conducts_dispatchPostPlaceState {loaded : Option OffchainOrder}
    (seen : Seen loaded id world) :
    Conducts (dispatchPostPlaceState loaded symbol id) anyhow world := by
  match loaded, seen with
  | none, _ =>
      exact (conducts_sendPosition fun _ _ => fit_unfilled (.inr rfl) _ _).seq (fun _ _ _ => trivial)
        (fun _ _ _ => trivial)
  | some order, seen =>
      have was := seen order rfl
      cases order with
      | failed =>
          exact (conducts_sendPosition fun later moved =>
            fit_unfilled (.inl rfl) _ _).seq
              (fun _ _ _ => trivial) (fun _ _ _ => trivial)
      | submitted | partiallyFilled | cancelling =>
          exact (conducts_push fun _ _ => by exact trivial).seq (fun _ _ _ => trivial)
            (fun _ _ _ => trivial)
      | pending | filled => trivial
      | cancelled =>
          exact (conducts_finalizeCancelled was).seq (fun _ _ _ => trivial) (fun _ _ _ => trivial)

theorem conducts_resolveTerminalClaimedOrder {order : Option OffchainOrder}
    (seen : Seen order id world) :
    Conducts (resolveTerminalClaimedOrder symbol id order) anyhow world := by
  cases order with
  | none =>
      exact (conducts_sendPosition fun _ _ => fit_unfilled (.inr rfl) _ _).seq (fun _ _ _ => trivial)
        (fun _ _ _ => trivial)
  | some order =>
      rw [resolveTerminalClaimedOrder]
      split
      · trivial
      · rename_i command chosen
        exact (conducts_sendPosition fun later moved =>
          fit_finalizing ((seen order rfl).moved moved) chosen _ _).seq (fun _ _ _ => trivial)
            (fun _ _ _ => trivial)

/-! ## Placement jobs -/

/-- Operations that only read answer anything and fit in every state. -/
theorem conducts_selectOrderKind (config : HedgeConfig) (direction : Direction) :
    Conducts (selectOrderKindForCurrentSession config symbol direction) anyhow world := by
  refine Prog.Fits.perform fun _ _ _ => ⟨trivial, fun _ session _ _ _ _ => ?_⟩
  match session with
  | .error _ | .ok .regular | .ok .closed => trivial
  | .ok .extended =>
      dsimp only
      split
      · trivial
      · refine Prog.Fits.perform fun _ _ _ => ⟨trivial, fun _ latest _ _ _ _ => ?_⟩
        match latest with
        | .error _ | .ok none => trivial
        | .ok (some price) =>
            dsimp only
            split <;> trivial

/-- A loaded order is of the one symbol its identifier was drawn for. -/
theorem conducts_loadOwnOrder :
    Conducts (loadOrder id) (onOk fun loaded after => Seen loaded id after ∧
      ∀ order, loaded = some order →
        ∀ owner, (id, owner) ∈ after.minted ↔ owner = order.symbol) world := by
  refine Prog.Fits.perform fun s₁ _ books => ⟨trivial, ?_⟩
  intro choice answer s₂ handled _ _
  obtain ⟨rfl, loaded⟩ := handle_loadOrder handled
  refine Prog.Fits.lift ?_
  cases answer with
  | error => trivial
  | ok order =>
      refine ⟨?_, ?_⟩
      · rintro found rfl
        exact ⟨found, loaded found rfl, Evolved.refl _⟩
      · rintro found rfl owner
        have ordered := books.ordered id found (loaded found rfl)
        exact ⟨fun drawn => books.unique id _ _ drawn ordered, fun same => same ▸ ordered⟩

theorem conducts_recoverPendingPollStatus (config : HedgeConfig) (now : Time) :
    Conducts (recoverPendingPollStatus config id now) anyhow world := by
  refine conducts_loadOwnOrder.seq ?_ (fun _ _ _ => trivial)
  rintro loaded before ⟨seen, owned⟩
  match loaded, owned with
  | none, _ => trivial
  | some (.submitted ..), _ | some (.partiallyFilled ..), _ | some (.cancelling ..), _ =>
      exact conducts_push fun _ _ => trivial
  | some (.failed ..), _ | some (.cancelled ..), _ | some (.filled ..), _ => trivial
  | some (.pending terms session), owned =>
      refine (conducts_selectOrderKind config _).framed.seq ?_ (fun _ _ _ => trivial)
      rintro kind after ⟨-, moved⟩
      cases kind with
      | none => trivial
      | some kind =>
          exact (conducts_placeUnderAnchor (moved.minted ((owned _ rfl _).mpr rfl))).seq
            (fun placed _ seen => conducts_routePlacementOutcome seen) (fun _ _ _ => trivial)

theorem conducts_placeHedge (config : HedgeConfig) {job : PlaceHedge} (now : Time)
    (owned : (job.offchainOrderId, job.symbol) ∈ world.minted)
    (computed : Computed job.scannedNet job.direction job.shares) :
    Conducts (placeHedge config job now) anyhow world := by
  refine (conducts_selectOrderKind config _).framed.seq ?_ (fun _ _ _ => trivial)
  rintro kind after ⟨-, moved⟩
  cases kind with
  | none => exact conducts_recoverPendingPollStatus config now
  | some kind =>
      refine conducts_trySendPosition
        (fun later moved₂ => by exact ⟨moved₂.minted (moved.minted owned), _, rfl, computed⟩) ?_
      intro answer later moved₂ _
      split
      · exact conducts_recoverPendingPollStatus config now
      · trivial
      · trivial
      · exact (conducts_placeUnderAnchor (moved₂.minted (moved.minted owned))).seq
          (fun placed _ seen => conducts_routePlacementOutcome seen) (fun _ _ _ => trivial)

theorem conducts_reconcileExistingPendingOrder :
    Conducts (reconcileExistingPendingOrder symbol) anyhow world := by
  refine conducts_loadPosition.seq (fun position before _ => ?_) (fun _ _ _ => trivial)
  split
  · trivial
  · split
    · trivial
    · refine conducts_loadOrder.seq (fun loaded after seen => ?_) (fun _ _ _ => trivial)
      refine (conducts_dispatchPostPlaceState seen).seq (fun outcome _ _ => ?_)
        (fun _ _ _ => trivial)
      cases outcome <;> trivial

theorem conducts_recoverClaimedOffchainOrder (now : Time) :
    Conducts (recoverClaimedOffchainOrder symbol now) anyhow world := by
  refine conducts_loadPosition.seq (fun position before _ => ?_) (fun _ _ _ => trivial)
  split
  · trivial
  · refine conducts_loadOwnOrder.seq ?_ (fun _ _ _ => trivial)
    rintro loaded after ⟨seen, owned⟩
    refine (conducts_resolveTerminalClaimedOrder seen).framed.seq ?_ (fun _ _ _ => trivial)
    rintro resolved later ⟨-, moved⟩
    split
    · trivial
    · match loaded, owned with
      | none, _ => trivial
      | some (.submitted ..), _ | some (.partiallyFilled ..), _ | some (.cancelling ..), _ =>
          exact (conducts_push fun _ _ => by exact trivial).seq (fun _ _ _ => trivial)
            (fun _ _ _ => trivial)
      | some (.failed ..), _ | some (.cancelled ..), _ | some (.filled ..), _ => trivial
      | some (.pending terms session), owned =>
          refine (conducts_placeUnderAnchor (moved.minted ((owned _ rfl _).mpr rfl))).seq
            (fun placed _ seen => ?_) (fun _ _ _ => trivial)
          refine (conducts_dispatchPostPlaceState seen).seq (fun outcome _ _ => ?_)
            (fun _ _ _ => trivial)
          cases outcome <;> trivial

theorem conducts_newOrderId {α : Type} {f : OffchainOrderId → Hedge α}
    {post : Except HedgeError α → World → Prop}
    (next : ∀ drawn later, Moves world later → (drawn, symbol) ∈ later.minted →
      Conducts (f drawn) post later) :
    Conducts ((Prog.perform (Op.newOrderId symbol) : Hedge OffchainOrderId) >>= f) post world := by
  refine Prog.Fits.perform fun s₁ moved _ => ⟨trivial, ?_⟩
  intro choice drawn s₂ handled _ moved₂
  obtain ⟨-, rfl⟩ := handle_newOrderId handled
  exact next drawn _ (moved.trans moved₂) (by simp)

theorem conducts_placeOffchainOrder (config : HedgeConfig) {execution : ExecutionCtx} (now : Time)
    (computed : Computed execution.scannedNet execution.direction execution.shares) :
    Conducts (placeOffchainOrder config execution now) anyhow world := by
  refine conducts_newOrderId fun drawn later _ owned => ?_
  refine conducts_trySendPosition
    (fun later moved => by exact ⟨moved.minted owned, _, rfl, computed⟩)
    fun answer after moved _ => ?_
  split
  · exact conducts_recoverClaimedOffchainOrder now
  · exact conducts_recoverClaimedOffchainOrder now
  · trivial
  · refine (conducts_placeUnderAnchor (moved.minted owned)).seq (fun _ _ _ => ?_)
      (fun _ _ _ => trivial)
    refine conducts_loadOrder.seq (fun loaded _ seen => ?_) (fun _ _ _ => trivial)
    refine (conducts_dispatchPostPlaceState seen).seq (fun outcome _ _ => ?_)
      (fun _ _ _ => trivial)
    cases outcome <;> trivial

/-! ## The position check -/

theorem conducts_viewedClaim :
    Conducts (viewedClaim symbol) (onOk fun claim after => ∀ claimed, claim = some claimed →
      (claimed, symbol) ∈ after.minted) world := by
  refine Prog.Fits.perform fun s₁ _ books => ⟨trivial, ?_⟩
  intro choice answer s₂ handled _ _
  obtain ⟨rfl, loaded⟩ := handle_loadPositionView handled
  match answer, loaded with
  | .error _, _ => exact fun _ impossible => by cases impossible
  | .ok position, loaded =>
      intro claimed found
      obtain ⟨entity, rfl, pending⟩ := Option.bind_eq_some_iff.mp found
      obtain ⟨viewed, seen, live⟩ := loaded entity rfl
      exact books.owned seen live entity rfl claimed (.inl pending)

theorem conducts_recoverSingleOrphanedOrder (now : Time) (claimed : (id, symbol) ∈ world.minted) :
    Conducts (recoverSingleOrphanedOrder symbol id now) anyhow world := by
  refine conducts_loadOwnOrder.framed.seq ?_ (fun _ _ _ => trivial)
  rintro loaded after ⟨⟨seen, owned⟩, moved⟩
  refine (conducts_resolveTerminalClaimedOrder seen).framed.seq ?_ (fun _ _ _ => trivial)
  rintro resolved later ⟨-, moved₂⟩
  split
  · trivial
  · match loaded, owned with
    | none, _ => trivial
    | some (.submitted ..), _ | some (.partiallyFilled ..), _ | some (.cancelling ..), _ => trivial
    | some (.failed ..), _ | some (.cancelled ..), _ | some (.filled ..), _ => trivial
    | some (.pending terms session), owned =>
        obtain rfl : symbol = terms.symbol := (owned _ rfl _).mp (moved.minted claimed)
        refine (conducts_placeUnderAnchor (moved₂.minted (moved.minted claimed))).seq
          (fun placed _ seen => ?_) (fun _ _ _ => trivial)
        match placed, seen with
        | none, _ => trivial
        | some order, seen =>
            have was := seen order rfl
            cases order with
            | failed =>
                exact conducts_sendPosition fun later moved =>
                  fit_unfilled (.inl rfl) _ _
            | pending | submitted | partiallyFilled | cancelling | filled | cancelled => trivial

theorem conducts_recoverOrphan (now : Time) :
    Conducts (recoverOrphanedPendingOffchainOrder symbol now) anyhow world := by
  refine conducts_viewedClaim.seq (fun claim after owned => ?_) (fun _ _ _ => trivial)
  cases claim with
  | none => trivial
  | some claimed => exact conducts_recoverSingleOrphanedOrder now (owned claimed rfl)

theorem conducts_finalizeTerminalPendingPosition :
    Conducts (finalizeTerminalPendingPosition symbol) anyhow world := by
  refine conducts_viewedClaim.seq (fun claim after _ => ?_) (fun _ _ _ => trivial)
  cases claim with
  | none => trivial
  | some claimed =>
      refine Prog.Fits.perform fun s₁ _ _ => ⟨trivial, fun choice answer s₂ handled _ _ => ?_⟩
      obtain ⟨rfl, loaded⟩ := handle_loadOrder handled
      cases answer with
      | error => trivial
      | ok found =>
          cases found with
          | none => trivial
          | some order =>
              have was : Was order claimed s₂ := ⟨order, loaded order rfl, Evolved.refl _⟩
              dsimp only
              split
              · trivial
              · rename_i command chosen
                exact conducts_trySendPosition
                  (fun later moved => fit_finalizing (was.moved moved) chosen _ _)
                  (fun _ _ _ _ => trivial)

theorem conducts_requestExtendedHoursCancellation (config : HedgeConfig) :
    Conducts (requestExtendedHoursCancellation config symbol) anyhow world := by
  have cancels : ∀ (executor : SupportedExecutor) (claimed : OffchainOrderId) (before : World),
      Conducts (do
        if executor = config.executor then
          let _ ← trySendOrder claimed (.cancelOrder .marketOpenReplacement)
        return ()) anyhow before := by
    intro executor claimed before
    split
    · exact Prog.Fits.perform fun _ _ _ => ⟨by exact trivial, fun _ _ _ _ _ _ => trivial⟩
    · trivial
  refine Prog.Fits.perform fun _ _ _ => ⟨trivial, fun _ session _ _ _ _ => ?_⟩
  split
  · trivial
  · split
    · trivial
    · refine conducts_viewedClaim.seq (fun claim after _ => ?_) (fun _ _ _ => trivial)
      cases claim with
      | none => trivial
      | some claimed =>
          refine Prog.Fits.perform fun _ _ _ => ⟨trivial, fun _ answer _ _ _ _ => ?_⟩
          split
          · exact cancels _ _ _
          · exact cancels _ _ _
          · trivial
          · trivial

/-- A ready execution was computed from the net position it remembers. -/
theorem conducts_checkExecutionReadiness (config : HedgeConfig) (assetEnabled : Bool) :
    Conducts (checkExecutionReadiness config symbol assetEnabled)
      (onOk fun answer _ => ∀ execution, answer = .ok (some execution) →
        Computed execution.scannedNet execution.direction execution.shares) world := by
  unfold checkExecutionReadiness
  split
  · exact fun _ impossible => by cases impossible
  · refine Prog.Fits.perform fun _ _ _ => ⟨trivial, fun _ answer _ _ _ _ => ?_⟩
    split
    · exact fun _ impossible => by cases impossible
    · exact fun _ impossible => by cases impossible
    · split
      · exact fun _ impossible => by cases impossible
      · exact fun _ impossible => by cases impossible
      · rename_i position _ _ direction capped ready
        refine Prog.Fits.perform fun _ _ _ => ⟨trivial, fun _ session _ _ _ _ => ?_⟩
        split
        · exact fun _ impossible => by cases impossible
        · split
          · exact fun _ impossible => by cases impossible
          · split
            · exact fun _ impossible => by cases impossible
            · rename_i shares positive
              rintro execution ⟨⟩
              exact ⟨position, _, capped, rfl, ready, (Positive.new_eq_some.mp positive).le⟩

omit [FloatFormat] in
theorem clampSharesToReservation_le (execution : ExecutionCtx) (equityRequired : Option Positive) :
    (clampSharesToReservation execution equityRequired).shares.inner ≤ execution.shares.inner := by
  unfold clampSharesToReservation
  split
  · split
    · rename_i less
      exact less.le
    · exact le_refl _
  · exact le_refl _

/-- Clamping a computed execution leaves it computed: only its quantity shrinks. -/
theorem Computed.clamped {execution : ExecutionCtx}
    (computed : Computed execution.scannedNet execution.direction execution.shares)
    (equityRequired : Option Positive) :
    Computed (clampSharesToReservation execution equityRequired).scannedNet
      (clampSharesToReservation execution equityRequired).direction
      (clampSharesToReservation execution equityRequired).shares := by
  obtain ⟨position, limit, capped, net, ready, within⟩ := computed
  have less := clampSharesToReservation_le execution equityRequired
  have kept : (clampSharesToReservation execution equityRequired).scannedNet =
      execution.scannedNet ∧
      (clampSharesToReservation execution equityRequired).direction = execution.direction := by
    unfold clampSharesToReservation
    split
    · split <;> exact ⟨rfl, rfl⟩
    · exact ⟨rfl, rfl⟩
  rw [kept.1, kept.2]
  exact ⟨position, limit, capped, net, ready, less.trans within⟩

theorem conducts_enqueueHedge (config : HedgeConfig) {execution : ExecutionCtx}
    (computed : Computed execution.scannedNet execution.direction execution.shares) :
    Conducts (enqueueHedge config execution) anyhow world := by
  refine conducts_newOrderId fun drawn later _ owned => ?_
  exact Prog.Fits.perform fun s₁ moved _ =>
    ⟨by exact ⟨moved.minted owned, computed⟩, fun _ _ _ _ _ _ => trivial⟩

theorem conducts_scanAndEnqueue (config : HedgeConfig) :
    Conducts (scanAndEnqueue config symbol) anyhow world := by
  refine Prog.Fits.perform fun _ _ _ => ⟨trivial, fun _ active _ _ _ _ => ?_⟩
  split
  · trivial
  · split
    · trivial
    · refine (conducts_checkExecutionReadiness config true).seq (fun answer after computed => ?_)
        (fun _ _ _ => trivial)
      match answer, computed with
      | .error _, _ | .ok none, _ => trivial
      | .ok (some ready), computed =>
          refine Prog.Fits.perform fun _ _ _ => ⟨trivial, fun _ allowed _ _ _ _ => ?_⟩
          match allowed with
          | .ok (.allowed equityRequired) =>
              exact conducts_enqueueHedge config ((computed ready rfl).clamped equityRequired)
          | .ok .skipped | .error _ => trivial

theorem conducts_hedgeAfterFill (config : HedgeConfig) (assetEnabled : Bool) (now : Time) :
    Conducts (hedgeAfterFill config symbol assetEnabled now) anyhow world := by
  refine conducts_reconcileExistingPendingOrder.seq (fun outcome before _ => ?_)
    (fun _ _ _ => trivial)
  have ready : Conducts (checkExecutionReadiness config symbol assetEnabled >>= Prog.liftExcept)
      (onOk fun found _ => ∀ execution, found = some execution →
        Computed execution.scannedNet execution.direction execution.shares) before := by
    refine (conducts_checkExecutionReadiness config assetEnabled).seq
      (fun answer _ computed => Prog.Fits.lift ?_) (fun _ _ _ => trivial)
    cases answer with
    | error => trivial
    | ok found => exact fun execution same => computed execution (same ▸ rfl)
  cases outcome with
  | inFlight => trivial
  | noPending | cleared =>
      refine ready.seq (fun found after computed => ?_) (fun _ _ _ => trivial)
      cases found with
      | none => trivial
      | some execution =>
          refine Prog.Fits.perform fun _ _ _ => ⟨trivial, fun _ allowed _ _ _ _ => ?_⟩
          cases allowed with
          | error => trivial
          | ok preflighted =>
              cases preflighted with
              | skipped => trivial
              | allowed equityRequired =>
                  have clamped := (computed execution rfl).clamped equityRequired
                  dsimp only
                  split
                  · exact conducts_enqueueHedge config clamped
                  · exact (conducts_placeOffchainOrder config now clamped).seq
                      (fun _ _ _ => trivial) (fun _ _ _ => trivial)

/-! ## All programs -/

theorem conducts_program (config : HedgeConfig) (task : Task) (books : Consistent world)
    (able : (system config).canStart task world) :
    Conducts (task.program config) anyhow world := by
  cases task with
  | job queued now =>
      have pushed : queued ∈ world.jobs := by simpa [system] using able
      cases queued with
      | placeHedge request =>
          obtain ⟨owned, computed⟩ := books.jobs request pushed
          exact conducts_placeHedge config now owned computed
      | pollOrderStatus => exact conducts_pollOrderStatus config
      | reconcileOrderFill request => exact conducts_reconcileOrderFill request
      | handleOrderRejection request => exact conducts_handleOrderRejection request now
  | finalizeTerminal => exact conducts_finalizeTerminalPendingPosition
  | requestCancellation => exact conducts_requestExtendedHoursCancellation config
  | recoverOrphan symbol now => exact conducts_recoverOrphan now
  | scan => exact conducts_scanAndEnqueue config
  | afterFill symbol assetEnabled now => exact conducts_hedgeAfterFill config assetEnabled now

/-- Every operation of every task fits the world it is performed in. -/
theorem disciplined (config : HedgeConfig) :
    (system config).Disciplined Consistent Moves Fit where
  moves_refl := Moves.refl
  moves_trans _ _ _ := Moves.trans
  program task _ books able := conducts_program config task books able
  operation _ _ _ _ _ books fits handled := books.operation fits handled
  environment _ _ _ books changed := books.environment changed

end Conduct

end Liquidity.Hedging
