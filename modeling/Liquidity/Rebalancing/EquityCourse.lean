import Liquidity.Rebalancing.EquityReactor

/-!
# The course of an equity transfer

A mint and a redemption take the same course through the reactor. One event puts
the shares in flight, one lands them at the other venue, and a failure brings
them back; a transfer may also end with its shares in flight. After its last
event the reactor no longer follows it.

`EquityTransfer` is what the two have in common. The two instances are followed
by the reactor as their course has it.
-/

namespace Liquidity

open EventSourcing

/-- How far a transfer has come, as its events have it. -/
inductive EquityCourse where
  | before
  | moving
  | landed
  /-- Landed, and no longer followed. -/
  | settled
  | returned
  /-- Ended with the shares still in flight. -/
  | lost
  deriving DecidableEq, Repr

namespace EquityCourse

/-- The reactor no longer follows the transfer. -/
def Closed (course : EquityCourse) : Prop :=
  course = .settled ∨ course = .returned ∨ course = .lost

/-- The shares have arrived at the other venue. -/
def Arrived (course : EquityCourse) : Prop := course = .landed ∨ course = .settled

instance (course : EquityCourse) : Decidable course.Arrived :=
  inferInstanceAs (Decidable (_ ∨ _))

end EquityCourse

/-- One mint or one redemption, as the inventory is concerned with it. -/
structure EquityTransfer (Event : Type) where
  /-- Where the shares leave from. -/
  source : Venue
  symbol : Symbol
  quantity : FractionalShares
  /-- Whether a stream of events may go on with this one. -/
  admits : List Event → Event → Bool
  starts : Event → Bool
  completes : Event → Bool
  fails : Event → Bool
  /-- The event only dates the last rebalancing. -/
  dates : Event → Bool
  /-- The last event of the transfer. -/
  ends : Event → Bool
  react : EquityReactor → Time → Event → EquityReactor.Outcome

namespace EquityTransfer

variable {Event : Type} (transfer : EquityTransfer Event)

/-- The course after one more event. -/
def after (course : EquityCourse) (event : Event) : EquityCourse :=
  match course with
  | .before =>
      if transfer.starts event then .moving
      else if transfer.ends event then .returned
      else .before
  | .moving =>
      if transfer.completes event then
        if transfer.ends event then .settled else .landed
      else if transfer.fails event then .returned
      else if transfer.ends event then .lost
      else .moving
  | .landed => if transfer.ends event then .settled else .landed
  | .settled => .settled
  | .returned => .returned
  | .lost => .lost

def course (stream : List Event) : EquityCourse := stream.foldl transfer.after .before

@[simp] theorem course_nil : transfer.course [] = .before := rfl

@[simp] theorem course_concat (stream : List Event) (event : Event) :
    transfer.course (stream ++ [event]) = transfer.after (transfer.course stream) event := by
  simp [course, List.foldl_append]

theorem after_closed {course : EquityCourse} (closed : course.Closed) (event : Event) :
    transfer.after course event = course := by
  rcases closed with rfl | rfl | rfl <;> rfl

/-- Shares that have arrived stay. -/
theorem after_arrived {course : EquityCourse} (arrived : course.Arrived) (event : Event) :
    (transfer.after course event).Arrived := by
  rcases arrived with rfl | rfl
  · simp only [after]
    split
    · exact .inr rfl
    · exact .inl rfl
  · exact .inr rfl

/-- Shares arrive by the completing event only. -/
theorem arrived_after {course : EquityCourse} {event : Event}
    (arrived : (transfer.after course event).Arrived) :
    course.Arrived ∨ transfer.completes event := by
  cases course with
  | before =>
      simp only [after] at arrived
      split at arrived
      · exact absurd arrived (by decide)
      · split at arrived <;> exact absurd arrived (by decide)
  | moving =>
      by_cases completes : transfer.completes event
      · exact .inr completes
      · simp only [after, completes, Bool.false_eq_true, if_false] at arrived
        split at arrived
        · exact absurd arrived (by decide)
        · split at arrived <;> exact absurd arrived (by decide)
  | landed => exact .inl (.inl rfl)
  | settled => exact .inl (.inr rfl)
  | returned => exact .inl arrived
  | lost => exact .inl arrived

theorem after_moving {event : Event} (completes : transfer.completes event) :
    (transfer.after .moving event).Arrived := by
  simp only [after, completes, if_true]
  split
  · exact .inr rfl
  · exact .inl rfl

section Effect

variable [FloatFormat]

/-- What the event does to the inventory of the symbol. -/
def effect (course : EquityCourse) (event : Event) (now : Time) : EquityInventoryUpdate :=
  match course with
  | .before =>
      if transfer.starts event then startEquityTransferUpdate transfer.source transfer.quantity
      else .ok
  | .moving =>
      if transfer.completes event then
        completeEquityTransferUpdate transfer.source transfer.quantity now
      else if transfer.fails event then
        cancelEquityTransferUpdate transfer.source transfer.quantity now
      else .ok
  | .landed => if transfer.dates event then lastRebalancingUpdate now else .ok
  | .settled => .ok
  | .returned => .ok
  | .lost => .ok

/-- The reactor follows the transfer as its course has it. `followed` relates what
it remembers to the events it has processed. -/
structure Followed (followed : EquityReactor → List Event → Prop) : Prop where
  /-- The view is no part of it. -/
  withView : ∀ {reactor stream}, followed reactor stream → ∀ view,
    followed { reactor with view } stream
  reacts : ∀ {reactor stream event now inventory}, followed reactor stream →
    transfer.admits stream event →
    transfer.effect (transfer.course stream) event now
      (reactor.view.equity transfer.symbol) = .ok inventory →
    ∃ next, transfer.react reactor now event = (next, .ok ()) ∧
      followed next (stream ++ [event]) ∧ next.view.equity transfer.symbol = inventory
  completes : ∀ {reactor stream event}, followed reactor stream → transfer.admits stream event →
    transfer.completes event → transfer.course stream = .moving
  fails : ∀ {reactor stream event}, followed reactor stream → transfer.admits stream event →
    transfer.fails event →
    transfer.after (transfer.course stream) event = .returned

end Effect

end EquityTransfer

namespace EquityReactor

/-- What an event does to an inventory; most do nothing. -/
def updated (update : Option EquityInventoryUpdate) : EquityInventoryUpdate := update.getD .ok

theorem applyEquityUpdateIf_ok {reactor : EquityReactor} {symbol : Symbol}
    {update : Option EquityInventoryUpdate} {inventory : Inventory} (now : Time)
    (moves : updated update (reactor.view.equity symbol) = .ok inventory) :
    ∃ view, reactor.applyEquityUpdateIf symbol update now = .ok { reactor with view } ∧
      view.equity symbol = inventory := by
  cases update with
  | none =>
      cases moves
      exact ⟨reactor.view, rfl, rfl⟩
  | some update =>
      have moved : update (reactor.view.equity symbol) = .ok inventory := moves
      refine ⟨{ reactor.view with
        equities := reactor.view.equities.insert symbol inventory
        lastUpdated := now }, ?_, ?_⟩
      · simp [applyEquityUpdateIf, applyEquityUpdate, EquityView.updateEquity, moved,
          Except.mapError, bind, Except.bind, pure, Except.pure]
      · simp [EquityView.equity]

/-! ## Mints -/

theorem trackProgress_symbol (tracking : MintTracking) (event : TokenizedEquityMintEvent) :
    (tracking.trackProgress event).symbol = tracking.symbol := by
  cases event <;> rfl

theorem trackProgress_quantity (tracking : MintTracking) (event : TokenizedEquityMintEvent) :
    (tracking.trackProgress event).quantity = tracking.quantity := by
  cases event <;> rfl

/-- What is remembered of a mint after an event. -/
def mintAfter (tracking : MintTracking) (event : TokenizedEquityMintEvent) : Option MintTracking :=
  if isTerminalMintEvent event then none else some tracking

variable [FloatFormat]

/-- An event of a mint that is followed, or that it starts with. -/
theorem onMint_tracked {reactor : EquityReactor} {id : IssuerRequestId}
    {event : TokenizedEquityMintEvent} {tracking : MintTracking} (now : Time)
    {inventory : Inventory} (live : reactor.timedOutMints id = none)
    (tracks : reactor.trackMintProgress id event =
      { reactor with mintTracking := reactor.mintTracking.insert id tracking })
    (moves : updated (mintInventoryUpdate event tracking.quantity tracking.stage now)
      (reactor.view.equity tracking.symbol) = .ok inventory) :
    ∃ next, reactor.onMint now id event = (next, .ok ()) ∧
      next.timedOutMints id = none ∧
      next.mintTracking.lookup id = mintAfter tracking event ∧
      next.view.equity tracking.symbol = inventory := by
  let tracked : EquityReactor :=
    { reactor with mintTracking := reactor.mintTracking.insert id tracking }
  have moves' : updated (mintInventoryUpdate event tracking.quantity tracking.stage now)
      (tracked.view.equity tracking.symbol) = .ok inventory := moves
  obtain ⟨view, applied, shown⟩ := applyEquityUpdateIf_ok now moves'
  let marked := { tracked with view }.clearMintMarkerOn tracking.symbol event
  let active := marked.updateActiveMint id tracking.symbol event
  refine ⟨active.closeMint id tracking.symbol event, ?_, ?_, ?_, ?_⟩
  · have found : tracked.mintTracking.lookup id = some tracking := by simp [tracked]
    simp only [onMint, live, Option.isSome_none, Bool.false_eq_true, if_false, tracks]
    simp only [tracked] at found applied
    simp only [found, applied]
    rfl
  · have kept : marked.timedOutMints = reactor.timedOutMints := by
      simp only [marked, clearMintMarkerOn]
      split <;> rfl
    simp only [closeMint]
    split
    · exact (congrFun kept id).trans live
    · exact (congrFun kept id).trans live
  · have kept : marked.mintTracking = reactor.mintTracking.insert id tracking := by
      simp only [marked, clearMintMarkerOn]
      split <;> rfl
    simp only [closeMint, mintAfter]
    split
    · simp [clearEquityInProgress, withSlot, AList.lookup_erase]
    · simp [active, updateActiveMint, kept]
  · have kept : marked.view.equity tracking.symbol = inventory := by
      simp only [marked, clearMintMarkerOn]
      split
      · exact shown
      · exact shown
    simp only [closeMint]
    split
    · exact kept
    · exact kept

/-! ## Redemptions -/

omit [FloatFormat] in
/-- What is remembered of a redemption after an event. -/
def redemptionAfter (tracking : RedemptionTracking) (event : EquityRedemptionEvent) :
    Option RedemptionTracking :=
  if isTerminalRedemptionEvent event then none else some tracking

/-- An event of a redemption that is followed, or that it starts with, where the
tokens unwrapped to what was tracked. -/
theorem onRedemption_tracked {reactor : EquityReactor} {id : RedemptionAggregateId}
    {event : EquityRedemptionEvent} {tracking : RedemptionTracking} (now : Time)
    {inventory : Inventory} (live : reactor.timedOutRedemptions id = none)
    (level : reactor.applyUnwrapped now id event = .ok reactor)
    (tracks : reactor.trackRedemptionProgress id event =
      .ok { reactor with redemptionTracking := reactor.redemptionTracking.insert id tracking })
    (moves : updated (redemptionInventoryUpdate event tracking.quantity now)
      (reactor.view.equity tracking.symbol) = .ok inventory) :
    ∃ next, reactor.onRedemption now id event = (next, .ok ()) ∧
      next.timedOutRedemptions id = none ∧
      next.redemptionTracking.lookup id = redemptionAfter tracking event ∧
      next.view.equity tracking.symbol = inventory := by
  let tracked : EquityReactor :=
    { reactor with redemptionTracking := reactor.redemptionTracking.insert id tracking }
  have moves' : updated (redemptionInventoryUpdate event tracking.quantity now)
      (tracked.view.equity tracking.symbol) = .ok inventory := moves
  obtain ⟨view, applied, shown⟩ := applyEquityUpdateIf_ok now moves'
  let marked := { tracked with view }.clearRedemptionMarkerOn tracking.symbol event
  let active := marked.updateActiveRedemption id tracking.symbol event
  refine ⟨active.closeRedemption id tracking.symbol event, ?_, ?_, ?_, ?_⟩
  · have found : tracked.redemptionTracking.lookup id = some tracking := by simp [tracked]
    simp only [onRedemption, live, Option.isSome_none, Bool.false_eq_true, if_false, level, tracks]
    simp only [tracked] at found applied
    simp only [found, applied]
    rfl
  · have kept : marked.timedOutRedemptions = reactor.timedOutRedemptions := by
      simp only [marked, clearRedemptionMarkerOn]
      split <;> rfl
    simp only [closeRedemption]
    split
    · exact (congrFun kept id).trans live
    · exact (congrFun kept id).trans live
  · have kept : marked.redemptionTracking = reactor.redemptionTracking.insert id tracking := by
      simp only [marked, clearRedemptionMarkerOn]
      split <;> rfl
    simp only [closeRedemption, redemptionAfter]
    split
    · simp [clearEquityInProgress, withSlot, AList.lookup_erase]
    · simp [active, updateActiveRedemption, kept]
  · have kept : marked.view.equity tracking.symbol = inventory := by
      simp only [marked, clearRedemptionMarkerOn]
      split
      · exact shown
      · exact shown
    simp only [closeRedemption]
    split
    · exact kept
    · exact kept

end EquityReactor

namespace TokenizedEquityMint

/-- One mint, from its request. -/
def transfer [FloatFormat] (id : IssuerRequestId) (symbol : Symbol) (quantity : FractionalShares) :
    EquityTransfer TokenizedEquityMintEvent where
  source := .hedging
  symbol := symbol
  quantity := quantity
  admits stream event :=
    (match stream, event with
      | [], .mintRequested symbol' quantity' .. => symbol' = symbol && quantity' = quantity
      | _, _ => true) &&
    aggregate.lifecycle (stream ++ [event]) ≠ .failed
  starts
    | .mintAccepted .. => true
    | _ => false
  completes
    | .tokensReceived .. => true
    | _ => false
  fails
    | .mintAcceptanceFailed .. => true
    | _ => false
  dates
    | .depositedIntoRaindex .. => true
    | _ => false
  ends := isTerminalMintEvent
  react reactor now event := reactor.onMint now id event

/-- The issuer has delivered the tokens. -/
def IsDelivered : TokenizedEquityMint → Prop
  | .tokensReceived _ => True
  | .wrapSubmitted .. => True
  | .tokensWrapped .. => True
  | .vaultDepositSubmitted .. => True
  | _ => False

/-- The issuer is not waited for. -/
def IsPastIssuer : TokenizedEquityMint → Prop
  | .mintRequested _ => False
  | .mintAccepted _ => False
  | _ => True

/-- What the reactor remembers of a mint, in each state of it. -/
inductive Follows (symbol : Symbol) (quantity : FractionalShares) :
    Option MintTracking → Lifecycle TokenizedEquityMint → EquityCourse → Prop where
  | unknown : Follows symbol quantity none .uninitialized .before
  | requested {tracking : MintTracking} {request : Requested}
      (moved : tracking.symbol = symbol ∧ tracking.quantity = quantity)
      (stage : tracking.stage = .requested) :
      Follows symbol quantity (some tracking) (.live (.mintRequested request)) .before
  | accepted {tracking : MintTracking} {request : Accepted}
      (moved : tracking.symbol = symbol ∧ tracking.quantity = quantity)
      (stage : tracking.stage = .accepted) :
      Follows symbol quantity (some tracking) (.live (.mintAccepted request)) .moving
  | delivered {tracking : MintTracking} {entity : TokenizedEquityMint}
      (moved : tracking.symbol = symbol ∧ tracking.quantity = quantity)
      (landed : entity.IsDelivered) :
      Follows symbol quantity (some tracking) (.live entity) .landed
  | forgotten {entity : TokenizedEquityMint} {course : EquityCourse}
      (past : entity.IsPastIssuer) (closed : course.Closed) :
      Follows symbol quantity none (.live entity) course

/-- The reactor follows the mint. -/
def IsFollowed [FloatFormat] (id : IssuerRequestId) (symbol : Symbol) (quantity : FractionalShares)
    (reactor : EquityReactor) (stream : List TokenizedEquityMintEvent) : Prop :=
  reactor.timedOutMints id = none ∧
    Follows symbol quantity (reactor.mintTracking.lookup id) (aggregate.lifecycle stream)
      ((transfer id symbol quantity).course stream)

section Followed

variable [FloatFormat] {id : IssuerRequestId} {symbol : Symbol} {quantity : FractionalShares}
variable {reactor : EquityReactor} {stream : List TokenizedEquityMintEvent}
variable {event : TokenizedEquityMintEvent}

theorem accepted_of_admits (admitted : (transfer id symbol quantity).admits stream event) :
    aggregate.apply (aggregate.lifecycle stream) event ≠ .failed := by
  simp only [transfer, Bool.and_eq_true, decide_eq_true_eq] at admitted
  rw [← Aggregate.lifecycle_concat]
  exact admitted.2

/-- An admitted event can happen in the state the mint is in. -/
theorem next_of_admits {entity : TokenizedEquityMint}
    (admitted : (transfer id symbol quantity).admits stream event)
    (live : aggregate.lifecycle stream = .live entity) :
    ∃ next, entity.next event = some next ∧
      aggregate.lifecycle (stream ++ [event]) = .live next := by
  have accepted := accepted_of_admits admitted
  rw [live] at accepted
  obtain ⟨next, evolved, reached⟩ := aggregate.apply_live accepted
  refine ⟨next, Except.ok.inj evolved, ?_⟩
  rw [Aggregate.lifecycle_concat, live, reached]

/-- A first event that is admitted requests the mint. -/
theorem requested_of_admits (admitted : (transfer id symbol quantity).admits [] event) :
    ∃ wallet requestedAt, event = .mintRequested symbol quantity wallet requestedAt := by
  simp only [transfer, Bool.and_eq_true, decide_eq_true_eq] at admitted
  obtain ⟨opens, accepted⟩ := admitted
  cases event with
  | mintRequested symbol' quantity' wallet requestedAt =>
      simp only [Bool.and_eq_true, decide_eq_true_eq] at opens
      obtain ⟨rfl, rfl⟩ := opens
      exact ⟨wallet, requestedAt, rfl⟩
  | _ => exact absurd rfl accepted

/-- An event that the reactor follows the mint through. -/
theorem reacts_of_tracked {existing : MintTracking} {next : TokenizedEquityMint} {now : Time}
    {inventory : Inventory} (live : reactor.timedOutMints id = none)
    (found : reactor.mintTracking.lookup id = some existing)
    (moved : existing.symbol = symbol ∧ existing.quantity = quantity)
    (reached : aggregate.lifecycle (stream ++ [event]) = .live next)
    (follows : Follows symbol quantity
      (EquityReactor.mintAfter (existing.trackProgress event) event) (.live next)
      ((transfer id symbol quantity).course (stream ++ [event])))
    (moves : EquityReactor.updated
      (mintInventoryUpdate event quantity (existing.trackProgress event).stage now)
      (reactor.view.equity symbol) = .ok inventory) :
    ∃ next, (transfer id symbol quantity).react reactor now event = (next, .ok ()) ∧
      IsFollowed id symbol quantity next (stream ++ [event]) ∧
      next.view.equity symbol = inventory := by
  obtain ⟨rfl, rfl⟩ := moved
  have tracks : reactor.trackMintProgress id event = { reactor with
      mintTracking := reactor.mintTracking.insert id (existing.trackProgress event) } := by
    simp [EquityReactor.trackMintProgress, found]
  rw [← EquityReactor.trackProgress_quantity existing event,
    ← EquityReactor.trackProgress_symbol existing event] at moves
  obtain ⟨after, calls, stays, remembers, shown⟩ :=
    EquityReactor.onMint_tracked now live tracks moves
  rw [EquityReactor.trackProgress_symbol] at shown
  refine ⟨after, calls, ⟨stays, ?_⟩, shown⟩
  rw [remembers, reached]
  exact follows

/-- An event of a mint that is no longer followed changes nothing. -/
theorem reacts_of_forgotten {entity : TokenizedEquityMint} {now : Time}
    (live : reactor.timedOutMints id = none)
    (absent : reactor.mintTracking.lookup id = none)
    (admitted : (transfer id symbol quantity).admits stream event)
    (reached : aggregate.lifecycle stream = .live entity) (past : entity.IsPastIssuer)
    (closed : ((transfer id symbol quantity).course stream).Closed) :
    (transfer id symbol quantity).react reactor now event = (reactor, .ok ()) ∧
      IsFollowed id symbol quantity reactor (stream ++ [event]) := by
  obtain ⟨next, goes, arrives⟩ := next_of_admits admitted reached
  have unstarted : MintTracking.fromRequestedEvent event = none := by
    cases event with
    | mintRequested => cases goes
    | _ => rfl
  refine ⟨?_, live, ?_⟩
  · show reactor.onMint now id event = (reactor, .ok ())
    simp [EquityReactor.onMint, live, EquityReactor.trackMintProgress, absent, unstarted]
  · rw [arrives, absent, EquityTransfer.course_concat, EquityTransfer.after_closed _ closed]
    refine .forgotten ?_ closed
    cases entity <;> cases event <;> cases goes <;> trivial

omit [FloatFormat] in
/-- Tokens are received of a mint that was accepted. -/
theorem Follows.moving_of_received {remembered : Option MintTracking}
    {state : Lifecycle TokenizedEquityMint} {course : EquityCourse} {txHash : TxHash}
    {sharesMinted : Nat} {receivedAt : Time} (follows : Follows symbol quantity remembered state course)
    (accepted : aggregate.apply state (.tokensReceived txHash sharesMinted receivedAt) ≠ .failed) :
    course = .moving := by
  cases follows with
  | accepted => rfl
  | unknown => exact absurd rfl accepted
  | requested => exact absurd rfl accepted
  | @delivered _ entity _ landed =>
      cases entity <;> first | exact absurd rfl accepted | cases landed
  | @forgotten entity _ past _ =>
      cases entity <;> first | exact absurd rfl accepted | cases past

/-- A mint whose acceptance fails has its shares back. -/
theorem Follows.returned_of_failed {remembered : Option MintTracking}
    {state : Lifecycle TokenizedEquityMint} {course : EquityCourse} {reason : String}
    {failedAt : Time} (follows : Follows symbol quantity remembered state course)
    (accepted : aggregate.apply state (.mintAcceptanceFailed reason failedAt) ≠ .failed) :
    (transfer id symbol quantity).after course (.mintAcceptanceFailed reason failedAt) =
      .returned := by
  cases follows with
  | accepted => rfl
  | unknown => exact absurd rfl accepted
  | requested => rfl
  | @delivered _ entity _ landed =>
      cases entity <;> first | exact absurd rfl accepted | cases landed
  | @forgotten entity _ past _ =>
      cases entity <;> first | exact absurd rfl accepted | cases past

/-- The reactor follows a mint as its course has it. -/
theorem followed (id : IssuerRequestId) (symbol : Symbol) (quantity : FractionalShares) :
    (transfer id symbol quantity).Followed (IsFollowed id symbol quantity) where
  withView := fun followed _ => followed
  reacts := by
    intro reactor stream event now inventory followed admitted moves
    obtain ⟨live, follows⟩ := followed
    generalize tracked : reactor.mintTracking.lookup id = remembered at follows
    generalize reached : aggregate.lifecycle stream = state at follows
    generalize come : (transfer id symbol quantity).course stream = course at follows moves
    cases follows with
    | unknown =>
        obtain rfl : stream = [] := aggregate.lifecycle_eq_uninitialized.mp reached
        obtain ⟨wallet, requestedAt, rfl⟩ := requested_of_admits admitted
        let created : MintTracking := ⟨symbol, quantity, none, .requested, requestedAt⟩
        have tracks : reactor.trackMintProgress id
            (.mintRequested symbol quantity wallet requestedAt) =
            { reactor with mintTracking := reactor.mintTracking.insert id created } := by
          simp [EquityReactor.trackMintProgress, tracked, MintTracking.fromRequestedEvent, created]
        have stood : EquityReactor.updated none (reactor.view.equity created.symbol) =
            .ok inventory := moves
        obtain ⟨after, calls, stays, remembers, shown⟩ :=
          EquityReactor.onMint_tracked now live tracks stood
        refine ⟨after, calls, ⟨stays, ?_⟩, shown⟩
        rw [remembers]
        exact .requested ⟨rfl, rfl⟩ rfl
    | requested moved stage =>
        obtain ⟨next, goes, arrives⟩ := next_of_admits admitted reached
        refine reacts_of_tracked live tracked moved arrives ?_ ?_
        · rw [EquityTransfer.course_concat, come]
          cases event with
          | mintAccepted =>
              cases goes
              exact .accepted moved rfl
          | mintRejected =>
              cases goes
              exact .forgotten trivial (.inr (.inl rfl))
          | mintAcceptanceFailed =>
              cases goes
              exact .forgotten trivial (.inr (.inl rfl))
          | _ => cases goes
        · cases event with
          | mintAccepted => exact moves
          | mintRejected => exact moves
          | mintAcceptanceFailed =>
              simp only [mintInventoryUpdate, MintTracking.trackProgress, stage]
              exact moves
          | _ => cases goes
    | accepted moved stage =>
        obtain ⟨next, goes, arrives⟩ := next_of_admits admitted reached
        refine reacts_of_tracked live tracked moved arrives ?_ ?_
        · rw [EquityTransfer.course_concat, come]
          cases event with
          | tokensReceived =>
              cases goes
              exact .delivered moved trivial
          | mintAcceptanceFailed =>
              cases goes
              exact .forgotten trivial (.inr (.inl rfl))
          | _ => cases goes
        · cases event with
          | tokensReceived => exact moves
          | mintAcceptanceFailed =>
              simp only [mintInventoryUpdate, MintTracking.trackProgress, stage]
              exact moves
          | _ => cases goes
    | @delivered _ entity moved landed =>
        obtain ⟨next, goes, arrives⟩ := next_of_admits admitted reached
        refine reacts_of_tracked live tracked moved arrives ?_ ?_
        · rw [EquityTransfer.course_concat, come]
          cases entity <;> cases landed <;> cases event <;> cases goes
          all_goals first
            | exact .delivered moved trivial
            | exact .forgotten trivial (.inl rfl)
        · cases entity <;> cases landed <;> cases event <;> cases goes <;> exact moves
    | forgotten past closed =>
        obtain ⟨calls, follows⟩ :=
          reacts_of_forgotten live tracked admitted reached past (come ▸ closed)
        refine ⟨reactor, calls, follows, ?_⟩
        rcases closed with rfl | rfl | rfl <;> exact Except.ok.inj moves
  completes := by
    intro reactor stream event followed admitted completes
    cases event with
    | tokensReceived => exact followed.2.moving_of_received (accepted_of_admits admitted)
    | _ => cases completes
  fails := by
    intro reactor stream event followed admitted fails
    cases event with
    | mintAcceptanceFailed => exact followed.2.returned_of_failed (accepted_of_admits admitted)
    | _ => cases fails

end Followed

end TokenizedEquityMint

namespace EquityRedemption

/-- One redemption that unwraps to what was asked for. It starts with the pending
withdrawal; streams from before there was that event have long ended. -/
def transfer [FloatFormat] (id : RedemptionAggregateId) (symbol : Symbol)
    (quantity : FractionalShares) : EquityTransfer EquityRedemptionEvent where
  source := .marketMaking
  symbol := symbol
  quantity := quantity
  admits stream event :=
    (match stream, event with
      | [], .vaultWithdrawPending symbol' quantity' .. =>
          symbol' = symbol && quantity' = quantity
      | [], _ => false
      | _, .tokensUnwrapped unwrapped _ _ unwrappedAmount _ _ =>
          unwrappedQuantity unwrapped unwrappedAmount = .ok quantity
      | _, _ => true) &&
    aggregate.lifecycle (stream ++ [event]) ≠ .failed
  starts
    | .vaultWithdrawPending .. => true
    | _ => false
  completes
    | .completed .. => true
    | _ => false
  fails
    | .transferFailed .. => true
    | _ => false
  dates _ := false
  ends := isTerminalRedemptionEvent
  react reactor now event := reactor.onRedemption now id event

/-- What the reactor remembers of a redemption, in each state of it. -/
inductive Follows (symbol : Symbol) (quantity : FractionalShares) :
    Option RedemptionTracking → Lifecycle EquityRedemption → EquityCourse → Prop where
  | unknown : Follows symbol quantity none .uninitialized .before
  | moving {tracking : RedemptionTracking} {entity : EquityRedemption}
      (moved : tracking.symbol = symbol ∧ tracking.quantity = quantity)
      (active : entity.isTerminal = false) :
      Follows symbol quantity (some tracking) (.live entity) .moving
  | forgotten {entity : EquityRedemption} {course : EquityCourse}
      (terminal : entity.isTerminal) (closed : course.Closed) :
      Follows symbol quantity none (.live entity) course

/-- The reactor follows the redemption. -/
def IsFollowed [FloatFormat] (id : RedemptionAggregateId) (symbol : Symbol)
    (quantity : FractionalShares) (reactor : EquityReactor)
    (stream : List EquityRedemptionEvent) : Prop :=
  reactor.timedOutRedemptions id = none ∧
    Follows symbol quantity (reactor.redemptionTracking.lookup id) (aggregate.lifecycle stream)
      ((transfer id symbol quantity).course stream)

section Followed

variable [FloatFormat] {id : RedemptionAggregateId} {symbol : Symbol}
variable {quantity : FractionalShares} {reactor : EquityReactor}
variable {stream : List EquityRedemptionEvent} {event : EquityRedemptionEvent}

theorem accepted_of_admits (admitted : (transfer id symbol quantity).admits stream event) :
    aggregate.apply (aggregate.lifecycle stream) event ≠ .failed := by
  simp only [transfer, Bool.and_eq_true, decide_eq_true_eq] at admitted
  rw [← Aggregate.lifecycle_concat]
  exact admitted.2

/-- An admitted event can happen in the state the redemption is in. -/
theorem next_of_admits {entity : EquityRedemption}
    (admitted : (transfer id symbol quantity).admits stream event)
    (live : aggregate.lifecycle stream = .live entity) :
    ∃ next, entity.next event = some next ∧
      aggregate.lifecycle (stream ++ [event]) = .live next := by
  have accepted := accepted_of_admits admitted
  rw [live] at accepted
  obtain ⟨next, evolved, reached⟩ := aggregate.apply_live accepted
  refine ⟨next, Except.ok.inj evolved, ?_⟩
  rw [Aggregate.lifecycle_concat, live, reached]

/-- A first event that is admitted starts the withdrawal. -/
theorem pending_of_admits (admitted : (transfer id symbol quantity).admits [] event) :
    ∃ token wrappedAmount pendingAt,
      event = .vaultWithdrawPending symbol quantity token wrappedAmount pendingAt := by
  simp only [transfer, Bool.and_eq_true, decide_eq_true_eq] at admitted
  obtain ⟨opens, -⟩ := admitted
  cases event with
  | vaultWithdrawPending symbol' quantity' token wrappedAmount pendingAt =>
      simp only [Bool.and_eq_true, decide_eq_true_eq] at opens
      obtain ⟨rfl, rfl⟩ := opens
      exact ⟨token, wrappedAmount, pendingAt, rfl⟩
  | _ => cases opens

/-- Tokens unwrap to what was asked for. -/
theorem unwrapped_of_admits {unwrapped : Option FractionalShares} {underlyingToken : EvmAddress}
    {unwrapTxHash : TxHash} {unwrappedAmount : Nat} {unwrapBlock : Option Nat} {unwrappedAt : Time}
    (admitted : (transfer id symbol quantity).admits stream
      (.tokensUnwrapped unwrapped underlyingToken unwrapTxHash unwrappedAmount unwrapBlock
        unwrappedAt)) :
    unwrappedQuantity unwrapped unwrappedAmount = .ok quantity := by
  simp only [transfer, Bool.and_eq_true, decide_eq_true_eq] at admitted
  obtain ⟨opens, -⟩ := admitted
  cases stream with
  | nil => cases opens
  | cons => simpa using opens

/-- The tracked entry after an event, and nothing to settle for it. -/
theorem progress_of_admits {existing : RedemptionTracking} (now : Time)
    (admitted : (transfer id symbol quantity).admits stream event)
    (found : reactor.redemptionTracking.lookup id = some existing)
    (moved : existing.symbol = symbol ∧ existing.quantity = quantity) :
    reactor.applyUnwrapped now id event = .ok reactor ∧
      ∃ tracking, existing.trackProgress event = .ok tracking ∧
        tracking.symbol = symbol ∧ tracking.quantity = quantity := by
  cases event with
  | tokensUnwrapped unwrapped underlyingToken unwrapTxHash unwrappedAmount unwrapBlock unwrappedAt =>
      have resolves := unwrapped_of_admits admitted
      constructor
      · simp [EquityReactor.applyUnwrapped, redemptionActualUnwrappedQuantity, resolves, found,
          EquityReactor.settleUnwrapped, moved.2, Except.mapError, bind, Except.bind, pure,
          Except.pure]
      · let tracking : RedemptionTracking := { existing with
          quantity := quantity
          stage := .tokensUnwrapped
          lastProgressAt := unwrappedAt }
        refine ⟨tracking, ?_, moved.1, rfl⟩
        simp only [RedemptionTracking.trackProgress, resolves, bind, Except.bind, pure, Except.pure,
          tracking]
  | _ => exact ⟨rfl, _, rfl, moved⟩

/-- An event that the reactor follows the redemption through. -/
theorem reacts_of_tracked {existing : RedemptionTracking} {now : Time} {inventory : Inventory}
    (live : reactor.timedOutRedemptions id = none)
    (found : reactor.redemptionTracking.lookup id = some existing)
    (moved : existing.symbol = symbol ∧ existing.quantity = quantity)
    (admitted : (transfer id symbol quantity).admits stream event)
    (follows : ∀ tracking : RedemptionTracking,
      tracking.symbol = symbol ∧ tracking.quantity = quantity →
      Follows symbol quantity (EquityReactor.redemptionAfter tracking event)
        (aggregate.lifecycle (stream ++ [event]))
        ((transfer id symbol quantity).course (stream ++ [event])))
    (moves : EquityReactor.updated (redemptionInventoryUpdate event quantity now)
      (reactor.view.equity symbol) = .ok inventory) :
    ∃ next, (transfer id symbol quantity).react reactor now event = (next, .ok ()) ∧
      IsFollowed id symbol quantity next (stream ++ [event]) ∧
      next.view.equity symbol = inventory := by
  obtain ⟨level, tracking, progress, moved'⟩ := progress_of_admits now admitted found moved
  have tracks : reactor.trackRedemptionProgress id event = .ok { reactor with
      redemptionTracking := reactor.redemptionTracking.insert id tracking } := by
    simp [EquityReactor.trackRedemptionProgress, found, progress, Except.mapError, bind,
      Except.bind, pure, Except.pure]
  have after := follows tracking moved'
  obtain ⟨rfl, rfl⟩ := moved'
  obtain ⟨next, calls, stays, remembers, shown⟩ :=
    EquityReactor.onRedemption_tracked now live level tracks moves
  refine ⟨next, calls, ⟨stays, ?_⟩, shown⟩
  rw [remembers]
  exact after

omit [FloatFormat] in
/-- A redemption that has ended can only be recovered or reconciled. -/
theorem next_of_terminal {entity next : EquityRedemption} (terminal : entity.isTerminal)
    (goes : entity.next event = some next) :
    next.isTerminal ∧
      ((∃ requestId recoveredAt, event = .providerCompletionRecovered requestId recoveredAt) ∨
        ∃ reason reconciledAt, event = .operatorReconciled reason reconciledAt) := by
  cases entity with
  | failed =>
      cases event with
      | providerCompletionRecovered requestId recoveredAt =>
          simp only [EquityRedemption.next] at goes
          split at goes <;> cases goes
          exact ⟨rfl, .inl ⟨_, _, rfl⟩⟩
      | operatorReconciled reason reconciledAt =>
          cases goes
          exact ⟨rfl, .inr ⟨_, _, rfl⟩⟩
      | _ => cases goes
  | completed => cases event <;> cases goes
  | reconciled => cases event <;> cases goes
  | _ => cases terminal

/-- An event of a redemption that is no longer followed changes nothing. -/
theorem reacts_of_forgotten {entity : EquityRedemption} {now : Time}
    (live : reactor.timedOutRedemptions id = none)
    (absent : reactor.redemptionTracking.lookup id = none)
    (admitted : (transfer id symbol quantity).admits stream event)
    (reached : aggregate.lifecycle stream = .live entity) (terminal : entity.isTerminal)
    (closed : ((transfer id symbol quantity).course stream).Closed) :
    (transfer id symbol quantity).react reactor now event = (reactor, .ok ()) ∧
      IsFollowed id symbol quantity reactor (stream ++ [event]) := by
  obtain ⟨next, goes, arrives⟩ := next_of_admits admitted reached
  obtain ⟨stillTerminal, late⟩ := next_of_terminal terminal goes
  refine ⟨?_, live, ?_⟩
  · show reactor.onRedemption now id event = (reactor, .ok ())
    have level : reactor.applyUnwrapped now id event = .ok reactor := by
      rcases late with ⟨_, _, rfl⟩ | ⟨_, _, rfl⟩ <;> rfl
    have unstarted : RedemptionTracking.fromGenesisEvent event = none := by
      rcases late with ⟨_, _, rfl⟩ | ⟨_, _, rfl⟩ <;> rfl
    simp [EquityReactor.onRedemption, live, level, EquityReactor.trackRedemptionProgress, absent,
      unstarted]
  · rw [arrives, absent, EquityTransfer.course_concat, EquityTransfer.after_closed _ closed]
    exact .forgotten stillTerminal closed

omit [FloatFormat] in
/-- A redemption that can be completed is under way. -/
theorem Follows.moving_of_completed {remembered : Option RedemptionTracking}
    {state : Lifecycle EquityRedemption} {course : EquityCourse} {completedAt : Time}
    (follows : Follows symbol quantity remembered state course)
    (accepted : aggregate.apply state (.completed completedAt) ≠ .failed) : course = .moving := by
  cases follows with
  | moving => rfl
  | unknown => exact absurd rfl accepted
  | @forgotten entity _ terminal _ =>
      cases entity <;> first | exact absurd rfl accepted | cases terminal

/-- A redemption whose transfer fails has its shares back. -/
theorem Follows.returned_of_failed {remembered : Option RedemptionTracking}
    {state : Lifecycle EquityRedemption} {course : EquityCourse} {txHash : Option TxHash}
    {reason : Option String} {failedAt : Time}
    (follows : Follows symbol quantity remembered state course)
    (accepted : aggregate.apply state (.transferFailed txHash reason failedAt) ≠ .failed) :
    (transfer id symbol quantity).after course (.transferFailed txHash reason failedAt) =
      .returned := by
  cases follows with
  | moving => rfl
  | unknown => exact absurd rfl accepted
  | @forgotten entity _ terminal _ =>
      cases entity <;> first | exact absurd rfl accepted | cases terminal

omit [FloatFormat] in
/-- An event that does not end a redemption leaves it under way. -/
theorem isTerminal_next {entity next : EquityRedemption} (active : entity.isTerminal = false)
    (goes : entity.next event = some next) : next.isTerminal = isTerminalRedemptionEvent event := by
  cases entity <;> cases active <;> cases event <;> cases goes <;> rfl

omit [FloatFormat] in
/-- Only a redemption that has failed is recovered. -/
theorem next_recovered {entity : EquityRedemption} (active : entity.isTerminal = false)
    (requestId : TokenizationRequestId) (recoveredAt : Time) :
    entity.next (.providerCompletionRecovered requestId recoveredAt) = none := by
  cases entity <;> cases active <;> rfl

/-- The reactor follows a redemption as its course has it. -/
theorem followed (id : RedemptionAggregateId) (symbol : Symbol) (quantity : FractionalShares) :
    (transfer id symbol quantity).Followed (IsFollowed id symbol quantity) where
  withView := fun followed _ => followed
  reacts := by
    intro reactor stream event now inventory followed admitted moves
    obtain ⟨live, follows⟩ := followed
    generalize tracked : reactor.redemptionTracking.lookup id = remembered at follows
    generalize reached : aggregate.lifecycle stream = state at follows
    generalize come : (transfer id symbol quantity).course stream = course at follows moves
    cases follows with
    | unknown =>
        obtain rfl : stream = [] := aggregate.lifecycle_eq_uninitialized.mp reached
        obtain ⟨token, wrappedAmount, pendingAt, rfl⟩ := pending_of_admits admitted
        let created : RedemptionTracking :=
          ⟨symbol, quantity, none, none, .vaultWithdrawPending, pendingAt⟩
        have tracks : reactor.trackRedemptionProgress id
            (.vaultWithdrawPending symbol quantity token wrappedAmount pendingAt) =
            .ok { reactor with
              redemptionTracking := reactor.redemptionTracking.insert id created } := by
          simp [EquityReactor.trackRedemptionProgress, tracked,
            RedemptionTracking.fromGenesisEvent, created]
        have starts : EquityReactor.updated (some (startEquityTransferUpdate .marketMaking quantity))
            (reactor.view.equity created.symbol) = .ok inventory := moves
        obtain ⟨after, calls, stays, remembers, shown⟩ :=
          EquityReactor.onRedemption_tracked now live rfl tracks starts
        refine ⟨after, calls, ⟨stays, ?_⟩, shown⟩
        rw [remembers]
        exact .moving ⟨rfl, rfl⟩ rfl
    | @moving _ entity moved active =>
        obtain ⟨next, goes, arrives⟩ := next_of_admits admitted reached
        have ends := isTerminal_next active goes
        refine reacts_of_tracked live tracked moved admitted ?_ ?_
        · intro tracking moved'
          rw [EquityTransfer.course_concat, come, arrives]
          cases event with
          | vaultWithdrawPending => cases goes
          | completed => exact .forgotten ends (.inl rfl)
          | providerCompletionRecovered => cases (next_recovered active _ _).symm.trans goes
          | transferFailed => exact .forgotten ends (.inr (.inl rfl))
          | detectionFailed => exact .forgotten ends (.inr (.inr rfl))
          | redemptionRejected => exact .forgotten ends (.inr (.inr rfl))
          | operatorReconciled => exact .forgotten ends (.inr (.inr rfl))
          | _ => exact .moving moved' ends
        · cases event with
          | vaultWithdrawPending => cases goes
          | providerCompletionRecovered => cases (next_recovered active _ _).symm.trans goes
          | _ => exact moves
    | forgotten terminal closed =>
        obtain ⟨calls, follows⟩ :=
          reacts_of_forgotten live tracked admitted reached terminal (come ▸ closed)
        refine ⟨reactor, calls, follows, ?_⟩
        rcases closed with rfl | rfl | rfl <;> exact Except.ok.inj moves
  completes := by
    intro reactor stream event followed admitted completes
    cases event with
    | completed => exact followed.2.moving_of_completed (accepted_of_admits admitted)
    | _ => cases completes
  fails := by
    intro reactor stream event followed admitted fails
    cases event with
    | transferFailed => exact followed.2.returned_of_failed (accepted_of_admits admitted)
    | _ => cases fails

end Followed

end EquityRedemption

end Liquidity
