import Liquidity.Hedging.Placement
import Liquidity.Position.Ledger
import Liquidity.Process.Requests

/-!
# The broker's key of a claimed order

The key is not stored: every path that places an order derives it again from the
position it finds. It is one and the same as long as the order is claimed, and it
is handed on through a chain of failed attempts.
-/

namespace Liquidity

open EventSourcing Process

/-- What ends a chain of attempts. -/
def PositionEvent.endsChain : PositionEvent → Bool
  | .offChainOrderFilled .. | .offChainOrderCancelled .. | .manualPositionAdjusted .. => true
  | _ => false

namespace Hedging

/-- The key under which a position has its orders placed, the claimed one or the
next. -/
def KeyIs (key : ClientOrderId) (position : Position) : Prop :=
  match position.pendingOffchainOrderId with
  | some id => clientOrderIdForPlacement id position.lastFailedOffchainOrderId = key
  | none => ∃ failed, position.lastFailedOffchainOrderId = some failed ∧ ⟨failed.uuid⟩ = key

theorem keyIs_of_claimed {position : Position} {id : OffchainOrderId}
    (claimed : position.pendingOffchainOrderId = some id) :
    KeyIs (clientOrderIdForPlacement id position.lastFailedOffchainOrderId) position := by
  simp only [KeyIs, claimed]

theorem KeyIs.claimed {key : ClientOrderId} {position : Position} {id : OffchainOrderId}
    (keyed : KeyIs key position) (claimed : position.pendingOffchainOrderId = some id) :
    clientOrderIdForPlacement id position.lastFailedOffchainOrderId = key := by
  simpa only [KeyIs, claimed] using keyed

section History

variable [FloatFormat]
variable {commands : List (Time × PositionCommand)} {start during : List PositionEvent}
variable {first : Position} {id : OffchainOrderId}

/-- What does not end the chain keeps the key. -/
theorem KeyIs.added {key : ClientOrderId} {entity next : Position} {event : PositionEvent}
    (keyed : KeyIs key entity) (goesOn : event.endsChain = false)
    (added : Position.aggregate.Added Position.Admits entity event next) : KeyIs key next := by
  obtain ⟨admitted, evolved⟩ := added
  obtain ⟨claim, anchor⟩ := Position.evolve_claim_anchor evolved
  have unmoved : entity.claimAfter event = entity.pendingOffchainOrderId →
      entity.anchorAfter event = entity.lastFailedOffchainOrderId → KeyIs key next := by
    intro sameClaim sameAnchor
    simpa only [KeyIs, claim, anchor, sameClaim, sameAnchor] using keyed
  cases event with
  | offChainOrderPlaced id =>
      -- The next attempt finds the anchor the failed one left.
      have free : entity.pendingOffchainOrderId = none := admitted
      simp only [KeyIs, free] at keyed
      obtain ⟨failed, anchored, known⟩ := keyed
      have claimed : next.pendingOffchainOrderId = some id := claim
      have kept : next.lastFailedOffchainOrderId = some failed := anchor.trans anchored
      simp only [KeyIs, claimed, kept]
      exact known
  | offChainOrderFailed id error failedAt =>
      have claimed : entity.pendingOffchainOrderId = some id := admitted
      have known := keyed.claimed claimed
      have free : next.pendingOffchainOrderId = none := claim
      have left : next.lastFailedOffchainOrderId =
          entity.lastFailedOffchainOrderId.or (some id) := anchor
      simp only [KeyIs, free, left]
      refine ⟨entity.lastFailedOffchainOrderId.getD id, ?_, known⟩
      cases entity.lastFailedOffchainOrderId <;> rfl
  | offChainOrderFilled | offChainOrderCancelled | manualPositionAdjusted => cases goesOn
  | initialized => exact admitted.elim
  | onChainOrderFilled | onChainFillApplied | onChainFillSettled | thresholdUpdated =>
      exact unmoved rfl rfl

/-- From `start`, where the position claims the order, to the end of `during` it
is claimed all the time. -/
structure ClaimedThroughout (commands : List (Time × PositionCommand))
    (start during : List PositionEvent) (first : Position) (id : OffchainOrderId) : Prop where
  history : start ++ during <+: Position.aggregate.sends commands []
  starts : Position.aggregate.lifecycle start = .live first
  held : ∀ part, part <+: during → ∃ position,
    Position.aggregate.lifecycle (start ++ part) = .live position ∧
      position.pendingOffchainOrderId = some id

theorem ClaimedThroughout.claimed (claim : ClaimedThroughout commands start during first id) :
    first.pendingOffchainOrderId = some id := by
  obtain ⟨position, live, claimed⟩ := claim.held [] (List.nil_prefix)
  rw [List.append_nil, claim.starts] at live
  cases live
  exact claimed

theorem ClaimedThroughout.shorten (claim : ClaimedThroughout commands start during first id)
    {part : List PositionEvent} (within : part <+: during) :
    ClaimedThroughout commands start part first id where
  history := ((List.prefix_append_right_inj start).mpr within).trans claim.history
  starts := claim.starts
  held := fun shorter inside => claim.held shorter (inside.trans within)

/-- No chain ends while an order is claimed. -/
theorem ClaimedThroughout.goesOn (claim : ClaimedThroughout commands start during first id) :
    ∀ event ∈ during, event.endsChain = false := by
  intro event member
  obtain ⟨earlier, later, rfl⟩ := List.append_of_mem member
  have upTo : earlier ++ [event] <+: earlier ++ event :: later := ⟨later, by simp⟩
  obtain ⟨entity, live, claimed⟩ := claim.held earlier (List.prefix_append _ _)
  obtain ⟨next, live', claimed'⟩ := claim.held (earlier ++ [event]) upTo
  have history : (start ++ earlier) ++ [event] <+: Position.aggregate.sends commands [] := by
    rw [List.append_assoc]
    exact (claim.shorten upTo).history
  have admitted : entity.Admits event := Position.admitting.sends commands history live
  have evolved : Position.aggregate.apply (.live entity) event = .live next := by
    rw [← live', ← List.append_assoc, Aggregate.lifecycle_append, live]
    rfl
  have moved : entity.evolve event = .ok (some next) := by
    simp only [Aggregate.apply] at evolved
    split at evolved
    · rename_i found reached
      cases evolved
      exact reached
    · cases evolved
  have after := (Position.evolve_claim_anchor moved).1
  cases event with
  | offChainOrderFilled | offChainOrderCancelled =>
      rw [claimed'] at after
      cases after
  | manualPositionAdjusted =>
      have free : entity.pendingOffchainOrderId = none := admitted
      rw [claimed] at free
      cases free
  | _ => rfl

/-- A chain of attempts keeps its key. -/
theorem key_of_chain (history : start ++ during <+: Position.aggregate.sends commands [])
    (starts : Position.aggregate.lifecycle start = .live first)
    (claimed : first.pendingOffchainOrderId = some id)
    (goesOn : ∀ event ∈ during, event.endsChain = false) {last : Position}
    (ends : Position.aggregate.lifecycle (start ++ during) = .live last) :
    KeyIs (clientOrderIdForPlacement id first.lastFailedOffchainOrderId) last := by
  refine Position.admitting.between commands history starts ends (KeyIs _)
    (keyIs_of_claimed claimed) ?_
  intro entity event next member keyed added
  exact keyed.added (goesOn event member) added

/-- A claimed order keeps its key. -/
theorem ClaimedThroughout.key (claim : ClaimedThroughout commands start during first id)
    {last : Position} (ends : Position.aggregate.lifecycle (start ++ during) = .live last) :
    clientOrderIdForPlacement id last.lastFailedOffchainOrderId =
      clientOrderIdForPlacement id first.lastFailedOffchainOrderId := by
  have keyed := key_of_chain claim.history claim.starts claim.claimed claim.goesOn ends
  obtain ⟨position, live, claimed⟩ := claim.held during (List.prefix_refl _)
  rw [ends] at live
  cases live
  exact keyed.claimed claimed

end History

/-! ## The paths that place a claimed order -/

section Paths

variable (symbol : Symbol) (id : OffchainOrderId) (found : Position → Prop)

/-- What the stores tell about a claimed order: its position is one of those
`found`, the order is for that position, and who claims it or meets its claim
learns this identifier. Everything else may be answered in any way. -/
def Expected : (op : Op) → op.Ret → Prop
  | .loadPosition asked, answer => asked = symbol → ∀ loaded, answer = .ok loaded →
      ∃ position, loaded = some position ∧ found position
  | .loadOrder asked, answer => asked = id → ∀ order, answer = .ok (some order) →
      order.symbol = symbol
  | .sendPosition asked (.placeOffChainOrder ..) _, answer => asked = symbol →
      ∀ pendingId, answer = .error (.rejected (.pendingExecution pendingId)) → pendingId = id
  | .newOrderId _, answer => answer = id
  | _, _ => True

/-- The broker is asked for an order only under this key. -/
def Under (key : ClientOrderId) : Op → Prop
  | .postOrder request => request.clientOrderId = key
  | _ => True

variable {symbol id found} {key : ClientOrderId}

/-- Whatever is computed from an answer, the broker is not asked for an order. -/
theorem asks_answer {α : Type} {op : Op} {f : op.Ret → Except HedgeError α} (quiet : Under key op) :
    ((Prog.perform op : Hedge op.Ret) >>= fun answer => Prog.liftExcept (f answer)).Asks
      (Expected symbol id found) (Under key) fun a =>
        ∃ answer, Expected symbol id found op answer ∧ f answer = .ok a := by
  refine .bind (.perform quiet fun answer expected => expected) fun answer expected => ?_
  exact .lift fun a computed => ⟨answer, expected, computed⟩

theorem asks_loadAnchor : (loadAnchor symbol).Asks (Expected symbol id found) (Under key)
    fun anchor => ∃ position, anchor = position.lastFailedOffchainOrderId ∧ found position := by
  refine .bind (asks_answer trivial) ?_
  rintro loaded ⟨answer, expected, computed⟩
  cases answer with
  | error error => cases computed
  | ok loaded' =>
      cases computed
      obtain ⟨position, rfl, known⟩ := expected rfl _ rfl
      exact ⟨position, rfl, known⟩

/-- The identifier's own order is for the position. -/
theorem asks_loadOrder : (loadOrder id).Asks (Expected symbol id found) (Under key)
    fun loaded => ∀ order, loaded = some order → order.symbol = symbol := by
  refine .mono (asks_answer trivial) ?_
  rintro loaded ⟨answer, expected, computed⟩ order rfl
  cases answer with
  | error error => cases computed
  | ok loaded' =>
      cases computed
      exact expected rfl _ rfl

/-- An operation that is not a placement, and whose answer does not matter. -/
theorem asks_quiet {α : Type} {op : Op} {f : op.Ret → Except HedgeError α} (quiet : Under key op) :
    ((Prog.perform op : Hedge op.Ret) >>= fun answer => Prog.liftExcept (f answer)).Asks
      (Expected symbol id found) (Under key) fun _ => True :=
  .mono (asks_answer quiet) fun _ _ => trivial

theorem asks_placeOrAdopt {request : OrderRequest} {fallbackExtended : Bool}
    {fallbackPrice : Option Positive} (keyed : request.clientOrderId = key) :
    (placeOrAdopt request fallbackExtended fallbackPrice).Asks (Expected symbol id found)
      (Under key) fun _ => True := by
  refine .bind (.perform keyed fun answer _ => trivial) ?_
  intro posted _
  match posted with
  | .ok executorOrderId => trivial
  | .error (.api message) => trivial
  | .error .duplicateClientOrderId =>
      refine .bind (.perform trivial fun answer _ => trivial) ?_
      intro existing _
      match existing with
      | .error message => trivial
      | .ok none => trivial
      | .ok (some order) =>
          simp only
          cases parseLimitPrice order.limitPrice <;> trivial

theorem asks_placeAtBroker {placement : OffchainOrderPlacement}
    (keyed : placement.clientOrderId = key) :
    (placeAtBroker placement).Asks (Expected symbol id found) (Under key) fun _ => True := by
  unfold placeAtBroker
  cases placement.kind with
  | market =>
      simp only [placeMarketOrder]
      split
      · trivial
      · exact asks_placeOrAdopt keyed
  | extendedHoursLimit limitPrice =>
      simp only [placeLimitOrder]
      split
      · trivial
      · exact asks_placeOrAdopt keyed

theorem asks_placeOffchainOrderAtBroker {placement : OffchainOrderPlacement} {now : Time}
    (keyed : placement.clientOrderId = key) :
    (placeOffchainOrderAtBroker id placement now).Asks (Expected symbol id found) (Under key)
      fun _ => True := by
  refine .bind (asks_quiet trivial) fun _ _ => ?_
  refine .bind asks_loadOrder fun loaded _ => ?_
  split
  · refine .bind (asks_placeAtBroker keyed) fun result _ => ?_
    cases result with
    | ok placed => exact .bind (asks_quiet trivial) fun _ _ => asks_quiet trivial
    | error error => exact .bind (asks_quiet trivial) fun _ _ => asks_quiet trivial
  · trivial

/-- Every placement goes through the anchor of the position it is for. -/
theorem asks_placeUnderAnchor
    (keyed : ∀ position, found position →
      clientOrderIdForPlacement id position.lastFailedOffchainOrderId = key)
    {ordered : Symbol} {shares : Positive} {direction : Direction} {executor : SupportedExecutor}
    {kind : CounterTradeOrderKind} {now : Time} :
    (placeUnderAnchor symbol id ordered shares direction executor kind now).Asks
      (Expected symbol id found) (Under key) fun _ => True := by
  refine .bind asks_loadAnchor ?_
  rintro anchor ⟨position, rfl, known⟩
  exact asks_placeOffchainOrderAtBroker (keyed position known)

theorem asks_sendPosition {asked : Symbol} {command : PositionCommand} {basis : Basis} :
    (sendPosition asked command basis).Asks (Expected symbol id found) (Under key)
      fun _ => True :=
  asks_quiet trivial

theorem asks_push {job : Job} :
    (push job).Asks (Expected symbol id found) (Under key) fun _ => True :=
  asks_quiet trivial

theorem asks_finalizeCancelled {asked : Symbol} {closing : OffchainOrderId}
    {cancelled : OffchainOrder} :
    (finalizeCancelledPositionOrLogUnpriced asked closing cancelled).Asks
      (Expected symbol id found) (Under key) fun _ => True := by
  unfold finalizeCancelledPositionOrLogUnpriced
  split
  · exact asks_sendPosition
  · trivial

theorem asks_routePlacementOutcome {asked : Symbol} {placed : Option OffchainOrder} :
    (routePlacementOutcome asked id placed).Asks (Expected symbol id found) (Under key)
      fun _ => True := by
  unfold routePlacementOutcome
  split
  case h_1 | h_5 => exact asks_sendPosition
  case h_2 | h_3 | h_4 => exact asks_push
  case h_6 | h_7 => trivial
  case h_8 => exact asks_finalizeCancelled

theorem asks_dispatchPostPlaceState {asked : Symbol} {loaded : Option OffchainOrder} :
    (dispatchPostPlaceState loaded asked id).Asks (Expected symbol id found) (Under key)
      fun _ => True := by
  unfold dispatchPostPlaceState
  split
  case h_1 | h_5 => exact .bind asks_sendPosition fun _ _ => trivial
  case h_2 | h_3 | h_4 => exact .bind asks_push fun _ _ => trivial
  case h_6 | h_7 => trivial
  case h_8 => exact .bind asks_finalizeCancelled fun _ _ => trivial

theorem asks_resolveTerminalClaimedOrder {asked : Symbol} {order : Option OffchainOrder} :
    (resolveTerminalClaimedOrder asked id order).Asks (Expected symbol id found) (Under key)
      fun _ => True := by
  unfold resolveTerminalClaimedOrder
  split
  · exact .bind asks_sendPosition fun _ _ => trivial
  · split
    · trivial
    · exact .bind asks_sendPosition fun _ _ => trivial

/-- What the positions found have in common: they claim the order, under the key. -/
def Claiming (id : OffchainOrderId) (key : ClientOrderId) (found : Position → Prop) : Prop :=
  ∀ position, found position → position.pendingOffchainOrderId = some id ∧
    clientOrderIdForPlacement id position.lastFailedOffchainOrderId = key

theorem asks_recoverSingleOrphanedOrder (claiming : Claiming id key found) (now : Time) :
    (recoverSingleOrphanedOrder symbol id now).Asks (Expected symbol id found) (Under key)
      fun _ => True := by
  refine .bind asks_loadOrder fun order _ => ?_
  refine .bind asks_resolveTerminalClaimedOrder fun resolved _ => ?_
  cases resolved with
  | true => trivial
  | false =>
      cases order with
      | none => trivial
      | some order =>
          cases order with
          | pending =>
              refine .bind (asks_placeUnderAnchor fun position known =>
                (claiming position known).2) ?_
              intro placed _
              split
              · exact asks_sendPosition
              · trivial
          | _ => trivial

theorem asks_recoverClaimedOffchainOrder (claiming : Claiming id key found) (now : Time) :
    (recoverClaimedOffchainOrder symbol now).Asks (Expected symbol id found) (Under key)
      fun _ => True := by
  refine .bind (asks_answer trivial) ?_
  rintro loaded ⟨answer, expected, computed⟩
  cases answer with
  | error error => cases computed
  | ok loaded' =>
      cases computed
      obtain ⟨position, rfl, known⟩ := expected rfl _ rfl
      have claimed : (some position).bind Position.pendingOffchainOrderId = some id :=
        (claiming position known).1
      simp only [claimed]
      refine .bind asks_loadOrder fun order ordered => ?_
      refine .bind asks_resolveTerminalClaimedOrder fun resolved _ => ?_
      cases resolved with
      | true => trivial
      | false =>
          match order with
          | none | some (.filled ..) | some (.failed ..) | some (.cancelled ..) => trivial
          | some (.submitted ..) | some (.partiallyFilled ..) | some (.cancelling ..) =>
              exact .bind asks_push fun _ _ => trivial
          | some (.pending terms session) =>
              have same : terms.symbol = symbol := ordered _ rfl
              subst same
              refine .bind (asks_placeUnderAnchor fun position known => (claiming position known).2)
                fun placed _ => ?_
              refine .bind asks_dispatchPostPlaceState fun outcome _ => ?_
              cases outcome <;> trivial

section Sessions

variable [FloatFormat]

theorem asks_selectOrderKind {config : HedgeConfig} {asked : Symbol} {direction : Direction} :
    (selectOrderKindForCurrentSession config asked direction).Asks (Expected symbol id found)
      (Under key) fun _ => True := by
  refine .bind (.perform trivial fun answer _ => trivial) fun session _ => ?_
  match session with
  | .error source | .ok .regular | .ok .closed => trivial
  | .ok .extended =>
      simp only
      split
      · trivial
      · refine .bind (.perform trivial fun answer _ => trivial) fun latest _ => ?_
        match latest with
        | .error source | .ok none => trivial
        | .ok (some price) =>
            simp only
            split <;> trivial

theorem asks_recoverPendingPollStatus (claiming : Claiming id key found) (config : HedgeConfig)
    (now : Time) :
    (recoverPendingPollStatus config id now).Asks (Expected symbol id found) (Under key)
      fun _ => True := by
  refine .bind asks_loadOrder fun order ordered => ?_
  match order with
  | none | some (.filled ..) | some (.failed ..) | some (.cancelled ..) => trivial
  | some (.submitted ..) | some (.partiallyFilled ..) | some (.cancelling ..) => exact asks_push
  | some (.pending terms session) =>
      have same : terms.symbol = symbol := ordered _ rfl
      subst same
      refine .bind asks_selectOrderKind fun kind _ => ?_
      cases kind with
      | none => trivial
      | some kind =>
          refine .bind (asks_placeUnderAnchor fun position known => (claiming position known).2)
            fun placed _ => ?_
          exact asks_routePlacementOutcome

theorem asks_placeHedge (claiming : Claiming id key found) (config : HedgeConfig)
    {job : PlaceHedge} (now : Time) (ofSymbol : job.symbol = symbol)
    (ofOrder : job.offchainOrderId = id) :
    (placeHedge config job now).Asks (Expected symbol id found) (Under key) fun _ => True := by
  subst ofSymbol ofOrder
  refine .bind asks_selectOrderKind fun kind _ => ?_
  cases kind with
  | none => exact asks_recoverPendingPollStatus claiming config now
  | some kind =>
      refine .bind (.perform trivial fun answer expected => expected) ?_
      intro answer expected
      split
      case h_1 pendingId =>
        have same : pendingId = job.offchainOrderId := expected rfl pendingId rfl
        subst same
        exact asks_recoverPendingPollStatus claiming config now
      case h_2 | h_3 => trivial
      case h_4 =>
        refine .bind (asks_placeUnderAnchor fun position known => (claiming position known).2)
          fun placed _ => ?_
        exact asks_routePlacementOutcome

end Sessions

theorem asks_placeOffchainOrder (claiming : Claiming id key found) (config : HedgeConfig)
    {execution : ExecutionCtx} (now : Time) (ofSymbol : execution.symbol = symbol) :
    (placeOffchainOrder config execution now).Asks (Expected symbol id found) (Under key)
      fun _ => True := by
  subst ofSymbol
  refine .bind (.perform trivial fun answer expected => expected) ?_
  intro drawn expected
  have same : drawn = id := expected
  subst same
  refine .bind (.perform trivial fun answer _ => trivial) fun answer _ => ?_
  split
  case h_1 | h_2 => exact asks_recoverClaimedOffchainOrder claiming now
  case h_3 => trivial
  case h_4 =>
    refine .bind (asks_placeUnderAnchor fun position known => (claiming position known).2)
      fun _ _ => ?_
    refine .bind asks_loadOrder fun loaded _ => ?_
    refine .bind asks_dispatchPostPlaceState fun outcome _ => ?_
    cases outcome <;> trivial

end Paths

/-- Every path that places the order, the first placement and each later drive of
it, asks the broker under one key. -/
structure PlacedUnder [FloatFormat] (symbol : Symbol) (id : OffchainOrderId)
    (found : Position → Prop) (key : ClientOrderId) : Prop where
  placeHedge : ∀ config job now, job.symbol = symbol → job.offchainOrderId = id →
    (placeHedge config job now).Asks (Expected symbol id found) (Under key) fun _ => True
  placeOffchainOrder : ∀ config execution now, execution.symbol = symbol →
    (placeOffchainOrder config execution now).Asks (Expected symbol id found) (Under key)
      fun _ => True
  recoverSingleOrphanedOrder : ∀ now,
    (recoverSingleOrphanedOrder symbol id now).Asks (Expected symbol id found) (Under key)
      fun _ => True
  recoverClaimedOffchainOrder : ∀ now,
    (recoverClaimedOffchainOrder symbol now).Asks (Expected symbol id found) (Under key)
      fun _ => True
  recoverPendingPollStatus : ∀ config now,
    (recoverPendingPollStatus config id now).Asks (Expected symbol id found) (Under key)
      fun _ => True

section Results

variable [FloatFormat]

theorem placedUnder_of_claiming {symbol : Symbol} {id : OffchainOrderId} {found : Position → Prop}
    {key : ClientOrderId} (claiming : Claiming id key found) : PlacedUnder symbol id found key where
  placeHedge := fun config _ now => asks_placeHedge claiming config now
  placeOffchainOrder := fun config _ now => asks_placeOffchainOrder claiming config now
  recoverSingleOrphanedOrder := asks_recoverSingleOrphanedOrder claiming
  recoverClaimedOffchainOrder := asks_recoverClaimedOffchainOrder claiming
  recoverPendingPollStatus := asks_recoverPendingPollStatus claiming

/-- The key of a claimed order is the same in every state in which it is claimed; a
chain of attempts has one key; and every path places the order under it. -/
theorem claimed_order_key (commands : List (Time × PositionCommand))
    (start during : List PositionEvent) (first : Position) (id : OffchainOrderId) :
    (ClaimedThroughout commands start during first id → ∀ part position, part <+: during →
      Position.aggregate.lifecycle (start ++ part) = .live position →
        clientOrderIdForPlacement id position.lastFailedOffchainOrderId =
          clientOrderIdForPlacement id first.lastFailedOffchainOrderId) ∧
    (start ++ during <+: Position.aggregate.sends commands [] →
      Position.aggregate.lifecycle start = .live first →
      first.pendingOffchainOrderId = some id →
      (∀ event ∈ during, event.endsChain = false) → ∀ last attempt,
        Position.aggregate.lifecycle (start ++ during) = .live last →
        last.pendingOffchainOrderId = some attempt →
          clientOrderIdForPlacement attempt last.lastFailedOffchainOrderId =
            clientOrderIdForPlacement id first.lastFailedOffchainOrderId) ∧
    (ClaimedThroughout commands start during first id → ∀ symbol,
      PlacedUnder symbol id
        (fun position => ∃ part, part <+: during ∧
          Position.aggregate.lifecycle (start ++ part) = .live position)
        (clientOrderIdForPlacement id first.lastFailedOffchainOrderId)) := by
  refine ⟨?_, ?_, ?_⟩
  · intro claim part position within live
    exact (claim.shorten within).key live
  · intro history starts claimed goesOn last attempt ends held
    exact (key_of_chain history starts claimed goesOn ends).claimed held
  · intro claim symbol
    apply placedUnder_of_claiming
    rintro position ⟨part, within, live⟩
    obtain ⟨found, live', claimed⟩ := claim.held part within
    rw [live] at live'
    cases live'
    exact ⟨claimed, (claim.shorten within).key live⟩

end Results

/-- A fill, a hedge that fails, another attempt, and a fill while it is claimed. -/
def retriedRun : List (Time × PositionCommand) :=
  [(1, .acknowledgeOnChainFill "AAPL" (.dollarValue 1) ⟨1, 0⟩ 3 .buy 10 1),
    (2, .placeOffChainOrder ⟨1⟩ ⟨3, Positive.three_pos⟩ .sell .dryRun (.dollarValue 1)),
    (3, .failOffChainOrder ⟨1⟩ "refused"),
    (4, .placeOffChainOrder ⟨2⟩ ⟨3, Positive.three_pos⟩ .sell .dryRun (.dollarValue 1)),
    (5, .acknowledgeOnChainFill "AAPL" (.dollarValue 1) ⟨2, 0⟩ 2 .sell 10 5)]

def retriedStream : List PositionEvent := (@Position.aggregate .exact).sends retriedRun []

def retriedAt (events : Nat) : Lifecycle Position :=
  (@Position.aggregate .exact).lifecycle (retriedStream.take events)

/-- What is known of the position behind a lifecycle. -/
theorem live_of_entity {state : Lifecycle Position} {claim : Option OffchainOrderId}
    (known : state.entity?.map Position.pendingOffchainOrderId = some claim) :
    ∃ position, state = .live position ∧ position.pendingOffchainOrderId = claim := by
  cases state with
  | live position => exact ⟨position, rfl, Option.some.inj known⟩
  | uninitialized => cases known
  | failed => cases known

theorem claimed_order_key_retried : ∃ first second last,
    retriedAt 4 = .live first ∧ retriedAt 6 = .live second ∧ retriedAt 8 = .live last ∧
      clientOrderIdForPlacement ⟨2⟩ second.lastFailedOffchainOrderId =
        clientOrderIdForPlacement ⟨1⟩ first.lastFailedOffchainOrderId ∧
      clientOrderIdForPlacement ⟨2⟩ last.lastFailedOffchainOrderId =
        clientOrderIdForPlacement ⟨2⟩ second.lastFailedOffchainOrderId ∧
      @PlacedUnder .exact "AAPL" ⟨2⟩ (fun position => ∃ part, part <+: retriedStream.drop 6 ∧
          (@Position.aggregate .exact).lifecycle (retriedStream.take 6 ++ part) = .live position)
        (clientOrderIdForPlacement ⟨2⟩ second.lastFailedOffchainOrderId) := by
  let : FloatFormat := .exact
  have before : ∀ events, retriedStream.take events <+: Position.aggregate.sends retriedRun [] :=
    fun events => List.take_prefix events _
  have firstClaimed :
      (retriedAt 4).entity?.map Position.pendingOffchainOrderId = some (some ⟨1⟩) := by
    decide +kernel
  have claimed : ∀ more ∈ List.range 3, (retriedAt (6 + more)).entity?.map
      Position.pendingOffchainOrderId = some (some ⟨2⟩) := by decide +kernel
  obtain ⟨first, live₄, pending₄⟩ := live_of_entity firstClaimed
  obtain ⟨second, live₆, pending₆⟩ := live_of_entity (claimed 0 (by decide))
  obtain ⟨last, live₈, pending₈⟩ := live_of_entity (claimed 2 (by decide))
  have chain : retriedStream.take 4 ++ (retriedStream.take 6).drop 4 = retriedStream.take 6 := by
    decide +kernel
  have whole : retriedStream.take 6 ++ retriedStream.drop 6 = retriedStream :=
    List.take_append_drop ..
  have two : (retriedStream.drop 6).length = 2 := by decide +kernel
  have claim : ClaimedThroughout retriedRun (retriedStream.take 6) (retriedStream.drop 6) second
      ⟨2⟩ := by
    refine ⟨?_, live₆, ?_⟩
    · rw [whole]
      exact List.prefix_refl _
    · intro part within
      have few : part.length ≤ 2 := two ▸ within.length_le
      have known := live_of_entity (claimed part.length (List.mem_range.mpr (by omega)))
      have same : retriedStream.take (6 + part.length) = retriedStream.take 6 ++ part := by
        rw [List.take_add, ← List.prefix_iff_eq_take.mp within]
      simpa only [retriedAt, same] using known
  have key := claimed_order_key retriedRun (retriedStream.take 6) (retriedStream.drop 6) second ⟨2⟩
  have attempts := claimed_order_key retriedRun (retriedStream.take 4)
    ((retriedStream.take 6).drop 4) first ⟨1⟩
  refine ⟨first, second, last, live₄, live₆, live₈, ?_, ?_, key.2.2 claim "AAPL"⟩
  · refine attempts.2.1 ?_ live₄ pending₄ (by decide +kernel) second ⟨2⟩ ?_ pending₆
    · rw [chain]
      exact before 6
    · rw [chain]
      exact live₆
  · refine key.1 claim _ last (List.prefix_refl _) ?_
    rw [whole]
    have all : retriedStream.take 8 = retriedStream := by decide +kernel
    simpa only [retriedAt, all] using live₈

end Hedging

end Liquidity
