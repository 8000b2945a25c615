import Liquidity.Hedging.Conduct

/-!
# Releasing a claim keeps the broker's fill

A position is released from its order by one event. If the order has ended with
a fill, that event has to credit the fill; a release without it leaves shares at
the broker that the position never learns of.

Eight paths release claims. Those that go through the shared classifier, and the
one that records a full fill, are always right. The placement paths treat every
failed order, and every order they cannot find, as one without a fill, and a
rejection computes its command from a snapshot it took before it recorded the
failure. `releases_account_for_fills` says that nothing else can go wrong.
-/

namespace Liquidity.Hedging

open EventSourcing Process OffchainOrder

section Release

variable [FloatFormat]

/-- Between two worlds no claim on an order with a fill is released but by
crediting the position with exactly that fill, which moves its net by it. -/
def ReleasesAccountForFills (before after : World) : Prop :=
  ∀ symbol id entity entity' order shares,
    Position.aggregate.lifecycle (before.positions symbol) = .live entity →
    entity.pendingOffchainOrderId = some id →
    Position.aggregate.lifecycle (after.positions symbol) = .live entity' →
    entity'.pendingOffchainOrderId ≠ some id →
    OffchainOrder.aggregate.lifecycle (before.orders id) = .live order →
    order.terminalFill = some shares →
      (∃ executorOrderId price brokerTimestamp, after.positions symbol =
        before.positions symbol ++ [.offChainOrderFilled id shares order.direction executorOrderId
          price brokerTimestamp]) ∧
      Position.moveNet entity.net order.direction shares = .ok entity'.net

/-- Whoever is about to release a claim has a picture of the order that misses
no fill. -/
def Informed (_ : Task) (op : Op) (world : World) : Prop :=
  match op with
  | .sendPosition _ (.completeOffChainOrder id ..) basis
  | .sendPosition _ (.failOffChainOrder id _) basis
  | .sendPosition _ (.cancelOffChainOrder id _ _) basis => basis.Sound (world.orders id)
  | _ => True

instance (task : Task) (op : Op) (world : World) : Decidable (Informed task op world) := by
  unfold Informed
  split <;> infer_instance

omit [FloatFormat] in
theorem Informed.sound {task : Task} {symbol : Symbol} {command : PositionCommand} {basis : Basis}
    {world : World} (informed : Informed task (.sendPosition symbol command basis) world)
    {id : OffchainOrderId} (finalizes : command.finalizes = some id) :
    basis.Sound (world.orders id) := by
  cases command <;> cases finalizes <;> exact informed

/-- What fits and is informed accounts for the order it finishes. -/
theorem Fit.accountsFor {symbol : Symbol} {command : PositionCommand} {basis : Basis}
    {world : World} (fits : Fit (.sendPosition symbol command basis) world) {id : OffchainOrderId}
    (finalizes : command.finalizes = some id) (sound : basis.Sound (world.orders id)) :
    AccountsFor command id (world.orders id) := by
  cases command with
  | completeOffChainOrder =>
      cases finalizes
      exact fits.1 sound
  | failOffChainOrder | cancelOffChainOrder =>
      cases finalizes
      exact fits sound
  | _ => cases finalizes

/-- Positions change only by commands, and only the position they are sent to. -/
theorem handle_positions {world next : World} {choice : Choice} {op : Op} {answer : op.Ret}
    (handled : handle choice op world = some (answer, next)) :
    next.positions = world.positions ∨ ∃ symbol command basis events,
      op = .sendPosition symbol command basis ∧
        Position.aggregate.send choice.now command (world.positions symbol) = .ok events ∧
        next.positions = world.positions.append symbol events := by
  cases op with
  | sendPosition symbol command basis =>
      rcases handle_sendPosition handled with ⟨rfl, -⟩ | ⟨events, sent, -, rfl⟩
      · exact .inl rfl
      · exact .inr ⟨symbol, command, basis, events, rfl, sent, rfl⟩
  | sendOrder =>
      rcases handle_sendOrder handled with ⟨rfl, -⟩ | ⟨_, _, -, rfl⟩ <;> exact .inl rfl
  | newOrderId =>
      obtain ⟨-, rfl⟩ := handle_newOrderId handled
      exact .inl rfl
  | push => rcases handle_push handled with rfl | rfl <;> exact .inl rfl
  | postOrder =>
      rcases handle_postOrder handled with ⟨_, -, -, rfl⟩ | ⟨-, -, -, rfl⟩ | ⟨rfl, -⟩ <;>
        exact .inl rfl
  | loadPosition | loadPositionView | loadOrder | loadOrderView | transferActive | marketSession
  | fetchLatestTradePrice | preflightCounterTrade | getOrderByClientOrderId | getOrderStatus =>
      cases handled
      exact .inl rfl

/-- Commands of other subsystems record nothing about offchain orders. -/
theorem environment_aboutOrder {config : HedgeConfig} {world next : World} {other : OtherCommand}
    (changed : (system config).environment other world = some next) {symbol : Symbol}
    {event : PositionEvent} (about : (Position.aboutOrder? event).isSome) :
    next.positions symbol ≠ world.positions symbol ++ [event] := by
  intro grown
  obtain ⟨target, command, now, notHedge⟩ := other
  simp only [system] at changed
  split at changed <;> cases changed
  · rename_i events sent
    by_cases here : symbol = target
    · subst here
      simp only [Streams.append_self] at grown
      obtain rfl := List.append_cancel_left grown
      obtain ⟨entity, -, recorded⟩ := Position.send_aboutOrder sent (List.mem_singleton_self _) about
      cases command with
      | placeOffChainOrder | completeOffChainOrder | failOffChainOrder | cancelOffChainOrder =>
          cases notHedge
      | _ => cases recorded
    · simp only [Streams.append_of_ne _ here] at grown
      exact absurd grown (by simp)
  · exact absurd grown (by simp)

/-- A claim that a command released: the command finishes the claimed order, and
if it accounts for it, the batch is the fill. -/
theorem released_by {now : Time} {command : PositionCommand} {stream events : List PositionEvent}
    {entity entity' : Position} {id : OffchainOrderId}
    (sent : Position.aggregate.send now command stream = .ok events)
    (live : Position.aggregate.lifecycle stream = .live entity)
    (claimed : entity.pendingOffchainOrderId = some id)
    (live' : Position.aggregate.lifecycle (stream ++ events) = .live entity')
    (released : entity'.pendingOffchainOrderId ≠ some id) :
    command.finalizes = some id ∧ ∀ shares direction executorOrderId price brokerTimestamp,
      command = .completeOffChainOrder id shares direction executorOrderId price brokerTimestamp →
        events = [.offChainOrderFilled id shares direction executorOrderId price
          brokerTimestamp] ∧
        Position.moveNet entity.net direction shares = .ok entity'.net := by
  rw [Aggregate.lifecycle_append, live] at live'
  rcases Position.aggregate.send_eq_ok.mp sent with ⟨absent, -⟩ | ⟨found, present, produced⟩
  · rw [live] at absent
    cases absent
  · rw [live] at present
    cases present
    change entity.transition now command = .ok events at produced
    refine ⟨Position.claim_kept produced live' claimed released, ?_⟩
    rintro shares direction executorOrderId price at_ rfl
    exact ⟨(Position.transition_finalizes produced).2,
      (Position.transition_slots produced live').2.2.2⟩

/-- One step of a thread releases claims only by accounting for the fill. -/
theorem step_releases {world next : World} {choice : Choice} {task : Task} {op : Op}
    {answer : op.Ret} (fits : Fit op world) (informed : Informed task op world)
    (handled : handle choice op world = some (answer, next)) :
    ReleasesAccountForFills world next := by
  intro symbol id entity entity' order shares live claimed live' released ordered filled
  rcases handle_positions handled with same | ⟨target, command, basis, events, rfl, sent, same⟩
  · rw [same, live] at live'
    cases live'
    exact absurd claimed released
  · by_cases here : symbol = target
    · subst here
      rw [same, Streams.append_self] at live' ⊢
      obtain ⟨finalizes, completed⟩ := released_by sent live claimed live' released
      obtain ⟨executorOrderId, price, at_, rfl⟩ :=
        fits.accountsFor finalizes (informed.sound finalizes) order shares ordered filled
      obtain ⟨rfl, moved⟩ := completed _ _ _ _ _ rfl
      exact ⟨⟨_, _, _, rfl⟩, moved⟩
    · rw [same, Streams.append_of_ne _ here, live] at live'
      cases live'
      exact absurd claimed released

omit [FloatFormat] in
theorem OtherCommand.finalizes_eq_none (other : OtherCommand) :
    other.command.finalizes = none := by
  have notHedge := other.notHedge
  split at notHedge
  · cases notHedge
  · exact Option.isNone_iff_eq_none.mp notHedge

/-- Commands of other subsystems release no claim. -/
theorem environment_releases {config : HedgeConfig} {world next : World} {other : OtherCommand}
    (changed : (system config).environment other world = some next) :
    ReleasesAccountForFills world next := by
  intro symbol id entity entity' order shares live claimed live' released _ _
  simp only [system] at changed
  split at changed <;> cases changed
  · rename_i events sent
    by_cases here : symbol = other.symbol
    · subst here
      simp only [Streams.append_self] at live'
      obtain ⟨finalizes, -⟩ := released_by sent live claimed live' released
      rw [other.finalizes_eq_none] at finalizes
      cases finalizes
    · simp only [Streams.append_of_ne _ here, live] at live'
      cases live'
      exact absurd claimed released
  · rw [live] at live'
    cases live'
    exact absurd claimed released

/-- Nothing happened to a world that stayed the same. -/
theorem releases_refl (world : World) : ReleasesAccountForFills world world := by
  intro symbol id entity entity' order shares live claimed live' released _ _
  rw [live] at live'
  cases live'
  exact absurd claimed released

/-- In every run whose releasing steps are informed, no release loses a fill. -/
theorem releases_account_for_fills (config : HedgeConfig)
    {schedule : List (Act Choice Task OtherCommand)} {action : Act Choice Task OtherCommand}
    {before after : Config Op Op.Ret HedgeError Unit World Task}
    (ran : (system config).run ⟨World.empty, []⟩ schedule = some before)
    (acted : (system config).act before action = some after)
    (informed : System.Meets Informed before action) :
    ReleasesAccountForFills before.shared after.shared := by
  have fitting := (System.Fitting.initial Consistent.empty).run (disciplined config) ran
  cases action with
  | start task =>
      simp only [System.act] at acted
      split at acted <;> cases acted
      exact releases_refl _
  | step index choice =>
      obtain ⟨task, op, cont, answer, shared, found, handled, rfl⟩ :=
        (system config).advance_eq_some acted
      exact step_releases (fitting.fits found) (informed.operation found) handled
  | crash index =>
      cases acted
      exact releases_refl _
  | env other =>
      obtain ⟨shared, changed, rfl⟩ := Option.map_eq_some_iff.mp acted
      exact environment_releases changed

end Release

/-! ## Two schedules -/

/-- A hedge of ten shares is filled by four and then rejected. The job that
handles the rejection has recorded the failure, but not yet told the position. -/
def rejectedAfterFill : List (Act Choice Task OtherCommand) :=
  [filledOnchain 1 10 .buy] ++ scanned 1 ++
    undisturbed (sampleHedge 1 .sell ⟨10, Positive.ten_pos⟩ 10) (placement 1 .accepted) ++
    undisturbed (.job (.pollOrderStatus ⟨1⟩) 0)
      (List.replicate 5 { status := .failed 5 (some "rejected") (some 4) (some 100) }) ++
    [.start (.job (.handleOrderRejection ⟨⟨1⟩, "rejected", some 5⟩) 0), .step 0 ordinary,
      .step 0 ordinary]

/-- The trade processor looks at the claimed order before the rejection goes on. -/
def overtaken : List (Act Choice Task OtherCommand) :=
  rejectedAfterFill ++ [.start (.afterFill "AAPL" true 0), .step 1 ordinary, .step 1 ordinary]

/-- The rejection finds that the position still claims the order. -/
def continued : List (Act Choice Task OtherCommand) := rejectedAfterFill ++ [.step 0 ordinary]

/-- Without a condition on its steps, a run does lose a fill: the trade processor
releases the claim as failed although four shares were sold. -/
theorem fill_lost_on_release :
    ¬ ∀ (schedule : List (Act Choice Task OtherCommand)) (action : Act Choice Task OtherCommand)
      (before after : Config Op Op.Ret HedgeError Unit World Task),
      (@system FloatFormat.exact sampleConfig).run ⟨World.empty, []⟩ schedule = some before →
        (@system FloatFormat.exact sampleConfig).act before action = some after →
          @ReleasesAccountForFills FloatFormat.exact before.shared after.shared := by
  intro claim
  let claimant (net : ℚ) (pending anchor : Option OffchainOrderId) (at_ : Time) : Position :=
    ⟨"AAPL", net, 10, 0, pending, anchor, some ⟨1, 0⟩, {⟨1, 0⟩}, .shares ⟨1, Positive.one_pos⟩,
      some 100, some at_⟩
  have released : (((@system FloatFormat.exact sampleConfig).run ⟨World.empty, []⟩
      overtaken).bind fun before =>
        ((@system FloatFormat.exact sampleConfig).act before (.step 1 ordinary)).map fun after =>
          (@Aggregate.lifecycle _ _ _ _ _ (@Position.aggregate FloatFormat.exact)
              (before.shared.positions "AAPL"),
            OffchainOrder.aggregate.lifecycle (before.shared.orders ⟨1⟩),
            @Aggregate.lifecycle _ _ _ _ _ (@Position.aggregate FloatFormat.exact)
              (after.shared.positions "AAPL"),
            (after.shared.positions "AAPL").getLast?)) =
      some (.live (claimant 10 (some ⟨1⟩) none 0),
        .live (.failed ⟨"AAPL", ⟨10, Positive.ten_pos⟩, .sell, .alpacaBrokerApi, 0⟩
          (some (.priced 4 100 5)) (some (brokerId 1)) "rejected" 5),
        .live (claimant 10 none (some ⟨1⟩) 0),
        some (.offChainOrderFailed ⟨1⟩ "rejected" 0)) := by
    decide +kernel
  obtain ⟨before, ran, rest⟩ := Option.bind_eq_some_iff.mp released
  obtain ⟨after, acted, states⟩ := Option.map_eq_some_iff.mp rest
  simp only [Prod.mk.injEq] at states
  obtain ⟨live, ordered, live', last⟩ := states
  obtain ⟨⟨executorOrderId, price, at_, grown⟩, -⟩ :=
    claim overtaken _ before after ran acted "AAPL" ⟨1⟩ _ _ _ ⟨4, by decide⟩ live rfl live'
      (by decide) ordered rfl
  rw [grown, List.getLast?_concat] at last
  cases last

theorem releases_account_for_fills_of_rejection :
    ∃ before after,
      (@system FloatFormat.exact sampleConfig).run ⟨World.empty, []⟩ continued = some before ∧
      (@system FloatFormat.exact sampleConfig).act before (.step 0 ordinary) = some after ∧
      @ReleasesAccountForFills FloatFormat.exact before.shared after.shared := by
  have runs : (((@system FloatFormat.exact sampleConfig).run ⟨World.empty, []⟩ continued).bind
      fun before =>
        if System.Meets Informed before (.step 0 ordinary : Act Choice Task OtherCommand) then
          (@system FloatFormat.exact sampleConfig).act before (.step 0 ordinary)
        else none).isSome := by decide +kernel
  obtain ⟨after, done⟩ := Option.isSome_iff_exists.mp runs
  obtain ⟨before, ran, rest⟩ := Option.bind_eq_some_iff.mp done
  split at rest
  · rename_i informed
    exact ⟨before, after, ran, rest,
      @releases_account_for_fills FloatFormat.exact sampleConfig continued _ before after ran rest
        informed⟩
  · cases rest

end Liquidity.Hedging
