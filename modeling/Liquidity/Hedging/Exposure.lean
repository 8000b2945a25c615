import Liquidity.Hedging.Release

/-!
# Hedges are computed early and accepted late

A scan decides direction and quantity from the net position it reads; the
position accepts the order later, and then only looks at its own threshold and
its claim. Whatever the net position does in between goes unnoticed.

`placements_reduce_exposure` gives the exact slack: the order still reduces the
exposure if since the scan the net position has moved towards zero, or beyond,
by no more than what the order leaves open.
-/

namespace Liquidity.Hedging

open EventSourcing Process

section Exposure

variable [FloatFormat]

/-- The order is against the position and no larger than it. -/
def Offsets (net : FractionalShares) (direction : Direction) (shares : Positive) : Prop :=
  match direction with
  | .sell => 0 < net ∧ shares.inner ≤ |net|
  | .buy => net < 0 ∧ shares.inner ≤ |net|

/-- How far the net position has moved in the direction of a hedge since it was
scanned, that is, how much of the exposure went away by itself. -/
def eroded (direction : Direction) (scanned net : FractionalShares) : ℚ :=
  direction.sign * (net - scanned)

/-- The absolute value of the float library is one, where there is one. -/
def AbsExact : Prop := ∀ value result : ℚ, Decimal.abs value = .ok result → result = |value|

/-- What a readiness check decides: to trade against the position, by its size at most. -/
theorem isReadyForExecution_eq_some {position : Position} {limit : Option Positive}
    {direction : Direction} {capped : FractionalShares}
    (ready : position.isReadyForExecution limit = .ok (some (direction, capped))) :
    direction = (if position.net < 0 then .buy else .sell) ∧
      ∃ size, Decimal.abs position.net = .ok size ∧ capped ≤ size := by
  unfold Position.isReadyForExecution at ready
  split at ready
  · cases ready
  · obtain ⟨trigger, -, rest⟩ := bind_eq_ok.mp ready
    split at rest
    · cases rest
    · obtain ⟨size, measured, decided⟩ := bind_eq_ok.mp rest
      cases limit with
      | none =>
          dsimp only at decided
          split at decided <;> cases decided
          exact ⟨rfl, capped, Position.liftFloat_eq_ok.mp measured, le_refl _⟩
      | some cap =>
          have below : (if size > cap.inner then cap.inner else size) ≤ size := by
            split
            · rename_i above
              exact above.le
            · exact le_refl _
          dsimp only at decided
          generalize (if size > cap.inner then cap.inner else size) = quantity at below decided
          split at decided <;> cases decided
          exact ⟨rfl, size, Position.liftFloat_eq_ok.mp measured, below⟩

/-- A computed hedge offsets a later net position exactly if that has not moved
further in the direction of the hedge than the hedge leaves open. -/
theorem Computed.offsets_iff (absExact : AbsExact) {scanned : FractionalShares}
    {direction : Direction} {shares : Positive} (computed : Computed scanned direction shares)
    (net : FractionalShares) :
    Offsets net direction shares ↔
      eroded direction scanned net ≤ |scanned| - shares.inner := by
  obtain ⟨position, limit, capped, rfl, ready, within⟩ := computed
  obtain ⟨rfl, size, measured, capped_le⟩ := isReadyForExecution_eq_some ready
  obtain rfl := absExact _ _ measured
  have positive := shares.pos
  by_cases short : position.net < 0
  · rw [if_pos short]
    simp only [Offsets, eroded, Direction.sign, one_mul, abs_of_neg short]
    constructor
    · rintro ⟨below, fits⟩
      rw [abs_of_neg below] at fits
      linarith
    · intro slack
      have below : net < 0 := by linarith
      refine ⟨below, ?_⟩
      rw [abs_of_neg below]
      linarith
  · have long : 0 ≤ position.net := not_lt.mp short
    rw [if_neg short]
    simp only [Offsets, eroded, Direction.sign, abs_of_nonneg long]
    constructor
    · rintro ⟨above, fits⟩
      rw [abs_of_pos above] at fits
      linarith
    · intro slack
      have above : 0 < net := by linarith
      refine ⟨above, ?_⟩
      rw [abs_of_pos above]
      linarith

/-- Between two worlds every placement that was accepted offsets the position
that accepted it. -/
def PlacementsReduceExposure (before after : World) : Prop :=
  ∀ symbol entity id shares direction executor trigger placedAt,
    Position.aggregate.lifecycle (before.positions symbol) = .live entity →
    after.positions symbol = before.positions symbol ++
      [.offChainOrderPlaced id shares direction executor trigger placedAt] →
    Offsets entity.net direction shares

/-- Since the scan behind it, the position has lost no more exposure than the
placement leaves open. -/
def StillExposed (_ : Task) (op : Op) (world : World) : Prop :=
  match op with
  | .sendPosition symbol (.placeOffChainOrder _ shares direction _ _) (.scanned net) =>
      match Position.aggregate.lifecycle (world.positions symbol) with
      | .live entity => eroded direction net entity.net ≤ |net| - shares.inner
      | _ => True
  | _ => True

instance (task : Task) (op : Op) (world : World) : Decidable (StillExposed task op world) := by
  unfold StillExposed
  split
  · split <;> infer_instance
  · infer_instance

theorem step_reduces (absExact : AbsExact) {world next : World} {choice : Choice} {task : Task}
    {op : Op} {answer : op.Ret} (fits : Fit op world) (exposed : StillExposed task op world)
    (handled : handle choice op world = some (answer, next)) :
    PlacementsReduceExposure world next := by
  intro symbol entity id shares direction executor trigger placedAt live grown
  rcases handle_positions handled with same | ⟨target, command, basis, events, rfl, sent, same⟩
  · rw [same] at grown
    exact absurd grown (by simp)
  · by_cases here : symbol = target
    · subst here
      rw [same, Streams.append_self] at grown
      obtain rfl := List.append_cancel_left grown
      obtain ⟨owner, -, recorded⟩ := Position.send_aboutOrder sent (List.mem_singleton_self _) rfl
      cases command with
      | placeOffChainOrder =>
          obtain ⟨-, trigger', placed⟩ := recorded
          cases placed
          obtain ⟨-, scanned, rfl, computed⟩ := fits
          refine (computed.offsets_iff absExact entity.net).mpr ?_
          simpa only [StillExposed, live] using exposed
      | completeOffChainOrder | failOffChainOrder | cancelOffChainOrder =>
          obtain ⟨-, impossible⟩ := recorded
          cases impossible
      | _ => cases recorded
    · rw [same, Streams.append_of_ne _ here] at grown
      exact absurd grown (by simp)

/-- In every run whose placements meet the condition, every accepted placement
reduces the exposure it meets. -/
theorem placements_reduce_exposure (absExact : AbsExact) (config : HedgeConfig)
    {schedule : List (Act Choice Task OtherCommand)} {action : Act Choice Task OtherCommand}
    {before after : Config Op Op.Ret HedgeError Unit World Task}
    (ran : (system config).run ⟨World.empty, []⟩ schedule = some before)
    (acted : (system config).act before action = some after)
    (exposed : System.Meets StillExposed before action) :
    PlacementsReduceExposure before.shared after.shared := by
  have fitting := (System.Fitting.initial Consistent.empty).run (disciplined config) ran
  have unchanged : PlacementsReduceExposure before.shared before.shared := by
    intro symbol entity id shares direction executor trigger placedAt live grown
    exact absurd grown (by simp)
  cases action with
  | start task =>
      simp only [System.act] at acted
      split at acted <;> cases acted
      exact unchanged
  | step index choice =>
      obtain ⟨task, op, cont, answer, shared, found, handled, rfl⟩ :=
        (system config).advance_eq_some acted
      exact step_reduces absExact (fitting.fits found) (exposed.operation found) handled
  | crash index =>
      cases acted
      exact unchanged
  | env other =>
      obtain ⟨shared, changed, rfl⟩ := Option.map_eq_some_iff.mp acted
      intro symbol entity id shares direction executor trigger placedAt live grown
      exact absurd grown (environment_aboutOrder changed rfl)

end Exposure

/-! ## Two schedules -/

/-- A scan sees ten shares long and enqueues their sale. Before the job claims the
position, the chain fills another order of ours. -/
def scannedThenFilled (amount : FractionalShares) (direction : Direction) :
    List (Act Choice Task OtherCommand) :=
  [filledOnchain 1 10 .buy] ++ scanned 1 ++
    [filledOnchain 2 amount direction, .start (sampleHedge 1 .sell ⟨10, Positive.ten_pos⟩ 10),
      .step 0 ordinary]

/-- Without the condition an accepted placement may add to the exposure: a short
position of five accepts the sale of ten. -/
theorem stale_placement_accepted :
    ¬ ∀ (schedule : List (Act Choice Task OtherCommand)) (action : Act Choice Task OtherCommand)
      (before after : Config Op Op.Ret HedgeError Unit World Task),
      (@system FloatFormat.exact sampleConfig).run ⟨World.empty, []⟩ schedule = some before →
        (@system FloatFormat.exact sampleConfig).act before action = some after →
          @PlacementsReduceExposure FloatFormat.exact before.shared after.shared := by
  intro claim
  have accepted : (((@system FloatFormat.exact sampleConfig).run ⟨World.empty, []⟩
      (scannedThenFilled 15 .sell)).bind fun before =>
        ((@system FloatFormat.exact sampleConfig).act before (.step 0 ordinary)).bind fun after =>
          match @Aggregate.lifecycle _ _ _ _ _ (@Position.aggregate FloatFormat.exact)
              (before.shared.positions "AAPL") with
          | .live entity =>
              if after.shared.positions "AAPL" = before.shared.positions "AAPL" ++
                  [.offChainOrderPlaced ⟨1⟩ ⟨10, Positive.ten_pos⟩ .sell .alpacaBrokerApi
                    (.sharesThreshold 5 1) 0] then some entity.net
              else none
          | _ => none) = some (-5) := by
    decide +kernel
  obtain ⟨before, ran, rest⟩ := Option.bind_eq_some_iff.mp accepted
  obtain ⟨after, acted, placed⟩ := Option.bind_eq_some_iff.mp rest
  split at placed
  · rename_i entity live
    split at placed
    · rename_i grown
      obtain ⟨long, -⟩ := claim _ _ before after ran acted "AAPL" entity _ _ _ _ _ _ live grown
      rw [Option.some.inj placed] at long
      exact absurd long (by decide +kernel)
    · cases placed
  · cases placed

theorem placements_reduce_exposure_of_growing :
    ∃ before after,
      (@system FloatFormat.exact sampleConfig).run ⟨World.empty, []⟩ (scannedThenFilled 5 .buy) =
        some before ∧
      (@system FloatFormat.exact sampleConfig).act before (.step 0 ordinary) = some after ∧
      @PlacementsReduceExposure FloatFormat.exact before.shared after.shared := by
  have absExact : @AbsExact FloatFormat.exact := by
    rintro value result ⟨⟩
    rfl
  have runs : (((@system FloatFormat.exact sampleConfig).run ⟨World.empty, []⟩
      (scannedThenFilled 5 .buy)).bind fun before =>
        if System.Meets (@StillExposed FloatFormat.exact) before
            (.step 0 ordinary : Act Choice Task OtherCommand) then
          (@system FloatFormat.exact sampleConfig).act before (.step 0 ordinary)
        else none).isSome := by decide +kernel
  obtain ⟨after, done⟩ := Option.isSome_iff_exists.mp runs
  obtain ⟨before, ran, rest⟩ := Option.bind_eq_some_iff.mp done
  split at rest
  · rename_i exposed
    exact ⟨before, after, ran, rest,
      @placements_reduce_exposure FloatFormat.exact absExact sampleConfig _ _ before after ran
        rest exposed⟩
  · cases rest

end Liquidity.Hedging
