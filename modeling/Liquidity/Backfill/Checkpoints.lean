import Liquidity.Backfill.NoGaps

/-!
# What a checkpoint stands for
-/

namespace Liquidity.Backfill

open Process

/-- A run of processes: what they do, and when one goes down and the next starts. -/
abbrev History := List (Move Choice Label Env EvmCtx)

/-- A process that starts on empty tables. -/
def start (evm : EvmCtx) : Running Op Op.Ret BackfillError Unit World Label EvmCtx :=
  ⟨evm, ⟨World.empty, []⟩⟩

/-- A saved checkpoint is at least what was there. -/
theorem handle_checkpoint_le {chain : Chain} {evm : EvmCtx} {choice : Choice} {before after : World}
    {op : Op} {answer : op.Ret} {orderbook : Address} {bound : Nat}
    (reached : ∃ checkpoint, before.checkpoints orderbook = some checkpoint ∧ bound ≤ checkpoint)
    (handled : handle chain evm choice op before = some (answer, after)) :
    ∃ checkpoint, after.checkpoints orderbook = some checkpoint ∧ bound ≤ checkpoint := by
  cases op with
  | getBlockNumber | latestCutoffBlock | loadBackfillCheckpoint | hasInFlight | noteScan | finish =>
      cases handled
      exact reached
  | getLogs =>
      simp only [handle] at handled
      split at handled <;> cases handled <;> exact reached
  | accept =>
      simp only [handle] at handled
      split at handled
      · split at handled <;> cases handled
        exact reached
      · cases handled
  | pushRange | pushTrade =>
      rcases attempt_cases (Option.some.inj handled) with ⟨rfl, -⟩ | rfl
      · exact reached
      · exact reached
  | saveBackfillCheckpoint block =>
      simp only [handle] at handled
      split at handled
      case isFalse =>
        cases handled
        exact reached
      case isTrue =>
        rcases attempt_cases (Option.some.inj handled) with ⟨rfl, -⟩ | rfl
        · exact reached
        · obtain ⟨checkpoint, stored, above⟩ := reached
          by_cases same : orderbook = evm.orderbook
          · subst same
            refine ⟨max block checkpoint, ?_, above.trans (le_max_right _ _)⟩
            simp [World.saveBackfillCheckpoint, stored]
          · exact ⟨checkpoint, by simp [World.saveBackfillCheckpoint, same, stored], above⟩

theorem environment_checkpoints {change : Env} {before after : World}
    (changed : environment change before = some after) : after.checkpoints = before.checkpoints := by
  cases change with
  | reserve =>
      simp only [environment] at changed
      split at changed
      · split at changed <;> cases changed
        rfl
      · cases changed
  | kill =>
      cases changed
      rfl

/-- A checkpoint never decreases, whatever runs and however often it restarts. -/
theorem checkpoint_le {chain : Chain} {orderbook : Address} {bound : Nat} {history : History}
    {now final : Running Op Op.Ret BackfillError Unit World Label EvmCtx}
    (reached : now.config.shared.checkpoints orderbook = some bound)
    (ran : (processes chain).run now history = some final) :
    ∃ checkpoint, final.config.shared.checkpoints orderbook = some checkpoint ∧
      bound ≤ checkpoint := by
  let above (world : World) : Prop :=
    ∃ checkpoint, world.checkpoints orderbook = some checkpoint ∧ bound ≤ checkpoint
  have initially : above now.config.shared := ⟨bound, reached, le_refl _⟩
  refine Restarting.run_invariant ?_ ?_ ?_ initially ran
  · exact fun setting op choice before answer after reached handled =>
      handle_checkpoint_le reached handled
  · intro setting change before after reached changed
    obtain ⟨checkpoint, stored, bounded⟩ := reached
    exact ⟨checkpoint, (congrFun (environment_checkpoints changed) orderbook).trans stored, bounded⟩
  · exact fun setting world reached => reached

/-- Where every restart is under a configuration that counts, and finds the jobs in
flight to be for its own orderbook. -/
theorem run_sane {chain : Chain} {deployment : Address → Nat} {settings : EvmCtx → Prop}
    (agrees : ∀ evm, settings evm → evm.deploymentBlock = deployment evm.orderbook)
    {allowed : EvmCtx → World → Prop}
    (ready : ∀ old next world, settings old → Sane chain deployment settings old world →
      settings next → allowed next world →
        ∀ row ∈ world.jobs, row.status.inFlight = true → row.orderbook = next.orderbook)
    {evm : EvmCtx} (known : settings evm) {history : History}
    {final : Running Op Op.Ret BackfillError Unit World Label EvmCtx}
    (meets : (processes chain).RestartsMeet
      (fun setting world => settings setting ∧ allowed setting world) (start evm) history)
    (ran : (processes chain).run (start evm) history = some final) :
    Sane chain deployment settings final.setting final.config.shared := by
  refine Restarting.run_sound ?_ ?_ known (Sane.empty evm) meets ran
  · exact fun setting known => ⟨_, _, _, system_compatible known (agrees setting known)⟩
  · exact fun old next world was sane is allows =>
      sane.restart (ready old next world was sane is allows)

/-- Whatever the poller and the worker go through, under one configuration: every
block up to the checkpoint was scanned and its trades enqueued, the checkpoint
never decreases, and no sum overflows. -/
theorem backfill_skips_no_block (chain : Chain) (evm : EvmCtx) (first second : History)
    (middle final : Running Op Op.Ret BackfillError Unit World Label EvmCtx)
    (fixed : ∀ setting, Move.restart setting ∈ first ++ second → setting = evm)
    (ranFirst : (processes chain).run (start evm) first = some middle)
    (ranSecond : (processes chain).run middle second = some final) :
    (∀ checkpoint, final.config.shared.checkpoints evm.orderbook = some checkpoint →
      ∀ block, evm.deploymentBlock ≤ block → block ≤ checkpoint →
        ∃ scan ∈ final.config.shared.scanned, scan.evm = evm ∧ scan.batchStart ≤ block ∧
          block ≤ scan.batchEnd ∧ final.config.shared.Accounted chain evm block) ∧
      (∀ before, middle.config.shared.checkpoints evm.orderbook = some before →
        ∃ after, final.config.shared.checkpoints evm.orderbook = some after ∧ before ≤ after) ∧
      (∀ last deploymentBlock, last ≤ i64Max →
        (backfillStartFromCheckpoint (some last) deploymentBlock).isSome = true) ∧
      ∀ startBlock endBlock, endBlock ≤ i64Max →
        (generateBatchRanges startBlock endBlock).isSome = true := by
  let only (setting : EvmCtx) : Prop := setting = evm
  let deployment (_ : Address) : Nat := evm.deploymentBlock
  have sane : Sane chain deployment only final.setting final.config.shared := by
    have ran : (processes chain).run (start evm) (first ++ second) = some final := by
      rw [Restarting.run_append, ranFirst]
      exact ranSecond
    have meets : (processes chain).RestartsMeet (fun setting _ => only setting ∧ True) (start evm)
        (first ++ second) :=
      Restarting.restartsMeet_of_forall _ fun setting listed _ => ⟨fixed setting listed, trivial⟩
    have agrees : ∀ setting, only setting → setting.deploymentBlock = deployment setting.orderbook :=
      fun setting is => congrArg EvmCtx.deploymentBlock is
    have known : only evm := rfl
    refine run_sane agrees ?_ known meets ran
    intro old next world was sane is _
    rw [show next = old from is.trans was.symm]
    exact sane.own
  refine ⟨fun checkpoint saved block later upTo => ?_, fun before stored =>
    checkpoint_le stored ranSecond, fun last deploymentBlock small =>
      backfillStart_isSome (by rintro _ ⟨⟩; exact small) deploymentBlock,
    fun startBlock endBlock small => generateBatchRanges_isSome small⟩
  obtain ⟨scan, listed, -, after, within⟩ :=
    sane.covered evm.orderbook checkpoint saved block later (by omega)
  have known := sane.known scan listed
  refine ⟨scan, listed, known, after, within, ?_⟩
  rw [← known]
  exact sane.accounted scan listed block after within

/-! ## One orderbook -/

/-- A configuration of one orderbook. -/
def exampleCtx (orderbook deploymentBlock : Nat) : EvmCtx :=
  ⟨orderbook, .legacy, deploymentBlock, .finalized, 99⟩

/-- An order that was cleared in block 101. -/
def exampleLog : Log :=
  ⟨1, some .clearV3, some (.clearV3 []), false, some 7, some 3, some 101, none⟩

def exampleChain : Chain where
  logs block := if block = 101 then [exampleLog] else []
  inOneBlock := by
    intro first second a b txHash inFirst inSecond _ _
    split at inFirst
    case isFalse => cases inFirst
    case isTrue =>
      split at inSecond
      case isFalse => cases inSecond
      case isTrue => omega

/-- The thread at `index` performs operations that go well, while the chain is at
its cutoff. -/
def proceed (index count cutoff : Nat) : History :=
  List.replicate count (.act (.step index { tip := cutoff, cutoff := some cutoff }))

/-- The poller enqueues a range up to the cutoff. -/
def polled (cutoff : Nat) : History := [.act (.start .poll)] ++ proceed 0 6 cutoff

/-- A process that has just started scans a range and moves the checkpoint. -/
def backfilled (evm : EvmCtx) (job requests cutoff : Nat) : History :=
  [.restart evm, .act (.start (.job job))] ++ proceed 0 requests cutoff

/-- A process enqueues a range, goes down, and the next one scans it. -/
def backfillResumed : History := polled 150 ++ backfilled (exampleCtx 1 100) 0 8 150

theorem backfill_skips_no_block_resumed :
    ∃ final, (processes exampleChain).run (start (exampleCtx 1 100)) backfillResumed = some final ∧
      final.config.shared.checkpoints 1 = some 150 ∧
      (∃ scan ∈ final.config.shared.scanned, scan.evm = exampleCtx 1 100 ∧ scan.batchStart ≤ 101 ∧
        101 ≤ scan.batchEnd ∧
        final.config.shared.Accounted exampleChain (exampleCtx 1 100) 101) ∧
      final.config.shared.accounting = [⟨.clearV3 [], 7, 3, 101, none⟩] := by
  have runs : ((processes exampleChain).run (start (exampleCtx 1 100)) backfillResumed).map
      (fun final => (final.config.shared.checkpoints 1, final.config.shared.accounting)) =
        some (some 150, [⟨.clearV3 [], 7, 3, 101, none⟩]) := by
    decide +kernel
  have fixed : ∀ setting, Move.restart setting ∈ backfillResumed ++ [] →
      setting = exampleCtx 1 100 := by
    intro setting listed
    simpa [backfillResumed, polled, backfilled, proceed] using listed
  obtain ⟨final, ran, result⟩ := Option.map_eq_some_iff.mp runs
  obtain ⟨saved, enqueued⟩ := Prod.mk.inj result
  obtain ⟨covered, -⟩ := backfill_skips_no_block exampleChain (exampleCtx 1 100) backfillResumed []
    final final fixed ran rfl
  exact ⟨final, ran, saved, covered 150 saved 101 (by decide) (by decide), enqueued⟩

/-! ## Several orderbooks -/

/-- Every job in flight was enqueued for the orderbook of this configuration. -/
def JobsMatch (evm : EvmCtx) (world : World) : Prop :=
  ∀ row ∈ world.jobs, row.status.inFlight = true → row.orderbook = evm.orderbook

instance (evm : EvmCtx) (world : World) : Decidable (JobsMatch evm world) :=
  inferInstanceAs (Decidable (∀ row ∈ world.jobs, _))

/-- However often the orderbook changes: if no process starts on a job that was
enqueued for another orderbook, every block up to a checkpoint was scanned for
the orderbook the checkpoint belongs to. -/
theorem checkpoints_stand_apart (chain : Chain) (deployment : Address → Nat) (evm : EvmCtx)
    (history : History) (final : Running Op Op.Ret BackfillError Unit World Label EvmCtx)
    (configured : ∀ setting, setting = evm ∨ Move.restart setting ∈ history →
      setting.deploymentBlock = deployment setting.orderbook)
    (matching : (processes chain).RestartsMeet JobsMatch (start evm) history)
    (ran : (processes chain).run (start evm) history = some final) :
    ∀ orderbook checkpoint, final.config.shared.checkpoints orderbook = some checkpoint →
      ∀ block, deployment orderbook ≤ block → block ≤ checkpoint →
        final.config.shared.Scanned orderbook block := by
  let settings (setting : EvmCtx) : Prop :=
    setting.deploymentBlock = deployment setting.orderbook
  have meets : (processes chain).RestartsMeet
      (fun setting world => settings setting ∧ JobsMatch setting world) (start evm) history := by
    refine Restarting.RestartsMeet.and ?_ matching
    exact Restarting.restartsMeet_of_forall _ fun setting listed _ => configured setting (.inr listed)
  have sane : Sane chain deployment settings final.setting final.config.shared :=
    run_sane (fun _ agrees => agrees) (fun _ _ _ _ _ _ matching => matching)
      (configured evm (.inl rfl)) meets ran
  intro orderbook checkpoint saved block later upTo
  exact sane.covered orderbook checkpoint saved block later (by omega)

/-- Where the two orderbooks were deployed. -/
def exampleDeployment (orderbook : Address) : Nat := if orderbook = 1 then 100 else 10

/-- The range is scanned before the orderbook changes, and the next process
enqueues one of its own. -/
def orderbookChanged : History :=
  backfillResumed ++ [.restart (exampleCtx 2 10)] ++ polled 150 ++
    backfilled (exampleCtx 2 10) 1 7 150

/-- The orderbook changes while a range is enqueued. The next process scans it for
its own orderbook, whose checkpoint then passes blocks it has never scanned. -/
def rangeMixedUp : History := polled 150 ++ backfilled (exampleCtx 2 10) 0 7 150

theorem checkpoints_stand_apart_changed :
    ∃ final, (processes exampleChain).run (start (exampleCtx 1 100)) orderbookChanged = some final ∧
      final.config.shared.checkpoints 1 = some 150 ∧ final.config.shared.Scanned 1 100 ∧
      final.config.shared.checkpoints 2 = some 150 ∧ final.config.shared.Scanned 2 10 := by
  have matching : (processes exampleChain).RestartsMeet JobsMatch (start (exampleCtx 1 100))
      orderbookChanged := by
    decide +kernel
  have runs : ((processes exampleChain).run (start (exampleCtx 1 100)) orderbookChanged).map
      (fun final => (final.config.shared.checkpoints 1, final.config.shared.checkpoints 2)) =
        some (some 150, some 150) := by
    decide +kernel
  have configured : ∀ setting,
      setting = exampleCtx 1 100 ∨ Move.restart setting ∈ orderbookChanged →
        setting.deploymentBlock = exampleDeployment setting.orderbook := by
    intro setting is
    have one : setting = exampleCtx 1 100 ∨ setting = exampleCtx 2 10 := by
      simpa [orderbookChanged, backfillResumed, polled, backfilled, proceed] using is
    rcases one with rfl | rfl <;> rfl
  obtain ⟨final, ran, result⟩ := Option.map_eq_some_iff.mp runs
  obtain ⟨first, second⟩ := Prod.mk.inj result
  have apart := checkpoints_stand_apart exampleChain exampleDeployment (exampleCtx 1 100)
    orderbookChanged final configured matching ran
  exact ⟨final, ran, first, apart 1 150 first 100 (by decide) (by decide), second,
    apart 2 150 second 10 (by decide) (by decide)⟩

theorem checkpoints_mixed_up :
    ∃ final, (processes exampleChain).run (start (exampleCtx 1 100)) rangeMixedUp = some final ∧
      final.config.shared.checkpoints 2 = some 150 ∧ exampleDeployment 2 = 10 ∧
      ¬ final.config.shared.Scanned 2 10 := by
  have runs : ((processes exampleChain).run (start (exampleCtx 1 100)) rangeMixedUp).map
      (fun final => (final.config.shared.checkpoints 2, final.config.shared.scanned)) =
        some (some 150, [⟨exampleCtx 2 10, 100, 150⟩]) := by
    decide +kernel
  obtain ⟨final, ran, result⟩ := Option.map_eq_some_iff.mp runs
  obtain ⟨saved, scans⟩ := Prod.mk.inj result
  refine ⟨final, ran, saved, rfl, ?_⟩
  rintro ⟨scan, listed, -, early, -⟩
  rw [scans] at listed
  obtain rfl := List.mem_singleton.mp listed
  exact absurd early (by decide)

end Liquidity.Backfill
