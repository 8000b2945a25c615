import Liquidity.Transfer.Changes
import Liquidity.Process.Triples

/-!
# The discipline of attempts and tasks

An attempt makes each irreversible call at one stage of the rebalance. It gets
there in one of two ways: by moving the rebalance itself, or by loading it at
that stage. In both cases it has not made the call at that stage before.

What a resumed attempt may take from the stage it loaded differs. Before a vault
withdrawal and before a transfer to Alpaca it first looks for an earlier one on
the chain. The Alpaca withdrawal and the vault deposit are simply made.

The role of an attempt and the role of a task say this for every operation.
-/

namespace Liquidity.Transfer

open EventSourcing Process UsdcRebalance

/-- The stage at which an irreversible call is made. -/
def Effect.stage : Effect → Stage
  | .alpacaWithdrawal => .converted
  | .conversion .usdToUsdc => .converting
  | .conversion .usdcToUsd => .settling
  | .call .withdraw => .withdrawalSubmitting
  | .call .transfer | .call .deposit => .bridged

/-- On what grounds an attempt makes a call that it has not made itself. -/
def Effect.Entitled (effect : Effect) (attempt : Attempt) : Prop :=
  match effect with
  | .alpacaWithdrawal | .call .deposit => stageOf attempt.loaded ≤ effect.stage
  | .call wanted => stageOf attempt.loaded < effect.stage ∨ wanted ∈ attempt.absent
  | .conversion _ => stageOf attempt.loaded < effect.stage

theorem Effect.Entitled.of_lt {attempt : Attempt} {effect : Effect}
    (before : stageOf attempt.loaded < effect.stage) : effect.Entitled attempt := by
  cases effect with
  | alpacaWithdrawal => exact before.le
  | conversion => exact before
  | call call =>
      cases call
      · exact .inl before
      · exact .inl before
      · exact before.le

namespace World

/-- The attempt has made no irreversible call at the present stage. -/
def Fresh (world : World) : Prop := ∀ effect ∈ world.attempt.effects, effect.stage < world.stage

/-- The attempt has brought the rebalance to the present stage, and made no
irreversible call there. -/
def Gained (world : World) : Prop := stageOf world.attempt.loaded < world.stage ∧ world.Fresh

/-- The call is due. -/
def Due (world : World) (effect : Effect) : Prop :=
  world.stage = effect.stage ∧ world.Fresh ∧ effect.Entitled world.attempt

theorem Gained.due {world : World} (gained : world.Gained) {effect : Effect}
    (here : world.stage = effect.stage) : world.Due effect :=
  ⟨here, gained.2, .of_lt (here ▸ gained.1)⟩

/-- The stored rebalance is about to withdraw from the vault. -/
def Submitting (world : World) (fromBlock : Nat) : Prop :=
  ∃ direction amount initiatedAt,
    world.entity? = some (.withdrawalSubmitting direction amount fromBlock initiatedAt)

/-- The stored rebalance has minted. -/
def Bridged (world : World) (received : Usdc) (mintTx : TxHash) : Prop :=
  ∃ direction amount fee burnTx initiatedAt mintedAt,
    world.entity? = some (.bridged direction amount received fee burnTx mintTx initiatedAt mintedAt)

theorem Submitting.stage {world : World} {fromBlock : Nat} (h : world.Submitting fromBlock) :
    world.stage = .withdrawalSubmitting := by
  obtain ⟨_, _, _, stored⟩ := h
  simp [World.stage, stored, UsdcRebalance.stage]

theorem Bridged.stage {world : World} {received : Usdc} {mintTx : TxHash}
    (h : world.Bridged received mintTx) : world.stage = .bridged := by
  obtain ⟨_, _, _, _, _, _, stored⟩ := h
  simp [World.stage, stored, UsdcRebalance.stage]

/-- No burn is on its way: none was ever sent, or the last task reported one
that was mined reverted, or the attempt loaded one that was and has spawned no
task. -/
def Vacant (world : World) : Prop :=
  world.tasks.length = 0 ∨
    (∃ task hash, world.tasks.length = task + 1 ∧
      world.status? task = some (.finished (.ok hash)) ∧ world.Reverted hash) ∨
    ∃ hash, pendingBurnOf world.attempt.loaded = some hash ∧ world.Reverted hash ∧
      world.tasks.length = world.attempt.tasks

end World

/-! ## What holds of every reachable world -/

structure Sane (world : World) : Prop where
  emits : Emits world.stream world.entity?
  loaded : stageOf world.attempt.loaded ≤ world.stage
  effects : ∀ effect ∈ world.attempt.effects, effect.stage ≤ world.stage
  idle : world.stage < .bridgingSubmitting → world.tasks.length = 0
  spawned : world.attempt.tasks ≤ world.tasks.length
  reported : ∀ task hash, world.status? task = some (.finished (.ok hash)) →
    world.IsBurn task hash
  recorded : ∀ hash, world.pendingBurn = some hash → ∃ task, world.IsBurn task hash

theorem Sane.empty : Sane World.empty where
  emits := .empty
  loaded := le_refl _
  effects := by simp [World.empty]
  idle := fun _ => rfl
  spawned := le_refl _
  reported := by simp [World.empty, World.status?]
  recorded := by simp [World.empty, World.pendingBurn, World.entity?, pendingBurnOf, Lifecycle.entity?]

/-! ## What fits -/

/-- What has to hold of a command of an attempt. -/
def CommandFits (direction : RebalanceDirection) (world : World) : UsdcRebalanceCommand → Prop
  | .initiateBridging burnTx => world.Burned burnTx
  | .confirmBridging mintTx _ _ | .recoverBridging mintTx _ _ =>
      ∃ block, world.minedIn (mintChain direction) mintTx = some block
  | .beginWithdrawal _ _ fromBlock => fromBlock ≤ world.head .base
  | .recordPendingBurn _ | .clearPendingBurn => False
  | _ => True

/-- What has to hold of an operation of an attempt. -/
def AttemptFits (direction : RebalanceDirection) : Op → World → Prop
  | .send .attempt command, world =>
      issued world.entity? command = true ∧ CommandFits direction world command
  | .broadcast .transfer amount, world => world.Due (.call .transfer) ∧
      ∃ received mintTx, world.Bridged received mintTx ∧ usdcToU256 received = .ok amount
  | .broadcast call _, world => world.Due (.call call)
  | .initiateWithdrawal _, world => world.Due .alpacaWithdrawal
  | .convertUsdcUsd _ direction _, world => world.Due (.conversion direction)
  | .findRecentWithdrawal fromBlock, world => world.Submitting fromBlock
  | .findRecentUsdcTransfer amount fromBlock, world =>
      ∃ received mintTx, world.Bridged received mintTx ∧ usdcToU256 received = .ok amount ∧
        world.minedIn .ethereum mintTx = some fromBlock
  | .spawnBurn _, world => Stage.bridgingSubmitting ≤ world.stage ∧ world.Vacant
  | .send (.task _) _, _ | .acceptBurn _, _ | .submitBurn _ _, _ | .finishBurn _ _, _ => False
  | _, _ => True

/-- What has to hold of an operation of a task. -/
def TaskFits (task : Nat) : Op → World → Prop
  | .acceptBurn other, _ => other = task
  | .send (.task other) .clearPendingBurn, world =>
      other = task ∧ world.status? task = some .running
  | .send (.task other) (.recordPendingBurn hash), world => other = task ∧ world.IsBurn task hash
  | .submitBurn other _, world => other = task ∧ world.status? task = some .cleared
  | .finishBurn other result, world =>
      other = task ∧ ∀ hash, result = .ok hash → world.IsBurn task hash
  | _, _ => False

theorem AttemptFits.due {direction : RebalanceDirection} {op : Op} {world : World} {effect : Effect}
    (is : op.effect? = some effect) (fits : AttemptFits direction op world) :
    world.Due effect := by
  cases op with
  | broadcast call amount =>
      cases is
      cases call
      · exact fits
      · exact fits.1
      · exact fits
  | initiateWithdrawal | convertUsdcUsd =>
      cases is
      exact fits
  | _ => cases is

/-! ## What fits keeps the world sane -/

section Keeps

variable {choice : Choice} {before after : World}

theorem entity_eq_of_stream (same : after.stream = before.stream) :
    after.entity? = before.entity? := by
  simp only [World.entity?, same]

/-- A change that leaves the stream alone, and of the attempt at most what it
looked for. -/
theorem Sane.unchanged (sane : Sane before) (stream : after.stream = before.stream)
    (loaded : after.attempt.loaded = before.attempt.loaded)
    (effects : after.attempt.effects = before.attempt.effects)
    (spawned : after.attempt.tasks = before.attempt.tasks)
    (tasks : after.tasks.length = before.tasks.length)
    (reported : ∀ task hash, after.status? task = some (.finished (.ok hash)) →
      after.IsBurn task hash) (grows : before.Extends after) : Sane after := by
  have same := entity_eq_of_stream stream
  refine ⟨?_, ?_, ?_, ?_, ?_, reported, ?_⟩
  · rw [stream, same]
    exact sane.emits
  · rw [loaded, World.stage, same]
    exact sane.loaded
  · rw [effects, World.stage, same]
    exact sane.effects
  · rw [World.stage, same, tasks]
    exact sane.idle
  · rw [spawned, tasks]
    exact sane.spawned
  · rw [World.pendingBurn, same]
    intro hash pending
    obtain ⟨task, burn⟩ := sane.recorded hash pending
    exact ⟨task, burn.extends grows⟩

/-- An accepted command. -/
theorem Sane.records (sane : Sane before) {command : UsdcRebalanceCommand}
    (records : before.Records command after)
    (recorded : ∀ hash, after.pendingBurn = some hash → ∃ task, after.IsBurn task hash) :
    Sane after := by
  have later := records.stage_le
  have emits := records.emits sane.emits
  obtain ⟨event, next, -, -, rfl, -⟩ := records
  exact ⟨emits, sane.loaded.trans later, fun effect made => (sane.effects effect made).trans later,
    fun early => sane.idle (later.trans_lt early), sane.spawned, sane.reported, recorded⟩

/-- A command that is not about a pending burn leaves none. -/
theorem World.Records.pendingBurn_eq {command : UsdcRebalanceCommand}
    (records : before.Records command after) (other : ∀ hash, command ≠ .recordPendingBurn hash) :
    after.pendingBurn = none := by
  obtain ⟨event, next, advances, announces, -, leads⟩ := records
  rw [World.pendingBurn, leads]
  cases about : event.aboutPendingBurn with
  | false => exact advances.pendingBurn_eq about
  | true =>
      cases event with
      | pendingBurnRecorded hash time =>
          cases command <;> simp [UsdcRebalanceCommand.Announces] at announces
          exact absurd (by rw [announces]) (other hash)
      | pendingBurnCleared => exact advances.pendingBurn_cleared
      | _ => cases about

theorem World.Records.pendingBurn_recorded {hash : TxHash}
    (records : before.Records (.recordPendingBurn hash) after) : after.pendingBurn = some hash := by
  obtain ⟨event, next, advances, ⟨time, rfl⟩, -, leads⟩ := records
  rw [World.pendingBurn, leads]
  exact advances.pendingBurn_recorded

/-- A command leaves everything but the stream. -/
theorem World.Records.frame {command : UsdcRebalanceCommand}
    (records : before.Records command after) :
    after.ledger = before.ledger ∧ after.tasks = before.tasks ∧ after.attempt = before.attempt ∧
      after.head = before.head := by
  obtain ⟨event, next, -, -, rfl, -⟩ := records
  exact ⟨rfl, rfl, rfl, rfl⟩

theorem Sane.effected (sane : Sane before) {op : Op} {effect : Effect}
    (is : op.effect? = some effect) (due : before.Due effect) (effected : before.Effected op after) :
    Sane after := by
  obtain ⟨stream, tasks, -, attempt, grows⟩ := effected.frame is
  have same := entity_eq_of_stream stream
  refine ⟨?_, ?_, ?_, ?_, ?_, ?_, ?_⟩
  · rw [stream, same]
    exact sane.emits
  · rw [attempt, World.stage, same]
    exact sane.loaded
  · rw [attempt, World.stage, same]
    intro made member
    rcases List.mem_append.mp member with earlier | now
    · exact sane.effects made earlier
    · obtain rfl := List.mem_singleton.mp now
      exact due.1.ge
  · rw [World.stage, same, tasks]
    exact sane.idle
  · rw [attempt, tasks]
    exact sane.spawned
  · intro task hash finished
    rw [World.status?, tasks] at finished
    exact (sane.reported task hash finished).extends grows
  · rw [World.pendingBurn, same]
    intro hash pending
    obtain ⟨task, burn⟩ := sane.recorded hash pending
    exact ⟨task, burn.extends grows⟩

theorem attempt_keeps {direction : RebalanceDirection} {op : Op} {answer : op.Ret}
    (sane : Sane before) (fits : AttemptFits direction op before)
    (handled : handle choice op before = some (answer, after)) : Sane after := by
  cases reads : op.reads with
  | true => exact handle_reads reads handled ▸ sane
  | false =>
      cases made : op.effect? with
      | some effect =>
          rcases handle_effect made handled with rfl | effected
          · exact sane
          · exact sane.effected made (fits.due made) effected
      | none =>
          cases op with
          | load =>
              rcases handle_load handled with ⟨rfl, -⟩ | ⟨-, rfl⟩
              · exact sane
              · exact ⟨sane.emits, le_refl _, by simp, sane.idle, le_refl _, sane.reported,
                  sane.recorded⟩
          | send author command =>
              cases author with
              | task => exact fits.elim
              | attempt =>
                  rcases send_cases sane.emits fits.1 (Option.some.inj handled) with
                    ⟨rfl, -⟩ | records
                  · exact sane
                  · refine sane.records records fun hash pending => ?_
                    rw [records.pendingBurn_eq fun burn is => by subst is; exact fits.2] at pending
                    cases pending
          | findRecentWithdrawal =>
              rcases handle_findRecentWithdrawal handled with ⟨rfl, -⟩ | ⟨rfl, -⟩
              · exact sane
              · exact sane.unchanged rfl rfl rfl rfl rfl sane.reported (.of_eq rfl)
          | findRecentUsdcTransfer =>
              rcases handle_findRecentUsdcTransfer handled with ⟨rfl, -⟩ | ⟨rfl, -⟩
              · exact sane
              · exact sane.unchanged rfl rfl rfl rfl rfl sane.reported (.of_eq rfl)
          | spawnBurn request =>
              cases handled
              refine ⟨sane.emits, sane.loaded, sane.effects, ?_, ?_, ?_, sane.recorded⟩
              · exact fun early => absurd early (not_lt.mpr fits.1)
              · exact sane.spawned.trans (by simp)
              · intro task hash finished
                rcases status_spawn before _ finished with old | ⟨-, isNew⟩
                · exact sane.reported task hash old
                · cases isNew
          | acceptBurn | submitBurn | finishBurn => exact fits.elim
          | broadcast | initiateWithdrawal | convertUsdcUsd => cases made
          | _ => cases reads

/-- What a task does to statuses leaves reports of burns alone. -/
theorem Sane.setStatus (sane : Sane before) {task : Nat} {status : TaskStatus}
    (reported : ∀ hash, status = .finished (.ok hash) → before.IsBurn task hash) :
    Sane (before.setStatus task status) := by
  refine sane.unchanged rfl rfl rfl rfl (by simp) (fun other hash finished => ?_) (.of_eq rfl)
  rw [status_setStatus] at finished
  split at finished
  case isFalse => exact sane.reported other hash finished
  case isTrue same =>
    subst same
    obtain ⟨_, -, rfl⟩ := Option.map_eq_some_iff.mp finished
    exact reported hash rfl

theorem task_keeps {task : Nat} {op : Op} {answer : op.Ret} (sane : Sane before)
    (fits : TaskFits task op before) (handled : handle choice op before = some (answer, after)) :
    Sane after := by
  cases op with
  | acceptBurn =>
      obtain ⟨-, rfl⟩ := handle_acceptBurn handled
      exact sane.setStatus (by simp)
  | submitBurn other request =>
      obtain ⟨-, ⟨rfl, -⟩ | ⟨rfl, -⟩⟩ := handle_submitBurn handled
      · exact sane
      · refine Sane.setStatus ?_ (by simp)
        exact sane.unchanged rfl rfl rfl rfl rfl
          (fun task hash finished => (sane.reported task hash finished).extends (.of_append rfl))
          (.of_append rfl)
  | finishBurn other result =>
      obtain ⟨-, rfl⟩ := handle_finishBurn handled
      obtain ⟨rfl, burn⟩ := fits
      exact sane.setStatus fun hash is => burn hash (TaskStatus.finished.inj is)
  | send author command =>
      cases author with
      | attempt => exact fits.elim
      | task other =>
          obtain ⟨-, sent, sends, leads⟩ := handle_sendFromTask handled
          have kept : Sane sent := by
            cases command with
            | clearPendingBurn =>
                rcases send_cases sane.emits rfl sends with ⟨rfl, -⟩ | records
                · exact sane
                · refine sane.records records fun hash pending => ?_
                  rw [records.pendingBurn_eq fun _ => by simp] at pending
                  cases pending
            | recordPendingBurn hash =>
                rcases send_cases sane.emits rfl sends with ⟨rfl, -⟩ | records
                · exact sane
                · refine sane.records records fun hash' pending => ?_
                  rw [records.pendingBurn_recorded] at pending
                  cases pending
                  exact ⟨task, fits.2.extends (.of_eq records.frame.1)⟩
            | _ => exact fits.elim
          rcases leads with ⟨rfl, -⟩ | ⟨-, -, rfl⟩
          · exact kept
          · exact kept.setStatus (by simp)
  | _ => exact fits.elim

theorem environment_keeps {change : Env} (sane : Sane before)
    (changed : environment change before = some after) : Sane after := by
  obtain ⟨stream, attempt, tasks, kept⟩ := environment_frame changed
  have grows := environment_extends changed
  refine sane.unchanged stream (by rw [attempt]) (by rw [attempt]) (by rw [attempt]) tasks ?_ grows
  intro task hash finished
  obtain ⟨status, found⟩ := exists_status (tasks ▸ status_lt finished)
  rcases kept task status found with same | ⟨-, lost⟩
  · obtain rfl := Option.some.inj (same.symm.trans finished)
    exact (sane.reported task hash found).extends grows
  · cases lost.symm.trans finished

end Keeps

/-! ## What the others leave alone -/

/-- What tasks and the environment leave an attempt. -/
structure Rests (before after : World) : Prop where
  attempt : after.attempt = before.attempt
  core : after.entity?.map core = before.entity?.map core
  tasks : after.tasks.length = before.tasks.length
  finished : ∀ task result, before.status? task = some (.finished result) →
    after.status? task = some (.finished result)
  grows : before.Extends after
  head : ∀ chain, before.head chain ≤ after.head chain

/-- What everybody else leaves a task. -/
structure Spares (task : Nat) (before after : World) : Prop where
  status : ∀ status, before.status? task = some status →
    after.status? task = some status ∨ after.status? task = some .lost
  grows : before.Extends after

theorem Rests.refl (world : World) : Rests world world :=
  ⟨rfl, rfl, rfl, fun _ _ found => found, .refl world, fun _ => le_refl _⟩

theorem Rests.trans {first second third : World} (one : Rests first second)
    (two : Rests second third) : Rests first third where
  attempt := two.attempt.trans one.attempt
  core := two.core.trans one.core
  tasks := two.tasks.trans one.tasks
  finished := fun task result found => two.finished task result (one.finished task result found)
  grows := one.grows.trans two.grows
  head := fun chain => (one.head chain).trans (two.head chain)

theorem Spares.refl (task : Nat) (world : World) : Spares task world world :=
  ⟨fun _ found => .inl found, .refl world⟩

theorem Spares.trans {task : Nat} {first second third : World} (one : Spares task first second)
    (two : Spares task second third) : Spares task first third where
  status := fun status found => by
    rcases one.status status found with same | lost
    · exact two.status status same
    · exact .inr (or_self_iff.mp (two.status .lost lost))
  grows := one.grows.trans two.grows

theorem Rests.stage_eq {before after : World} (rests : Rests before after) :
    after.stage = before.stage :=
  stageOf_eq_of_core rests.core

section Meet

variable {choice : Choice} {before after : World}

theorem Spares.of_eq {task : Nat} (tasks : after.tasks = before.tasks)
    (grows : before.Extends after) : Spares task before after :=
  ⟨fun _ found => .inl (by rwa [World.status?, tasks]), grows⟩

/-- An attempt does nothing to a task that is there. -/
theorem attempt_spares {direction : RebalanceDirection} {op : Op} {answer : op.Ret} (task : Nat)
    (sane : Sane before) (fits : AttemptFits direction op before)
    (handled : handle choice op before = some (answer, after)) : Spares task before after := by
  cases reads : op.reads with
  | true => exact handle_reads reads handled ▸ .refl task before
  | false =>
      cases made : op.effect? with
      | some effect =>
          rcases handle_effect made handled with rfl | effected
          · exact .refl task after
          · obtain ⟨-, tasks, -, -, grows⟩ := effected.frame made
            exact .of_eq tasks grows
      | none =>
          cases op with
          | load =>
              rcases handle_load handled with ⟨rfl, -⟩ | ⟨-, rfl⟩ <;> exact .of_eq rfl (.of_eq rfl)
          | send author command =>
              cases author with
              | task => exact fits.elim
              | attempt =>
                  rcases send_cases sane.emits fits.1 (Option.some.inj handled) with
                    ⟨rfl, -⟩ | records
                  · exact .refl task after
                  · exact .of_eq records.frame.2.1 (.of_eq records.frame.1)
          | findRecentWithdrawal =>
              rcases handle_findRecentWithdrawal handled with ⟨rfl, -⟩ | ⟨rfl, -⟩ <;>
                exact .of_eq rfl (.of_eq rfl)
          | findRecentUsdcTransfer =>
              rcases handle_findRecentUsdcTransfer handled with ⟨rfl, -⟩ | ⟨rfl, -⟩ <;>
                exact .of_eq rfl (.of_eq rfl)
          | spawnBurn request =>
              cases handled
              refine ⟨fun status found => .inl ?_, .of_eq rfl⟩
              simp only [World.status?] at found ⊢
              rwa [List.getElem?_append_left (status_lt found)]
          | acceptBurn | submitBurn | finishBurn => exact fits.elim
          | broadcast | initiateWithdrawal | convertUsdcUsd => cases made
          | _ => cases reads

/-- A task that is not over changes its own status only. -/
theorem rests_setStatus {task : Nat} {current status : TaskStatus}
    (found : before.status? task = some current) (going : current.ended = false) :
    Rests before (before.setStatus task status) := by
  refine ⟨rfl, rfl, by simp, fun other result finished => ?_, .of_eq rfl, fun _ => le_refl _⟩
  rw [status_setStatus]
  split
  case isFalse => exact finished
  case isTrue same =>
    subst same
    obtain rfl := Option.some.inj (found.symm.trans finished)
    cases going

theorem spares_setStatus {task other : Nat} (apart : other ≠ task) (status : TaskStatus) :
    Spares other before (before.setStatus task status) := by
  refine ⟨fun current found => .inl ?_, .of_eq rfl⟩
  rw [status_setStatus, if_neg (Ne.symm apart)]
  exact found

theorem World.Alive.not_ended {world : World} {task : Nat} (alive : world.Alive task) :
    ∃ status, world.status? task = some status ∧ status.ended = false := by
  obtain ⟨status, found, going⟩ := alive
  refine ⟨status, found, ?_⟩
  cases status <;> first | rfl | cases going

theorem rests_submit (kind : TxKind) (chain : Chain) (amount : Nat) :
    Rests before (before.submit kind chain amount) :=
  ⟨rfl, rfl, rfl, fun _ _ found => found, .of_append rfl, fun _ => le_refl _⟩

/-- A command about a pending burn changes nothing else. -/
theorem rests_records {command : UsdcRebalanceCommand} (records : before.Records command after)
    (about : command = .clearPendingBurn ∨ ∃ hash, command = .recordPendingBurn hash) :
    Rests before after := by
  obtain ⟨event, next, advances, announces, rfl, leads⟩ := records
  refine ⟨rfl, ?_, rfl, fun _ _ found => found, .of_eq rfl, fun _ => le_refl _⟩
  rw [leads]
  refine advances.core_eq ?_
  rcases about with rfl | ⟨hash, rfl⟩
  · obtain ⟨time, rfl⟩ := announces
    rfl
  · obtain ⟨time, rfl⟩ := announces
    rfl

/-- What a task does, seen by an attempt and by another task. -/
theorem task_meets {task : Nat} {op : Op} {answer : op.Ret} (sane : Sane before)
    (fits : TaskFits task op before) (handled : handle choice op before = some (answer, after)) :
    Rests before after ∧ ∀ other, other ≠ task → Spares other before after := by
  cases op with
  | acceptBurn =>
      cases fits
      obtain ⟨queued, rfl⟩ := handle_acceptBurn handled
      exact ⟨rests_setStatus queued rfl, fun _ apart => spares_setStatus apart _⟩
  | submitBurn owner request =>
      obtain ⟨rfl, -⟩ := fits
      obtain ⟨alive, ⟨rfl, -⟩ | ⟨rfl, -⟩⟩ := handle_submitBurn handled
      · exact ⟨.refl after, fun other _ => .refl other after⟩
      · obtain ⟨status, found, going⟩ := alive.not_ended
        refine ⟨(rests_submit _ _ _).trans (rests_setStatus found going), fun other apart => ?_⟩
        have submitted : Spares other before
            (before.submit (.burn owner) request.chain request.amount) :=
          .of_eq rfl (.of_append rfl)
        exact submitted.trans (spares_setStatus apart _)
  | finishBurn owner result =>
      obtain ⟨rfl, -⟩ := fits
      obtain ⟨alive, rfl⟩ := handle_finishBurn handled
      obtain ⟨status, found, going⟩ := alive.not_ended
      exact ⟨rests_setStatus found going, fun _ apart => spares_setStatus apart _⟩
  | send author command =>
      cases author with
      | attempt => exact fits.elim
      | task owner =>
          obtain ⟨alive, sent, sends, leads⟩ := handle_sendFromTask handled
          have own : owner = task ∧
              (command = .clearPendingBurn ∨ ∃ hash, command = .recordPendingBurn hash) := by
            cases command <;> first | exact fits.elim | skip
            case clearPendingBurn => exact ⟨fits.1, .inl rfl⟩
            case recordPendingBurn hash => exact ⟨fits.1, .inr ⟨hash, rfl⟩⟩
          obtain ⟨rfl, about⟩ := own
          have allowed : issued before.entity? command = true := by
            rcases about with rfl | ⟨hash, rfl⟩ <;> rfl
          have rests : Rests before sent ∧ sent.tasks = before.tasks := by
            rcases send_cases sane.emits allowed sends with ⟨rfl, -⟩ | records
            · exact ⟨.refl sent, rfl⟩
            · exact ⟨rests_records records about, records.frame.2.1⟩
          obtain ⟨rests, tasks⟩ := rests
          rcases leads with ⟨rfl, -⟩ | ⟨-, -, rfl⟩
          · exact ⟨rests, fun other _ => .of_eq tasks rests.grows⟩
          · obtain ⟨status, found, going⟩ := alive.not_ended
            rw [World.status?, ← tasks] at found
            exact ⟨rests.trans (rests_setStatus found going), fun other apart =>
              (Spares.of_eq tasks rests.grows).trans (spares_setStatus apart _)⟩
  | _ => exact fits.elim

theorem environment_meets {change : Env} (changed : environment change before = some after) :
    Rests before after ∧ ∀ task, Spares task before after := by
  obtain ⟨stream, attempt, tasks, kept⟩ := environment_frame changed
  have grows := environment_extends changed
  refine ⟨⟨attempt, by rw [entity_eq_of_stream stream], tasks, fun task result found => ?_, grows,
    environment_head changed⟩, fun task => ⟨fun status found => ?_, grows⟩⟩
  · rcases kept task _ found with same | ⟨going, -⟩
    · exact same
    · cases going
  · exact (kept task status found).imp_right And.right

end Meet

/-! ## Roles -/

def attemptRole (direction : RebalanceDirection) : Role handle Sane where
  rely := Rests
  fit := AttemptFits direction
  rely_refl := Rests.refl
  rely_trans := fun _ _ _ => Rests.trans
  keeps := fun _ _ _ _ _ sane fits handled => attempt_keeps sane fits handled

def taskRole (task : Nat) : Role handle Sane where
  rely := Spares task
  fit := TaskFits task
  rely_refl := Spares.refl task
  rely_trans := fun _ _ _ => Spares.trans
  keeps := fun _ _ _ _ _ sane fits handled => task_keeps sane fits handled

/-- The role behind a label. -/
def role (direction : RebalanceDirection) : Label → Role handle Sane
  | .attempt _ => attemptRole direction
  | .burn task => taskRole task

end Liquidity.Transfer
