import Liquidity.Transfer.Manager
import Liquidity.UsdcRebalance.Stage

/-!
# What one operation can change

The world as the proofs see it: an operation either only reads, or it is one of
a dozen that change the world in a way said here once. Whatever happens, the
ledger only grows and what was mined stays mined.
-/

namespace Liquidity.Transfer

open EventSourcing Process UsdcRebalance

variable {choice : Choice} {before after : World}

/-! ## The ledger -/

namespace World

/-- How far the stored rebalance has come. -/
def stage (world : World) : Stage := stageOf world.entity?

/-- The recorded burn of the stored rebalance. -/
def pendingBurn (world : World) : Option TxHash := pendingBurnOf world.entity?

/-- A burn that a task sent. -/
def IsBurn (world : World) (task : Nat) (hash : TxHash) : Prop :=
  ∃ tx, world.ledger[hash]? = some tx ∧ tx.kind = .burn task

/-- A burn that was mined successfully. -/
def Burned (world : World) (hash : TxHash) : Prop :=
  ∃ tx task block, world.ledger[hash]? = some tx ∧ tx.kind = .burn task ∧
    tx.status = .succeeded block

def Reverted (world : World) (hash : TxHash) : Prop :=
  ∃ block, world.txStatus? hash = some (.reverted block)

def Succeeded (world : World) (hash : TxHash) : Prop :=
  ∃ block, world.txStatus? hash = some (.succeeded block)

/-- The ledger grows, and a transaction that was mined stays as it is. -/
def Extends (before after : World) : Prop :=
  ∀ (hash : TxHash) (tx : Tx), before.ledger[hash]? = some tx →
    ∃ later, after.ledger[hash]? = some later ∧ tx.Same later ∧
      (tx.status ≠ .pending → later.status = tx.status)

theorem Extends.refl (world : World) : world.Extends world :=
  fun _ tx found => ⟨tx, found, ⟨rfl, rfl, rfl⟩, fun _ => rfl⟩

theorem Extends.of_eq (same : after.ledger = before.ledger) : before.Extends after := by
  intro hash tx found
  exact ⟨tx, by rw [same]; exact found, ⟨rfl, rfl, rfl⟩, fun _ => rfl⟩

theorem Extends.trans {first second third : World} (one : first.Extends second)
    (two : second.Extends third) : first.Extends third := by
  intro hash tx found
  obtain ⟨later, foundLater, same, mined⟩ := one hash tx found
  obtain ⟨last, foundLast, same', mined'⟩ := two hash later foundLater
  refine ⟨last, foundLast, ⟨same'.1.trans same.1, same'.2.1.trans same.2.1,
    same'.2.2.trans same.2.2⟩, fun settled => ?_⟩
  rw [← mined settled]
  exact mined' (by rw [mined settled]; exact settled)

theorem Extends.of_append {txs : List Tx} (grown : after.ledger = before.ledger ++ txs) :
    before.Extends after := by
  intro hash tx found
  refine ⟨tx, ?_, ⟨rfl, rfl, rfl⟩, fun _ => rfl⟩
  rw [grown, List.getElem?_append_left (List.getElem?_eq_some_iff.mp found).1]
  exact found

theorem IsBurn.extends {task : Nat} {hash : TxHash} (burn : before.IsBurn task hash)
    (grows : before.Extends after) : after.IsBurn task hash := by
  obtain ⟨tx, found, kind⟩ := burn
  obtain ⟨later, foundLater, same, -⟩ := grows hash tx found
  exact ⟨later, foundLater, same.1.trans kind⟩

theorem txStatus_extends {hash : TxHash} {status : TxStatus}
    (found : before.txStatus? hash = some status) (mined : status ≠ .pending)
    (grows : before.Extends after) : after.txStatus? hash = some status := by
  obtain ⟨tx, foundTx, rfl⟩ := Option.map_eq_some_iff.mp found
  obtain ⟨later, foundLater, -, same⟩ := grows hash tx foundTx
  simp only [txStatus?, foundLater, Option.map_some, same mined]

theorem Reverted.extends {hash : TxHash} (reverted : before.Reverted hash)
    (grows : before.Extends after) : after.Reverted hash := by
  obtain ⟨block, found⟩ := reverted
  exact ⟨block, txStatus_extends found (by simp) grows⟩

theorem Succeeded.extends {hash : TxHash} (succeeded : before.Succeeded hash)
    (grows : before.Extends after) : after.Succeeded hash := by
  obtain ⟨block, found⟩ := succeeded
  exact ⟨block, txStatus_extends found (by simp) grows⟩

theorem Burned.intro {world : World} {task : Nat} {hash : TxHash} (burn : world.IsBurn task hash)
    (succeeded : world.Succeeded hash) : world.Burned hash := by
  obtain ⟨tx, found, kind⟩ := burn
  obtain ⟨block, status⟩ := succeeded
  obtain ⟨tx', found', status'⟩ := Option.map_eq_some_iff.mp status
  obtain rfl : tx = tx' := Option.some.inj (found.symm.trans found')
  exact ⟨tx, task, block, found, kind, status'⟩

theorem Burned.extends {hash : TxHash} (burned : before.Burned hash)
    (grows : before.Extends after) : after.Burned hash := by
  obtain ⟨tx, task, block, found, kind, status⟩ := burned
  exact .intro (IsBurn.extends ⟨tx, found, kind⟩ grows)
    (Succeeded.extends ⟨block, by simp [txStatus?, found, status]⟩ grows)

/-- The block a transaction was mined in does not change. -/
theorem minedIn_extends {chain : Chain} {hash : TxHash} {block : Nat}
    (mined : before.minedIn chain hash = some block) (grows : before.Extends after) :
    after.minedIn chain hash = some block := by
  unfold minedIn at mined
  split at mined
  case h_3 => cases mined
  all_goals
    rename_i found
    split at mined <;> cases mined
    obtain ⟨later, foundLater, ⟨-, chain', -⟩, same⟩ := grows hash _ found
    cases later
    simp_all [minedIn]

end World

/-! ## Reading -/

/-- The operations that leave the world alone. -/
def Op.reads : Op → Bool
  | .now | .newClientOrderId | .currentBlock _ | .awaitReceipt _ | .findRecentBurn _ _ _
  | .findRecentMint _ _ | .ethereumTxBlock _ | .ethereumTxConfirmations _ | .ethereumUsdcBalance
  | .pollAttestation _ | .mint _ _ | .joinBurn _ | .confirmBurn _ | .burnStatus _
  | .pollTransferUntilComplete _ | .getWalletAddress | .pollDepositByTxHash _
  | .findConversionOrder _ | .pollConversionToTerminal _ => true
  | _ => false

theorem reply_world {α ε : Type} {error : ε} {answer? : Option α} {answer : Except ε α}
    (replied : reply choice error before answer? = some (answer, after)) : after = before := by
  unfold reply at replied
  split at replied
  · obtain ⟨value, -, same⟩ := Option.map_eq_some_iff.mp replied
    cases same
    rfl
  · cases replied
    rfl

/-- What a successful reply says. -/
theorem reply_ok {α ε : Type} {error : ε} {answer? : Option α} {value : α}
    (replied : reply choice error before answer? = some (.ok value, after)) :
    answer? = some value := by
  unfold reply at replied
  split at replied
  · obtain ⟨value', found, same⟩ := Option.map_eq_some_iff.mp replied
    cases same
    exact found
  · cases replied

theorem handle_reads {op : Op} {answer : op.Ret} (reads : op.reads = true)
    (handled : handle choice op before = some (answer, after)) : after = before := by
  cases op with
  | load | send | broadcast | findRecentWithdrawal | findRecentUsdcTransfer | spawnBurn
  | acceptBurn | submitBurn | finishBurn | initiateWithdrawal | convertUsdcUsd => cases reads
  | now | newClientOrderId =>
      cases handled
      rfl
  | awaitReceipt =>
      simp only [handle] at handled
      split at handled
      · split at handled <;> cases handled <;> rfl
      · cases handled
        rfl
  | joinBurn =>
      simp only [handle] at handled
      split at handled <;> cases handled <;> rfl
  | confirmBurn =>
      simp only [handle] at handled
      split at handled
      · split at handled <;> cases handled <;> rfl
      · split at handled <;> cases handled
        rfl
  | _ => exact reply_world handled

/-! ## Commands -/

/-- A command that was accepted: its event, and where it leads. -/
def World.Records (before : World) (command : UsdcRebalanceCommand) (after : World) : Prop :=
  ∃ event next, Advances before.entity? event next ∧ command.Announces event ∧
    after = { before with stream := before.stream ++ [event] } ∧ after.entity? = some next

/-- A command touches nothing but the stream. -/
theorem send_frame {outcome : Outcome} {command : UsdcRebalanceCommand}
    {answer : Except (SendError UsdcRebalanceError) Unit}
    (sent : before.send outcome command = (answer, after)) :
    ∃ stream, after = { before with stream } := by
  have shape : ∃ stream, (before.send outcome command).2 = { before with stream } := by
    unfold World.send
    split
    · exact ⟨before.stream, rfl⟩
    all_goals
      split
      · exact ⟨before.stream, rfl⟩
      · exact ⟨_, rfl⟩
  rw [sent] at shape
  exact shape

theorem send_cases {outcome : Outcome} {command : UsdcRebalanceCommand}
    {answer : Except (SendError UsdcRebalanceError) Unit}
    (emits : Emits before.stream before.entity?)
    (allowed : issued before.entity? command = true)
    (sent : before.send outcome command = (answer, after)) :
    (after = before ∧ ((∃ error, answer = .error error) ∨
        command = .clearPendingBurn ∧ before.pendingBurn = none)) ∨
      before.Records command after := by
  unfold World.send at sent
  split at sent
  case h_1 =>
    cases sent
    exact .inl ⟨rfl, .inl ⟨_, rfl⟩⟩
  all_goals
    split at sent
    case h_1 =>
      cases sent
      exact .inl ⟨rfl, .inl ⟨_, rfl⟩⟩
    case h_2 events accepted =>
      cases sent
      rcases emits.accepts allowed accepted with ⟨rfl, cleared, nothing⟩ |
        ⟨event, next, rfl, advances, announces⟩
      · exact .inl ⟨by simp, .inr ⟨cleared, nothing⟩⟩
      · exact .inr ⟨event, next, advances, announces, rfl, (emits.append advances).state_eq⟩

theorem World.Records.emits {command : UsdcRebalanceCommand}
    (emits : Emits before.stream before.entity?) (records : before.Records command after) :
    Emits after.stream after.entity? := by
  obtain ⟨event, next, advances, -, rfl, leads⟩ := records
  rw [leads]
  exact emits.append advances

theorem World.Records.stage_le {command : UsdcRebalanceCommand}
    (records : before.Records command after) : before.stage ≤ after.stage := by
  obtain ⟨event, next, advances, -, -, leads⟩ := records
  rw [World.stage, World.stage, leads]
  exact advances.stage_le

def Op.loads : Op → Bool
  | .load => true
  | _ => false

theorem handle_load {answer : Op.load.Ret}
    (handled : handle choice .load before = some (answer, after)) :
    (after = before ∧ ∃ error, answer = .error error) ∨
      answer = UsdcRebalance.aggregate.load before.stream ∧
        after = { before with attempt := ⟨before.entity?, [], [], before.tasks.length⟩ } := by
  simp only [handle] at handled
  split at handled
  · cases handled
    exact .inr ⟨rfl, rfl⟩
  · cases handled
    exact .inl ⟨rfl, _, rfl⟩

/-! ## Irreversible calls -/

/-- The irreversible call an operation makes. -/
def Op.effect? : Op → Option Effect
  | .broadcast call _ => some (.call call)
  | .initiateWithdrawal _ => some .alpacaWithdrawal
  | .convertUsdcUsd _ direction _ => some (.conversion direction)
  | _ => none

/-- An irreversible call, made. -/
inductive World.Effected (before : World) : Op → World → Prop where
  | broadcast (call : Call) (amount : Nat) :
      Effected before (.broadcast call amount)
        ((before.submit (.call call) call.chain amount).note (.call call))
  | initiateWithdrawal (amount : Positive) :
      Effected before (.initiateWithdrawal amount)
        (World.note { before with withdrawals := before.withdrawals ++ [amount] } .alpacaWithdrawal)
  | convertUsdcUsd (amount : Usdc) (direction : ConversionDirection) (orderId : ClientOrderId) :
      Effected before (.convertUsdcUsd amount direction orderId)
        (World.note { before with orders := before.orders ++ [⟨orderId, direction, amount⟩] }
          (.conversion direction))

theorem handle_effect {op : Op} {effect : Effect} {answer : op.Ret}
    (is : op.effect? = some effect) (handled : handle choice op before = some (answer, after)) :
    after = before ∨ before.Effected op after := by
  cases op with
  | broadcast call amount =>
      simp only [handle, World.broadcast] at handled
      split at handled <;> cases handled
      · exact .inr (.broadcast ..)
      · exact .inl rfl
      · exact .inr (.broadcast ..)
  | initiateWithdrawal amount =>
      simp only [handle] at handled
      split at handled <;> cases handled
      · exact .inr (.initiateWithdrawal ..)
      · exact .inl rfl
      · exact .inr (.initiateWithdrawal ..)
  | convertUsdcUsd amount direction orderId =>
      simp only [handle] at handled
      split at handled <;> cases handled
      · exact .inr (.convertUsdcUsd ..)
      · exact .inl rfl
      · exact .inr (.convertUsdcUsd ..)
  | _ => cases is

/-- What an irreversible call leaves alone. -/
theorem World.Effected.frame {op : Op} {effect : Effect} (is : op.effect? = some effect)
    (effected : before.Effected op after) :
    after.stream = before.stream ∧ after.tasks = before.tasks ∧ after.head = before.head ∧
      after.attempt = { before.attempt with effects := before.attempt.effects ++ [effect] } ∧
      before.Extends after := by
  cases effected <;> cases is
  case broadcast => exact ⟨rfl, rfl, rfl, rfl, .of_append rfl⟩
  all_goals exact ⟨rfl, rfl, rfl, rfl, .of_eq rfl⟩

/-! ## Scans -/

theorem lastMined_concat (ledger : List Tx) (tx : Tx) (wanted : Tx → Nat → Bool) :
    lastMined (ledger ++ [tx]) wanted =
      match tx.status with
      | .succeeded block =>
          if wanted tx block then some (ledger.length, tx) else lastMined ledger wanted
      | _ => lastMined ledger wanted := by
  rw [lastMined, List.zipIdx_append, List.foldl_append, Nat.zero_add]
  obtain ⟨_, _, _, status⟩ := tx
  cases status <;> rfl

/-- What a scan finds is in the ledger, mined, and wanted. -/
theorem lastMined_some {ledger : List Tx} {wanted : Tx → Nat → Bool} {hash : TxHash} {tx : Tx}
    (found : lastMined ledger wanted = some (hash, tx)) :
    ledger[hash]? = some tx ∧ ∃ block, tx.status = .succeeded block ∧ wanted tx block = true := by
  induction ledger using List.reverseRecOn with
  | nil => cases found
  | append_singleton ledger last ih =>
      have older : lastMined ledger wanted = some (hash, tx) → (ledger ++ [last])[hash]? = some tx ∧
          ∃ block, tx.status = .succeeded block ∧ wanted tx block = true := by
        intro earlier
        obtain ⟨listed, mined⟩ := ih earlier
        rw [List.getElem?_append_left (List.getElem?_eq_some_iff.mp listed).1]
        exact ⟨listed, mined⟩
      rw [lastMined_concat] at found
      split at found
      case h_2 => exact older found
      case h_1 block mined =>
        split at found
        case isFalse => exact older found
        case isTrue is =>
          cases found
          exact ⟨List.getElem?_concat_length, block, mined, is⟩

/-- If a scan finds nothing, nothing that was mined is wanted. -/
theorem lastMined_none {ledger : List Tx} {wanted : Tx → Nat → Bool}
    (found : lastMined ledger wanted = none) {tx : Tx} (listed : tx ∈ ledger) {block : Nat}
    (mined : tx.status = .succeeded block) : wanted tx block = false := by
  induction ledger using List.reverseRecOn with
  | nil => cases listed
  | append_singleton ledger last ih =>
      rw [lastMined_concat] at found
      rcases List.mem_append.mp listed with older | same
      · refine ih ?_ older
        split at found
        · split at found
          · cases found
          · exact found
        · exact found
      · obtain rfl := List.mem_singleton.mp same
        simp only [mined] at found
        split at found
        case isTrue => cases found
        case isFalse other => exact Bool.eq_false_iff.mpr other

theorem scan_some {world : World} {chain : Chain} {fromBlock : Nat} {wanted : Tx → Nat → Bool}
    {hash : TxHash} {tx : Tx} (found : world.scan chain fromBlock wanted = some (some (hash, tx))) :
    world.ledger[hash]? = some tx ∧ ∃ block, tx.status = .succeeded block ∧
      (tx.chain = chain && wanted tx block) = true := by
  unfold World.scan at found
  split at found
  · cases found
    exact lastMined_some (by assumption)
  · split at found <;> cases found

theorem scan_none {world : World} {chain : Chain} {fromBlock : Nat} {wanted : Tx → Nat → Bool}
    (found : world.scan chain fromBlock wanted = some none) {tx : Tx} (listed : tx ∈ world.ledger)
    {block : Nat} (mined : tx.status = .succeeded block) :
    (tx.chain = chain && wanted tx block) = false := by
  unfold World.scan at found
  split at found
  · cases found
  · exact lastMined_none (by assumption) listed mined

theorem handle_findRecentWithdrawal {fromBlock : Nat}
    {answer : (Op.findRecentWithdrawal fromBlock).Ret}
    (handled : handle choice (.findRecentWithdrawal fromBlock) before = some (answer, after)) :
    (after = before ∧ answer ≠ .ok none) ∨
      (after = before.noteAbsent .withdraw ∧ before.scan .base fromBlock (fun tx block =>
        tx.kind = .call .withdraw && fromBlock < block) = some none) := by
  simp only [handle] at handled
  split at handled
  · obtain ⟨⟨found, noted⟩, scanned, same⟩ := Option.map_eq_some_iff.mp handled
    obtain ⟨result, scans, shape⟩ := Option.map_eq_some_iff.mp scanned
    cases same
    cases result with
    | some pair =>
        cases shape
        exact .inl ⟨rfl, by simp⟩
    | none =>
        cases shape
        exact .inr ⟨rfl, scans⟩
  · cases handled
    exact .inl ⟨rfl, by simp⟩

theorem handle_findRecentUsdcTransfer {amount fromBlock : Nat}
    {answer : (Op.findRecentUsdcTransfer amount fromBlock).Ret}
    (handled : handle choice (.findRecentUsdcTransfer amount fromBlock) before =
      some (answer, after)) :
    (after = before ∧ answer ≠ .ok none) ∨
      (after = before.noteAbsent .transfer ∧ before.scan .ethereum fromBlock (fun tx block =>
        tx.kind = .call .transfer && tx.amount = amount && fromBlock ≤ block) = some none) := by
  simp only [handle] at handled
  split at handled
  · obtain ⟨⟨found, noted⟩, scanned, same⟩ := Option.map_eq_some_iff.mp handled
    obtain ⟨result, scans, shape⟩ := Option.map_eq_some_iff.mp scanned
    cases same
    cases result with
    | some pair =>
        cases shape
        exact .inl ⟨rfl, by simp⟩
    | none =>
        cases shape
        exact .inr ⟨rfl, scans⟩
  · cases handled
    exact .inl ⟨rfl, by simp⟩

/-! ## Tasks -/

theorem status_setStatus (world : World) (task other : Nat) (status : TaskStatus) :
    (world.setStatus task status).status? other =
      if task = other then (world.status? other).map fun _ => status else world.status? other := by
  simp only [World.status?, World.setStatus, List.getElem?_modify, Option.map_map]
  split
  · cases world.tasks[other]? <;> simp
  · cases world.tasks[other]? <;> simp

@[simp] theorem length_setStatus (world : World) (task : Nat) (status : TaskStatus) :
    (world.setStatus task status).tasks.length = world.tasks.length := by
  simp [World.setStatus]

/-- A task that has been spawned is the last one, or was there before. -/
theorem status_spawn (world : World) (spawned : Task) {task : Nat} {status : TaskStatus}
    (found : World.status? { world with tasks := world.tasks ++ [spawned] } task = some status) :
    world.status? task = some status ∨ task = world.tasks.length ∧ status = spawned.status := by
  simp only [World.status?] at found ⊢
  rcases lt_trichotomy task world.tasks.length with old | rfl | beyond
  · rw [List.getElem?_append_left old] at found
    exact .inl found
  · simp only [List.getElem?_concat_length, Option.map_some, Option.some.injEq] at found
    exact .inr ⟨rfl, found.symm⟩
  · rw [List.getElem?_eq_none (by simp; omega)] at found
    cases found

theorem status_lt {world : World} {task : Nat} {status : TaskStatus}
    (found : world.status? task = some status) : task < world.tasks.length := by
  obtain ⟨_, inBounds, -⟩ := Option.map_eq_some_iff.mp found
  exact (List.getElem?_eq_some_iff.mp inBounds).1

theorem exists_status {world : World} {task : Nat} (inBounds : task < world.tasks.length) :
    ∃ status, world.status? task = some status :=
  ⟨_, by rw [World.status?, List.getElem?_eq_getElem inBounds]; rfl⟩

theorem handle_acceptBurn {task : Nat} {request : BurnRequest}
    (handled : handle choice (.acceptBurn task) before = some (request, after)) :
    before.status? task = some .queued ∧ after = before.setStatus task .running := by
  simp only [handle] at handled
  split at handled
  case h_2 => cases handled
  case h_1 found =>
    cases handled
    exact ⟨by simp [World.status?, found], rfl⟩

/-- The task can still perform operations. -/
def World.Alive (world : World) (task : Nat) : Prop :=
  ∃ status, world.status? task = some status ∧ status.alive = true

theorem handle_sendFromTask {task : Nat} {command : UsdcRebalanceCommand}
    {answer : Except (SendError UsdcRebalanceError) Unit}
    (handled : handle choice (.send (.task task) command) before = some (answer, after)) :
    before.Alive task ∧ ∃ sent, before.send choice.outcome command = (answer, sent) ∧
      (after = sent ∧ (command = .clearPendingBurn → ∃ error, answer = .error error) ∨
        command = .clearPendingBurn ∧ answer = .ok () ∧ after = sent.setStatus task .cleared) := by
  simp only [handle] at handled
  split at handled
  case isFalse => cases handled
  case isTrue alive =>
    refine ⟨(Option.any_eq_true _ _).mp alive, ?_⟩
    simp only [World.sendFromTask, Option.some.injEq] at handled
    split at handled
    case h_1 sent sending =>
      cases handled
      exact ⟨sent, sending, .inr ⟨rfl, rfl, rfl⟩⟩
    case h_2 other =>
      refine ⟨after, handled, .inl ⟨rfl, fun cleared => ?_⟩⟩
      cases answer with
      | error error => exact ⟨error, rfl⟩
      | ok => exact (other _ handled cleared).elim

theorem handle_submitBurn {task : Nat} {request : BurnRequest}
    {answer : Except SubmitError TxHash}
    (handled : handle choice (.submitBurn task request) before = some (answer, after)) :
    before.Alive task ∧ ((after = before ∧ ∃ error, answer = .error error) ∨
      after = (before.submit (.burn task) request.chain request.amount).setStatus task .broadcast ∧
        ∀ hash, answer = .ok hash → hash = before.ledger.length) := by
  simp only [handle] at handled
  split at handled
  case isFalse => cases handled
  case isTrue alive =>
    refine ⟨(Option.any_eq_true _ _).mp alive, ?_⟩
    split at handled <;> cases handled
    · exact .inr ⟨rfl, by simp⟩
    · exact .inl ⟨rfl, _, rfl⟩
    · exact .inr ⟨rfl, by simp⟩

theorem handle_finishBurn {task : Nat} {result : Except UsdcTransferError TxHash} {answer : Unit}
    (handled : handle choice (.finishBurn task result) before = some (answer, after)) :
    before.Alive task ∧ after = before.setStatus task (.finished result) := by
  simp only [handle] at handled
  split at handled
  case isFalse => cases handled
  case isTrue alive =>
    cases handled
    exact ⟨(Option.any_eq_true _ _).mp alive, rfl⟩

theorem handle_joinBurn {task : Nat} {result : Except UsdcTransferError TxHash}
    (handled : handle choice (.joinBurn task) before = some (some result, after)) :
    before.status? task = some (.finished result) := by
  simp only [handle] at handled
  split at handled <;> cases handled
  assumption

/-! ## The environment -/

theorem environment_extends {change : Env} (changed : environment change before = some after) :
    before.Extends after := by
  cases change with
  | mine hash success =>
      simp only [environment] at changed
      split at changed
      case h_2 => cases changed
      case h_1 tx found =>
        split at changed
        case isFalse => cases changed
        case isTrue pending =>
          cases changed
          intro other tx' found'
          by_cases same : hash = other
          · subst same
            obtain rfl : tx = tx' := Option.some.inj (found.symm.trans found')
            have inBounds := (List.getElem?_eq_some_iff.mp found).1
            exact ⟨_, List.getElem?_set_self inBounds, ⟨rfl, rfl, rfl⟩,
              fun settled => absurd pending settled⟩
          · exact ⟨tx', by simpa [List.getElem?_set_ne same] using found', ⟨rfl, rfl, rfl⟩,
              fun _ => rfl⟩
  | advance | tick =>
      cases changed
      exact .of_eq rfl
  | landMint | landPayout =>
      cases changed
      exact .of_append rfl
  | lose =>
      simp only [environment] at changed
      split at changed <;> cases changed
      exact .of_eq rfl

/-- What happens by itself touches neither the stream nor the attempt, and the
only thing it does to a task is to lose it. -/
theorem environment_frame {change : Env} (changed : environment change before = some after) :
    after.stream = before.stream ∧ after.attempt = before.attempt ∧
      after.tasks.length = before.tasks.length ∧
      ∀ task status, before.status? task = some status →
        after.status? task = some status ∨ status.ended = false ∧ after.status? task = some .lost := by
  cases change with
  | mine hash success =>
      simp only [environment] at changed
      split at changed
      · split at changed <;> cases changed
        exact ⟨rfl, rfl, rfl, fun _ _ found => .inl found⟩
      · cases changed
  | advance | tick | landMint | landPayout =>
      cases changed
      exact ⟨rfl, rfl, rfl, fun _ _ found => .inl found⟩
  | lose lost =>
      simp only [environment] at changed
      split at changed
      case isFalse => cases changed
      case isTrue going =>
        cases changed
        refine ⟨rfl, rfl, by simp, fun task status found => ?_⟩
        rw [status_setStatus]
        by_cases same : lost = task
        · subst same
          refine .inr ⟨?_, by simp [found]⟩
          simpa [found] using going
        · exact .inl (by simpa [same] using found)

theorem environment_head {change : Env} (changed : environment change before = some after)
    (chain : Chain) : before.head chain ≤ after.head chain := by
  have later : ∀ other, before.head chain ≤
      Function.update before.head other (before.head other + 1) chain := by
    intro other
    by_cases same : chain = other
    · subst same
      simp
    · simp [same]
  cases change with
  | mine hash success =>
      simp only [environment] at changed
      split at changed
      · split at changed <;> cases changed
        exact later _
      · cases changed
  | advance other =>
      cases changed
      exact later other
  | tick =>
      cases changed
      exact le_refl _
  | landMint other | landPayout =>
      cases changed
      exact later _
  | lose =>
      simp only [environment] at changed
      split at changed <;> cases changed
      exact le_refl _

end Liquidity.Transfer
