import Liquidity.Transfer.Resume

/-!
# At most one burn

A burn is sent by a task, and a task sends at most one. So it is enough that a
task is spawned only when no earlier burn can still be mined. An attempt has
three grounds for that: there is no task yet, its own last task reported a burn
that was mined reverted, or the burn it loaded as recorded was mined reverted.

The third is not always good. A task that outlived its attempt may still be on
its way to clear that hash and to send a burn of its own. The condition of the
result is that an attempt does not load a recorded burn while such a task is
running.
-/

namespace Liquidity.Transfer

open EventSourcing Process UsdcRebalance

/-- A burn that was mined successfully or may still be. -/
def World.LiveBurn (world : World) (task : Nat) (hash : TxHash) : Prop :=
  ∃ tx, world.ledger[hash]? = some tx ∧ tx.kind = .burn task ∧ tx.status.live = true

theorem World.LiveBurn.isBurn {world : World} {task : Nat} {hash : TxHash}
    (live : world.LiveBurn task hash) : world.IsBurn task hash := by
  obtain ⟨tx, found, kind, -⟩ := live
  exact ⟨tx, found, kind⟩

theorem World.LiveBurn.not_reverted {world : World} {task : Nat} {hash : TxHash}
    (live : world.LiveBurn task hash) : ¬ world.Reverted hash := by
  rintro ⟨block, status⟩
  obtain ⟨tx, found, -, alive⟩ := live
  simp only [World.txStatus?, found, Option.map_some, Option.some.injEq] at status
  simp [status, TxStatus.live] at alive

/-- No task has anything left to do. -/
def World.Quiet (world : World) : Prop :=
  ∀ task status, world.status? task = some status → status.ended = true

/-- What the attempt may take from the recorded burn it loaded, as long as it has
spawned no task: nobody else will burn, and nothing but that burn is live. -/
def World.Marked (world : World) : Prop :=
  ∀ burn, pendingBurnOf world.attempt.loaded = some burn →
    world.tasks.length = world.attempt.tasks →
      world.Quiet ∧ ∀ task hash, world.LiveBurn task hash → hash = burn

/-- What holds of burns and tasks. -/
structure Burns (world : World) : Prop where
  filed : ∀ task hash, world.IsBurn task hash → task < world.tasks.length
  earlier : ∀ task status, world.status? task = some status →
    task + 1 < world.tasks.length → status.ended = true
  once : ∀ task first second, world.IsBurn task first → world.IsBurn task second → first = second
  last : ∀ task hash, world.LiveBurn task hash → task + 1 = world.tasks.length
  unsent : ∀ task status hash, world.status? task = some status →
    status.beforeBroadcast = true → ¬ world.IsBurn task hash
  cleared : ∀ task, world.status? task = some .cleared → world.pendingBurn = none
  recorded : ∀ burn task hash, world.pendingBurn = some burn → world.LiveBurn task hash →
    hash = burn
  marked : world.Marked
  bridging : ∀ direction amount hash initiatedAt burnedAt,
    world.entity? = some (.bridging direction amount hash initiatedAt burnedAt) →
      world.Burned hash

theorem Burns.empty : Burns World.empty := by
  have none : ∀ task hash, ¬ World.empty.IsBurn task hash := by
    rintro task hash ⟨tx, found, -⟩
    simp [World.empty] at found
  have idle : ∀ task status, World.empty.status? task ≠ some status := by
    intro task status found
    simp [World.empty, World.status?] at found
  refine ⟨?_, ?_, ?_, ?_, ?_, ?_, ?_, ?_, ?_⟩
  · exact fun task hash burn => absurd burn (none task hash)
  · exact fun task status found => absurd found (idle task status)
  · exact fun task first _ burn => absurd burn (none task first)
  · exact fun task hash live => absurd live.isBurn (none task hash)
  · exact fun task status _ found => absurd found (idle task status)
  · exact fun task found => absurd found (idle task _)
  · exact fun _ task hash _ live => absurd live.isBurn (none task hash)
  · exact fun _ loaded => by simp [World.empty] at loaded
  · intro direction amount hash initiatedAt burnedAt stored
    simp [World.empty, World.entity?, Lifecycle.entity?] at stored

/-- Only the last task can be under way. -/
theorem Burns.is_last {world : World} (burns : Burns world) {task : Nat} {status : TaskStatus}
    (found : world.status? task = some status) (going : status.ended = false) :
    task + 1 = world.tasks.length := by
  have bound := status_lt found
  rcases Nat.lt_or_ge (task + 1) world.tasks.length with early | late
  · have ended := burns.earlier task status found early
    rw [going] at ended
    cases ended
  · omega

/-- A live burn is one of the last task, and there is only one. -/
theorem Burns.live_unique {world : World} (burns : Burns world) {first second : Nat}
    {hash hash' : TxHash} (one : world.LiveBurn first hash) (two : world.LiveBurn second hash') :
    hash = hash' := by
  have same : first = second := by
    have one' := burns.last first hash one
    have two' := burns.last second hash' two
    omega
  subst same
  exact burns.once first hash hash' one.isBurn two.isBurn

/-! ## What leaves burns alone -/

section Frame

variable {before after : World}

theorem World.Marked.frame (marked : before.Marked)
    (loaded : after.attempt.loaded = before.attempt.loaded)
    (spawned : after.attempt.tasks = before.attempt.tasks)
    (length : after.tasks.length = before.tasks.length)
    (statuses : ∀ task status, after.status? task = some status →
      status = .lost ∨ before.status? task = some status)
    (lives : ∀ task hash, after.LiveBurn task hash → before.LiveBurn task hash) :
    after.Marked := by
  intro burn recorded same
  rw [loaded] at recorded
  rw [length, spawned] at same
  obtain ⟨quiet, only⟩ := marked burn recorded same
  refine ⟨fun task status found => ?_, fun task hash live => only task hash (lives task hash live)⟩
  rcases statuses task status found with rfl | old
  · rfl
  · exact quiet task status old

/-- A change that sends no burn, lets no task on, and records no burn. -/
theorem Burns.frame (burns : Burns before) (length : after.tasks.length = before.tasks.length)
    (statuses : ∀ task status, after.status? task = some status →
      status = .lost ∨ before.status? task = some status)
    (old : ∀ task hash, after.IsBurn task hash → before.IsBurn task hash)
    (lives : ∀ task hash, after.LiveBurn task hash → before.LiveBurn task hash)
    (pending : after.pendingBurn = none ∨ after.pendingBurn = before.pendingBurn)
    (marked : after.Marked)
    (bridging : ∀ direction amount hash initiatedAt burnedAt,
      after.entity? = some (.bridging direction amount hash initiatedAt burnedAt) →
        after.Burned hash) : Burns after where
  filed := fun task hash burn => length ▸ burns.filed task hash (old task hash burn)
  earlier := by
    intro task status found early
    rcases statuses task status found with rfl | was
    · rfl
    · exact burns.earlier task status was (length ▸ early)
  once := fun task first second one two =>
    burns.once task first second (old task first one) (old task second two)
  last := fun task hash live => length ▸ burns.last task hash (lives task hash live)
  unsent := by
    intro task status hash found unsent burn
    rcases statuses task status found with rfl | was
    · cases unsent
    · exact burns.unsent task status hash was unsent (old task hash burn)
  cleared := by
    intro task found
    rcases statuses task .cleared found with lost | was
    · cases lost
    · rcases pending with none | same
      · exact none
      · exact same.trans (burns.cleared task was)
  recorded := by
    intro burn task hash recorded live
    rcases pending with none | same
    · rw [none] at recorded
      cases recorded
    · exact burns.recorded burn task hash (same ▸ recorded) (lives task hash live)
  marked := marked
  bridging := bridging

/-- The same, if neither the stream nor the ledger's burns change. -/
theorem Burns.same (burns : Burns before) (stream : after.stream = before.stream)
    (loaded : after.attempt.loaded = before.attempt.loaded)
    (spawned : after.attempt.tasks = before.attempt.tasks)
    (length : after.tasks.length = before.tasks.length)
    (statuses : ∀ task status, after.status? task = some status →
      status = .lost ∨ before.status? task = some status)
    (old : ∀ task hash, after.IsBurn task hash → before.IsBurn task hash)
    (lives : ∀ task hash, after.LiveBurn task hash → before.LiveBurn task hash)
    (grows : before.Extends after) : Burns after := by
  have same := entity_eq_of_stream stream
  refine burns.frame length statuses old lives (.inr ?_)
    (burns.marked.frame loaded spawned length statuses lives) ?_
  · rw [World.pendingBurn, same, World.pendingBurn]
  · intro direction amount hash initiatedAt burnedAt stored
    rw [same] at stored
    exact (burns.bridging direction amount hash initiatedAt burnedAt stored).extends grows

/-- A transaction that is no burn changes nothing about burns. -/
theorem burn_of_append {tx : Tx} (other : ∀ task, tx.kind ≠ .burn task)
    (grown : after.ledger = before.ledger ++ [tx]) (task : Nat) (hash : TxHash) :
    (after.IsBurn task hash → before.IsBurn task hash) ∧
      (after.LiveBurn task hash → before.LiveBurn task hash) := by
  have old : ∀ found, after.ledger[hash]? = some found → found.kind = .burn task →
      before.ledger[hash]? = some found := by
    intro found listed kind
    rw [grown] at listed
    rcases Nat.lt_trichotomy hash before.ledger.length with earlier | rfl | beyond
    · rwa [List.getElem?_append_left earlier] at listed
    · rw [List.getElem?_concat_length] at listed
      cases listed
      exact absurd kind (other task)
    · rw [List.getElem?_eq_none (by simp; omega)] at listed
      cases listed
  refine ⟨?_, ?_⟩
  · rintro ⟨found, listed, kind⟩
    exact ⟨found, old found listed kind, kind⟩
  · rintro ⟨found, listed, kind, live⟩
    exact ⟨found, old found listed kind, kind, live⟩

theorem burn_of_ledger_eq (same : after.ledger = before.ledger) (task : Nat) (hash : TxHash) :
    (after.IsBurn task hash → before.IsBurn task hash) ∧
      (after.LiveBurn task hash → before.LiveBurn task hash) := by
  unfold World.IsBurn World.LiveBurn
  rw [same]
  exact ⟨id, id⟩

theorem environment_burn {change : Env} (changed : environment change before = some after)
    (task : Nat) (hash : TxHash) :
    (after.IsBurn task hash → before.IsBurn task hash) ∧
      (after.LiveBurn task hash → before.LiveBurn task hash) := by
  cases change with
  | mine mined success =>
      simp only [environment] at changed
      split at changed
      case h_2 => cases changed
      case h_1 tx found =>
        split at changed
        case isFalse => cases changed
        case isTrue pending =>
          cases changed
          by_cases same : mined = hash
          · subst same
            have inBounds := (List.getElem?_eq_some_iff.mp found).1
            refine ⟨?_, ?_⟩
            · rintro ⟨later, listed, kind⟩
              rw [List.getElem?_set_self inBounds] at listed
              cases listed
              exact ⟨tx, found, kind⟩
            · rintro ⟨later, listed, kind, -⟩
              rw [List.getElem?_set_self inBounds] at listed
              cases listed
              exact ⟨tx, found, kind, by simp [pending, TxStatus.live]⟩
          · unfold World.IsBurn World.LiveBurn
            rw [List.getElem?_set_ne same]
            exact ⟨id, id⟩
  | advance | tick =>
      cases changed
      exact burn_of_ledger_eq rfl task hash
  | landMint | landPayout =>
      cases changed
      exact burn_of_append (by simp) rfl task hash
  | lose =>
      simp only [environment] at changed
      split at changed <;> cases changed
      exact burn_of_ledger_eq rfl task hash

theorem Burns.environment {change : Env} (changed : environment change before = some after)
    (burns : Burns before) : Burns after := by
  obtain ⟨stream, attempt, length, kept⟩ := environment_frame changed
  refine burns.same stream (by rw [attempt]) (by rw [attempt]) length ?_
    (fun task hash => (environment_burn changed task hash).1)
    (fun task hash => (environment_burn changed task hash).2) (environment_extends changed)
  intro task status found
  obtain ⟨old, was⟩ := exists_status (length ▸ status_lt found)
  rcases kept task old was with same | ⟨-, lost⟩
  · obtain rfl := Option.some.inj (same.symm.trans found)
    exact .inr was
  · exact .inl (Option.some.inj (found.symm.trans lost))

end Frame

/-! ## Attempts -/

section Attempts

variable {choice : Choice} {before after : World}

/-- A recorded burn is loaded only once every task has ended. -/
def LoadsSettledBurn (op : Op) (world : World) : Prop :=
  op.loads = true → world.pendingBurn ≠ none → ∀ task ∈ world.tasks, task.status.ended = true

instance (op : Op) (world : World) : Decidable (LoadsSettledBurn op world) :=
  inferInstanceAs (Decidable (_ → _ → _))

theorem World.quiet_of_tasks {world : World}
    (ended : ∀ task ∈ world.tasks, task.status.ended = true) : world.Quiet := by
  intro task status found
  obtain ⟨spawned, listed, rfl⟩ := Option.map_eq_some_iff.mp found
  exact ended spawned (List.mem_of_getElem? listed)

theorem Burns.loads (burns : Burns before) (allowed : LoadsSettledBurn .load before)
    {answer : Op.load.Ret} (handled : handle choice .load before = some (answer, after)) :
    Burns after := by
  rcases handle_load handled with ⟨rfl, -⟩ | ⟨-, rfl⟩
  · exact burns
  · refine burns.frame rfl (fun _ _ found => .inr found) (fun _ _ burn => burn)
      (fun _ _ live => live) (.inr rfl) ?_ burns.bridging
    intro burn recorded _
    have pending : before.pendingBurn = some burn := recorded
    refine ⟨World.quiet_of_tasks (allowed rfl (by simp [pending])), fun task hash live => ?_⟩
    exact burns.recorded burn task hash pending live

theorem Advances.bridging {state : Option UsdcRebalance} {event : UsdcRebalanceEvent}
    {direction : RebalanceDirection} {amount : Usdc} {hash : TxHash} {initiatedAt burnedAt : Time}
    (advances : Advances state event (.bridging direction amount hash initiatedAt burnedAt)) :
    ∃ time, event = .bridgingInitiated hash time := by
  cases advances <;> exact ⟨_, rfl⟩

/-- An attempt records a burn as made only if it was mined. -/
theorem Burns.records (burns : Burns before) {direction : RebalanceDirection}
    {command : UsdcRebalanceCommand} (records : before.Records command after)
    (fits : CommandFits direction before command) : Burns after := by
  have none : after.pendingBurn = none :=
    records.pendingBurn_eq fun hash is => by subst is; exact fits
  obtain ⟨ledger, tasks, attempt, -⟩ := records.frame
  have statuses : ∀ task status, after.status? task = some status →
      status = .lost ∨ before.status? task = some status := by
    intro task status found
    rw [World.status?, tasks] at found
    exact .inr found
  have old := burn_of_ledger_eq ledger
  refine burns.frame (by rw [tasks]) statuses (fun task hash => (old task hash).1)
    (fun task hash => (old task hash).2) (.inl none) ?_ ?_
  · exact burns.marked.frame (by rw [attempt]) (by rw [attempt]) (by rw [tasks]) statuses
      fun task hash => (old task hash).2
  · intro side amount hash initiatedAt burnedAt stored
    obtain ⟨event, next, advances, announces, -, leads⟩ := records
    cases leads.symm.trans stored
    obtain ⟨time, rfl⟩ := Advances.bridging advances
    cases command <;> simp only [UsdcRebalanceCommand.Announces, reduceCtorEq, exists_false,
      UsdcRebalanceEvent.bridgingInitiated.injEq] at announces
    obtain ⟨_, rfl, rfl⟩ := announces
    exact World.Burned.extends fits (.of_eq ledger)

/-- Nothing is live when a burn may be submitted. -/
theorem Burns.vacant (burns : Burns before) (sane : Sane before) (vacant : before.Vacant)
    (task : Nat) (hash : TxHash) : ¬ before.LiveBurn task hash := by
  intro live
  rcases vacant with none | ⟨last, burn, length, finished, reverted⟩ | ⟨burn, loaded, reverted, fresh⟩
  · have bound := burns.filed task hash live.isBurn
    omega
  · have here := burns.last task hash live
    obtain rfl : task = last := by omega
    obtain rfl := burns.once task hash burn live.isBurn (sane.reported task burn finished)
    exact live.not_reverted reverted
  · obtain rfl := (burns.marked burn loaded fresh).2 task hash live
    exact live.not_reverted reverted

/-- Whoever may submit a burn finds every task ended. -/
theorem Burns.quiet (burns : Burns before) (vacant : before.Vacant) : before.Quiet := by
  intro task status found
  have bound := status_lt found
  rcases vacant with none | ⟨last, burn, length, finished, -⟩ | ⟨burn, loaded, -, fresh⟩
  · omega
  · by_cases same : task = last
    · subst same
      cases found.symm.trans finished
      rfl
    · exact burns.earlier task status found (by omega)
  · exact (burns.marked burn loaded fresh).1 task status found

theorem Burns.spawns (burns : Burns before) (sane : Sane before) (vacant : before.Vacant)
    (request : BurnRequest) :
    Burns { before with tasks := before.tasks ++ [⟨request, .queued⟩] } := by
  have quiet := burns.quiet vacant
  have nothing := burns.vacant sane vacant
  refine ⟨?_, ?_, burns.once, ?_, ?_, ?_, ?_, ?_, burns.bridging⟩
  · intro task hash burn
    have bound := burns.filed task hash burn
    simp only [List.length_append, List.length_singleton]
    omega
  · intro task status found early
    rcases status_spawn before _ found with old | ⟨rfl, -⟩
    · exact quiet task status old
    · simp at early
  · exact fun task hash live => absurd live (nothing task hash)
  · intro task status hash found unsent burn
    rcases status_spawn before _ found with old | ⟨rfl, -⟩
    · exact burns.unsent task status hash old unsent burn
    · exact absurd (burns.filed _ hash burn) (lt_irrefl _)
  · intro task found
    rcases status_spawn before _ found with old | ⟨-, isNew⟩
    · exact burns.cleared task old
    · cases isNew
  · exact fun _ task hash _ live => absurd live (nothing task hash)
  · -- The attempt has now spawned a task, so its mark is spent.
    intro burn _ same
    have spawned := sane.spawned
    simp only [List.length_append, List.length_singleton] at same
    omega

end Attempts

/-! ## Tasks -/

section Tasks

variable {choice : Choice} {before after : World} {task : Nat}

/-- While a task is under way there is no mark. -/
theorem Burns.unmarked (burns : Burns before) {status : TaskStatus}
    (found : before.status? task = some status) (going : status.ended = false)
    (loaded : after.attempt = before.attempt) (length : after.tasks.length = before.tasks.length) :
    after.Marked := by
  intro burn recorded same
  rw [loaded] at recorded
  rw [length, loaded] at same
  have ended := (burns.marked burn recorded same).1 task status found
  rw [going] at ended
  cases ended

/-- A task moves on without sending anything. -/
theorem Burns.setStatus (burns : Burns before) {current status : TaskStatus}
    (found : before.status? task = some current) (going : current.ended = false)
    (unsent : status.beforeBroadcast = true → current.beforeBroadcast = true)
    (cleared : status = .cleared → before.pendingBurn = none) :
    Burns (before.setStatus task status) := by
  have last := burns.is_last found going
  have statuses : ∀ other now, (before.setStatus task status).status? other = some now →
      (other = task ∧ now = status) ∨ before.status? other = some now := by
    intro other now here
    rw [status_setStatus] at here
    split at here
    case isFalse => exact .inr here
    case isTrue same =>
      obtain ⟨_, -, rfl⟩ := Option.map_eq_some_iff.mp here
      exact .inl ⟨same.symm, rfl⟩
  refine ⟨?_, ?_, burns.once, ?_, ?_, ?_, burns.recorded, ?_, burns.bridging⟩
  · intro other hash burn
    rw [length_setStatus]
    exact burns.filed other hash burn
  · intro other now here early
    rw [length_setStatus] at early
    rcases statuses other now here with ⟨rfl, -⟩ | old
    · omega
    · exact burns.earlier other now old early
  · intro other hash live
    rw [length_setStatus]
    exact burns.last other hash live
  · intro other now hash here quiet burn
    rcases statuses other now here with ⟨rfl, rfl⟩ | old
    · exact burns.unsent other current hash found (unsent quiet) burn
    · exact burns.unsent other now hash old quiet burn
  · intro other here
    rcases statuses other .cleared here with ⟨rfl, same⟩ | old
    · exact cleared same.symm
    · exact burns.cleared other old
  · exact burns.unmarked found going rfl (length_setStatus ..)

/-- A task sends its burn: it has sent none, and nobody else will. -/
theorem Burns.submits (burns : Burns before) (cleared : before.status? task = some .cleared)
    (request : BurnRequest) :
    Burns ((before.submit (.burn task) request.chain request.amount).setStatus task .broadcast) := by
  have last := burns.is_last cleared rfl
  have own : ∀ hash, ¬ before.IsBurn task hash :=
    fun hash => burns.unsent task .cleared hash cleared rfl
  have nothing : ∀ other hash, ¬ before.LiveBurn other hash := by
    intro other hash live
    have here := burns.last other hash live
    obtain rfl : other = task := by omega
    exact own hash live.isBurn
  generalize sent : (before.submit (.burn task) request.chain request.amount).setStatus task
    .broadcast = after
  have ledger : after.ledger = before.ledger ++
      [⟨.burn task, request.chain, request.amount, .pending⟩] := by
    subst sent
    rfl
  have length : after.tasks.length = before.tasks.length := by
    subst sent
    simp [World.submit]
  have statuses : ∀ other now, after.status? other = some now →
      (other = task ∧ now = .broadcast) ∨ before.status? other = some now := by
    intro other now here
    subst sent
    rw [status_setStatus] at here
    split at here
    case isFalse => exact .inr here
    case isTrue same =>
      obtain ⟨_, -, rfl⟩ := Option.map_eq_some_iff.mp here
      exact .inl ⟨same.symm, rfl⟩
  -- A burn of the new ledger is the new transaction, or was there before.
  have burnCases : ∀ other hash, after.IsBurn other hash →
      (other = task ∧ hash = before.ledger.length) ∨ before.IsBurn other hash := by
    rintro other hash ⟨tx, listed, kind⟩
    rw [ledger] at listed
    rcases Nat.lt_trichotomy hash before.ledger.length with earlier | rfl | beyond
    · rw [List.getElem?_append_left earlier] at listed
      exact .inr ⟨tx, listed, kind⟩
    · rw [List.getElem?_concat_length] at listed
      cases listed
      exact .inl ⟨(TxKind.burn.inj kind).symm, rfl⟩
    · rw [List.getElem?_eq_none (by simp; omega)] at listed
      cases listed
  have liveCases : ∀ other hash, after.LiveBurn other hash →
      other = task ∧ hash = before.ledger.length := by
    intro other hash live
    rcases burnCases other hash live.isBurn with own | ⟨tx, listed, kind⟩
    · exact own
    · obtain ⟨tx', listed', -, alive⟩ := live
      rw [ledger, List.getElem?_append_left (List.getElem?_eq_some_iff.mp listed).1] at listed'
      obtain rfl := Option.some.inj (listed.symm.trans listed')
      exact absurd ⟨tx, listed, kind, alive⟩ (nothing other hash)
  have entity : after.entity? = before.entity? := by
    subst sent
    rfl
  have attempt : after.attempt = before.attempt := by
    subst sent
    rfl
  refine ⟨?_, ?_, ?_, ?_, ?_, ?_, ?_, ?_, ?_⟩
  · intro other hash burn
    rcases burnCases other hash burn with ⟨rfl, -⟩ | old
    · omega
    · have bound := burns.filed other hash old
      omega
  · intro other now here early
    rcases statuses other now here with ⟨rfl, -⟩ | old
    · omega
    · exact burns.earlier other now old (by omega)
  · intro other first second one two
    rcases burnCases other first one with ⟨rfl, rfl⟩ | old
    · rcases burnCases other second two with ⟨-, rfl⟩ | old'
      · rfl
      · exact absurd old' (own second)
    · rcases burnCases other second two with ⟨rfl, rfl⟩ | old'
      · exact absurd old (own first)
      · exact burns.once other first second old old'
  · intro other hash live
    obtain ⟨rfl, -⟩ := liveCases other hash live
    omega
  · intro other now hash here unsent burn
    rcases statuses other now here with ⟨rfl, rfl⟩ | old
    · cases unsent
    · rcases burnCases other hash burn with ⟨rfl, -⟩ | old'
      · subst sent
        rw [status_setStatus, if_pos rfl] at here
        obtain ⟨_, -, rfl⟩ := Option.map_eq_some_iff.mp here
        cases unsent
      · exact burns.unsent other now hash old unsent old'
  · intro other here
    rw [World.pendingBurn, entity]
    exact burns.cleared task cleared
  · intro burn other hash pending
    rw [World.pendingBurn, entity] at pending
    rw [show pendingBurnOf before.entity? = none from burns.cleared task cleared] at pending
    cases pending
  · exact burns.unmarked cleared rfl attempt length
  · intro direction amount hash initiatedAt burnedAt stored
    rw [entity] at stored
    exact (burns.bridging direction amount hash initiatedAt burnedAt stored).extends
      (.of_append ledger)

/-- A command about the pending burn leaves everything else about burns. -/
theorem Burns.pending (burns : Burns before) {command : UsdcRebalanceCommand}
    (records : before.Records command after)
    (about : command = .clearPendingBurn ∨ ∃ hash, command = .recordPendingBurn hash)
    (cleared : ∀ task, before.status? task = some .cleared → after.pendingBurn = none)
    (recorded : ∀ burn task hash, after.pendingBurn = some burn → before.LiveBurn task hash →
      hash = burn) : Burns after := by
  have rests := rests_records records about
  have storage := records.frame
  obtain ⟨event, next, -, -, rfl, -⟩ := records
  refine ⟨burns.filed, burns.earlier, burns.once, burns.last, burns.unsent, cleared, recorded,
    burns.marked, ?_⟩
  intro direction amount hash initiatedAt burnedAt stored
  have was := eq_some_of_core rests.core.symm stored (by simp [UsdcRebalance.stage])
  exact burns.bridging direction amount hash initiatedAt burnedAt was

theorem Burns.ofTask {op : Op} {answer : op.Ret} (burns : Burns before) (sane : Sane before)
    (fits : TaskFits task op before) (handled : handle choice op before = some (answer, after)) :
    Burns after := by
  cases op with
  | acceptBurn other =>
      cases fits
      obtain ⟨queued, rfl⟩ := handle_acceptBurn handled
      exact burns.setStatus queued rfl (fun _ => rfl) (by simp)
  | submitBurn other request =>
      obtain ⟨rfl, cleared⟩ := fits
      obtain ⟨-, ⟨rfl, -⟩ | ⟨rfl, -⟩⟩ := handle_submitBurn handled
      · exact burns
      · exact burns.submits cleared request
  | finishBurn other result =>
      obtain ⟨rfl, -⟩ := fits
      obtain ⟨alive, rfl⟩ := handle_finishBurn handled
      obtain ⟨status, found, going⟩ := alive.not_ended
      exact burns.setStatus found going (by simp [TaskStatus.beforeBroadcast]) (by simp)
  | send author command =>
      cases author with
      | attempt => exact fits.elim
      | task other =>
          obtain ⟨alive, sent, sends, leads⟩ := handle_sendFromTask handled
          cases command with
          | clearPendingBurn =>
              obtain ⟨rfl, running⟩ := fits
              have kept : Burns sent ∧ (answer = .ok () → sent.pendingBurn = none) := by
                rcases send_cases sane.emits rfl sends with
                  ⟨rfl, ⟨_, refused⟩ | ⟨-, none⟩⟩ | records
                · exact ⟨burns, fun accepted => by cases refused.symm.trans accepted⟩
                · exact ⟨burns, fun _ => none⟩
                · have none := records.pendingBurn_eq fun _ => by simp
                  refine ⟨burns.pending records (.inl rfl) (fun _ _ => none) ?_, fun _ => none⟩
                  intro burn _ _ pending
                  cases none.symm.trans pending
              rcases leads with ⟨rfl, -⟩ | ⟨-, accepted, rfl⟩
              · exact kept.1
              · have still : sent.status? other = some .running := by
                  obtain ⟨stream, rfl⟩ := send_frame sends
                  exact running
                exact kept.1.setStatus still rfl (fun _ => rfl) fun _ => kept.2 accepted
          | recordPendingBurn hash =>
              obtain ⟨rfl, burn⟩ := fits
              have kept : Burns sent := by
                rcases send_cases sane.emits rfl sends with ⟨rfl, -⟩ | records
                · exact burns
                · obtain ⟨status, found, going⟩ := alive.not_ended
                  have last := burns.is_last found going
                  have pending := records.pendingBurn_recorded
                  refine burns.pending records (.inr ⟨hash, rfl⟩) ?_ ?_
                  · -- Only the recording task is under way, and it has sent its burn.
                    intro task' cleared
                    have last' := burns.is_last cleared rfl
                    obtain rfl : task' = other := by omega
                    exact absurd burn (burns.unsent task' .cleared hash cleared rfl)
                  · intro recorded task' hash' is live
                    obtain rfl := Option.some.inj (pending.symm.trans is)
                    have last' := burns.last task' hash' live
                    obtain rfl : task' = other := by omega
                    exact burns.once task' hash' hash live.isBurn burn
              rcases leads with ⟨rfl, -⟩ | ⟨wrong, -⟩
              · exact kept
              · cases wrong
          | _ => exact fits.elim
  | _ => exact fits.elim

end Tasks

/-- An attempt's operation keeps burns in order, if what it loads is settled. -/
theorem Burns.ofAttempt {choice : Choice} {before after : World} {direction : RebalanceDirection}
    {op : Op} {answer : op.Ret} (burns : Burns before) (sane : Sane before)
    (allowed : LoadsSettledBurn op before) (fits : AttemptFits direction op before)
    (handled : handle choice op before = some (answer, after)) : Burns after := by
  cases reads : op.reads with
  | true => exact handle_reads reads handled ▸ burns
  | false =>
      cases made : op.effect? with
      | some effect =>
          rcases handle_effect made handled with rfl | effected
          · exact burns
          · obtain ⟨stream, tasks, -, attempt, grows⟩ := effected.frame made
            have old : ∀ task hash, (after.IsBurn task hash → before.IsBurn task hash) ∧
                (after.LiveBurn task hash → before.LiveBurn task hash) := by
              cases effected with
              | broadcast => exact burn_of_append (by simp) rfl
              | initiateWithdrawal | convertUsdcUsd => exact burn_of_ledger_eq rfl
            refine burns.same stream (by rw [attempt]) (by rw [attempt]) (by rw [tasks]) ?_
              (fun task hash => (old task hash).1) (fun task hash => (old task hash).2) grows
            intro task status found
            rw [World.status?, tasks] at found
            exact .inr found
      | none =>
          cases op with
          | load => exact burns.loads allowed handled
          | send author command =>
              cases author with
              | task => exact fits.elim
              | attempt =>
                  rcases send_cases sane.emits fits.1 (Option.some.inj handled) with
                    ⟨rfl, -⟩ | records
                  · exact burns
                  · exact burns.records records fits.2
          | findRecentWithdrawal =>
              rcases handle_findRecentWithdrawal handled with ⟨rfl, -⟩ | ⟨rfl, -⟩
              · exact burns
              · exact burns.same rfl rfl rfl rfl (fun _ _ found => .inr found)
                  (fun _ _ burn => burn) (fun _ _ live => live) (.of_eq rfl)
          | findRecentUsdcTransfer =>
              rcases handle_findRecentUsdcTransfer handled with ⟨rfl, -⟩ | ⟨rfl, -⟩
              · exact burns
              · exact burns.same rfl rfl rfl rfl (fun _ _ found => .inr found)
                  (fun _ _ burn => burn) (fun _ _ live => live) (.of_eq rfl)
          | spawnBurn request =>
              cases handled
              exact burns.spawns sane fits.2 request
          | acceptBurn | submitBurn | finishBurn => exact fits.elim
          | broadcast | initiateWithdrawal | convertUsdcUsd => cases made
          | _ => cases reads

/-! ## The result -/

section Result

variable [FloatFormat]

/-- The successful burns of a transfer. -/
def World.burns (world : World) : Nat :=
  world.ledger.countP fun tx =>
    match tx.kind, tx.status with
    | .burn _, .succeeded _ => true
    | _, _ => false

omit [FloatFormat] in
theorem countP_le_one {α : Type} {p : α → Bool} {list : List α}
    (unique : ∀ (i j : Nat) (a b : α), list[i]? = some a → list[j]? = some b → p a = true →
      p b = true → i = j) :
    list.countP p ≤ 1 := by
  induction list with
  | nil => simp
  | cons head tail ih =>
      have rest : tail.countP p ≤ 1 := by
        refine ih fun i j a b first second one two => ?_
        have shifted := unique (i + 1) (j + 1) a b (by simpa using first) (by simpa using second)
          one two
        omega
      rw [List.countP_cons]
      split
      case isFalse => simpa using rest
      case isTrue here =>
        have none : tail.countP p = 0 := by
          refine List.countP_eq_zero.mpr fun b member two => ?_
          obtain ⟨j, found⟩ := List.mem_iff_getElem?.mp member
          have clash := unique 0 (j + 1) head b (by simp) (by simpa using found) here two
          omega
        omega

omit [FloatFormat] in
theorem Burns.burns_le_one {world : World} (burns : Burns world) : world.burns ≤ 1 := by
  refine countP_le_one fun i j a b first second one two => ?_
  have live : ∀ hash tx, world.ledger[hash]? = some tx → (match tx.kind, tx.status with
      | .burn _, .succeeded _ => true
      | _, _ => false) = true → ∃ task, world.LiveBurn task hash := by
    intro hash tx found counts
    split at counts
    case h_1 task block kind status => exact ⟨task, tx, found, kind, by simp [status, TxStatus.live]⟩
    case h_2 => cases counts
  obtain ⟨_, firstLive⟩ := live i a first one
  obtain ⟨_, secondLive⟩ := live j b second two
  exact burns.live_unique firstLive secondLive

/-- However attempts, tasks, crashes, lost answers and mining interleave: if a
recorded burn is loaded only once every task has ended, then at most one burn of
the transfer is mined successfully, and a stored `bridging` names it. -/
theorem burns_once (config : Config) (direction : RebalanceDirection)
    (schedule : List (Act Choice Label Env))
    (final : Process.Config Op Op.Ret UsdcTransferError Unit World Label)
    (settled : (system config direction).MeetsAll (fun _ => LoadsSettledBurn)
      ⟨World.empty, []⟩ schedule)
    (ran : (system config direction).run ⟨World.empty, []⟩ schedule = some final) :
    final.shared.burns ≤ 1 ∧ ∀ side amount burnTx initiatedAt burnedAt,
      final.shared.entity? = some (.bridging side amount burnTx initiatedAt burnedAt) →
        final.shared.Burned burnTx := by
  have burns : Burns final.shared := by
    refine run_keeps config Burns.empty ?_ ?_ settled ran
    · intro label op choice before answer after sane _ allowed fits handled burns
      cases label with
      | attempt => exact burns.ofAttempt sane allowed fits handled
      | burn task => exact burns.ofTask sane fits handled
    · exact fun change before after _ _ changed burns => burns.environment changed
  exact ⟨burns.burns_le_one, burns.bridging⟩

end Result

/-! ## Schedules of a BaseToAlpaca transfer -/

/-- The thread at `index` performs operations that all go well. -/
def proceed (index count : Nat) : List (Act Choice Label Env) :=
  List.replicate count (.step index { number := 0 })

/-- An attempt withdraws from the vault, records the intent to burn and spawns
the first task, which sends and reports a burn. -/
def burnReported : List (Act Choice Label Env) :=
  [.start (.attempt 10000)] ++ proceed 0 5 ++ [.env (.mine 0 true)] ++ proceed 0 6 ++
    [.start (.burn 0)] ++ proceed 1 5 ++ proceed 0 1

/-- The burn is mined and recorded. -/
def burnAdopted : List (Act Choice Label Env) :=
  burnReported ++ [.env (.mine 1 true)] ++ proceed 0 2

/-- The attempt is cancelled once its task has ended. The next one loads the recorded hash,
finds it mined and records the burn. -/
def burnResumed : List (Act Choice Label Env) :=
  burnReported ++ [.env (.mine 1 true), .crash 0, .start (.attempt 10000)] ++ proceed 1 4

/-- The burn is mined reverted and the attempt spawns a second task, which has
not cleared the recorded hash when the attempt is cancelled. The next attempt
loads that hash, finds it reverted and spawns a third task. -/
def burnRepeated : List (Act Choice Label Env) :=
  burnReported ++ [.env (.mine 1 false)] ++ proceed 0 2 ++ [.crash 1, .crash 0, .start (.burn 1)] ++
    proceed 0 1 ++ [.env (.advance .base), .env (.advance .base), .start (.attempt 10000)] ++
    proceed 1 4 ++ [.start (.burn 2)] ++ proceed 2 3 ++ proceed 0 2 ++
    [.env (.mine 2 true), .env (.mine 3 true)]

/-- The burn that is stored as made. -/
def World.bridgingBurn (world : World) : Option TxHash :=
  match world.entity? with
  | some (.bridging _ _ burnTx _ _) => some burnTx
  | _ => none

theorem burns_once_adopted :
    ∃ final, (@system FloatFormat.exact ⟨100, 1⟩ .baseToAlpaca).run ⟨World.empty, []⟩ burnResumed =
        some final ∧
      final.shared.burns = 1 ∧ final.shared.burns ≤ 1 ∧
      final.shared.bridgingBurn = some 1 ∧ final.shared.Burned 1 := by
  have meets : (@system FloatFormat.exact ⟨100, 1⟩ .baseToAlpaca).MeetsAll
      (fun _ => LoadsSettledBurn) ⟨World.empty, []⟩ burnResumed := by
    decide +kernel
  have runs : ((@system FloatFormat.exact ⟨100, 1⟩ .baseToAlpaca).run ⟨World.empty, []⟩
      burnResumed).map (fun final => (final.shared.burns, final.shared.bridgingBurn)) =
        some (1, some 1) := by
    decide +kernel
  obtain ⟨final, ran, result⟩ := Option.map_eq_some_iff.mp runs
  obtain ⟨one, adopted⟩ := Prod.mk.inj result
  obtain ⟨atMost, named⟩ :=
    @burns_once FloatFormat.exact ⟨100, 1⟩ .baseToAlpaca burnResumed final meets ran
  refine ⟨final, ran, one, atMost, adopted, ?_⟩
  unfold World.bridgingBurn at adopted
  split at adopted
  case h_1 stored =>
    cases adopted
    exact named _ _ _ _ _ stored
  case h_2 => cases adopted

theorem burns_twice :
    ∃ final, (@system FloatFormat.exact ⟨100, 1⟩ .baseToAlpaca).run ⟨World.empty, []⟩ burnRepeated =
      some final ∧ final.shared.burns = 2 := by
  have runs : ((@system FloatFormat.exact ⟨100, 1⟩ .baseToAlpaca).run ⟨World.empty, []⟩
      burnRepeated).map (fun final => final.shared.burns) = some 2 := by
    decide +kernel
  obtain ⟨final, ran, result⟩ := Option.map_eq_some_iff.mp runs
  exact ⟨final, ran, result⟩

end Liquidity.Transfer
