import Liquidity.Backfill.Coverage

/-!
# What the poller and the worker keep

Both rely on nothing but that scans and enqueued trades stay. An operation of
theirs has to fit: a range is enqueued only if everything before it was scanned,
and a checkpoint is saved only if everything up to it was.
-/

namespace Liquidity.Backfill

open Process

section Invariant

variable (chain : Chain) (deployment : Address → Nat) (settings : EvmCtx → Prop)

/-- Everything from the deployment of an orderbook up to, and not including, a block
was scanned for it. -/
def ScannedBefore (world : World) (orderbook : Address) (bound : Nat) : Prop :=
  ∀ block, deployment orderbook ≤ block → block < bound → world.Scanned orderbook block

/-- What holds under a configuration. -/
structure Sane (evm : EvmCtx) (world : World) : Prop where
  covered : ∀ orderbook checkpoint, world.checkpoints orderbook = some checkpoint →
    ScannedBefore deployment world orderbook (checkpoint + 1)
  enqueued : ∀ row ∈ world.jobs, ScannedBefore deployment world row.orderbook row.range.fromBlock
  own : ∀ row ∈ world.jobs, row.status.inFlight = true → row.orderbook = evm.orderbook
  accounted : ∀ scan ∈ world.scanned, ∀ block, scan.batchStart ≤ block → block ≤ scan.batchEnd →
    world.Accounted chain scan.evm block
  known : ∀ scan ∈ world.scanned, settings scan.evm

/-- What has to hold of an operation. -/
def Fits (evm : EvmCtx) : Op → World → Prop
  | .pushRange range, world => ScannedBefore deployment world evm.orderbook range.fromBlock
  | .noteScan batchStart batchEnd, world =>
      ∀ block, batchStart ≤ block → block ≤ batchEnd → world.Accounted chain evm block
  | .saveBackfillCheckpoint lastProcessedBlock, world =>
      ScannedBefore deployment world evm.orderbook (lastProcessedBlock + 1)
  | .finish _ status, _ => status.inFlight = false
  | _, _ => True

end Invariant

variable {chain : Chain} {deployment : Address → Nat} {settings : EvmCtx → Prop} {evm : EvmCtx}

theorem ScannedBefore.grows {before after : World} {orderbook : Address} {bound : Nat}
    (scanned : ScannedBefore deployment before orderbook bound) (grows : before.Grows after) :
    ScannedBefore deployment after orderbook bound :=
  fun block from' upTo => (scanned block from' upTo).grows grows

theorem Sane.empty (evm : EvmCtx) : Sane chain deployment settings evm World.empty where
  covered := by simp [World.empty]
  enqueued := by simp [World.empty]
  own := by simp [World.empty]
  accounted := by simp [World.empty]
  known := by simp [World.empty]

section Keeps

variable {choice : Choice} {before after : World}

/-- A call that may fail or whose answer may get lost: it takes effect or not. -/
theorem attempt_cases {error : BackfillError} {changed : World} {answer : Except BackfillError Unit}
    (tried : attempt choice before error changed = (answer, after)) :
    (after = before ∧ answer ≠ .ok ()) ∨ after = changed := by
  unfold attempt at tried
  split at tried <;> cases tried
  · exact .inr rfl
  · exact .inl ⟨rfl, by simp⟩
  · exact .inr rfl

/-- A change of statuses: of rows in flight before, or to a status that is none. -/
theorem Sane.setStatus (sane : Sane chain deployment settings evm before) {job : Nat}
    {status : JobStatus}
    (ends : status.inFlight = true → ∀ row, before.jobs[job]? = some row → row.status.inFlight = true) :
    Sane chain deployment settings evm (before.setStatus job status) := by
  have rows : ∀ row ∈ (before.setStatus job status).jobs, ∃ old ∈ before.jobs,
      row.range = old.range ∧ row.orderbook = old.orderbook ∧
        (row.status.inFlight = true → old.status.inFlight = true) := by
    intro row listed
    obtain ⟨index, found⟩ := List.mem_iff_getElem?.mp listed
    simp only [World.setStatus, List.getElem?_modify] at found
    split at found
    case isTrue same =>
      subst same
      obtain ⟨old, was, rfl⟩ := Option.map_eq_some_iff.mp found
      exact ⟨old, List.mem_of_getElem? was, rfl, rfl, fun flying => ends flying old was⟩
    case isFalse =>
      have was : before.jobs[index]? = some row := by simpa using found
      exact ⟨row, List.mem_of_getElem? was, rfl, rfl, id⟩
  refine ⟨sane.covered, fun row listed => ?_, fun row listed flying => ?_, sane.accounted, sane.known⟩
  · obtain ⟨old, member, range, orderbook, -⟩ := rows row listed
    rw [range, orderbook]
    exact sane.enqueued old member
  · obtain ⟨old, member, -, orderbook, flew⟩ := rows row listed
    rw [orderbook]
    exact sane.own old member (flew flying)

/-- Rows aside, a world that has grown keeps what the old one kept. -/
theorem Sane.grown (sane : Sane chain deployment settings evm before) (grows : before.Grows after)
    (jobs : after.jobs = before.jobs)
    (covered : ∀ orderbook checkpoint, after.checkpoints orderbook = some checkpoint →
      ScannedBefore deployment after orderbook (checkpoint + 1))
    (accounted : ∀ scan ∈ after.scanned, ∀ block, scan.batchStart ≤ block →
      block ≤ scan.batchEnd → after.Accounted chain scan.evm block)
    (known : ∀ scan ∈ after.scanned, settings scan.evm) :
    Sane chain deployment settings evm after := by
  refine ⟨covered, ?_, ?_, accounted, known⟩
  · rw [jobs]
    exact fun row listed => (sane.enqueued row listed).grows grows
  · rw [jobs]
    exact sane.own

/-- A checkpoint that was saved is the new one or the old one. -/
theorem saveBackfillCheckpoint_cases {orderbook other : Address} {block checkpoint : Nat}
    (saved : (before.saveBackfillCheckpoint orderbook block).checkpoints other = some checkpoint) :
    before.checkpoints other = some checkpoint ∨ other = orderbook ∧ checkpoint = block := by
  simp only [World.saveBackfillCheckpoint] at saved
  by_cases same : other = orderbook
  · subst same
    rw [Function.update_self] at saved
    split at saved
    case h_1 old found =>
      rcases max_choice block old with new | kept
      · exact .inr ⟨rfl, by rw [← Option.some.inj saved, new]⟩
      · exact .inl (by rw [found, ← saved, kept])
    case h_2 => exact .inr ⟨rfl, (Option.some.inj saved).symm⟩
  · rw [Function.update_of_ne same] at saved
    exact .inl saved

/-- An operation that fits keeps the invariant, and scans and trades stay. -/
theorem handle_keeps (known : settings evm) {op : Op} {answer : op.Ret}
    (sane : Sane chain deployment settings evm before) (fits : Fits chain deployment evm op before)
    (handled : handle chain evm choice op before = some (answer, after)) :
    Sane chain deployment settings evm after ∧ before.Grows after := by
  cases op with
  | getBlockNumber | latestCutoffBlock | loadBackfillCheckpoint | hasInFlight =>
      cases handled
      exact ⟨sane, .refl _⟩
  | getLogs =>
      simp only [handle] at handled
      split at handled <;> cases handled <;> exact ⟨sane, .refl _⟩
  | accept job =>
      simp only [handle] at handled
      split at handled
      case h_2 => cases handled
      case h_1 row found =>
        split at handled
        case isFalse => cases handled
        case isTrue free =>
          cases handled
          refine ⟨sane.setStatus fun _ row' found' => ?_, ⟨fun _ => id, fun _ => id⟩⟩
          obtain rfl := Option.some.inj (found.symm.trans found')
          rcases free with pending | queued
          · rw [pending]
            rfl
          · rw [queued]
            rfl
  | pushRange range =>
      rcases attempt_cases (Option.some.inj handled) with ⟨rfl, -⟩ | rfl
      · exact ⟨sane, .refl _⟩
      · refine ⟨⟨sane.covered, fun row listed => ?_, fun row listed flying => ?_, sane.accounted,
          sane.known⟩, ⟨fun _ => id, fun _ => id⟩⟩
        · rcases List.mem_append.mp listed with old | isNew
          · exact sane.enqueued row old
          · obtain rfl := List.mem_singleton.mp isNew
            exact fits
        · rcases List.mem_append.mp listed with old | isNew
          · exact sane.own row old flying
          · obtain rfl := List.mem_singleton.mp isNew
            rfl
  | pushTrade trade =>
      rcases attempt_cases (Option.some.inj handled) with ⟨rfl, -⟩ | rfl
      · exact ⟨sane, .refl _⟩
      · have grows : before.Grows { before with accounting := before.accounting ++ [trade] } :=
          ⟨fun _ => id, fun _ listed => List.mem_append_left _ listed⟩
        refine ⟨sane.grown grows rfl sane.covered ?_ sane.known, grows⟩
        exact fun scan listed block from' upTo =>
          (sane.accounted scan listed block from' upTo).grows grows
  | noteScan batchStart batchEnd =>
      cases handled
      have grows : before.Grows
          { before with scanned := before.scanned ++ [⟨evm, batchStart, batchEnd⟩] } :=
        ⟨fun _ listed => List.mem_append_left _ listed, fun _ => id⟩
      refine ⟨sane.grown grows rfl ?_ ?_ ?_, grows⟩
      · exact fun orderbook checkpoint saved => (sane.covered orderbook checkpoint saved).grows grows
      · intro scan listed block after upTo
        rcases List.mem_append.mp listed with old | isNew
        · exact sane.accounted scan old block after upTo
        · obtain rfl := List.mem_singleton.mp isNew
          exact fits block after upTo
      · intro scan listed
        rcases List.mem_append.mp listed with old | isNew
        · exact sane.known scan old
        · obtain rfl := List.mem_singleton.mp isNew
          exact known
  | saveBackfillCheckpoint block =>
      simp only [handle] at handled
      split at handled
      case isFalse =>
        cases handled
        exact ⟨sane, .refl _⟩
      case isTrue =>
        rcases attempt_cases (Option.some.inj handled) with ⟨rfl, -⟩ | rfl
        · exact ⟨sane, .refl _⟩
        · have grows : before.Grows (before.saveBackfillCheckpoint evm.orderbook block) :=
            ⟨fun _ => id, fun _ => id⟩
          refine ⟨sane.grown grows rfl ?_ sane.accounted sane.known, grows⟩
          intro orderbook checkpoint saved
          rcases saveBackfillCheckpoint_cases saved with old | ⟨rfl, rfl⟩
          · exact sane.covered orderbook checkpoint old
          · exact fits
  | finish job status =>
      cases handled
      refine ⟨sane.setStatus fun flying => ?_, ⟨fun _ => id, fun _ => id⟩⟩
      rw [show status.inFlight = false from fits] at flying
      cases flying

theorem environment_keeps {change : Env} (sane : Sane chain deployment settings evm before)
    (changed : environment change before = some after) :
    Sane chain deployment settings evm after ∧ before.Grows after := by
  cases change with
  | reserve job =>
      simp only [environment] at changed
      split at changed
      case h_2 => cases changed
      case h_1 row found =>
        split at changed
        case isFalse => cases changed
        case isTrue pending =>
          cases changed
          refine ⟨sane.setStatus fun _ row' found' => ?_, ⟨fun _ => id, fun _ => id⟩⟩
          obtain rfl := Option.some.inj (found.symm.trans found')
          rw [pending]
          rfl
  | kill job =>
      cases changed
      refine ⟨sane.setStatus ?_, ⟨fun _ => id, fun _ => id⟩⟩
      intro flying
      cases flying

/-- A process may start on what another left, if the jobs in flight are for its
orderbook. -/
theorem Sane.restart {next : EvmCtx} (sane : Sane chain deployment settings evm before)
    (ready : ∀ row ∈ before.jobs, row.status.inFlight = true → row.orderbook = next.orderbook) :
    Sane chain deployment settings next before.requeueOrphaned := by
  refine ⟨sane.covered, fun row listed => ?_, fun row listed flying => ?_, sane.accounted, sane.known⟩
  · obtain ⟨old, member, rfl⟩ := List.mem_map.mp listed
    have kept := sane.enqueued old member
    split
    · exact kept
    · exact kept
  · obtain ⟨old, member, rfl⟩ := List.mem_map.mp listed
    split at flying
    case isTrue orphan =>
      have flew : old.status.inFlight = true := by
        rcases orphan with running | queued
        · rw [running]
          rfl
        · rw [queued]
          rfl
      rw [if_pos orphan]
      exact ready old member flew
    case isFalse other =>
      rw [if_neg other]
      exact ready old member flying

end Keeps

/-! ## The role of both threads -/

section Role

variable (chain deployment) in
/-- Whoever runs under this configuration. -/
def role (known : settings evm) : Role (handle chain evm) (Sane chain deployment settings evm) where
  rely := World.Grows
  fit := Fits chain deployment evm
  rely_refl := World.Grows.refl
  rely_trans := fun _ _ _ => World.Grows.trans
  keeps := fun _ _ _ _ _ sane fits handled => (handle_keeps known sane fits handled).1

variable {known : settings evm}

theorem stable_scannedBefore (orderbook : Address) (bound : Nat) :
    (role chain deployment known).Stable fun world =>
      ScannedBefore deployment world orderbook bound :=
  fun _ _ grows scanned => scanned.grows grows

theorem own_grows (op : Op) (before after : World) (sane : Sane chain deployment settings evm before)
    (performs : (role chain deployment known).Performs op before after) : before.Grows after := by
  obtain ⟨fits, choice, answer, handled⟩ := performs
  exact (handle_keeps known sane fits handled).2

/-! ## The programs -/

theorem ensures_retry {α : Type} {program : Flow α} {pre : World → Prop} {post : α → World → Prop}
    (stable : (role chain deployment known).Stable pre)
    (h : (role chain deployment known).Ensures pre program post) (times : Nat) :
    (role chain deployment known).Ensures pre (retry times program) post := by
  induction times with
  | zero => exact h
  | succ times ih =>
      have captured : (role chain deployment known).Ensures pre
          (program.capture : Flow (Except BackfillError α)) _ := h.capture
      have among := (captured.frame stable own_grows).weaken
        (fun world (holds : pre world) => ⟨holds, holds⟩) fun _ _ ends => ends
      refine among.bind fun result => ?_
      cases result with
      | ok a => exact .pure fun world ends => ends.1 a rfl
      | error => exact ih.weaken (fun world ends => ends.2) fun _ _ ends => ends

/-- An answer that passes the check is true. -/
theorem ensures_fetch (filter : Filter) :
    (role chain deployment known).Ensures (fun _ => True)
      (fetchLogsWithTipCheck filter filter.toBlock) fun logs _ => logs = chain.answer filter := by
  have asked : (role chain deployment known).Ensures (fun _ => True) (ask (.getLogs filter))
      fun answer _ => ∀ pair, answer = .ok pair → filter.toBlock ≤ pair.2 →
        pair.1 = chain.answer filter := by
    refine .perform .true fun world _ _ choice answer after handled => ⟨trivial, fun _ => ?_⟩
    intro pair is reached
    simp only [handle] at handled
    split at handled
    case isFalse =>
      cases handled
      cases is
    case isTrue =>
      cases handled
      cases is
      exact if_pos reached
  refine asked.tried fun pair => ⟨fun world truthful => ?_⟩
  obtain ⟨logs, observedTip⟩ := pair
  simp only
  split
  case isTrue => trivial
  case isFalse reached => exact truthful (logs, observedTip) rfl (by omega)

theorem stable_accounting (trades : List EmittedOnChain) :
    (role chain deployment known).Stable fun world => ∀ trade ∈ trades, trade ∈ world.accounting :=
  fun _ _ grows listed trade member => grows.accounting trade (listed trade member)

theorem ensures_pushTrades (pushed trades : List EmittedOnChain) :
    (role chain deployment known).Ensures (fun world => ∀ trade ∈ pushed, trade ∈ world.accounting)
      (pushTrades trades) fun _ world => ∀ trade ∈ pushed ++ trades, trade ∈ world.accounting := by
  induction trades generalizing pushed with
  | nil => exact .pure fun world listed => by simpa using listed
  | cons trade rest ih =>
      have push : (role chain deployment known).Ensures
          (fun world => ∀ trade ∈ pushed, trade ∈ world.accounting) (ask (.pushTrade trade))
          fun answer world => answer = .ok () →
            ∀ other ∈ pushed ++ [trade], other ∈ world.accounting := by
        refine .perform (stable_accounting pushed) fun world listed _ choice answer after handled =>
          ⟨trivial, fun _ fine => ?_⟩
        rcases attempt_cases (Option.some.inj handled) with ⟨-, failed⟩ | rfl
        · exact absurd fine failed
        · intro other member
          rcases List.mem_append.mp member with old | isNew
          · exact List.mem_append_left _ (listed other old)
          · exact List.mem_append_right _ isNew
      refine push.tried fun _ => ?_
      exact (ih (pushed ++ [trade])).weaken (fun _ holds => holds rfl) fun _ world holds => by
        simpa using holds

/-- A batch is scanned once all its trades are enqueued. -/
theorem ensures_enqueueBatchEvents (batchStart batchEnd : Nat) :
    (role chain deployment known).Ensures (fun _ => True)
      (enqueueBatchEvents evm batchStart batchEnd) fun _ world =>
        ∀ block, batchStart ≤ block → block ≤ batchEnd → world.Scanned evm.orderbook block := by
  have fetch : ∀ filter : Filter, filter.toBlock = batchEnd → (role chain deployment known).Ensures
      (fun _ => True) (retry backfillMaxRetries (fetchLogsWithTipCheck filter batchEnd))
        fun logs _ => logs = chain.answer filter := by
    rintro filter rfl
    exact ensures_retry .true (ensures_fetch filter) backfillMaxRetries
  unfold enqueueBatchEvents
  refine (fetch (clearFilter evm batchStart batchEnd) rfl).bind fun clearLogs => .given fun clears => ?_
  refine (fetch (takeFilter evm batchStart batchEnd) rfl).bind fun takeLogs => .given fun takes => ?_
  refine (fetch (inventoryFilter evm batchStart batchEnd) rfl).bind fun invLogs =>
    .given fun settles => ?_
  subst clears takes settles
  refine ((ensures_pushTrades [] _).weaken (fun _ _ => by simp) fun _ _ ends => ends).bind fun _ => ?_
  have note : (role chain deployment known).Ensures
      (fun world => ∀ trade ∈ tradeEvents evm.botOperator
        (chain.answer (clearFilter evm batchStart batchEnd))
        (chain.answer (takeFilter evm batchStart batchEnd))
        (chain.answer (inventoryFilter evm batchStart batchEnd)), trade ∈ world.accounting)
      (ask (.noteScan batchStart batchEnd)) fun _ world =>
        ∀ block, batchStart ≤ block → block ≤ batchEnd → world.Scanned evm.orderbook block := by
    refine .perform (stable_accounting _) fun world pushed _ choice answer after handled => ⟨?_, ?_⟩
    · exact fun block later upTo emitted reports =>
        pushed emitted (reports.mem_tradeEvents later upTo)
    · cases handled
      exact fun _ block later upTo =>
        ⟨⟨evm, batchStart, batchEnd⟩, by simp, rfl, later, upTo⟩
  refine note.bind fun _ => ?_
  exact .pure fun _ scanned => scanned

theorem stable_scanned (batches : List (Nat × Nat)) :
    (role chain deployment known).Stable fun world => ∀ batch ∈ batches, ∀ block,
      batch.1 ≤ block → block ≤ batch.2 → world.Scanned evm.orderbook block :=
  fun _ _ grows scanned batch listed block later upTo =>
    (scanned batch listed block later upTo).grows grows

theorem ensures_enqueueBatches (batches : List (Nat × Nat)) :
    (role chain deployment known).Ensures (fun _ => True) (enqueueBatches evm batches)
      fun _ world => ∀ batch ∈ batches, ∀ block, batch.1 ≤ block → block ≤ batch.2 →
        world.Scanned evm.orderbook block := by
  induction batches with
  | nil => exact .pure fun _ _ => by simp
  | cons batch rest ih =>
      obtain ⟨batchStart, batchEnd⟩ := batch
      refine (ensures_enqueueBatchEvents batchStart batchEnd).bind fun enqueued => ?_
      -- The first batch stays scanned while the others are.
      have others := ih.frame (stable_scanned [(batchStart, batchEnd)]) own_grows
      refine (others.weaken (fun world scanned => ⟨trivial, by simpa using scanned⟩)
        fun _ _ ends => ends).bind fun _ => ?_
      refine .pure fun world ends batch listed => ?_
      rcases List.mem_cons.mp listed with rfl | later
      · exact ends.2 _ (by simp)
      · exact ends.1 batch later

/-- A range is scanned from where an earlier checkpoint ended, so its own end may
become the checkpoint. -/
theorem ensures_backfillRange (range : BackfillRange) :
    (role chain deployment known).Ensures
      (fun world => ScannedBefore deployment world evm.orderbook range.fromBlock)
      (backfillRange evm range) fun _ _ => True := by
  have save : (role chain deployment known).Ensures
      (fun world => ScannedBefore deployment world evm.orderbook (range.toBlock + 1))
      (ask (.saveBackfillCheckpoint range.toBlock)) fun _ _ => True :=
    .perform (stable_scannedBefore _ _) fun world scanned _ _ _ _ _ => ⟨scanned, fun _ => trivial⟩
  have lifted : ∀ answer : Except BackfillError Unit, (role chain deployment known).Ensures
      (fun _ => True) (Prog.liftExcept answer : Flow Unit) fun _ _ => True :=
    fun answer => .lift fun _ _ _ _ => trivial
  unfold backfillRange
  split
  case isTrue caughtUp =>
    refine (save.weaken (fun world scanned block later upTo => ?_) fun _ _ ends => ends).bind lifted
    exact scanned block later (by omega)
  case isFalse =>
    split
    case h_1 => exact .throw
    case h_2 batches batched =>
      have scans := (@ensures_enqueueBatches chain deployment settings evm known batches).frame
        (stable_scannedBefore evm.orderbook range.fromBlock) own_grows
      refine (scans.weaken (fun world before => ⟨trivial, before⟩) fun _ _ ends => ends).bind
        fun _ => ?_
      refine (save.weaken (fun world ends block later upTo => ?_) fun _ _ ends => ends).bind lifted
      by_cases early : block < range.fromBlock
      · exact ends.2 block later early
      · obtain ⟨batch, listed, after, within⟩ := generateBatchRanges_covers batched
          (by omega : range.fromBlock ≤ block) (by omega)
        exact ends.1 batch listed block after within

theorem ensures_work (job : Nat) :
    (role chain deployment known).Ensures (fun _ => True) (work evm job) fun _ _ => True := by
  have accept : (role chain deployment known).Ensures (fun _ => True) (ask (.accept job))
      fun range world => ScannedBefore deployment world evm.orderbook range.fromBlock := by
    refine .perform .true fun world _ sane choice answer after handled => ⟨trivial, fun _ => ?_⟩
    simp only [handle] at handled
    split at handled
    case h_2 => cases handled
    case h_1 row found =>
      split at handled
      case isFalse => cases handled
      case isTrue free =>
        cases handled
        have listed := List.mem_of_getElem? found
        have flying : row.status.inFlight = true := by
          rcases free with pending | queued
          · rw [pending]
            rfl
          · rw [queued]
            rfl
        rw [← sane.own row listed flying]
        exact (sane.enqueued row listed).grows ⟨fun _ => id, fun _ => id⟩
  refine accept.bind fun range => ?_
  have runs := ensures_retry (stable_scannedBefore _ _)
    (@ensures_backfillRange chain deployment settings evm known range) jobRetries
  have captured : (role chain deployment known).Ensures _
      ((retry jobRetries (backfillRange evm range)).capture : Flow (Except BackfillError Unit))
      _ := runs.capture
  refine captured.bind fun result => ?_
  have finish : ∀ status : JobStatus, status.inFlight = false →
      (role chain deployment known).Ensures (fun _ => True) (ask (.finish job status))
        fun _ _ => True :=
    fun status ended => .perform .true fun _ _ _ _ _ _ _ => ⟨ended, fun _ => trivial⟩
  cases result with
  | ok => exact (finish .done rfl).weaken (fun _ _ => trivial) fun _ _ ends => ends
  | error => exact (finish .failed rfl).weaken (fun _ _ => trivial) fun _ _ ends => ends

/-- A range is enqueued right after what the checkpoint stands for. -/
theorem ensures_pollOnce (agrees : evm.deploymentBlock = deployment evm.orderbook) :
    (role chain deployment known).Ensures (fun _ => True) (pollOnce evm) fun _ _ => True := by
  have load : (role chain deployment known).Ensures (fun _ => True) (ask .loadBackfillCheckpoint)
      fun answer world => ∀ checkpoint, answer = .ok checkpoint → ∀ last, checkpoint = some last →
        ScannedBefore deployment world evm.orderbook (last + 1) := by
    refine .perform .true fun world _ sane choice answer after handled => ⟨trivial, fun _ => ?_⟩
    intro checkpoint is last stored
    cases handled
    split at is <;> cases is
    exact sane.covered evm.orderbook last stored
  have plain : ∀ op : Op, (∀ world, Fits chain deployment evm op world) →
      (role chain deployment known).Ensures (fun _ => True) (ask op) fun _ _ => True :=
    fun op free => .perform .true fun world _ _ _ _ _ _ => ⟨free world, fun _ => trivial⟩
  unfold pollOnce
  refine (plain .getBlockNumber fun _ => trivial).tried fun _ => ?_
  refine (plain .latestCutoffBlock fun _ => trivial).tried fun cutoff => ?_
  refine (plain .loadBackfillCheckpoint fun _ => trivial).tried fun _ => ?_
  refine (plain .hasInFlight fun _ => trivial).tried fun flying => ?_
  cases flying with
  | true => exact .pure fun _ _ => trivial
  | false =>
      refine load.tried fun checkpoint => ?_
      cases cutoff with
      | none => exact .pure fun _ _ => trivial
      | some cutoffBlock =>
          simp only
          split
          case h_1 => exact .throw
          case h_2 fromBlock resumes =>
            split
            case isFalse => exact .pure fun _ _ => trivial
            case isTrue =>
              have push : (role chain deployment known).Ensures
                  (fun world => ScannedBefore deployment world evm.orderbook fromBlock)
                  (ask (.pushRange ⟨fromBlock, cutoffBlock⟩)) fun _ _ => True :=
                .perform (stable_scannedBefore _ _) fun _ scanned _ _ _ _ _ =>
                  ⟨scanned, fun _ => trivial⟩
              refine (push.weaken (fun world stored => ?_) fun _ _ ends => ends).tried fun _ =>
                .pure fun _ _ => trivial
              intro block later before
              rw [← agrees] at later
              obtain ⟨last, is, upTo⟩ := (backfillStart_spec resumes).2 block later before
              exact stored checkpoint rfl last is block (agrees ▸ later) (by omega)

theorem system_compatible (known : settings evm)
    (agrees : evm.deploymentBlock = deployment evm.orderbook) :
    (system chain evm).Compatible (Sane chain deployment settings evm) (fun _ _ _ => True)
      (fun _ => (role chain deployment known).rely) (fun _ => (role chain deployment known).Performs)
      (fun _ => returning fun _ _ => True) := by
  refine (system chain evm).compatible_of_roles (fun _ => role chain deployment known) ?_ ?_ ?_ ?_
  · intro first second
    cases first <;> cases second <;> rfl
  · intro label
    cases label with
    | poll =>
        have polled : (role chain deployment known).Ensures _ (pollOnce evm) _ :=
          ensures_pollOnce agrees
        refine (polled.weaken (fun _ _ => trivial) fun _ _ ends => ends).bind fun _ => ?_
        exact .pure fun _ _ => trivial
    | job job => exact (ensures_work job).weaken (fun _ _ => trivial) fun _ _ ends => ends
  · intro _ _ op before after _ sane performs
    exact own_grows op before after sane performs
  · intro change before after sane changed
    obtain ⟨kept, grows⟩ := environment_keeps sane changed
    exact ⟨kept, fun _ => grows⟩

end Role

end Liquidity.Backfill
