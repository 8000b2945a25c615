import Liquidity.EquityRedemption.Aggregate
import Liquidity.Performance.EquityPaths
import Liquidity.TokenizedEquityMint.Lifecycle

/-!
# The streams of equity transfers in time

Every event that a command adds is stamped with the time of the command. A mint starts
with two events of one time, and each event after that comes later than those before.
What is known of the states of a mint or a redemption makes its stream a course.
-/

namespace Liquidity

open EventSourcing Performance.Equity

/-! ## Mints -/

namespace TokenizedEquityMint

variable {context : Context} {entity : TokenizedEquityMint}
  {events : List TokenizedEquityMintEvent} {event : TokenizedEquityMintEvent}

/-- A command of the bot or the operator. A recovery is only sent as the recheck of a
mint that failed has it. -/
def Written (now : Time) (stream batch : List TokenizedEquityMintEvent) : Prop :=
  ∃ (context : Context) (command : TokenizedEquityMintCommand), context.now = now ∧
    aggregate.send context command stream = .ok batch ∧
    ∀ issuerRequestId wallet tokenizationRequestId txHash,
      command = .recoverProviderCompletion issuerRequestId wallet tokenizationRequestId txHash →
      ∃ getRequest, recoverMint issuerRequestId stream getRequest = some command

/-- What a recheck found: the mint was accepted and has received nothing. -/
def Awaits (stream : List TokenizedEquityMintEvent) : Prop :=
  receivedTokens stream = false ∧ ∃ event ∈ stream, begins (.mint event) = some .mintReceipt

/-- A stream of a mint that time rose along, with what it leads to. -/
inductive Path : Time → List TokenizedEquityMintEvent → TokenizedEquityMint → Prop where
  | begun {convert : ℚ → Except String Nat} {request : Requested}
      {event : TokenizedEquityMintEvent} {next : TokenizedEquityMint}
      (moves : Moves convert (.mintRequested request) event next)
      (stamped : mintObservedAt event = request.requestedAt) :
      Path (mintObservedAt event) [.mintRequested request.symbol request.quantity request.wallet
        request.requestedAt, event] next
  | next {convert : ℚ → Except String Nat} {time : Time}
      {stream : List TokenizedEquityMintEvent} {entity next : TokenizedEquityMint}
      {event : TokenizedEquityMintEvent} (path : Path time stream entity)
      (later : time < mintObservedAt event) (moves : Moves convert entity event next)
      (guarded : recoversMint (.mint event) → Awaits stream) :
      Path (mintObservedAt event) (stream ++ [event]) next

variable {time : Time} {stream : List TokenizedEquityMintEvent} {next : TokenizedEquityMint}
variable {convert : ℚ → Except String Nat}

theorem Path.lifecycle (path : Path time stream entity) :
    aggregate.lifecycle stream = .live entity := by
  induction path with
  | begun moves =>
      show aggregate.apply (.live _) _ = _
      simp only [Aggregate.apply, moves.evolves]
  | next path later moves guarded ih =>
      rw [Aggregate.lifecycle_concat, ih]
      simp only [Aggregate.apply, moves.evolves]

/-- The stages that a failure may be put down to. -/
def readyStages : TokenizedEquityMint → List StoredStageName
  | .mintRequested _ | .mintAccepted _ => [.mintAcceptance]
  | .tokensReceived _ | .wrapSubmitted .. => [.mintWrap]
  | .tokensWrapped .. | .vaultDepositSubmitted .. => [.mintDeposit]
  | _ => []

theorem Moves.failedStage_ready (moves : Moves convert entity event next) {stage : StoredStageName}
    (derived : failedStage (.mint event) = some stage) : stage ∈ entity.readyStages := by
  cases moves with
  | rejected =>
      cases derived
      exact List.mem_cons_self
  | acceptanceFailed fails =>
      cases derived
      cases entity <;> cases fails <;> exact List.mem_cons_self
  | wrappingFailed fails =>
      cases derived
      cases entity <;> cases fails <;> exact List.mem_cons_self
  | depositFailed fails =>
      cases derived
      cases entity <;> cases fails <;> exact List.mem_cons_self
  | _ => cases derived

theorem Moves.readyStages_of (moves : Moves convert entity event next) {stage : StoredStageName}
    (enters : stage ∈ next.readyStages) :
    begins (.mint event) = some stage ∨ stage ∈ entity.readyStages := by
  cases moves with
  | accepted => exact .inr enters
  | wrapSubmitted | depositSubmitted => exact .inr enters
  | received | recovered => exact .inl (by rw [List.mem_singleton.mp enters]; rfl)
  | wrapped wraps =>
      refine .inl ?_
      cases entity <;> cases wraps <;> rw [List.mem_singleton.mp enters] <;> rfl
  | acceptanceFailed fails => cases entity <;> cases fails <;> cases enters
  | wrappingFailed fails => cases entity <;> cases fails <;> cases enters
  | deposited deposits => cases entity <;> cases deposits <;> cases enters
  | depositFailed fails => cases entity <;> cases fails <;> cases enters
  | _ => cases enters

/-- A mint fails by a failure. -/
theorem Moves.fails_of_isFailed (moves : Moves convert entity event next)
    (failed : next.isFailed) : fails (.mint event) := by
  cases moves with
  | wrapped wraps => cases entity <;> cases wraps <;> cases failed
  | deposited deposits => cases entity <;> cases deposits <;> cases failed
  | _ => first | rfl | cases failed

theorem Path.fails_of_isFailed (path : Path time stream entity) (failed : entity.isFailed) :
    ∃ before last, stream = before ++ [last] ∧ fails (.mint last) := by
  cases path with
  | @begun _ request event _ moves =>
      exact ⟨[.mintRequested request.symbol request.quantity request.wallet request.requestedAt],
        event, rfl, moves.fails_of_isFailed failed⟩
  | next path later moves => exact ⟨_, _, rfl, moves.fails_of_isFailed failed⟩

theorem Path.bounded (path : Path time stream entity) : ∀ event ∈ stream,
    mintObservedAt event ≤ time := by
  induction path with
  | begun moves stamped =>
      intro event member
      rcases List.mem_pair.mp member with rfl | rfl
      · exact stamped.ge
      · exact le_refl _
  | next path later moves guarded ih =>
      intro event member
      rcases List.mem_append.mp member with earlier | last
      · exact (ih event earlier).trans later.le
      · rw [List.mem_singleton.mp last]

theorem Path.course (path : Path time stream entity) :
    Course time (stream.map .mint) entity.readyStages := by
  induction path with
  | @begun convert request event next moves stamped =>
      have start : Course (EquityEvent.observedAt (.mint (.mintRequested request.symbol
          request.quantity request.wallet request.requestedAt)))
          ([] ++ [.mint (.mintRequested request.symbol request.quantity request.wallet
            request.requestedAt)]) (mintRequested request).readyStages := by
        refine .append (.empty _) (le_refl _) (by simp) (fun stage derived => ?_)
          (fun stage enters => ?_) fun recovers => ?_
        · cases derived
        · rw [List.mem_singleton.mp enters]
          exact .inl rfl
        · cases recovers
      have rises : request.requestedAt ≤ EquityEvent.observedAt (.mint event) := stamped.ge
      refine start.append rises ?_ (fun _ => moves.failedStage_ready)
        (fun _ => moves.readyStages_of) ?_
      · intro earlier member sweeping
        rw [List.nil_append, List.mem_singleton] at member
        subst member
        cases sweeping
      · intro recovers
        cases event <;> cases recovers
        cases moves
  | @next convert time stream entity next event path later moves guarded ih =>
      have rises : time ≤ EquityEvent.observedAt (.mint event) := later.le
      rw [List.map_append]
      refine ih.append rises ?_ (fun _ => moves.failedStage_ready)
        (fun _ => moves.readyStages_of) ?_
      · intro earlier member _
        obtain ⟨old, inside, rfl⟩ := List.mem_map.mp member
        exact (path.bounded old inside).trans_lt later
      · intro recovers
        obtain ⟨_, accepted, member, beginning⟩ := guarded recovers
        have failed : entity.isFailed := by
          cases event <;> cases recovers
          cases moves
          rfl
        obtain ⟨before, last, split, fails⟩ := path.fails_of_isFailed failed
        exact ⟨⟨_, List.mem_map_of_mem member, beginning⟩, before.map .mint, .mint last,
          by simp [split], fails⟩

end TokenizedEquityMint

/-! ## Redemptions -/

namespace EquityRedemption

variable {context : Context} {entity : EquityRedemption} {events : List EquityRedemptionEvent}

/-- What a command answers at a time: an event of that time that the state can take. A
transfer that fails is recorded without a transaction. -/
structure Adds (now : Time) (entity : EquityRedemption) (event : EquityRedemptionEvent)
    (next : EquityRedemption) : Prop where
  evolves : entity.next event = some next
  stamped : redemptionObservedAt event = now
  bare : ∀ txHash reason failedAt, event = .transferFailed txHash reason failedAt → txHash = none

/-- The answer is one event. -/
def Answers (now : Time) (entity : EquityRedemption) (events : List EquityRedemptionEvent) : Prop :=
  ∃ event next, events = [event] ∧ Adds now entity event next

theorem Answers.one {now : Time} {event : EquityRedemptionEvent} {next : EquityRedemption}
    (evolves : entity.next event = some next) (stamped : redemptionObservedAt event = now)
    (other : isTransferFailed (.redemption event) = false) : Answers now entity [event] := by
  refine ⟨event, next, rfl, evolves, stamped, ?_⟩
  rintro txHash reason failedAt rfl
  cases other

theorem Answers.transferFailed {now : Time} {reason : Option String} {next : EquityRedemption}
    (evolves : entity.next (.transferFailed none reason now) = some next) :
    Answers now entity [.transferFailed none reason now] := by
  refine ⟨_, next, rfl, evolves, rfl, ?_⟩
  intro txHash reason' failedAt same
  cases same
  rfl

def Written (now : Time) (stream batch : List EquityRedemptionEvent) : Prop :=
  ∃ (context : Context) (command : EquityRedemptionCommand), context.now = now ∧
    aggregate.send context command stream = .ok batch

/-- A stream of a redemption that time rose along, with what it leads to. -/
inductive Path : Time → List EquityRedemptionEvent → EquityRedemption → Prop where
  | begun (request : Withdrawing) (pendingAt : Time) :
      Path pendingAt [.vaultWithdrawPending request.symbol request.quantity request.token
        request.wrappedAmount pendingAt] (.vaultWithdrawPending request pendingAt)
  | next {time now : Time} {stream : List EquityRedemptionEvent} {entity next : EquityRedemption}
      {event : EquityRedemptionEvent} (path : Path time stream entity) (later : time < now)
      (adds : Adds now entity event next) : Path now (stream ++ [event]) next

variable {time now : Time} {stream : List EquityRedemptionEvent} {event : EquityRedemptionEvent}
variable {next : EquityRedemption}

theorem Path.lifecycle (path : Path time stream entity) :
    aggregate.lifecycle stream = .live entity := by
  induction path with
  | begun => rfl
  | next path later adds ih =>
      have evolves : aggregate.evolve _ _ = .ok (some _) := congrArg Except.ok adds.evolves
      rw [Aggregate.lifecycle_concat, ih]
      simp only [Aggregate.apply, evolves]

/-- The stages that a failure may be put down to. -/
def readyStages : EquityRedemption → List StoredStageName
  | .tokensSent .. => [.redemptionDetection]
  | .pending .. => [.redemptionCompletion]
  | _ => []

theorem Adds.failedStage_ready (adds : Adds now entity event next) {stage : StoredStageName}
    (derived : failedStage (.redemption event) = some stage) : stage ∈ entity.readyStages := by
  have evolves := adds.evolves
  cases event <;> cases derived <;> cases entity <;> cases evolves <;> exact List.mem_cons_self

/-- Only a failure that knows the transaction is completed by the provider after all. -/
theorem completed_of_recovered {tokenizationRequestId : TokenizationRequestId} {recoveredAt : Time}
    (evolves : entity.next (.providerCompletionRecovered tokenizationRequestId recoveredAt) =
      some next) :
    (∃ symbol quantity raindexWithdrawTx redemptionTx requestId reason startedAt failedAt,
      entity = .failed symbol quantity raindexWithdrawTx (some redemptionTx) requestId reason
        startedAt failedAt) ∧
      ∃ symbol quantity redemptionTx startedAt,
        next = .completed symbol quantity redemptionTx tokenizationRequestId startedAt
          recoveredAt := by
  cases entity <;> try cases evolves
  case failed redemptionTx _ _ _ _ =>
      cases redemptionTx <;> cases evolves
      exact ⟨⟨_, _, _, _, _, _, _, _, rfl⟩, _, _, _, _, rfl⟩

theorem Adds.readyStages_of (adds : Adds now entity event next) {stage : StoredStageName}
    (enters : stage ∈ next.readyStages) :
    begins (.redemption event) = some stage ∨ stage ∈ entity.readyStages := by
  have evolves := adds.evolves
  cases event
  case providerCompletionRecovered =>
      obtain ⟨-, _, _, _, _, rfl⟩ := completed_of_recovered evolves
      cases enters
  all_goals cases entity <;> cases evolves <;>
    first
    | exact .inl (congrArg some (List.mem_singleton.mp enters).symm)
    | cases enters

theorem Path.bounded (path : Path time stream entity) : ∀ event ∈ stream,
    redemptionObservedAt event ≤ time := by
  induction path with
  | begun request pendingAt =>
      intro event member
      rw [List.mem_singleton.mp member]
      exact le_refl pendingAt
  | next path later adds ih =>
      intro event member
      rcases List.mem_append.mp member with earlier | last
      · exact (ih event earlier).trans later.le
      · rw [List.mem_singleton.mp last, adds.stamped]

theorem Path.course (path : Path time stream entity) :
    Course time (stream.map .redemption) entity.readyStages := by
  induction path with
  | begun request pendingAt =>
      have rises : pendingAt ≤ EquityEvent.observedAt (.redemption (.vaultWithdrawPending
          request.symbol request.quantity request.token request.wrappedAmount pendingAt)) :=
        le_refl pendingAt
      refine .append (.empty pendingAt) rises (by simp) (fun stage derived => ?_)
        (fun stage enters => ?_) fun recovers => ?_
      · cases derived
      · cases enters
      · cases recovers
  | @next time now stream entity next event path later adds ih =>
      have rises : time ≤ EquityEvent.observedAt (.redemption event) :=
        later.le.trans_eq adds.stamped.symm
      have course := ih.append rises ?_ (fun _ => adds.failedStage_ready)
        (fun _ => adds.readyStages_of) ?_
      · rw [List.map_append, ← adds.stamped]
        exact course
      · intro earlier member _
        obtain ⟨old, inside, rfl⟩ := List.mem_map.mp member
        exact ((path.bounded old inside).trans_lt later).trans_eq adds.stamped.symm
      · intro recovers
        cases recovers

end EquityRedemption

end Liquidity
