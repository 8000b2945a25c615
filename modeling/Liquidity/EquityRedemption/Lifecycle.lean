import Liquidity.EquityRedemption.Moves
import Liquidity.Rebalancing.EquityReactor

/-!
# The life of a redemption

Whatever commands are sent to a redemption and whatever the chain and the issuer
answer, it never gets stuck on its own events, keeps its symbol and what it
unwrapped, and ends once. What a failed redemption says about its transactions is
what happened, except that one the issuer rejected has lost the withdrawal.
-/

namespace Liquidity

open EventSourcing

/-! ## What the store is asked -/

def EquityRedemptionEvent.eventType : EquityRedemptionEvent → String
  | .vaultWithdrawPending .. => "EquityRedemptionEvent::VaultWithdrawPending"
  | .vaultWithdrawSubmitted .. => "EquityRedemptionEvent::VaultWithdrawSubmitted"
  | .withdrawnFromRaindex .. => "EquityRedemptionEvent::WithdrawnFromRaindex"
  | .unwrapPending .. => "EquityRedemptionEvent::UnwrapPending"
  | .unwrapSubmitted .. => "EquityRedemptionEvent::UnwrapSubmitted"
  | .sendPending .. => "EquityRedemptionEvent::SendPending"
  | .tokensUnwrapped .. => "EquityRedemptionEvent::TokensUnwrapped"
  | .transferFailed .. => "EquityRedemptionEvent::TransferFailed"
  | .tokensSent .. => "EquityRedemptionEvent::TokensSent"
  | .detectionFailed .. => "EquityRedemptionEvent::DetectionFailed"
  | .detected .. => "EquityRedemptionEvent::Detected"
  | .redemptionRejected .. => "EquityRedemptionEvent::RedemptionRejected"
  | .completed .. => "EquityRedemptionEvent::Completed"
  | .providerCompletionRecovered .. => "EquityRedemptionEvent::ProviderCompletionRecovered"
  | .operatorReconciled .. => "EquityRedemptionEvent::OperatorReconciled"

namespace EquityRedemption

/-- The list in the query for symbols whose tokens may have left the vault. -/
def activeTransferTypes : List String :=
  ["EquityRedemptionEvent::VaultWithdrawPending",
    "EquityRedemptionEvent::VaultWithdrawSubmitted",
    "EquityRedemptionEvent::WithdrawnFromRaindex",
    "EquityRedemptionEvent::UnwrapPending",
    "EquityRedemptionEvent::UnwrapSubmitted",
    "EquityRedemptionEvent::TokensUnwrapped",
    "EquityRedemptionEvent::SendPending",
    "EquityRedemptionEvent::TokensSent",
    "EquityRedemptionEvent::Detected"]

/-- The list in the query for redemptions to be resumed. -/
def interruptedTypes : List String :=
  ["EquityRedemptionEvent::VaultWithdrawPending",
    "EquityRedemptionEvent::VaultWithdrawSubmitted",
    "EquityRedemptionEvent::WithdrawnFromRaindex",
    "EquityRedemptionEvent::UnwrapPending",
    "EquityRedemptionEvent::UnwrapSubmitted",
    "EquityRedemptionEvent::TokensUnwrapped",
    "EquityRedemptionEvent::SendPending",
    "EquityRedemptionEvent::TokensSent",
    "EquityRedemptionEvent::Detected"]

/-- The symbol in the first event, which is in one of three places. -/
def payloadSymbol : EquityRedemptionEvent → Option Symbol
  | .vaultWithdrawPending symbol .. => some symbol
  | .vaultWithdrawSubmitted symbol .. => some symbol
  | .withdrawnFromRaindex symbol .. => some symbol
  | _ => none

/-- What one redemption contributes to the symbols with active transfers. -/
def symbolWithActiveTransfer (stream : List EquityRedemptionEvent) : Option Symbol :=
  match stream.head?, stream.getLast? with
  | some first, some last =>
      if activeTransferTypes.contains last.eventType then payloadSymbol first else none
  | _, _ => none

/-- Whether a redemption is among the interrupted ones. -/
def isInterrupted (stream : List EquityRedemptionEvent) : Bool :=
  stream.getLast?.any fun last => interruptedTypes.contains last.eventType

/-- How a transfer is failed that timed out at a stage. -/
def expiryCommand (reason : String) : RedemptionTrackingStage → EquityRedemptionCommand
  | .vaultWithdrawPending | .vaultWithdrawSubmitted | .withdrawnFromRaindex | .unwrapPending
  | .unwrapSubmitted | .tokensUnwrapped | .sendPending => .failTransfer reason
  | .tokensSent => .failDetection .timeout
  | .detected => .rejectRedemption reason

/-- The stage an event is tracked as. -/
def stageOf : EquityRedemptionEvent → Option RedemptionTrackingStage
  | .vaultWithdrawPending .. => some .vaultWithdrawPending
  | .vaultWithdrawSubmitted .. => some .vaultWithdrawSubmitted
  | .withdrawnFromRaindex .. => some .withdrawnFromRaindex
  | .unwrapPending .. => some .unwrapPending
  | .unwrapSubmitted .. => some .unwrapSubmitted
  | .tokensUnwrapped .. => some .tokensUnwrapped
  | .sendPending .. => some .sendPending
  | .tokensSent .. => some .tokensSent
  | .detected .. => some .detected
  | _ => none

/-- The tracking of the reactor agrees. -/
theorem stage_fromGenesisEvent {event : EquityRedemptionEvent} {tracking : RedemptionTracking}
    (tracked : RedemptionTracking.fromGenesisEvent event = some tracking) :
    stageOf event = some tracking.stage := by
  cases event <;> cases tracked <;> rfl

theorem stage_trackProgress [FloatFormat] {event : EquityRedemptionEvent}
    {tracking after : RedemptionTracking} {stage : RedemptionTrackingStage}
    (later : ∀ symbol quantity token wrappedAmount pendingAt,
      event ≠ .vaultWithdrawPending symbol quantity token wrappedAmount pendingAt)
    (tracked : tracking.trackProgress event = .ok after) (known : stageOf event = some stage) :
    after.stage = stage := by
  cases event with
  | vaultWithdrawPending => exact absurd rfl (later _ _ _ _ _)
  | tokensUnwrapped =>
      obtain ⟨actual, -, tracked⟩ := bind_eq_ok.mp tracked
      cases tracked
      cases known
      rfl
  | _ => cases known <;> cases tracked <;> rfl

/-! ## What is on record -/

def isWithdrawal : EquityRedemptionEvent → Bool
  | .withdrawnFromRaindex .. => true
  | _ => false

def isSent : EquityRedemptionEvent → Bool
  | .tokensSent .. => true
  | _ => false

def isDetection : EquityRedemptionEvent → Bool
  | .detected .. => true
  | _ => false

def isRejection : EquityRedemptionEvent → Bool
  | .redemptionRejected .. => true
  | _ => false

def amountUnwrapped : EquityRedemptionEvent → Option Nat
  | .tokensUnwrapped _ _ _ unwrappedAmount _ _ => some unwrappedAmount
  | _ => none

/-- Completed, or reconciled by an operator. -/
def isSettled : EquityRedemption → Bool
  | .completed .. => true
  | .reconciled .. => true
  | _ => false

def isFailed : EquityRedemption → Bool
  | .failed .. => true
  | _ => false

def isPending : EquityRedemption → Bool
  | .pending .. => true
  | _ => false

/-- Which of the milestones a stream has passed. -/
structure Milestones where
  withdrawn : Bool
  sent : Bool
  detected : Bool
  rejected : Bool
  deriving DecidableEq

def milestones (stream : List EquityRedemptionEvent) : Milestones :=
  ⟨stream.any isWithdrawal, stream.any isSent, stream.any isDetection, stream.any isRejection⟩

/-- What a redemption that failed knows of its milestones. -/
structure KnowsMilestones (passed : Milestones) (raindexWithdrawTx redemptionTx : Option TxHash)
    (tokenizationRequestId : Option TokenizationRequestId) : Prop where
  withdrawn : raindexWithdrawTx.isSome = (passed.withdrawn && !passed.rejected)
  sent : redemptionTx.isSome = passed.sent
  detected : tokenizationRequestId.isSome = passed.detected
  afterWithdrawal : passed.rejected → passed.withdrawn

/-- The milestones behind each state. -/
def Passed (passed : Milestones) : EquityRedemption → Prop
  | .vaultWithdrawPending .. | .vaultWithdrawSubmitted .. => passed = ⟨false, false, false, false⟩
  | .withdrawnFromRaindex _ | .unwrapPending _ | .unwrapSubmitted .. | .tokensUnwrapped _
  | .sendPending _ => passed = ⟨true, false, false, false⟩
  | .tokensSent .. => passed = ⟨true, true, false, false⟩
  | .pending .. => passed = ⟨true, true, true, false⟩
  | .completed .. => True
  | .failed _ _ raindexWithdrawTx redemptionTx tokenizationRequestId .. =>
      KnowsMilestones passed raindexWithdrawTx redemptionTx tokenizationRequestId
  | .reconciled _ _ raindexWithdrawTx redemptionTx tokenizationRequestId .. =>
      KnowsMilestones passed raindexWithdrawTx redemptionTx tokenizationRequestId

theorem milestones_concat (stream : List EquityRedemptionEvent) (event : EquityRedemptionEvent) :
    milestones (stream ++ [event]) =
      ⟨(milestones stream).withdrawn || isWithdrawal event,
        (milestones stream).sent || isSent event,
        (milestones stream).detected || isDetection event,
        (milestones stream).rejected || isRejection event⟩ := by
  simp [milestones]

/-- A step passes the milestone it records. -/
theorem Moves.passed {stream : List EquityRedemptionEvent} {entity next : EquityRedemption}
    {event : EquityRedemptionEvent} (moves : Moves entity event next)
    (before : Passed (milestones stream) entity) :
    Passed (milestones (stream ++ [event])) next := by
  rw [milestones_concat]
  cases moves with
  | transferFailed early fails =>
      cases entity <;> cases early <;> cases fails <;> rw [Passed] at before <;> rw [before] <;>
        exact ⟨rfl, rfl, rfl, by simp [isRejection]⟩
  | detectionFailed =>
      rw [Passed] at before
      rw [before]
      exact ⟨rfl, rfl, rfl, by simp [isRejection]⟩
  | rejected =>
      rw [Passed] at before
      rw [before]
      exact ⟨rfl, rfl, rfl, fun _ => rfl⟩
  | recovered => trivial
  | completed => trivial
  | reconciled =>
      obtain ⟨withdrawn, sent, detected, afterWithdrawal⟩ := before
      constructor
      · simpa [isWithdrawal, isRejection] using withdrawn
      · simpa [isSent] using sent
      · simpa [isDetection] using detected
      · simpa [isWithdrawal, isRejection] using afterWithdrawal
  | _ =>
      rw [Passed] at before
      rw [before]
      rfl

theorem Moves.symbol_eq {entity next : EquityRedemption} {event : EquityRedemptionEvent}
    (moves : Moves entity event next) : next.symbol = entity.symbol := by
  cases moves with
  | transferFailed early fails => cases entity <;> cases early <;> cases fails <;> rfl
  | _ => rfl

/-! ## What is unwrapped -/

/-- Nothing is unwrapped yet. -/
def isWrapped : EquityRedemption → Bool
  | .vaultWithdrawPending .. | .vaultWithdrawSubmitted .. | .withdrawnFromRaindex _
  | .unwrapPending _ | .unwrapSubmitted .. => true
  | _ => false

/-- The quantity is what was unwrapped, once anything is. -/
structure Measured (stream : List EquityRedemptionEvent) (entity : EquityRedemption) : Prop where
  wrapped : entity.isWrapped → ∀ event ∈ stream, amountUnwrapped event = none
  quantity : ∀ event ∈ stream, ∀ amount, amountUnwrapped event = some amount →
    entity.quantity = amount / 10 ^ 18

/-- Other events leave the quantity as it is. -/
theorem Moves.quantity_eq {entity next : EquityRedemption} {event : EquityRedemptionEvent}
    (moves : Moves entity event next) (other : amountUnwrapped event = none) :
    next.quantity = entity.quantity := by
  cases moves with
  | transferFailed early fails => cases entity <;> cases early <;> cases fails <;> rfl
  | unwrapped => cases other
  | _ => rfl

theorem Moves.wrapped_of {entity next : EquityRedemption} {event : EquityRedemptionEvent}
    (moves : Moves entity event next) (wrapped : next.isWrapped) :
    entity.isWrapped ∧ amountUnwrapped event = none := by
  cases moves with
  | transferFailed early fails => cases entity <;> cases early <;> cases fails <;> cases wrapped
  | withdrawSubmitted => exact ⟨rfl, rfl⟩
  | withdrawn => exact ⟨rfl, rfl⟩
  | unwrapPending => exact ⟨rfl, rfl⟩
  | unwrapSubmitted => exact ⟨rfl, rfl⟩
  | _ => cases wrapped

/-- What was unwrapped is from a state in which nothing was. -/
theorem Moves.of_unwrapped {entity next : EquityRedemption} {event : EquityRedemptionEvent}
    (moves : Moves entity event next) {amount : Nat}
    (unwraps : amountUnwrapped event = some amount) :
    entity.isWrapped ∧ next.quantity = amount / 10 ^ 18 := by
  cases moves with
  | unwrapped =>
      cases unwraps
      exact ⟨rfl, rfl⟩
  | _ => cases unwraps

theorem Moves.measured {stream : List EquityRedemptionEvent} {entity next : EquityRedemption}
    {event : EquityRedemptionEvent} (moves : Moves entity event next)
    (before : Measured stream entity) : Measured (stream ++ [event]) next := by
  constructor
  · intro wrapped other among
    obtain ⟨still, nothing⟩ := moves.wrapped_of wrapped
    rcases List.mem_append.mp among with earlier | last
    · exact before.wrapped still other earlier
    · rw [List.mem_singleton.mp last]
      exact nothing
  · intro other among amount unwraps
    rcases List.mem_append.mp among with earlier | last
    · cases now : amountUnwrapped event with
      | none => rw [moves.quantity_eq now, before.quantity other earlier amount unwraps]
      | some later =>
          -- there was nothing to unwrap before
          have nothing := before.wrapped (moves.of_unwrapped now).1 other earlier
          rw [nothing] at unwraps
          cases unwraps
    · rw [List.mem_singleton.mp last] at unwraps
      exact (moves.of_unwrapped unwraps).2

/-! ## The last event -/

/-- Both lists name the events that have a stage. -/
theorem contains_interruptedTypes (event : EquityRedemptionEvent) :
    interruptedTypes.contains event.eventType = (stageOf event).isSome := by
  cases event <;> rfl

theorem contains_activeTransferTypes (event : EquityRedemptionEvent) :
    activeTransferTypes.contains event.eventType = (stageOf event).isSome := by
  cases event <;> rfl

/-- A redemption has a stage while it is under way, and can be failed there. -/
structure Ends (event : EquityRedemptionEvent) (entity : EquityRedemption) : Prop where
  staged : (stageOf event).isSome = !entity.isTerminal
  expires : ∀ stage, stageOf event = some stage → ∀ context reason, ∃ events,
    entity.transition context (expiryCommand reason stage) = .ok events

theorem Moves.ends {entity next : EquityRedemption} {event : EquityRedemptionEvent}
    (moves : Moves entity event next) : Ends event next := by
  cases moves with
  | transferFailed early fails =>
      refine ⟨?_, by nofun⟩
      cases entity <;> cases early <;> cases fails <;> rfl
  | detectionFailed => exact ⟨rfl, by nofun⟩
  | completed => exact ⟨rfl, by nofun⟩
  | rejected => exact ⟨rfl, by nofun⟩
  | recovered => exact ⟨rfl, by nofun⟩
  | reconciled => exact ⟨rfl, by nofun⟩
  | _ =>
      refine ⟨rfl, ?_⟩
      intro stage same context reason
      cases same
      exact ⟨_, rfl⟩

theorem ends_of_originate {event : EquityRedemptionEvent} {entity : EquityRedemption}
    (originates : originate event = some entity) : Ends event entity := by
  cases event with
  | vaultWithdrawPending | vaultWithdrawSubmitted | withdrawnFromRaindex =>
      cases originates
      refine ⟨rfl, ?_⟩
      intro stage same context reason
      cases same
      exact ⟨_, rfl⟩
  | _ => cases originates

/-! ## Runs -/

/-- A stream that commands wrote, and what it stands for. -/
abbrev Story (stream : List EquityRedemptionEvent) (entity : EquityRedemption) : Prop :=
  Aggregate.Written aggregate Moves stream entity

theorem Story.live {stream : List EquityRedemptionEvent} {entity : EquityRedemption}
    (story : Story stream entity) : aggregate.lifecycle stream = .live entity :=
  Aggregate.Written.lifecycle_of (fun moves => Moves.evolves moves) story

/-- Every run writes a story, if it writes anything. -/
theorem story_of_sends {commands : List (Context × EquityRedemptionCommand)}
    (exactly : ∀ step ∈ commands, step.1.ConvertsExactly) :
    aggregate.sends commands [] = [] ∨ ∃ entity, Story (aggregate.sends commands []) entity := by
  refine aggregate.sends_invariant_of (fun stream => stream = [] ∨ ∃ entity, Story stream entity)
    (fun step => step.1.ConvertsExactly) ?_ exactly (.inl rfl)
  intro context command stream events converts before sent
  right
  rcases aggregate.send_eq_ok.mp sent with ⟨absent, begun⟩ | ⟨entity, live, accepted⟩
  · have empty := aggregate.lifecycle_eq_uninitialized.mp absent
    subst empty
    cases command with
    | redeem =>
        cases begun
        exact ⟨_, .first rfl⟩
    | _ => cases begun
  · rcases before with rfl | ⟨known, story⟩
    · cases live
    · rw [story.live] at live
      cases live
      obtain ⟨event, next, rfl, moves⟩ := transition_moves converts accepted
      exact ⟨next, story.next moves⟩

section Story

variable {stream : List EquityRedemptionEvent} {entity : EquityRedemption}

theorem Story.ends (story : Story stream entity) :
    ∃ before event, stream = before ++ [event] ∧ Ends event entity := by
  cases story with
  | first originates => exact ⟨[], _, rfl, ends_of_originate originates⟩
  | next written moves => exact ⟨_, _, rfl, moves.ends⟩

theorem Story.passed (story : Story stream entity) : Passed (milestones stream) entity := by
  induction story with
  | @first event entity originates =>
      cases event with
      | vaultWithdrawPending | vaultWithdrawSubmitted | withdrawnFromRaindex =>
          cases originates
          rfl
      | _ => cases originates
  | next written moves before => exact moves.passed before

theorem Story.measured (story : Story stream entity) : Measured stream entity := by
  induction story with
  | @first event entity originates =>
      have nothing : ∀ other ∈ [event], amountUnwrapped other = none := by
        intro other among
        rw [List.mem_singleton.mp among]
        cases event <;> cases originates <;> rfl
      refine ⟨fun _ => nothing, ?_⟩
      intro other among amount unwraps
      rw [nothing other among] at unwraps
      cases unwraps
  | next written moves before => exact moves.measured before

/-- The symbol is the one in the first event. -/
theorem Story.head_symbol (story : Story stream entity) :
    ∃ first rest, stream = first :: rest ∧ payloadSymbol first = some entity.symbol := by
  induction story with
  | @first event entity originates =>
      refine ⟨event, [], rfl, ?_⟩
      cases event <;> cases originates <;> rfl
  | next written moves before =>
      obtain ⟨first, rest, rfl, symbol⟩ := before
      refine ⟨first, rest ++ [_], rfl, ?_⟩
      rw [moves.symbol_eq, symbol]

end Story

/-! ## What holds in every run -/

/-- Recoveries and reconciliations. -/
def EquityRedemptionCommand.isResolution : EquityRedemptionCommand → Bool
  | .recoverProviderCompletion _ => true
  | .reconcile _ => true
  | _ => false

/-- What holds of a redemption that has come to `stream`. -/
structure LawfulRedemption (stream : List EquityRedemptionEvent) : Prop where
  /-- No event gets the aggregate stuck. -/
  accepted : ∀ before event, before ++ [event] <+: stream →
    aggregate.apply (aggregate.lifecycle before) event ≠ .failed
  symbol : ∀ before earlier entity, before <+: stream →
    aggregate.lifecycle before = .live earlier → aggregate.lifecycle stream = .live entity →
      entity.symbol = earlier.symbol
  quantity : ∀ entity, aggregate.lifecycle stream = .live entity →
    ∀ event ∈ stream, ∀ amount, amountUnwrapped event = some amount →
      entity.quantity = amount / 10 ^ 18
  settled : ∀ entity, aggregate.lifecycle stream = .live entity → entity.isSettled →
    ∀ context command, ∃ error, aggregate.send context command stream = .error error
  failed : ∀ entity, aggregate.lifecycle stream = .live entity → entity.isFailed →
    (∀ context command events, aggregate.send context command stream = .ok events →
      EquityRedemptionCommand.isResolution command) ∧
    ∀ context tokenizationRequestId,
      (∃ events, aggregate.send context (.recoverProviderCompletion tokenizationRequestId) stream =
        .ok events) ↔ (milestones stream).sent
  /-- What failed redemptions and reconciled ones say is on record. -/
  failedKnows : ∀ symbol quantity raindexWithdrawTx redemptionTx tokenizationRequestId reason
    startedAt failedAt, aggregate.lifecycle stream = .live (.failed symbol quantity
      raindexWithdrawTx redemptionTx tokenizationRequestId reason startedAt failedAt) →
    raindexWithdrawTx.isSome = (milestones stream).withdrawn ∧
      redemptionTx.isSome = (milestones stream).sent ∧
      tokenizationRequestId.isSome = (milestones stream).detected
  reconciledKnows : ∀ symbol quantity raindexWithdrawTx redemptionTx tokenizationRequestId
    failureReason reason startedAt reconciledAt, aggregate.lifecycle stream =
      .live (.reconciled symbol quantity raindexWithdrawTx redemptionTx tokenizationRequestId
        failureReason reason startedAt reconciledAt) →
    raindexWithdrawTx.isSome = (milestones stream).withdrawn ∧
      redemptionTx.isSome = (milestones stream).sent ∧
      tokenizationRequestId.isSome = (milestones stream).detected
  interrupted : ∀ entity, aggregate.lifecycle stream = .live entity →
    isInterrupted stream = !entity.isTerminal ∧
      symbolWithActiveTransfer stream = if entity.isTerminal then none else some entity.symbol
  expires : ∀ before last stage, stream = before ++ [last] → stageOf last = some stage →
    ∀ context reason, ∃ events,
      aggregate.send context (expiryCommand reason stage) stream = .ok events

theorem lawful_nil : LawfulRedemption [] where
  accepted := by
    intro before event part
    simp at part
  symbol := by
    intro before earlier entity part live
    rw [List.prefix_nil.mp part] at live
    cases live
  quantity := by nofun
  settled := by nofun
  failed := by nofun
  failedKnows := by nofun
  reconciledKnows := by nofun
  interrupted := by nofun
  expires := by
    intro before last stage whole
    simp at whole

theorem send_of_live {context : Context} {command : EquityRedemptionCommand}
    {stream : List EquityRedemptionEvent} {entity : EquityRedemption}
    (live : aggregate.lifecycle stream = .live entity) :
    aggregate.send context command stream =
      (entity.transition context command).mapError .rejected :=
  aggregate.send_of_live live

/-- Nothing is accepted any more. -/
theorem transition_of_settled {entity : EquityRedemption} (settled : entity.isSettled)
    (context : Context) (command : EquityRedemptionCommand) :
    ∃ error, entity.transition context command = .error error := by
  cases entity with
  | completed => cases command <;> exact ⟨_, rfl⟩
  | reconciled => cases command <;> exact ⟨_, rfl⟩
  | _ => cases settled

theorem resolution_of_failed {entity : EquityRedemption} (failed : entity.isFailed)
    {context : Context} {command : EquityRedemptionCommand} {events : List EquityRedemptionEvent}
    (accepted : entity.transition context command = .ok events) :
    EquityRedemptionCommand.isResolution command := by
  cases entity with
  | failed =>
      cases command with
      | recoverProviderCompletion => rfl
      | reconcile => rfl
      | _ => cases accepted
  | _ => cases failed

/-- All of it holds of a story without a rejection. -/
theorem Story.lawful {stream : List EquityRedemptionEvent} {entity : EquityRedemption}
    (story : Story stream entity) (unrejected : (milestones stream).rejected = false) :
    LawfulRedemption stream := by
  have live := story.live
  have alone {other : EquityRedemption} (same : aggregate.lifecycle stream = .live other) :
      other = entity := by
    rw [live] at same
    cases same
    rfl
  constructor
  · intro before event part
    exact Aggregate.apply_ne_failed_of_live live part
  · intro before earlier other part starts ends
    obtain rfl := alone ends
    obtain ⟨during, rfl⟩ := part
    refine Aggregate.Written.between (fun moves => Moves.evolves moves) story starts
      (fun later => later.symbol = earlier.symbol) rfl ?_
    intro entity event next _ same moves
    rw [moves.symbol_eq, same]
  · intro other same
    obtain rfl := alone same
    exact story.measured.quantity
  · intro other same settled context command
    obtain rfl := alone same
    obtain ⟨error, refused⟩ := transition_of_settled settled context command
    rw [send_of_live live, refused]
    exact ⟨_, rfl⟩
  · intro other same failed
    obtain rfl := alone same
    refine ⟨?_, ?_⟩
    · intro context command events accepted
      rw [send_of_live live, mapError_eq_ok] at accepted
      exact resolution_of_failed failed accepted
    · intro context tokenizationRequestId
      have passed := story.passed
      cases other with
      | failed symbol quantity raindexWithdrawTx redemptionTx =>
          have sent := passed.sent
          rw [← sent, send_of_live live]
          cases redemptionTx with
          | none =>
              constructor
              · rintro ⟨events, accepted⟩
                cases accepted
              · nofun
          | some hash => exact ⟨fun _ => rfl, fun _ => ⟨_, rfl⟩⟩
      | _ => cases failed
  · intro symbol quantity raindexWithdrawTx redemptionTx tokenizationRequestId reason startedAt
      failedAt same
    obtain rfl := alone same
    obtain ⟨withdrawn, sent, detected, -⟩ := story.passed
    refine ⟨?_, sent, detected⟩
    rw [withdrawn, unrejected, Bool.not_false, Bool.and_true]
  · intro symbol quantity raindexWithdrawTx redemptionTx tokenizationRequestId failureReason reason
      startedAt reconciledAt same
    obtain rfl := alone same
    obtain ⟨withdrawn, sent, detected, -⟩ := story.passed
    refine ⟨?_, sent, detected⟩
    rw [withdrawn, unrejected, Bool.not_false, Bool.and_true]
  · intro other same
    obtain rfl := alone same
    obtain ⟨before, last, whole, ends⟩ := story.ends
    obtain ⟨first, rest, starts, symbol⟩ := story.head_symbol
    have lastOf : stream.getLast? = some last := by
      rw [whole]
      exact List.getLast?_concat
    have firstOf : stream.head? = some first := by
      rw [starts]
      rfl
    refine ⟨?_, ?_⟩
    · rw [isInterrupted, lastOf, Option.any_some, contains_interruptedTypes, ends.staged]
    · simp only [symbolWithActiveTransfer, firstOf, lastOf, contains_activeTransferTypes,
        ends.staged, symbol]
      cases other.isTerminal <;> rfl
  · intro before last stage whole staged context reason
    obtain ⟨before', last', whole', ends⟩ := story.ends
    have same : last' = last := by
      have lists := whole'.symm.trans whole
      exact (List.append_inj_right' lists rfl |> List.cons.inj).1
    subst same
    obtain ⟨events, accepted⟩ := ends.expires stage staged context reason
    rw [send_of_live live, accepted]
    exact ⟨events, rfl⟩

/-! ## Runs without a rejection -/

/-- The issuer does not reject a redemption it has detected. -/
def NotRejecting (state : Lifecycle EquityRedemption) (command : EquityRedemptionCommand) : Prop :=
  ∀ reason, command = .rejectRedemption reason →
    ∀ entity, state = .live entity → entity.isPending = false

/-- Only a rejection of a detected redemption is recorded as one. -/
theorem rejected_of_send {context : Context} {command : EquityRedemptionCommand}
    {stream events : List EquityRedemptionEvent} (converts : context.ConvertsExactly)
    (allowed : NotRejecting (aggregate.lifecycle stream) command)
    (before : (milestones stream).rejected = false)
    (sent : aggregate.send context command stream = .ok events) :
    (milestones (stream ++ events)).rejected = false := by
  rcases aggregate.send_eq_ok.mp sent with ⟨absent, begun⟩ | ⟨entity, live, accepted⟩
  · have empty := aggregate.lifecycle_eq_uninitialized.mp absent
    subst empty
    cases command with
    | redeem =>
        cases begun
        rfl
    | _ => cases begun
  · obtain ⟨event, next, rfl, moves⟩ := transition_moves converts accepted
    rw [milestones_concat, before, Bool.false_or]
    cases moves with
    | rejected =>
        cases command with
        | rejectRedemption => cases allowed _ rfl _ live
        | _ => cases accepted
    | _ => rfl

theorem unrejected_of_each {commands : List (Context × EquityRedemptionCommand)}
    (exactly : ∀ step ∈ commands, step.1.ConvertsExactly)
    (each : aggregate.Each NotRejecting commands) :
    (milestones (aggregate.sends commands [])).rejected = false := by
  induction commands using List.reverseRecOn with
  | nil => rfl
  | append_singleton earlier step before =>
      obtain ⟨context, command⟩ := step
      have converts := exactly (context, command) (by simp)
      have sofar : (milestones (aggregate.sends earlier [])).rejected = false := by
        refine before (fun step among => exactly step (List.mem_append_left _ among)) ?_
        exact each.of_prefix (List.prefix_append _ _)
      rw [Aggregate.sends_append]
      simp only [Aggregate.sends]
      cases sent : aggregate.send context command (aggregate.sends earlier []) with
      | ok events =>
          exact rejected_of_send converts (each earlier context command [] rfl) sofar sent
      | error error => exact sofar

/-- A redemption that is rejected after it was detected has lost the withdrawal. -/
theorem not_lawful_of_rejection {stream : List EquityRedemptionEvent} {symbol : Symbol}
    {quantity : FractionalShares} {redemptionTx : TxHash}
    {tokenizationRequestId : TokenizationRequestId} {sentAt detectedAt now : Time} {reason : String}
    (story : Story stream (.pending symbol quantity redemptionTx tokenizationRequestId sentAt
      detectedAt)) : ¬ LawfulRedemption (stream ++ [.redemptionRejected reason now]) := by
  intro lawful
  have after : Story (stream ++ [.redemptionRejected reason now])
      (.failed symbol quantity none (some redemptionTx) (some tokenizationRequestId)
        (some reason) sentAt now) := story.next .rejected
  have knows := (lawful.failedKnows _ _ _ _ _ _ _ _ after.live).1
  have passed : milestones stream = ⟨true, true, true, false⟩ := story.passed
  rw [milestones_concat, passed] at knows
  cases knows

/-- Redemptions keep to all of it in exactly the runs without a rejection by the
issuer. -/
theorem lawful_iff {commands : List (Context × EquityRedemptionCommand)}
    (exactly : ∀ step ∈ commands, step.1.ConvertsExactly) :
    (∀ first, first <+: commands → LawfulRedemption (aggregate.sends first [])) ↔
      aggregate.Each NotRejecting commands := by
  constructor
  · intro lawful first context command rest whole reason same entity live
    subst same
    have among : ∀ step ∈ first, step.1.ConvertsExactly := by
      intro step member
      exact exactly step (by simp [whole, member])
    cases entity with
    | pending symbol quantity redemptionTx tokenizationRequestId sentAt detectedAt =>
        rcases story_of_sends among with empty | ⟨known, story⟩
        · rw [empty] at live
          cases live
        · rw [story.live] at live
          cases live
          have part : first ++ [(context, .rejectRedemption reason)] <+: commands := by
            rw [whole]
            exact ⟨rest, by simp⟩
          have after := lawful _ part
          have sent : aggregate.sends (first ++ [(context, .rejectRedemption reason)]) [] =
              aggregate.sends first [] ++ [.redemptionRejected reason context.now] := by
            rw [Aggregate.sends_append]
            simp only [Aggregate.sends, send_of_live story.live]
            rfl
          rw [sent] at after
          exact absurd after (not_lawful_of_rejection story)
    | _ => rfl
  · intro each first part
    have among : ∀ step ∈ first, step.1.ConvertsExactly := fun step member =>
      exactly step (part.subset member)
    have allowed : aggregate.Each NotRejecting first := each.of_prefix part
    rcases story_of_sends among with empty | ⟨entity, story⟩
    · rw [empty]
      exact lawful_nil
    · exact story.lawful (unrejected_of_each among allowed)

/-- Every call succeeds. -/
def smoothContext : Context where
  now := 0
  owner := 1
  hasVaultFor := fun _ => true
  submitWithdraw := .ok 11
  confirmTxReceipt := .ok ⟨11, some 100, [⟨5, true, some (1, 3 * 10 ^ 18)⟩]⟩
  waitForBlock := fun _ => .ok ()
  submitUnwrap := .ok 12
  lookupUnderlying := fun _ => .ok 6
  confirmUnwrap := .ok ⟨3 * 10 ^ 18, 101⟩
  fromFixedDecimal := fun amount => .ok (amount / 10 ^ 18)
  redemptionWallet := some 9
  sendForRedemption := .ok 13

def detectedRun : List (Context × EquityRedemptionCommand) :=
  [.redeem "AAPL" 3 5 (3 * 10 ^ 18), .submitWithdraw, .confirmWithdraw, .unwrapTokens,
    .submitUnwrap, .confirmUnwrap, .prepareSend, .sendTokens, .detect ⟨"request"⟩].map
      fun command => (smoothContext, command)

theorem smoothContext_converts : smoothContext.ConvertsExactly := by
  intro amount quantity converted
  cases converted
  rfl

theorem lawful_iff_completed :
    LawfulRedemption (aggregate.sends (detectedRun ++ [(smoothContext, .complete)]) []) := by
  refine (lawful_iff ?_).mpr ?_ _ (List.prefix_refl _)
  · intro step among
    have smooth : step.1 = smoothContext := by
      simp only [detectedRun, List.map_cons, List.map_nil, List.cons_append, List.nil_append,
        List.mem_cons, List.not_mem_nil, or_false] at among
      rcases among with rfl | rfl | rfl | rfl | rfl | rfl | rfl | rfl | rfl | rfl <;> rfl
    rw [smooth]
    exact smoothContext_converts
  · intro first context command rest whole reason same
    have among : (context, command) ∈ detectedRun ++ [(smoothContext, .complete)] := by
      rw [whole]
      exact List.mem_append_right _ List.mem_cons_self
    subst same
    simp [detectedRun] at among

/-- The withdrawal is on record, and the failed redemption does not say so. -/
theorem rejected_redemption_loses_withdrawal :
    ¬ ∀ first, first <+: detectedRun ++ [(smoothContext, .rejectRedemption "no account")] →
      LawfulRedemption (aggregate.sends first []) := by
  intro lawful
  have failed : aggregate.lifecycle (aggregate.sends
      (detectedRun ++ [(smoothContext, .rejectRedemption "no account")]) []) =
      .live (.failed "AAPL" 3 none (some 13) (some ⟨"request"⟩) (some "no account") 0 0) := by
    decide +kernel
  have knows := ((lawful _ (List.prefix_refl _)).failedKnows _ _ _ _ _ _ _ _ failed).1
  exact absurd knows (by decide +kernel)

end EquityRedemption

end Liquidity
