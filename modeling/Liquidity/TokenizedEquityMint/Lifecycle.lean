import Liquidity.TokenizedEquityMint.Moves

/-!
# The life of a mint

Whatever commands are sent to a mint and whatever the issuer answers, it never gets
stuck on its own events, keeps its symbol and quantity, mints that quantity, and
ends once. Tokens are received once as long as nobody recovers a mint that failed
after it had received them, which the aggregate leaves to who sends the recovery.
-/

namespace Liquidity

open EventSourcing

/-! ## What the store is asked -/

def TokenizedEquityMintEvent.eventType : TokenizedEquityMintEvent → String
  | .mintRequested .. => "TokenizedEquityMintEvent::MintRequested"
  | .mintRejected .. => "TokenizedEquityMintEvent::MintRejected"
  | .mintAccepted .. => "TokenizedEquityMintEvent::MintAccepted"
  | .mintAcceptanceFailed .. => "TokenizedEquityMintEvent::MintAcceptanceFailed"
  | .tokensReceived .. => "TokenizedEquityMintEvent::TokensReceived"
  | .wrapSubmitted .. => "TokenizedEquityMintEvent::WrapSubmitted"
  | .tokensWrapped .. => "TokenizedEquityMintEvent::TokensWrapped"
  | .wrappingFailed .. => "TokenizedEquityMintEvent::WrappingFailed"
  | .vaultDepositSubmitted .. => "TokenizedEquityMintEvent::VaultDepositSubmitted"
  | .depositedIntoRaindex .. => "TokenizedEquityMintEvent::DepositedIntoRaindex"
  | .raindexDepositFailed .. => "TokenizedEquityMintEvent::RaindexDepositFailed"
  | .providerCompletionRecovered .. => "TokenizedEquityMintEvent::ProviderCompletionRecovered"
  | .operatorReconciled .. => "TokenizedEquityMintEvent::OperatorReconciled"

namespace TokenizedEquityMint

/-- The list in the query for mints to be resumed. -/
def interruptedTypes : List String :=
  ["TokenizedEquityMintEvent::MintAccepted",
    "TokenizedEquityMintEvent::ProviderCompletionRecovered",
    "TokenizedEquityMintEvent::TokensReceived",
    "TokenizedEquityMintEvent::WrapSubmitted",
    "TokenizedEquityMintEvent::TokensWrapped",
    "TokenizedEquityMintEvent::VaultDepositSubmitted"]

/-- Whether a mint is among the interrupted ones. -/
def isInterrupted (stream : List TokenizedEquityMintEvent) : Bool :=
  stream.getLast?.any fun last => interruptedTypes.contains last.eventType

/-- The list in the query for whether a mint received its tokens. -/
def receiptTypes : List String :=
  ["TokenizedEquityMintEvent::TokensReceived",
    "TokenizedEquityMintEvent::ProviderCompletionRecovered"]

def receivedTokens (stream : List TokenizedEquityMintEvent) : Bool :=
  stream.any fun event => receiptTypes.contains event.eventType

structure MintRecheckContext where
  wallet : EvmAddress
  tokenizationRequestId : TokenizationRequestId
  receivedTokens : Bool
  deriving DecidableEq

/-- What a recheck reads off the stream: the request joined with the latest
acceptance. -/
def loadMintRecheckContext (stream : List TokenizedEquityMintEvent) :
    Option MintRecheckContext := do
  let wallet ← stream.findSome? fun
    | .mintRequested _ _ wallet _ => some wallet
    | _ => none
  let tokenizationRequestId ← stream.reverse.findSome? fun
    | .mintAccepted _ tokenizationRequestId _ => some tokenizationRequestId
    | _ => none
  return ⟨wallet, tokenizationRequestId, receivedTokens stream⟩

/-- The recovery that is sent for a failed mint whose request the issuer reports
as it does. Its tokens may have moved already once it received any. -/
def recoverMint (issuerRequestId : IssuerRequestId) (stream : List TokenizedEquityMintEvent)
    (getRequest : TokenizationRequestId → Except String TokenizationRequest) :
    Option TokenizedEquityMintCommand := do
  let context ← loadMintRecheckContext stream
  if context.receivedTokens then none
  else
    let request ← (getRequest context.tokenizationRequestId).toOption
    if request.status ≠ .completed then none
    else
      let txHash ← request.txHash
      return .recoverProviderCompletion issuerRequestId context.wallet request.id txHash

/-! ## What is on record -/

def isReceipt : TokenizedEquityMintEvent → Bool
  | .tokensReceived .. => true
  | .providerCompletionRecovered .. => true
  | _ => false

def mintedShares : TokenizedEquityMintEvent → Option Nat
  | .tokensReceived _ sharesMinted _ => some sharesMinted
  | .providerCompletionRecovered _ _ _ _ sharesMinted _ => some sharesMinted
  | _ => none

def wrapSubmission : TokenizedEquityMintEvent → Option TxHash
  | .wrapSubmitted wrapTxHash _ => some wrapTxHash
  | _ => none

def wrapConfirmation : TokenizedEquityMintEvent → Option TxHash
  | .tokensWrapped wrapTxHash .. => some wrapTxHash
  | _ => none

def depositSubmission : TokenizedEquityMintEvent → Option TxHash
  | .vaultDepositSubmitted vaultDepositTxHash _ => some vaultDepositTxHash
  | _ => none

def depositConfirmation : TokenizedEquityMintEvent → Option TxHash
  | .depositedIntoRaindex vaultDepositTxHash _ => some vaultDepositTxHash
  | _ => none

/-- Deposited, or reconciled by an operator. -/
def isSettled : TokenizedEquityMint → Bool
  | .depositedIntoRaindex .. => true
  | .reconciled .. => true
  | _ => false

def isFailed : TokenizedEquityMint → Bool
  | .failed .. => true
  | _ => false

def isRequested : TokenizedEquityMint → Bool
  | .mintRequested _ => true
  | _ => false

def isTokensReceived : TokenizedEquityMint → Bool
  | .tokensReceived _ => true
  | _ => false

/-- Nothing is received yet. -/
def isAwaited : TokenizedEquityMint → Bool
  | .mintRequested _ => true
  | .mintAccepted _ => true
  | _ => false

def sharesMinted : TokenizedEquityMint → Option Nat
  | .tokensReceived mint => some mint.sharesMinted
  | .wrapSubmitted mint _ => some mint.sharesMinted
  | .tokensWrapped mint _ => some mint.sharesMinted
  | .vaultDepositSubmitted mint _ => some mint.sharesMinted
  | _ => none

/-- The wrap that is confirmed. -/
def confirmedWrap : TokenizedEquityMint → Option TxHash
  | .tokensWrapped mint _ => some mint.wrapTxHash
  | .vaultDepositSubmitted mint _ => some mint.wrapTxHash
  | .depositedIntoRaindex _ _ _ _ _ wrapTxHash .. => some wrapTxHash
  | _ => none

def confirmedDeposit : TokenizedEquityMint → Option TxHash
  | .depositedIntoRaindex _ _ _ _ _ _ vaultDepositTxHash .. => some vaultDepositTxHash
  | _ => none

theorem contains_receiptTypes (event : TokenizedEquityMintEvent) :
    receiptTypes.contains event.eventType = isReceipt event := by
  cases event <;> rfl

theorem receivedTokens_concat (stream : List TokenizedEquityMintEvent)
    (event : TokenizedEquityMintEvent) :
    receivedTokens (stream ++ [event]) = (receivedTokens stream || isReceipt event) := by
  simp [receivedTokens, ← contains_receiptTypes]

theorem minted_of_isReceipt {event : TokenizedEquityMintEvent} (receipt : isReceipt event) :
    ∃ shares, mintedShares event = some shares := by
  cases event with
  | tokensReceived => exact ⟨_, rfl⟩
  | providerCompletionRecovered => exact ⟨_, rfl⟩
  | _ => cases receipt

/-! ## What a step does -/

section Moves

variable {convert : ℚ → Except String Nat} {entity next : TokenizedEquityMint}
  {event : TokenizedEquityMintEvent}

theorem Moves.symbol_eq (moves : Moves convert entity event next) :
    next.symbol = entity.symbol := by
  cases moves with
  | acceptanceFailed fails => cases entity <;> cases fails <;> rfl
  | wrapped wraps => cases entity <;> cases wraps <;> rfl
  | wrappingFailed fails => cases entity <;> cases fails <;> rfl
  | deposited deposits => cases entity <;> cases deposits <;> rfl
  | depositFailed fails => cases entity <;> cases fails <;> rfl
  | _ => rfl

theorem Moves.quantity_eq (moves : Moves convert entity event next) :
    next.quantity = entity.quantity := by
  cases moves with
  | acceptanceFailed fails => cases entity <;> cases fails <;> rfl
  | wrapped wraps => cases entity <;> cases wraps <;> rfl
  | wrappingFailed fails => cases entity <;> cases fails <;> rfl
  | deposited deposits => cases entity <;> cases deposits <;> rfl
  | depositFailed fails => cases entity <;> cases fails <;> rfl
  | _ => rfl

/-- A mint that is no longer requested is on the list while it is under way. -/
structure Ends (event : TokenizedEquityMintEvent) (entity : TokenizedEquityMint) : Prop where
  begun : entity.isRequested = false
  listed : interruptedTypes.contains event.eventType = !entity.isTerminal

theorem Moves.ends (moves : Moves convert entity event next) : Ends event next := by
  cases moves with
  | acceptanceFailed fails => cases entity <;> cases fails <;> exact ⟨rfl, rfl⟩
  | wrapped wraps => cases entity <;> cases wraps <;> exact ⟨rfl, rfl⟩
  | wrappingFailed fails => cases entity <;> cases fails <;> exact ⟨rfl, rfl⟩
  | deposited deposits => cases entity <;> cases deposits <;> exact ⟨rfl, rfl⟩
  | depositFailed fails => cases entity <;> cases fails <;> exact ⟨rfl, rfl⟩
  | _ => exact ⟨rfl, rfl⟩

/-- What an event says is minted is minted for the quantity. -/
theorem Moves.minted (moves : Moves convert entity event next) {shares : Nat}
    (minted : mintedShares event = some shares) : MintedFor convert next.quantity shares := by
  cases moves with
  | received sufficient =>
      cases minted
      exact sufficient
  | recovered sufficient =>
      cases minted
      exact sufficient
  | _ => cases minted

/-- The shares of a mint are those of the event, or those it had. -/
theorem Moves.sharesMinted_eq (moves : Moves convert entity event next) {shares : Nat}
    (holds : next.sharesMinted = some shares) :
    mintedShares event = some shares ∨ entity.sharesMinted = some shares := by
  cases moves with
  | acceptanceFailed fails => cases entity <;> cases fails <;> cases holds
  | wrapped wraps =>
      right
      cases entity <;> cases wraps <;> exact holds
  | wrappingFailed fails => cases entity <;> cases fails <;> cases holds
  | deposited deposits => cases entity <;> cases deposits <;> cases holds
  | depositFailed fails => cases entity <;> cases fails <;> cases holds
  | received => exact .inl holds
  | recovered => exact .inl holds
  | wrapSubmitted => exact .inr holds
  | depositSubmitted => exact .inr holds
  | _ => cases holds

/-- Tokens are received by a receipt, and before the first one they are awaited. -/
theorem Moves.received_iff (moves : Moves convert entity event next) :
    next.isTokensReceived = isReceipt event := by
  cases moves with
  | acceptanceFailed fails => cases entity <;> cases fails <;> rfl
  | wrapped wraps => cases entity <;> cases wraps <;> rfl
  | wrappingFailed fails => cases entity <;> cases fails <;> rfl
  | deposited deposits => cases entity <;> cases deposits <;> rfl
  | depositFailed fails => cases entity <;> cases fails <;> rfl
  | _ => rfl

theorem Moves.awaited_of (moves : Moves convert entity event next) (awaited : next.isAwaited) :
    entity.isAwaited ∧ isReceipt event = false := by
  cases moves with
  | accepted => exact ⟨rfl, rfl⟩
  | acceptanceFailed fails => cases entity <;> cases fails <;> cases awaited
  | wrapped wraps => cases entity <;> cases wraps <;> cases awaited
  | wrappingFailed fails => cases entity <;> cases fails <;> cases awaited
  | deposited deposits => cases entity <;> cases deposits <;> cases awaited
  | depositFailed fails => cases entity <;> cases fails <;> cases awaited
  | _ => cases awaited

/-- The wrap a mint holds as confirmed is the event's, or the one it held. -/
theorem Moves.confirmedWrap_eq (moves : Moves convert entity event next) {wrapTxHash : TxHash}
    (holds : next.confirmedWrap = some wrapTxHash) :
    wrapConfirmation event = some wrapTxHash ∨
      wrapConfirmation event = none ∧ entity.confirmedWrap = some wrapTxHash := by
  cases moves with
  | acceptanceFailed fails => cases entity <;> cases fails <;> cases holds
  | wrapped wraps =>
      left
      cases entity <;> cases wraps <;> exact holds
  | wrappingFailed fails => cases entity <;> cases fails <;> cases holds
  | deposited deposits =>
      right
      cases entity <;> cases deposits <;> exact ⟨rfl, holds⟩
  | depositFailed fails => cases entity <;> cases fails <;> cases holds
  | depositSubmitted => exact .inr ⟨rfl, holds⟩
  | _ => cases holds

theorem Moves.confirmedDeposit_eq (moves : Moves convert entity event next)
    {vaultDepositTxHash : TxHash} (holds : next.confirmedDeposit = some vaultDepositTxHash) :
    depositConfirmation event = some vaultDepositTxHash := by
  cases moves with
  | acceptanceFailed fails => cases entity <;> cases fails <;> cases holds
  | wrapped wraps => cases entity <;> cases wraps <;> cases holds
  | wrappingFailed fails => cases entity <;> cases fails <;> cases holds
  | deposited deposits => cases entity <;> cases deposits <;> exact holds
  | depositFailed fails => cases entity <;> cases fails <;> cases holds
  | _ => cases holds

end Moves

/-! ## Runs -/

/-- A stream that commands wrote, and what it stands for. -/
abbrev Story (convert : ℚ → Except String Nat) (stream : List TokenizedEquityMintEvent)
    (entity : TokenizedEquityMint) : Prop :=
  Aggregate.Written aggregate (Moves convert) stream entity

/-- What a mint knows of its stream. -/
structure Remembers (convert : ℚ → Except String Nat) (stream : List TokenizedEquityMintEvent)
    (entity : TokenizedEquityMint) : Prop where
  minted : ∀ event ∈ stream, ∀ shares, mintedShares event = some shares →
    MintedFor convert entity.quantity shares
  held : ∀ shares, entity.sharesMinted = some shares → MintedFor convert entity.quantity shares
  awaited : entity.isAwaited → receivedTokens stream = false
  wrap : ∀ wrapTxHash, entity.confirmedWrap = some wrapTxHash →
    (stream.filterMap wrapConfirmation).getLast? = some wrapTxHash
  deposit : ∀ vaultDepositTxHash, entity.confirmedDeposit = some vaultDepositTxHash →
    (stream.filterMap depositConfirmation).getLast? = some vaultDepositTxHash

section Story

variable {convert : ℚ → Except String Nat} {stream : List TokenizedEquityMintEvent}
  {entity next : TokenizedEquityMint} {event : TokenizedEquityMintEvent}

theorem Moves.remembers (moves : Moves convert entity event next)
    (before : Remembers convert stream entity) : Remembers convert (stream ++ [event]) next := by
  constructor
  · intro other among shares minted
    rcases List.mem_append.mp among with earlier | last
    · rw [moves.quantity_eq]
      exact before.minted other earlier shares minted
    · rw [List.mem_singleton.mp last] at minted
      exact moves.minted minted
  · intro shares holds
    rcases moves.sharesMinted_eq holds with now | already
    · exact moves.minted now
    · rw [moves.quantity_eq]
      exact before.held shares already
  · intro awaited
    obtain ⟨still, other⟩ := moves.awaited_of awaited
    rw [receivedTokens_concat, before.awaited still, other]
    rfl
  · intro wrapTxHash holds
    rcases moves.confirmedWrap_eq holds with now | ⟨other, already⟩
    · simp [now]
    · simpa [other] using before.wrap wrapTxHash already
  · intro vaultDepositTxHash holds
    simp [moves.confirmedDeposit_eq holds]

theorem Story.live (story : Story convert stream entity) :
    aggregate.lifecycle stream = .live entity :=
  Aggregate.Written.lifecycle_of (fun moves => Moves.evolves moves) story

theorem Story.remembers (story : Story convert stream entity) :
    Remembers convert stream entity := by
  induction story with
  | @first event entity originates =>
      cases event with
      | mintRequested =>
          cases originates
          exact ⟨by simp [mintedShares], nofun, fun _ => rfl, nofun, nofun⟩
      | _ => cases originates
  | next written moves before => exact moves.remembers before

/-- Once it is more than requested, a mint has an end. -/
theorem Story.ends (story : Story convert stream entity) (begun : entity.isRequested = false) :
    ∃ before last, stream = before ++ [last] ∧ Ends last entity := by
  cases story with
  | @first event entity originates =>
      cases event with
      | mintRequested => cases originates; cases begun
      | _ => cases originates
  | next written moves => exact ⟨_, _, rfl, moves.ends⟩

/-- Every run writes a story, if it writes anything, and the story goes past the
request. -/
theorem story_of_sends {commands : List (Context × TokenizedEquityMintCommand)}
    (same : ∀ step ∈ commands, step.1.toFixedDecimal = convert) :
    aggregate.sends commands [] = [] ∨ ∃ entity,
      Story convert (aggregate.sends commands []) entity ∧ entity.isRequested = false := by
  refine aggregate.sends_invariant_of (fun stream => stream = [] ∨ ∃ entity,
    Story convert stream entity ∧ entity.isRequested = false)
    (fun step => step.1.toFixedDecimal = convert) ?_ same (.inl rfl)
  intro context command stream events converts before sent
  right
  rcases aggregate.send_eq_ok.mp sent with ⟨absent, begun⟩ | ⟨entity, live, accepted⟩
  · obtain rfl := aggregate.lifecycle_eq_uninitialized.mp absent
    obtain ⟨request, answer, next, rfl, moves⟩ := initialise_moves begun
    rw [converts] at moves
    have requested : Story convert [.mintRequested request.symbol request.quantity request.wallet
        request.requestedAt] (.mintRequested request) := .first rfl
    exact ⟨next, requested.next moves, moves.ends.begun⟩
  · rcases before with rfl | ⟨known, story, _⟩
    · cases live
    · rw [story.live] at live
      cases live
      obtain ⟨event, next, rfl, moves⟩ := transition_moves accepted
      rw [converts] at moves
      exact ⟨next, story.next moves, moves.ends.begun⟩

end Story

/-! ## What holds in every run -/

/-- What holds of a mint that has come to `stream`. -/
structure LawfulMint (stream : List TokenizedEquityMintEvent) : Prop where
  /-- No event gets the aggregate stuck. -/
  accepted : ∀ before event, before ++ [event] <+: stream →
    aggregate.apply (aggregate.lifecycle before) event ≠ .failed
  constant : ∀ before earlier entity, before <+: stream →
    aggregate.lifecycle before = .live earlier → aggregate.lifecycle stream = .live entity →
      entity.symbol = earlier.symbol ∧ entity.quantity = earlier.quantity
  /-- What is minted is the quantity, on record and in the state. -/
  shares : ∀ entity, aggregate.lifecycle stream = .live entity → ∀ shares,
    ((∃ event ∈ stream, mintedShares event = some shares) ∨ entity.sharesMinted = some shares) →
      (shares : ℚ) = entity.quantity * 10 ^ 18
  settled : ∀ entity, aggregate.lifecycle stream = .live entity → entity.isSettled →
    ∀ context command, ∃ error, aggregate.send context command stream = .error error
  /-- The hashes at the end are those that were confirmed last, -/
  confirmed : ∀ symbol quantity issuerRequestId tokenizationRequestId tokenTxHash wrapTxHash
    vaultDepositTxHash requestedAt depositedAt, aggregate.lifecycle stream =
      .live (.depositedIntoRaindex symbol quantity issuerRequestId tokenizationRequestId
        tokenTxHash wrapTxHash vaultDepositTxHash requestedAt depositedAt) →
    (stream.filterMap wrapConfirmation).getLast? = some wrapTxHash ∧
      (stream.filterMap depositConfirmation).getLast? = some vaultDepositTxHash
  /-- and so those that were submitted, where it is these that were confirmed. -/
  submitted : ∀ symbol quantity issuerRequestId tokenizationRequestId tokenTxHash wrapTxHash
    vaultDepositTxHash requestedAt depositedAt, aggregate.lifecycle stream =
      .live (.depositedIntoRaindex symbol quantity issuerRequestId tokenizationRequestId
        tokenTxHash wrapTxHash vaultDepositTxHash requestedAt depositedAt) →
    (∀ hash ∈ stream.filterMap wrapSubmission,
      (∀ confirmed ∈ stream.filterMap wrapConfirmation, confirmed = hash) → wrapTxHash = hash) ∧
    ∀ hash ∈ stream.filterMap depositSubmission,
      (∀ confirmed ∈ stream.filterMap depositConfirmation, confirmed = hash) →
        vaultDepositTxHash = hash
  interrupted : ∀ entity, aggregate.lifecycle stream = .live entity →
    isInterrupted stream = !entity.isTerminal

/-- A mint that has received its tokens does not come to receive them again. -/
def ReceivesOnce (stream : List TokenizedEquityMintEvent) : Prop :=
  ∀ before event entity, before ++ [event] <+: stream → receivedTokens before →
    aggregate.lifecycle (before ++ [event]) = .live entity → entity.isTokensReceived = false

/-- No recovery is sent to a mint that failed after it had received its tokens. -/
def Guarded (commands : List (Context × TokenizedEquityMintCommand)) : Prop :=
  ∀ first context issuerRequestId wallet tokenizationRequestId txHash rest,
    commands = first ++ (context, .recoverProviderCompletion issuerRequestId wallet
      tokenizationRequestId txHash) :: rest →
    ∀ entity, aggregate.lifecycle (aggregate.sends first []) = .live entity → entity.isFailed →
      receivedTokens (aggregate.sends first []) = false

theorem lawful_nil : LawfulMint [] where
  accepted := by
    intro before event part
    simp at part
  constant := by
    intro before earlier entity part live
    rw [List.prefix_nil.mp part] at live
    cases live
  shares := by nofun
  settled := by nofun
  confirmed := by nofun
  submitted := by nofun
  interrupted := by nofun

theorem send_of_live {context : Context} {command : TokenizedEquityMintCommand}
    {stream : List TokenizedEquityMintEvent} {entity : TokenizedEquityMint}
    (live : aggregate.lifecycle stream = .live entity) :
    aggregate.send context command stream =
      (entity.transition context command).mapError .rejected :=
  aggregate.send_of_live live

/-- Nothing is accepted any more. -/
theorem transition_of_settled {entity : TokenizedEquityMint} (settled : entity.isSettled)
    (context : Context) (command : TokenizedEquityMintCommand) :
    ∃ error, entity.transition context command = .error error := by
  cases entity with
  | depositedIntoRaindex => cases command <;> exact ⟨_, rfl⟩
  | reconciled => cases command <;> exact ⟨_, rfl⟩
  | _ => cases settled

section Lawful

variable {convert : ℚ → Except String Nat} {stream : List TokenizedEquityMintEvent}
  {entity : TokenizedEquityMint}

/-- All of it holds of a story. -/
theorem Story.lawful (exactly : ConvertsExactly convert) (story : Story convert stream entity)
    (begun : entity.isRequested = false) : LawfulMint stream := by
  have live := story.live
  have alone {other : TokenizedEquityMint} (same : aggregate.lifecycle stream = .live other) :
      other = entity := by
    rw [live] at same
    cases same
    rfl
  constructor
  · intro before event part
    exact Aggregate.apply_ne_failed_of_live live part
  · intro before earlier other part starts ends
    obtain rfl := alone ends
    obtain ⟨during, rfl⟩ := part
    refine Aggregate.Written.between (fun moves => Moves.evolves moves) story starts
      (fun later => later.symbol = earlier.symbol ∧ later.quantity = earlier.quantity)
      ⟨rfl, rfl⟩ ?_
    intro entity event next _ same moves
    rw [moves.symbol_eq, moves.quantity_eq]
    exact same
  · intro other same shares minted
    obtain rfl := alone same
    have sufficient : MintedFor convert other.quantity shares := by
      rcases minted with ⟨event, among, minted⟩ | holds
      · exact story.remembers.minted event among shares minted
      · exact story.remembers.held shares holds
    exact exactly _ _ sufficient.converted
  · intro other same settled context command
    obtain rfl := alone same
    obtain ⟨error, refused⟩ := transition_of_settled settled context command
    rw [send_of_live live, refused]
    exact ⟨_, rfl⟩
  · intro symbol quantity issuerRequestId tokenizationRequestId tokenTxHash wrapTxHash
      vaultDepositTxHash requestedAt depositedAt same
    obtain rfl := alone same
    exact ⟨story.remembers.wrap _ rfl, story.remembers.deposit _ rfl⟩
  · intro symbol quantity issuerRequestId tokenizationRequestId tokenTxHash wrapTxHash
      vaultDepositTxHash requestedAt depositedAt same
    obtain rfl := alone same
    refine ⟨?_, ?_⟩
    · intro hash _ only
      exact only _ (List.mem_of_getLast? (story.remembers.wrap _ rfl))
    · intro hash _ only
      exact only _ (List.mem_of_getLast? (story.remembers.deposit _ rfl))
  · intro other same
    obtain rfl := alone same
    obtain ⟨before, last, rfl, ends⟩ := story.ends begun
    rw [isInterrupted, List.getLast?_concat, Option.any_some, ends.listed]

/-! ## Receiving once -/

/-- The next receipt is the first. -/
theorem Moves.receivesOnce {next : TokenizedEquityMint} {event : TokenizedEquityMintEvent}
    (moves : Moves convert entity event next) (story : Story convert stream entity)
    (once : ReceivesOnce stream) (first : isReceipt event → receivedTokens stream = false) :
    ReceivesOnce (stream ++ [event]) := by
  intro before event' entity' part received live
  rcases List.prefix_concat_iff.mp part with whole | earlier
  · obtain ⟨rfl, same⟩ := List.append_inj' whole rfl
    cases same
    have after : Story convert (before ++ [event]) next := story.next moves
    rw [after.live] at live
    cases live
    rw [moves.received_iff, Bool.eq_false_iff]
    intro receipt
    rw [first receipt] at received
    cases received
  · exact once before event' entity' earlier received live

/-- Other receipts than a recovery's find the tokens awaited. -/
theorem Story.first_receipt {context : Context} {command : TokenizedEquityMintCommand}
    {event : TokenizedEquityMintEvent} {next : TokenizedEquityMint}
    (story : Story convert stream entity)
    (accepted : entity.transition context command = .ok [event])
    (moves : Moves convert entity event next)
    (guarded : ∀ issuerRequestId wallet tokenizationRequestId txHash,
      command = .recoverProviderCompletion issuerRequestId wallet tokenizationRequestId txHash →
        entity.isFailed → receivedTokens stream = false)
    (receipt : isReceipt event) : receivedTokens stream = false := by
  cases moves with
  | received => exact story.remembers.awaited rfl
  | recovered =>
      cases command with
      | recoverProviderCompletion => exact guarded _ _ _ _ rfl rfl
      | reconcile =>
          simp only [transition, transitionReconcile] at accepted
          split at accepted
          case isTrue => cases accepted
          case isFalse => cases accepted
      | _ => cases accepted
  | _ => cases receipt

theorem receivesOnce_nil : ReceivesOnce [] := by
  intro before event entity part
  simp at part

theorem Guarded.of_prefix {first commands : List (Context × TokenizedEquityMintCommand)}
    (guarded : Guarded commands) (part : first <+: commands) : Guarded first := by
  obtain ⟨later, rfl⟩ := part
  intro start context issuerRequestId wallet tokenizationRequestId txHash rest whole
  refine guarded start context issuerRequestId wallet tokenizationRequestId txHash
    (rest ++ later) ?_
  rw [whole]
  simp

theorem receivesOnce_of_guarded {commands : List (Context × TokenizedEquityMintCommand)}
    (same : ∀ step ∈ commands, step.1.toFixedDecimal = convert) (guarded : Guarded commands) :
    ReceivesOnce (aggregate.sends commands []) := by
  induction commands using List.reverseRecOn with
  | nil => exact receivesOnce_nil
  | append_singleton earlier step ih =>
      obtain ⟨context, command⟩ := step
      have converts : context.toFixedDecimal = convert := same (context, command) (by simp)
      have among : ∀ step ∈ earlier, step.1.toFixedDecimal = convert := fun step member =>
        same step (List.mem_append_left _ member)
      have once := ih among (guarded.of_prefix (List.prefix_append _ _))
      rw [Aggregate.sends_append]
      simp only [Aggregate.sends]
      cases sent : aggregate.send context command (aggregate.sends earlier []) with
      | error error => exact once
      | ok events =>
          rcases aggregate.send_eq_ok.mp sent with ⟨absent, begun⟩ | ⟨entity, live, accepted⟩
          · show ReceivesOnce (aggregate.sends earlier [] ++ events)
            rw [aggregate.lifecycle_eq_uninitialized.mp absent] at once ⊢
            obtain ⟨request, answer, next, rfl, moves⟩ := initialise_moves begun
            -- the first event starts the story and the second moves it on
            have requested : Story context.toFixedDecimal [.mintRequested request.symbol
                request.quantity request.wallet request.requestedAt] (.mintRequested request) :=
              .first rfl
            refine moves.receivesOnce requested ?_ fun _ => rfl
            intro before event entity part received
            have empty : before = [] := by
              cases before with
              | nil => rfl
              | cons first rest => simp at part
            rw [empty] at received
            cases received
          · rcases story_of_sends among with empty | ⟨known, story, _⟩
            · rw [empty] at live
              cases live
            · rw [story.live] at live
              cases live
              obtain ⟨event, next, rfl, moves⟩ := transition_moves accepted
              rw [converts] at moves
              refine moves.receivesOnce story once ?_
              refine story.first_receipt accepted moves ?_
              intro issuerRequestId wallet tokenizationRequestId txHash recovers failed
              subst recovers
              exact guarded earlier context _ _ _ _ [] rfl _ story.live failed

/-- What was converted once is converted again. -/
theorem recovery_of_received {context : Context} {issuerRequestId : IssuerRequestId}
    {wallet : EvmAddress} {tokenizationRequestId : TokenizationRequestId} {txHash : TxHash}
    (converts : context.toFixedDecimal = convert) (story : Story convert stream entity)
    (failed : entity.isFailed) (received : receivedTokens stream) :
    ∃ event next, aggregate.send context (.recoverProviderCompletion issuerRequestId wallet
        tokenizationRequestId txHash) stream = .ok [event] ∧
      Story convert (stream ++ [event]) next ∧ next.isTokensReceived := by
  obtain ⟨receipt, among, typed⟩ := List.any_eq_true.mp received
  rw [contains_receiptTypes] at typed
  obtain ⟨shares, minted⟩ := minted_of_isReceipt typed
  have sufficient := story.remembers.minted receipt among shares minted
  cases entity with
  | failed symbol quantity reason requestedAt failedAt =>
      have converted : quantityToU256 context quantity = .ok shares := by
        rw [quantityToU256_eq_ok, converts]
        exact sufficient
      refine ⟨.providerCompletionRecovered issuerRequestId wallet tokenizationRequestId txHash
        shares context.now, _, ?_, story.next (.recovered sufficient), rfl⟩
      rw [send_of_live story.live]
      simp only [transition, transitionRecoverProviderCompletion, converted]
      rfl
  | _ => cases failed

end Lawful

/-! ## Rechecks -/

/-- A recheck recovers nothing that was received. -/
theorem not_received_of_recoverMint {issuerRequestId : IssuerRequestId}
    {stream : List TokenizedEquityMintEvent}
    {getRequest : TokenizationRequestId → Except String TokenizationRequest}
    {command : TokenizedEquityMintCommand}
    (sent : recoverMint issuerRequestId stream getRequest = some command) :
    receivedTokens stream = false := by
  obtain ⟨context, loaded, sent⟩ := Option.bind_eq_some_iff.mp sent
  obtain ⟨wallet, _, loaded⟩ := Option.bind_eq_some_iff.mp loaded
  obtain ⟨tokenizationRequestId, _, loaded⟩ := Option.bind_eq_some_iff.mp loaded
  cases loaded
  split at sent
  case isTrue => cases sent
  case isFalse unreceived => simpa using unreceived

/-- Every recovery of a run is the one a recheck sends there. -/
def Rechecked (commands : List (Context × TokenizedEquityMintCommand)) : Prop :=
  ∀ first context issuerRequestId wallet tokenizationRequestId txHash rest,
    commands = first ++ (context, .recoverProviderCompletion issuerRequestId wallet
      tokenizationRequestId txHash) :: rest →
    ∃ getRequest, recoverMint issuerRequestId (aggregate.sends first []) getRequest =
      some (.recoverProviderCompletion issuerRequestId wallet tokenizationRequestId txHash)

/-- Rechecks receive tokens once. -/
theorem Rechecked.guarded {commands : List (Context × TokenizedEquityMintCommand)}
    (rechecked : Rechecked commands) : Guarded commands := by
  intro first context issuerRequestId wallet tokenizationRequestId txHash rest whole entity _ _
  obtain ⟨getRequest, sent⟩ := rechecked first context issuerRequestId wallet
    tokenizationRequestId txHash rest whole
  exact not_received_of_recoverMint sent

/-! ## Every run -/

/-- Mints keep to the law in every run, and receive their tokens once in exactly
the runs without a recovery of one that failed after it had received them. -/
theorem lawful_receivesOnce_iff {convert : ℚ → Except String Nat}
    (exactly : ConvertsExactly convert) {commands : List (Context × TokenizedEquityMintCommand)}
    (same : ∀ step ∈ commands, step.1.toFixedDecimal = convert) :
    (∀ first, first <+: commands → LawfulMint (aggregate.sends first [])) ∧
      ((∀ first, first <+: commands → ReceivesOnce (aggregate.sends first [])) ↔
        Guarded commands) := by
  have among {first : List (Context × TokenizedEquityMintCommand)} (part : first <+: commands) :
      ∀ step ∈ first, step.1.toFixedDecimal = convert := fun step member =>
    same step (part.subset member)
  refine ⟨?_, ?_, ?_⟩
  · intro first part
    rcases story_of_sends (among part) with empty | ⟨entity, story, begun⟩
    · rw [empty]
      exact lawful_nil
    · exact story.lawful exactly begun
  · intro once first context issuerRequestId wallet tokenizationRequestId txHash rest whole entity
      live failed
    have shorter : first <+: commands := ⟨_, whole.symm⟩
    rw [Bool.eq_false_iff]
    intro received
    rcases story_of_sends (among shorter) with empty | ⟨known, story, _⟩
    · rw [empty] at live
      cases live
    · rw [story.live] at live
      cases live
      have converts : context.toFixedDecimal = convert :=
        same (context, .recoverProviderCompletion issuerRequestId wallet tokenizationRequestId
          txHash) (by rw [whole]; simp)
      obtain ⟨event, next, sent, after, again⟩ :=
        @recovery_of_received convert _ _ context issuerRequestId wallet tokenizationRequestId
          txHash converts story failed received
      have part : first ++ [(context, .recoverProviderCompletion issuerRequestId wallet
          tokenizationRequestId txHash)] <+: commands := by
        rw [whole]
        exact ⟨rest, by simp⟩
      have longer : aggregate.sends (first ++ [(context, .recoverProviderCompletion issuerRequestId
          wallet tokenizationRequestId txHash)]) [] = aggregate.sends first [] ++ [event] := by
        rw [Aggregate.sends_append]
        simp only [Aggregate.sends, sent]
      have kept := once _ part
      rw [longer] at kept
      have lost := kept _ _ _ (List.prefix_refl _) received after.live
      rw [again] at lost
      cases lost
  · intro guarded first part
    exact receivesOnce_of_guarded (among part) (guarded.of_prefix part)

/-- Shares that are a whole number of token units. -/
def toTokenUnits (quantity : ℚ) : Except String Nat :=
  if 0 ≤ quantity * 10 ^ 18 ∧ (quantity * 10 ^ 18).den = 1 then
    .ok (quantity * 10 ^ 18).num.toNat
  else .error "not a whole number of units"

theorem toTokenUnits_exactly : ConvertsExactly toTokenUnits := by
  intro quantity shares converted
  unfold toTokenUnits at converted
  split at converted
  case isFalse => cases converted
  case isTrue whole =>
      obtain ⟨nonneg, integral⟩ := whole
      cases converted
      have counted : ((quantity * 10 ^ 18).num.toNat : Int) = (quantity * 10 ^ 18).num :=
        Int.toNat_of_nonneg (Rat.num_nonneg.mpr nonneg)
      calc ((quantity * 10 ^ 18).num.toNat : ℚ)
          = (((quantity * 10 ^ 18).num.toNat : Int) : ℚ) := by norm_cast
        _ = ((quantity * 10 ^ 18).num : ℚ) := by rw [counted]
        _ = quantity * 10 ^ 18 := Rat.coe_int_num_of_den_eq_one integral

/-- The issuer accepts and delivers. -/
def smoothContext : Context where
  now := 0
  tokenizer := .ok ⟨⟨"request"⟩, .completed, some "tAAPL", some 21⟩
  toFixedDecimal := toTokenUnits

/-- A mint that is recovered before it has received anything. -/
def recoveredRun : List (Context × TokenizedEquityMintCommand) :=
  [.requestMint ⟨"mint"⟩ "AAPL" 3 7, .failAcceptance "stuck",
    .recoverProviderCompletion ⟨"mint"⟩ 7 ⟨"request"⟩ 21, .submitWrap 22, .wrapTokens 22 3 100,
    .submitVaultDeposit 23, .depositToVault 23].map fun command => (smoothContext, command)

/-- A mint that is recovered after its deposit has failed. -/
def failedDepositRun : List (Context × TokenizedEquityMintCommand) :=
  [.requestMint ⟨"mint"⟩ "AAPL" 3 7, .poll, .submitWrap 22, .wrapTokens 22 3 100,
    .failRaindexDeposit "reverted", .recoverProviderCompletion ⟨"mint"⟩ 7 ⟨"request"⟩ 21].map
      fun command => (smoothContext, command)

theorem smooth_of_mem {step : Context × TokenizedEquityMintCommand}
    {commands : List TokenizedEquityMintCommand}
    (among : step ∈ commands.map fun command => (smoothContext, command)) :
    step.1.toFixedDecimal = toTokenUnits := by
  obtain ⟨command, -, rfl⟩ := List.mem_map.mp among
  rfl

theorem recoveredRun_guarded : Guarded recoveredRun := by
  intro first context issuerRequestId wallet tokenizationRequestId txHash rest whole entity _ _
  -- the recovery is the third command
  rcases first with _ | ⟨request, _ | ⟨failure, _ | ⟨recovery, later⟩⟩⟩
  · simp [recoveredRun] at whole
  · simp [recoveredRun] at whole
  · simp only [recoveredRun, List.map_cons, List.cons_append, List.nil_append, List.cons.injEq]
      at whole
    obtain ⟨rfl, rfl, -⟩ := whole
    decide +kernel
  · have among : (context, TokenizedEquityMintCommand.recoverProviderCompletion issuerRequestId
        wallet tokenizationRequestId txHash) ∈ recoveredRun.drop 3 := by
      rw [whole]
      simp
    simp [recoveredRun] at among

theorem lawful_receivesOnce_iff_recovered :
    (∀ first, first <+: recoveredRun → LawfulMint (aggregate.sends first [])) ∧
      ∀ first, first <+: recoveredRun → ReceivesOnce (aggregate.sends first []) := by
  have smooth : ∀ step ∈ recoveredRun, step.1.toFixedDecimal = toTokenUnits := fun step among =>
    smooth_of_mem among
  have every := lawful_receivesOnce_iff toTokenUnits_exactly smooth
  exact ⟨every.1, every.2.mpr recoveredRun_guarded⟩

/-- The mint holds tokens that it has wrapped already. -/
theorem failed_deposit_receives_again :
    ConvertsExactly toTokenUnits ∧
      (∀ step ∈ failedDepositRun, step.1.toFixedDecimal = toTokenUnits) ∧
      ¬ ReceivesOnce (aggregate.sends failedDepositRun []) := by
  refine ⟨toTokenUnits_exactly, fun step among => smooth_of_mem among, ?_⟩
  intro once
  have again : aggregate.lifecycle (aggregate.sends failedDepositRun []) =
      .live (.tokensReceived
        ⟨⟨⟨"AAPL", 3, 7, 0⟩, ⟨"mint"⟩, ⟨"request"⟩, 0⟩, 21, 3 * 10 ^ 18, 0⟩) := by
    decide +kernel
  have whole : aggregate.sends failedDepositRun [] =
      (aggregate.sends failedDepositRun []).dropLast ++
        [.providerCompletionRecovered ⟨"mint"⟩ 7 ⟨"request"⟩ 21 (3 * 10 ^ 18) 0] := by
    decide +kernel
  have received : receivedTokens (aggregate.sends failedDepositRun []).dropLast := by
    decide +kernel
  rw [whole] at again
  have lost := once _ _ _ (whole ▸ List.prefix_refl _) received again
  cases lost

end TokenizedEquityMint

end Liquidity
