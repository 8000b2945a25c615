import Liquidity.CrossVenueEquity.Operations

/-!
# The attempts of a mint

A mint's program submits a transaction only in the state it loaded or led to itself,
records the hash it was given, and records as done what it was told has succeeded. Its
loop polls at most once before its last turn.
-/

namespace Liquidity.CrossVenueEquity

open EventSourcing Process

/-- What a mint's attempt lives by. -/
def mintRole : Role handle World.Truthful where
  rely := fun before after => after.mint = before.mint ∧ before.Extends after
  fit := Op.Due
  rely_refl := fun _ => ⟨rfl, .of_eq rfl⟩
  rely_trans := fun _ _ _ first second => ⟨second.1.trans first.1, first.2.trans second.2⟩
  keeps := fun _ _ _ _ _ truthful due handled => truthful_of_due truthful due handled

/-- The mint is stored in a state of this rank. -/
def MintAt (rank : Nat) (world : World) : Prop :=
  ∃ entity, TokenizedEquityMint.aggregate.lifecycle world.mint = .live entity ∧
    mintRank entity = rank

/-- An assertion about the mint's stream, which nobody else touches. -/
theorem stable_mint (assertion : List TokenizedEquityMintEvent → Prop) :
    mintRole.Stable fun world => assertion world.mint := by
  intro before after same holds
  rwa [same.1]

theorem MintAt.stable (rank : Nat) : mintRole.Stable (MintAt rank) :=
  stable_mint fun stream => ∃ entity, TokenizedEquityMint.aggregate.lifecycle stream =
    .live entity ∧ mintRank entity = rank

theorem stable_stored (entity : TokenizedEquityMint) : mintRole.Stable fun world =>
    TokenizedEquityMint.aggregate.lifecycle world.mint = .live entity :=
  stable_mint fun stream => TokenizedEquityMint.aggregate.lifecycle stream = .live entity

theorem MintAt.ready {world : World} {leg : Leg} (mints : leg.direction = .mint)
    (stored : MintAt leg.rank world) : world.ready leg = true := by
  obtain ⟨entity, live, rank⟩ := stored
  simp [World.ready, mints, World.mint?, live, Lifecycle.entity?, rank]

theorem stable_submitted (leg : Leg) (hash : TxHash) :
    mintRole.Stable fun world => world.SubmittedAs leg hash :=
  fun _ _ moved submitted => submitted.extends moved.2

theorem stable_succeeded (leg : Leg) (hash : TxHash) :
    mintRole.Stable fun world => world.SucceededAs leg hash :=
  fun _ _ moved succeeded => succeeded.extends moved.2

/-- A program that leaves everything as it is. -/
def Keeps {ε α : Type} (program : Flow ε α) : Prop :=
  ∀ assertion : World → Prop, mintRole.Stable assertion →
    mintRole.Ensures assertion program fun _ => assertion

namespace Keeps

variable {ε α β : Type}

theorem ask (op : Op) (quiet : op.Quiet) (due : ∀ world, op.Due world) :
    Keeps (CrossVenueEquity.ask op : Flow ε op.Ret) := by
  intro assertion stable
  refine .perform stable fun before holds _ choice answer after handled => ?_
  obtain rfl := handle_quiet quiet handled
  exact ⟨due _, fun _ => holds⟩

theorem bind {program : Flow ε α} {f : α → Flow ε β} (first : Keeps program)
    (second : ∀ a, Keeps (f a)) : Keeps (program >>= f) :=
  fun assertion stable => (first assertion stable).bind fun a => second a assertion stable

theorem lift {result : Except ε α} : Keeps (Prog.liftExcept result : Flow ε α) :=
  fun _ _ => Role.Ensures.lift fun _ _ _ holds => holds

theorem pure {a : α} : Keeps (Pure.pure a : Flow ε α) :=
  fun _ _ => Role.Ensures.pure fun _ holds => holds

end Keeps

section Programs

variable {pre : World → Prop}

/-- What holds of a program from anywhere holds of it here. -/
theorem anywhere {ε α : Type} {program : Flow ε α} {post : α → World → Prop}
    (h : mintRole.Ensures (fun _ => True) program post) : mintRole.Ensures pre program post :=
  h.weaken (fun _ _ => trivial) fun _ _ holds => holds

theorem wrapper_keeps {α : Type} (answer : Except ChainError α) : Keeps (wrapper answer) := .lift

/-- A wrapper's answer is gone on with. -/
theorem wrapper_ok {α : Type} {answer : Except ChainError α} {post : α → World → Prop} :
    mintRole.Ensures (fun world => ∀ value, answer = .ok value → post value world)
      (wrapper answer) post := by
  refine .lift fun value accepted world holds => holds value ?_
  exact mapError_eq_ok.mp accepted

theorem raindex_ok {α : Type} {answer : Except ChainError α} {post : α → World → Prop} :
    mintRole.Ensures (fun world => ∀ value, answer = .ok value → post value world)
      (raindex answer) post := by
  refine .lift fun value accepted world holds => holds value ?_
  exact mapError_eq_ok.mp accepted

/-- A command that is due may be sent. -/
theorem sendMint_due (command : TokenizedEquityMintCommand) (stable : mintRole.Stable pre)
    (due : ∀ world, pre world → CommandDue command world) :
    mintRole.Ensures pre (sendMint command) fun _ _ => True := by
  have sent : mintRole.Ensures pre (ask (.mint command) : Flow MintError _) fun _ _ => True :=
    .perform stable fun before holds _ _ _ _ _ => ⟨due before holds, fun _ => trivial⟩
  exact sent.bind fun _ => .lift fun _ _ _ _ => trivial

/-- A command that says nothing of transactions is always due. -/
theorem sendMint_anywhere (command : TokenizedEquityMintCommand)
    (record : commandRecord command = none) (done : commandDone command = none)
    (other : isRecovery command = false) :
    mintRole.Ensures pre (sendMint command) fun _ _ => True := by
  refine anywhere (sendMint_due command .true fun world _ => ⟨?_, other⟩)
  rw [record, done]
  exact .none world

/-- A hash that was submitted may be recorded. -/
theorem sendMint_record {command : TokenizedEquityMintCommand} {leg : Leg} {hash : TxHash}
    (record : commandRecord command = some (leg, hash)) (done : commandDone command = none)
    (other : isRecovery command = false) :
    mintRole.Ensures (fun world => world.SubmittedAs leg hash) (sendMint command)
      fun _ world => world.SubmittedAs leg hash := by
  have due : ∀ world : World, world.SubmittedAs leg hash → CommandDue command world := by
    intro world submitted
    refine ⟨⟨fun leg' hash' recorded => ?_, ?_⟩, other⟩
    · cases record.symm.trans recorded
      exact submitted
    · simp [done]
  have sent : mintRole.Ensures (fun world => world.SubmittedAs leg hash)
      (ask (.mint command) : Flow MintError _) fun _ world => world.SubmittedAs leg hash := by
    refine .perform (stable_submitted leg hash) fun before submitted _ _ _ after handled => ?_
    have fits : (Op.mint command).Due before := due before submitted
    exact ⟨fits, fun _ => submitted.extends (handle_due fits handled).2⟩
  exact sent.bind fun _ => .lift fun _ _ _ submitted => submitted

/-- What has succeeded may be recorded as done. -/
theorem due_of_succeeded {command : TokenizedEquityMintCommand} {leg : Leg} {hash : TxHash}
    {world : World} (record : commandRecord command = none)
    (done : ∀ found, commandDone command = some found → found = (leg, hash))
    (other : isRecovery command = false) (succeeded : world.SucceededAs leg hash) :
    CommandDue command world := by
  refine ⟨⟨?_, fun leg' hash' recorded => ?_⟩, other⟩
  · simp [record]
  · cases done _ recorded
    exact succeeded

theorem sendMint_depositToVault (hash : TxHash) :
    mintRole.Ensures (fun world => world.SucceededAs .deposit hash)
      (sendMint (.depositToVault hash)) fun _ _ => True := by
  refine sendMint_due _ (stable_succeeded .deposit hash) fun world succeeded =>
    due_of_succeeded rfl ?_ rfl succeeded
  intro found recorded
  simp only [commandDone, depositDone] at recorded
  split at recorded <;> cases recorded
  rfl

theorem sendMint_wrapTokens (wrapTxHash : TxHash) (wrappedShares wrapBlock : Nat) :
    mintRole.Ensures (fun world => world.SucceededAs .wrap wrapTxHash)
      (sendMint (.wrapTokens wrapTxHash wrappedShares wrapBlock))
      fun _ => MintAt Leg.deposit.rank := by
  have sent : mintRole.Ensures (fun world => world.SucceededAs .wrap wrapTxHash)
      (ask (.mint (.wrapTokens wrapTxHash wrappedShares wrapBlock)) : Flow MintError _)
      fun answer world => answer = .ok () → MintAt Leg.deposit.rank world := by
    refine .perform (stable_succeeded .wrap wrapTxHash) fun before succeeded _ choice answer after
      handled => ?_
    refine ⟨due_of_succeeded rfl (fun _ recorded => (Option.some.inj recorded).symm) rfl succeeded,
      fun _ accepted => ?_⟩
    subst accepted
    rcases execute_cases TokenizedEquityMint.aggregate choice.commit choice.mint
      (.wrapTokens wrapTxHash wrappedShares wrapBlock) before.mint with
      ⟨error, refused⟩ | ⟨_, events, -, sent, grown⟩
    · simp only [handle, refused, Option.some.injEq, Prod.mk.injEq] at handled
      cases handled.1
    · simp only [handle, grown, Option.some.injEq, Prod.mk.injEq] at handled
      obtain ⟨mint, live⟩ := wrapped_of_sent sent
      rw [← handled.2]
      exact ⟨_, live, rfl⟩
  refine sent.bind fun answer => .lift fun _ accepted world holds => holds ?_
  exact mapError_eq_ok.mp accepted

/-- What is loaded is what the stream stands for. -/
theorem loadMint_loads (stable : mintRole.Stable pre) :
    mintRole.Ensures pre loadMint fun loaded world => pre world ∧ ∀ entity,
      loaded = some entity → TokenizedEquityMint.aggregate.lifecycle world.mint = .live entity := by
  have asked : mintRole.Ensures pre (ask .loadMint : Flow MintError _) fun answer world =>
      pre world ∧ ∀ entity, answer = .ok (some entity) →
        TokenizedEquityMint.aggregate.lifecycle world.mint = .live entity := by
    refine .perform stable fun before holds _ choice answer after handled => ?_
    cases handled
    refine ⟨trivial, fun _ => ⟨holds, fun entity loads => ?_⟩⟩
    split at loads
    case isTrue => cases loads
    case isFalse => exact (Aggregate.load_eq_some _).mp loads
  refine asked.bind fun answer => .lift fun loaded accepted world holds => ⟨holds.1, ?_⟩
  exact fun entity known => holds.2 entity (known ▸ mapError_eq_ok.mp accepted)

theorem loadMintEntity_loads (stable : mintRole.Stable pre) :
    mintRole.Ensures pre loadMintEntity fun entity world => pre world ∧
      TokenizedEquityMint.aggregate.lifecycle world.mint = .live entity := by
  refine (loadMint_loads stable).bind fun loaded => ?_
  cases loaded with
  | some entity => exact .pure fun _ holds => ⟨holds.1, holds.2 entity rfl⟩
  | none => exact .throw

theorem loadTokensReceived_loads :
    mintRole.Ensures pre loadTokensReceived fun _ => MintAt Leg.wrap.rank := by
  refine anywhere ((loadMint_loads .true).bind fun loaded => ?_)
  split
  case h_1 => exact .throw
  case h_2 mint => exact .pure fun _ holds => ⟨_, holds.2 _ rfl, rfl⟩
  case h_3 => exact .throw

theorem verifyReceivedMint_keeps (tokensReceived : TokensReceivedData) :
    Keeps (verifyReceivedMint tokensReceived) := by
  refine (Keeps.ask (.lookupUnderlying _) trivial fun _ => trivial).bind fun _ => ?_
  refine (wrapper_keeps _).bind fun token => ?_
  exact (Keeps.ask (.verifyMintTx ..) trivial fun _ => trivial).bind fun _ => .lift

theorem waitForBlock_keeps (block : Nat) :
    Keeps (do wrapper (← ask (.waitForBlock block))) :=
  (Keeps.ask (.waitForBlock block) trivial fun _ => trivial).bind fun _ => wrapper_keeps _

theorem waitForWrapBlock_keeps (block : Option Nat) : Keeps (waitForWrapBlock block) := by
  cases block with
  | none => exact .pure
  | some block => exact waitForBlock_keeps block

/-- Whoever is given a hash has submitted the transaction. -/
theorem broadcast_submitted {choice : Choice} {before after : World} {submission : Submission}
    {answer : Except ChainError TxHash}
    (sent : some (before.broadcast choice submission) = some (answer, after)) (hash : TxHash)
    (answered : answer = .ok hash) : after.SubmittedAs submission.leg hash := by
  subst answered
  obtain ⟨rfl, rfl⟩ := broadcast_acknowledged sent
  exact ⟨_, before.tx?_nextHash submission, rfl⟩

theorem submitWrap_submits (token : EvmAddress) (amount : Nat) (receiver : EvmAddress) :
    mintRole.Ensures (MintAt Leg.wrap.rank)
      (ask (.submitWrap token amount receiver) : Flow MintError _)
      fun answer world => ∀ hash, answer = .ok hash → world.SubmittedAs .wrap hash :=
  .perform (MintAt.stable _) fun _ stored _ _ _ _ handled =>
    ⟨stored.ready rfl, fun _ => broadcast_submitted handled⟩

theorem submitDeposit_submits (token : EvmAddress) (vaultId amount : Nat) :
    mintRole.Ensures (MintAt Leg.deposit.rank)
      (ask (.submitDeposit token vaultId amount) : Flow MintError _)
      fun answer world => ∀ hash, answer = .ok hash → world.SubmittedAs .deposit hash :=
  .perform (MintAt.stable _) fun _ stored _ _ _ _ handled =>
    ⟨stored.ready rfl, fun _ => broadcast_submitted handled⟩

theorem confirmWrap_confirms (token : EvmAddress) {leg : Leg} {hash : TxHash}
    (stable : mintRole.Stable pre)
    (submitted : ∀ world, pre world → world.Truthful → world.SubmittedAs leg hash) :
    mintRole.Ensures pre (ask (.confirmWrap token hash) : Flow MintError _)
      fun answer world => ∀ value, answer = .ok value → world.SucceededAs leg hash := by
  refine .perform stable fun before holds truthful choice answer after handled => ?_
  obtain ⟨rfl, told⟩ := confirm_told handled
  exact ⟨trivial, fun _ value answered =>
    (submitted after holds truthful).succeeded (told value answered)⟩

theorem confirmTx_confirms {leg : Leg} {hash : TxHash} (stable : mintRole.Stable pre)
    (submitted : ∀ world, pre world → world.Truthful → world.SubmittedAs leg hash) :
    mintRole.Ensures pre (ask (.confirmTx hash) : Flow MintError _)
      fun answer world => ∀ value, answer = .ok value → world.SucceededAs leg hash := by
  refine .perform stable fun before holds truthful choice answer after handled => ?_
  obtain ⟨rfl, told⟩ := confirm_told handled
  exact ⟨trivial, fun _ value answered =>
    (submitted after holds truthful).succeeded (told value answered)⟩

/-- What a stored mint waits for was submitted. -/
theorem submitted_of_awaits {world : World} {entity : TokenizedEquityMint} {leg : Leg}
    {hash : TxHash} (truthful : world.Truthful)
    (live : TokenizedEquityMint.aggregate.lifecycle world.mint = .live entity)
    (awaited : mintAwaits entity = some (leg, hash)) : world.SubmittedAs leg hash := by
  obtain ⟨event, member, recorded⟩ := mint_recalls.said live awaited
  exact (truthful.mint event member).1 leg hash recorded

variable (config : Config)

theorem wrapReceivedMint_wraps (tokensReceived : TokensReceivedData) :
    mintRole.Ensures (MintAt Leg.wrap.rank) (wrapReceivedMint config tokensReceived)
      fun _ => MintAt Leg.deposit.rank := by
  refine ((Keeps.ask (.lookupDerivative _) trivial fun _ => trivial) _ (.stable _)).bind fun _ => ?_
  refine (wrapper_keeps _ _ (.stable _)).bind fun token => ?_
  refine (submitWrap_submits ..).bind fun _ => wrapper_ok.bind fun wrapTxHash => ?_
  refine (sendMint_record rfl rfl rfl).bind fun _ => ?_
  refine (confirmWrap_confirms _ (stable_submitted _ _) fun _ submitted _ => submitted).bind
    fun _ => wrapper_ok.bind fun confirmation => ?_
  exact (sendMint_wrapTokens ..).bind fun _ => .pure fun _ stored => stored

theorem depositWrappedMint_ensures (wrappedToken : EvmAddress) (wrappedShares : Nat) :
    mintRole.Ensures (MintAt Leg.deposit.rank) (depositWrappedMint wrappedToken wrappedShares)
      fun _ _ => True := by
  refine ((Keeps.ask (.vaultIdForToken _) trivial fun _ => trivial) _ (.stable _)).bind fun _ => ?_
  refine (Keeps.lift _ (.stable _)).bind fun vaultId => ?_
  refine (submitDeposit_submits ..).bind fun _ => raindex_ok.bind fun vaultDepositTxHash => ?_
  refine (sendMint_record rfl rfl rfl).bind fun _ => ?_
  refine (confirmTx_confirms (stable_submitted _ _) fun _ submitted _ => submitted).bind fun _ => ?_
  exact raindex_ok.bind fun _ => sendMint_depositToVault _

theorem tryDepositOrRecover_ensures (wrappedToken : EvmAddress) (wrappedShares : Nat) :
    mintRole.Ensures (MintAt Leg.deposit.rank) (tryDepositOrRecover wrappedToken wrappedShares)
      fun _ _ => True := by
  refine (depositWrappedMint_ensures wrappedToken wrappedShares).capture.bind fun result => ?_
  cases result with
  | ok => exact .pure fun _ _ => trivial
  | error error =>
      dsimp only
      split
      case isTrue => exact sendMint_anywhere (.depositToVault 0) rfl rfl rfl
      case isFalse => exact .throw

theorem finalizeReceivedMint_ensures (tokensReceived : TokensReceivedData) :
    mintRole.Ensures (MintAt Leg.wrap.rank) (finalizeReceivedMint config tokensReceived)
      fun _ _ => True := by
  refine (verifyReceivedMint_keeps tokensReceived _ (.stable _)).bind fun _ => ?_
  refine (wrapReceivedMint_wraps config tokensReceived).bind fun wrapped => ?_
  refine ((Keeps.ask (.waitForBlock _) trivial fun _ => trivial) _ (.stable _)).bind fun _ => ?_
  exact (wrapper_keeps _ _ (.stable _)).bind fun _ => depositWrappedMint_ensures ..

/-- The turns before the mint has something for its last one. -/
def mintLeft (world : World) : Nat :=
  (world.mint?.map fun entity => 2 - mintRank entity).getD 0

def MintWithin (bound : Nat) (world : World) : Prop := mintLeft world < bound

theorem mintLeft_le (world : World) : mintLeft world ≤ 2 := by
  simp only [mintLeft]
  cases world.mint? with
  | none => exact Nat.zero_le 2
  | some entity => exact Nat.sub_le 2 _

theorem mintLeft_stable (assertion : Nat → Prop) :
    mintRole.Stable fun world => assertion (mintLeft world) := by
  intro before after same holds
  simpa only [mintLeft, World.mint?, same.1] using holds

/-- The issuer's last word is waited for once. -/
theorem sendMint_poll (mint : TokenizedEquityMint.Accepted) :
    mintRole.Ensures (fun world => TokenizedEquityMint.aggregate.lifecycle world.mint =
      .live (.mintAccepted mint)) (sendMint .poll) fun _ world => mintLeft world < 1 := by
  have asked : mintRole.Ensures (fun world => TokenizedEquityMint.aggregate.lifecycle world.mint =
      .live (.mintAccepted mint)) (ask (.mint .poll) : Flow MintError _)
      fun answer world => answer = .ok () → mintLeft world < 1 := by
    refine .perform (stable_stored _) fun before stored _ choice answer after handled => ?_
    refine ⟨⟨.none before, rfl⟩, fun _ accepted => ?_⟩
    subst accepted
    rcases execute_cases TokenizedEquityMint.aggregate choice.commit choice.mint .poll
      before.mint with ⟨_, refused⟩ | ⟨_, events, -, sent, grown⟩
    · simp only [handle, refused, Option.some.injEq, Prod.mk.injEq] at handled
      cases handled.1
    · simp only [handle, grown, Option.some.injEq, Prod.mk.injEq] at handled
      obtain ⟨-, rfl⟩ := handled
      rcases TokenizedEquityMint.aggregate.send_eq_ok.mp sent with ⟨absent, -⟩ | ⟨_, found, moved⟩
      · cases stored.symm.trans absent
      · cases stored.symm.trans found
        have polled : TokenizedEquityMint.pollAccepted choice.mint mint = .ok events := moved
        obtain ⟨event, next, rfl, moves⟩ := TokenizedEquityMint.pollAccepted_moves polled
        have risen : 2 ≤ mintRank next := rank_of_polled moves
        simp only [mintLeft, World.mint?, Aggregate.lifecycle_append, stored,
          Aggregate.replay_cons, Aggregate.replay_nil, Aggregate.apply, moves.evolves,
          Lifecycle.entity?, Option.map_some, Option.getD_some]
        omega
  refine asked.bind fun answer => .lift fun _ accepted world holds => holds ?_
  exact mapError_eq_ok.mp accepted

/-- A turn starts from what it loaded, and is the last one unless it polls. -/
theorem resumeMintFrom_ensures (entity : TokenizedEquityMint) :
    mintRole.Ensures
      (fun world => TokenizedEquityMint.aggregate.lifecycle world.mint = .live entity)
      (resumeMintFrom config entity)
      (turned (fun _ _ => True) fun world => mintLeft world < 2 - mintRank entity) := by
  cases entity with
  | mintRequested => exact .throw
  | mintAccepted =>
      exact (sendMint_poll _).bind fun _ => .pure fun _ fewer => fewer
  | tokensReceived =>
      refine loadTokensReceived_loads.bind fun tokensReceived => ?_
      exact (finalizeReceivedMint_ensures config tokensReceived).bind fun _ =>
        .pure fun _ _ => trivial
  | wrapSubmitted mint wrapTxHash =>
      have stable := stable_stored (.wrapSubmitted mint wrapTxHash)
      refine ((Keeps.ask (.lookupDerivative _) trivial fun _ => trivial) _ stable).bind fun _ => ?_
      refine (wrapper_keeps _ _ stable).bind fun wrappedToken => ?_
      refine (confirmWrap_confirms _ stable fun _ live truthful =>
        submitted_of_awaits truthful live rfl).bind fun _ => wrapper_ok.bind fun confirmation => ?_
      refine (sendMint_wrapTokens ..).bind fun _ => ?_
      refine ((Keeps.ask (.waitForBlock _) trivial fun _ => trivial) _ (.stable _)).bind fun _ => ?_
      refine (wrapper_keeps _ _ (.stable _)).bind fun _ => ?_
      exact (tryDepositOrRecover_ensures ..).bind fun _ => .pure fun _ _ => trivial
  | tokensWrapped mint wrapBlock =>
      have stored : ∀ world : World, TokenizedEquityMint.aggregate.lifecycle world.mint =
          .live (.tokensWrapped mint wrapBlock) → MintAt Leg.deposit.rank world :=
        fun _ live => ⟨_, live, rfl⟩
      refine Role.Ensures.weaken ?_ stored fun _ _ holds => holds
      refine ((Keeps.ask (.lookupDerivative _) trivial fun _ => trivial) _ (.stable _)).bind
        fun _ => ?_
      refine (wrapper_keeps _ _ (.stable _)).bind fun wrappedToken => ?_
      refine (waitForWrapBlock_keeps wrapBlock _ (.stable _)).bind fun _ => ?_
      exact (tryDepositOrRecover_ensures ..).bind fun _ => .pure fun _ _ => trivial
  | vaultDepositSubmitted mint vaultDepositTxHash =>
      refine (confirmTx_confirms (stable_stored _) fun _ live truthful =>
        submitted_of_awaits truthful live rfl).bind fun _ => raindex_ok.bind fun _ => ?_
      exact (sendMint_depositToVault _).bind fun _ => .pure fun _ _ => trivial
  | depositedIntoRaindex | failed | reconciled => exact .pure fun _ _ => trivial

/-- Three turns are enough. -/
theorem resumeMint_ends (turns : Nat) :
    mintRole.Ensures (fun _ => True) (resumeMint config turns)
      fun result _ => 3 ≤ turns → result ≠ none := by
  have turn : ∀ bound, mintRole.Ensures (MintWithin (bound + 1))
      (do let entity ← loadMintEntity; resumeMintFrom config entity)
      (turned (fun _ _ => True) (MintWithin bound)) := by
    intro bound
    refine (loadMintEntity_loads (mintLeft_stable (· < bound + 1))).bind fun entity => ?_
    refine ⟨fun world holds => ?_⟩
    obtain ⟨near, live⟩ := holds
    simp only [mintLeft, World.mint?, live, Lifecycle.entity?, Option.map_some,
      Option.getD_some] at near
    refine ((resumeMintFrom_ensures config entity).weaken (fun _ stored => stored)
      fun result world ends => ?_).sat world live
    cases result with
    | some => trivial
    | none => exact Nat.lt_of_lt_of_le ends (Nat.le_of_lt_succ near)
  by_cases enough : 3 ≤ turns
  · refine (Role.Ensures.loop_within (fun _ => Nat.not_lt_zero _) turn enough).weaken ?_ ?_
    · intro world _
      exact Nat.lt_succ_of_le (mintLeft_le world)
    · intro result world ends _ spent
      subst spent
      exact ends
  · have kept : mintRole.Ensures (fun _ => True)
        (do let entity ← loadMintEntity; resumeMintFrom config entity)
        (turned (fun _ _ => True) fun _ => True) := by
      refine (loadMintEntity_loads .true).bind fun entity => ?_
      exact (resumeMintFrom_ensures config entity).weaken (fun _ holds => holds.2)
        fun result world _ => turned_true result world
    exact (Role.Ensures.loop kept turns).weaken (fun _ _ => trivial)
      fun _ _ _ many => absurd many enough

theorem startMint_ensures (symbol : Symbol) (quantity : FractionalShares) :
    mintRole.Ensures (fun _ => True) (startMint config symbol quantity) fun _ _ => True := by
  refine (sendMint_anywhere (.requestMint ..) rfl rfl rfl).mapError.bind fun _ => ?_
  refine (sendMint_anywhere .poll rfl rfl rfl).mapError.bind fun _ => ?_
  refine loadTokensReceived_loads.mapError.bind fun tokensReceived => ?_
  exact (finalizeReceivedMint_ensures config tokensReceived).mapError

theorem resumeUnreceivedMint_ends (turns : Nat) :
    mintRole.Ensures (fun _ => True) (resumeUnreceivedMint config turns)
      fun result _ => 3 ≤ turns → result ≠ none := by
  refine (resumeMint_ends config turns).capture.bind fun result => ?_
  cases result with
  | ok done => exact .pure fun _ ends => ends done rfl
  | error error => exact (anywhere (loadMintEntity_loads .true).capture).bind fun _ => .throw

theorem resumeEquityToMarketMaking_ends (symbol : Symbol) (quantity : FractionalShares)
    (turns : Nat) : mintRole.Ensures (fun _ => True)
      (resumeEquityToMarketMaking config symbol quantity turns)
        fun result _ => 3 ≤ turns → result ≠ none := by
  refine (loadMint_loads .true).mapError.bind fun loaded => ?_
  split
  case h_1 =>
      refine (anywhere (startMint_ensures config symbol quantity)).bind fun _ => .pure ?_
      simp
  case h_2 => exact anywhere (resumeUnreceivedMint_ends config turns)
  case h_3 => exact anywhere (resumeUnreceivedMint_ends config turns)
  case h_4 => exact anywhere (resumeMint_ends config turns).mapError

end Programs

end Liquidity.CrossVenueEquity
