import Liquidity.EventSourcing.Runs
import Liquidity.UsdcRebalance.Stage

/-!
# What a rebalance keeps to, and when

A rebalance is meant to take one direction, to burn once, at most what was
withdrawn, and to be over when it has ended. The aggregate checks all of this but
two things. It lets a withdrawal begin after the conversion that ends a
BaseToAlpaca transfer, and it takes a negative burn amount for one in range. A
run is orderly exactly when neither happens.
-/

namespace Liquidity

open EventSourcing

/-- The burn amount an event records. -/
def UsdcRebalanceEvent.burnAmount? : UsdcRebalanceEvent → Option Usdc
  | .bridgingSubmitting _ _ burnAmount => burnAmount
  | _ => none

namespace UsdcRebalance

/-- What was withdrawn, while the burn is being decided on. -/
def withdrawn? : UsdcRebalance → Option Usdc
  | .withdrawalComplete _ amount .. => some amount
  | _ => none

/-- The burn transaction, in the states that have the field. -/
def burnTxField : UsdcRebalance → Option (Option TxHash)
  | .bridging _ _ burnTxHash .. | .awaitingAttestation _ _ burnTxHash ..
  | .attested _ _ burnTxHash .. | .bridged _ _ _ _ burnTxHash ..
  | .depositInitiated _ _ burnTxHash .. | .depositConfirmed _ _ burnTxHash ..
  | .depositFailed _ _ burnTxHash .. => some (some burnTxHash)
  | .bridgingFailed _ _ burnTxHash .. => some burnTxHash
  | _ => none

/-- The states that end a transfer without holding the guard. -/
def isEnded : UsdcRebalance → Bool
  | .conversionComplete .baseToAlpaca .. | .depositConfirmed .alpacaToBase ..
  | .withdrawalFailed .. | .conversionFailed .alpacaToBase .. | .bridgingFailed _ _ none ..
  | .reconciled .. => true
  | _ => false

/-- The failures after a burn. -/
def isPostBurnFailure : UsdcRebalance → Bool
  | .bridgingFailed _ _ (some _) .. | .depositFailed ..
  | .conversionFailed .baseToAlpaca .. => true
  | _ => false

/-- What a command may not be in the state it meets: a withdrawal after the end of
a BaseToAlpaca transfer, or a burn of less than nothing. -/
def Proper : Lifecycle UsdcRebalance → UsdcRebalanceCommand → Prop
  | .live (.conversionComplete .baseToAlpaca _ conversion _ _),
      .beginWithdrawal direction amount _ =>
      ¬ (direction = .baseToAlpaca ∧ amount = conversion.receivedAmount)
  | .live (.conversionComplete .baseToAlpaca _ conversion _ _), .initiate direction amount _ =>
      ¬ (direction = .baseToAlpaca ∧ amount = conversion.receivedAmount)
  | .live (.withdrawalComplete _ amount _ _ _), .beginBridging _ (some burn) =>
      ¬ (burn < 0 ∧ burn ≤ amount)
  | _, _ => True

/-- An orderly run of commands. -/
structure Orderly (commands : List (Time × UsdcRebalanceCommand)) : Prop where
  accepted : ∀ before, before <+: aggregate.sends commands [] →
    aggregate.lifecycle before ≠ .failed
  direction : ∀ before during first last, before ++ during <+: aggregate.sends commands [] →
    aggregate.lifecycle before = .live first →
    aggregate.lifecycle (before ++ during) = .live last → last.direction = first.direction
  burnAmount : ∀ before event burn, before ++ [event] <+: aggregate.sends commands [] →
    event.burnAmount? = some burn → ∃ entity amount, aggregate.lifecycle before = .live entity ∧
      entity.withdrawn? = some amount ∧ 0 < burn ∧ burn ≤ amount
  burnTxHash : ∀ before burnTx time during last found,
    before ++ [.bridgingInitiated burnTx time] ++ during <+: aggregate.sends commands [] →
    aggregate.lifecycle (before ++ [.bridgingInitiated burnTx time] ++ during) = .live last →
    last.burnTxField = some found → found = some burnTx
  ended : ∀ first now command rest entity, commands = first ++ (now, command) :: rest →
    aggregate.lifecycle (aggregate.sends first []) = .live entity → entity.isEnded →
    ∀ events, aggregate.send now command (aggregate.sends first []) ≠ .ok events
  failed : ∀ first now command rest entity, commands = first ++ (now, command) :: rest →
    aggregate.lifecycle (aggregate.sends first []) = .live entity → entity.isPostBurnFailure →
    ∀ events, aggregate.send now command (aggregate.sends first []) = .ok events →
      (entity.phase = .bridgingFailed ∧ ∃ mintTx received fee,
        command = .recoverBridging mintTx received fee) ∨
      ∃ reason, command = .reconcileStuckRebalance reason

/-! ## Proper runs -/

/-- What a proper command adds. -/
structure Adds (entity : UsdcRebalance) (event : UsdcRebalanceEvent) (next : UsdcRebalance) :
    Prop where
  advances : Advances (some entity) event next
  burns : ∀ burn, event.burnAmount? = some burn → 0 < burn

theorem Adds.evolve {entity next : UsdcRebalance} {event : UsdcRebalanceEvent}
    (adds : Adds entity event next) : aggregate.evolve entity event = .ok (some next) :=
  congrArg Except.ok adds.advances.next

/-- A proper command that is accepted is an issued one. -/
theorem Proper.issued {entity : UsdcRebalance} {now : Time} {command : UsdcRebalanceCommand}
    {events : List UsdcRebalanceEvent} (proper : Proper (.live entity) command)
    (answered : transition now entity command = .ok events) :
    UsdcRebalance.issued (some entity) command = true := by
  cases command with
  | initiateConversion => cases answered
  | beginWithdrawal direction amount fromBlock =>
      cases entity with
      | conversionComplete convDirection nominal conversion initiatedAt convertedAt =>
          cases convDirection with
          | alpacaToBase => rfl
          | baseToAlpaca =>
              simp only [transition, transitionBeginWithdrawal] at answered
              split at answered
              · cases answered
              · rename_i sameDirection
                split at answered
                · cases answered
                · rename_i sameAmount
                  exact absurd ⟨not_not.mp sameDirection, not_not.mp sameAmount⟩ proper
      | _ => rfl
  | initiate direction amount withdrawal =>
      cases entity with
      | conversionComplete convDirection nominal conversion initiatedAt convertedAt =>
          cases convDirection with
          | alpacaToBase => rfl
          | baseToAlpaca =>
              simp only [transition, transitionInitiateWithdrawal, withdrawalEntry] at answered
              split at answered
              · cases answered
              · rename_i sameDirection
                split at answered
                · cases answered
                · rename_i sameAmount
                  exact absurd ⟨not_not.mp sameDirection, not_not.mp sameAmount⟩ proper
      | _ => rfl
  | _ => rfl

/-- A burn that is recorded is in range. -/
theorem burnAmount_of_advances {entity next : UsdcRebalance} {event : UsdcRebalanceEvent}
    (advances : Advances (some entity) event next) {burn : Usdc}
    (burns : event.burnAmount? = some burn) :
    ∃ amount, entity.withdrawn? = some amount ∧ burn ≠ 0 ∧ burn ≤ amount := by
  cases advances with
  | beginBridging _ amount _ _ _ _ burnAmount _ inRange =>
      have within := inRange burn burns
      simp only [burnAmountOutOfRange, Bool.or_eq_false_iff, decide_eq_false_iff_not, not_lt]
        at within
      exact ⟨amount, rfl, within.1, within.2⟩
  | _ => cases burns

/-- The amount of a recorded burn is the command's. -/
theorem beginBridging_of_burnAmount {command : UsdcRebalanceCommand} {event : UsdcRebalanceEvent}
    (announces : command.Announces event) {burn : Usdc} (burns : event.burnAmount? = some burn) :
    ∃ fromBlock, command = .beginBridging fromBlock (some burn) := by
  cases command with
  | beginBridging fromBlock burnAmount =>
      obtain ⟨time, rfl⟩ := announces
      cases burns
      exact ⟨fromBlock, rfl⟩
  | confirmConversion | timeoutAttestation | confirmDeposit | failDeposit =>
      obtain ⟨_, _, rfl⟩ := announces
      cases burns
  | failBridging =>
      obtain ⟨_, _, _, rfl⟩ := announces
      cases burns
  | reconcileStuckRebalance =>
      obtain ⟨_, _, _, _, rfl⟩ := announces
      cases burns
  | _ =>
      obtain ⟨_, rfl⟩ := announces
      cases burns

/-- What an accepted proper command appends: one event it adds, or nothing. -/
theorem Proper.adds {entity : UsdcRebalance} {now : Time} {command : UsdcRebalanceCommand}
    {events : List UsdcRebalanceEvent} (proper : Proper (.live entity) command)
    (answered : transition now entity command = .ok events) :
    events = [] ∨ ∃ event next, events = [event] ∧ Adds entity event next := by
  rcases transition_appends (proper.issued answered) answered with
    none | ⟨event, next, rfl, advances⟩
  · exact .inl none
  · refine .inr ⟨event, next, rfl, advances, ?_⟩
    intro burn burns
    obtain ⟨amount, withdrawn, nonzero, most⟩ := burnAmount_of_advances advances burns
    have announces := transition_announces answered (List.mem_singleton_self event)
    obtain ⟨fromBlock, rfl⟩ := beginBridging_of_burnAmount announces burns
    cases entity with
    | withdrawalComplete =>
        cases withdrawn
        by_contra notPositive
        exact proper ⟨lt_of_le_of_ne (not_lt.mp notPositive) nonzero, most⟩
    | _ => cases withdrawn

/-- The stream of a proper run is a path through the states. -/
theorem written_of_proper {commands : List (Time × UsdcRebalanceCommand)}
    (proper : aggregate.Each Proper commands) :
    aggregate.sends commands [] = [] ∨
      ∃ entity, aggregate.Written Adds (aggregate.sends commands []) entity := by
  refine aggregate.sends_invariant_each
    (fun stream => stream = [] ∨ ∃ entity, aggregate.Written Adds stream entity) ?_ proper
    (.inl rfl)
  intro now command stream events allowed sofar sent
  rcases aggregate.send_eq_ok.mp sent with ⟨absent, begun⟩ | ⟨entity, live, moved⟩
  · rw [aggregate.lifecycle_eq_uninitialized.mp absent]
    right
    change initialise now command = .ok events at begun
    cases command with
    | initiateConversion | initiate =>
        cases begun
        exact ⟨_, .first rfl⟩
    | beginWithdrawal =>
        simp only [initialise, beginWithdrawalInitEvents] at begun
        split at begun <;> cases begun
        exact ⟨_, .first rfl⟩
    | _ => cases begun
  · rcases sofar with rfl | ⟨entity', written⟩
    · cases live
    · have live' := written.lifecycle_of Adds.evolve
      rw [live] at live'
      cases live'
      right
      rw [live] at allowed
      rcases allowed.adds moved with rfl | ⟨event, next, rfl, adds⟩
      · exact ⟨entity, by simpa using written⟩
      · exact ⟨next, written.next adds⟩

/-- A part of a path is a path. -/
theorem written_prefix {stream before : List UsdcRebalanceEvent} {last : UsdcRebalance}
    (written : aggregate.Written Adds stream last) (part : before <+: stream)
    (begun : before ≠ []) : ∃ entity, aggregate.Written Adds before entity := by
  obtain ⟨rest, rfl⟩ := part
  induction rest using List.reverseRecOn generalizing last with
  | nil => exact ⟨last, by simpa using written⟩
  | append_singleton earlier event ih =>
      rw [← List.append_assoc] at written
      rcases written.concat_inv with ⟨empty, _⟩ | ⟨entity, shorter, _⟩
      · exact absurd (List.append_eq_nil_iff.mp empty).1 begun
      · exact ih shorter

section ProperRuns

variable {commands : List (Time × UsdcRebalanceCommand)}

theorem written_of_live (proper : aggregate.Each Proper commands)
    {before : List UsdcRebalanceEvent} (part : before <+: aggregate.sends commands [])
    {entity : UsdcRebalance} (live : aggregate.lifecycle before = .live entity) :
    aggregate.Written Adds before entity := by
  have begun : before ≠ [] := by
    rintro rfl
    cases live
  rcases written_of_proper proper with empty | ⟨last, written⟩
  · rw [empty] at part
    exact absurd (List.prefix_nil.mp part) begun
  · obtain ⟨found, shorter⟩ := written_prefix written part begun
    have live' := shorter.lifecycle_of Adds.evolve
    rw [live] at live'
    cases live'
    exact shorter

theorem lifecycle_ne_failed_of_proper (proper : aggregate.Each Proper commands) :
    aggregate.lifecycle (aggregate.sends commands []) ≠ .failed := by
  rcases written_of_proper proper with empty | ⟨last, written⟩
  · rw [empty]
    nofun
  · rw [written.lifecycle_of Adds.evolve]
    nofun

/-- Every part of a proper run a command runs in is proper. -/
theorem proper_take (proper : aggregate.Each Proper commands)
    {first rest : List (Time × UsdcRebalanceCommand)} (whole : commands = first ++ rest) :
    aggregate.Each Proper first := by
  subst whole
  rintro before now command after rfl
  exact proper before now command (after ++ rest) (by simp)

/-- Without a burn there is no nonce. -/
def NonceAfterBurn : UsdcRebalance → Prop
  | .bridgingFailed _ _ none nonce .. => nonce = none
  | _ => True

theorem nonceAfterBurn_of_written {stream : List UsdcRebalanceEvent} {entity : UsdcRebalance}
    (written : aggregate.Written Adds stream entity) : entity.NonceAfterBurn := by
  cases written with
  | @first event entity originates =>
      change originate event = some entity at originates
      cases event <;> cases originates <;> trivial
  | next written added => cases added.advances <;> trivial

/-- After the burn: its hash is carried along until the transfer is reconciled or
enters its closing conversion. -/
def AfterBurn (burnTx : TxHash) : UsdcRebalance → Prop
  | .converting direction .. | .conversionComplete direction .. | .conversionFailed direction .. =>
      direction = .baseToAlpaca
  | .reconciled .. => True
  | entity => entity.burnTxField = some (some burnTx)

theorem AfterBurn.field {burnTx : TxHash} {entity : UsdcRebalance}
    (after : AfterBurn burnTx entity) {found : Option TxHash}
    (has : entity.burnTxField = some found) : found = some burnTx := by
  have same : entity.burnTxField = some (some burnTx) := by
    cases entity <;> first | exact after | cases has
  rw [has] at same
  exact Option.some.inj same

theorem AfterBurn.advances {burnTx : TxHash} {entity next : UsdcRebalance}
    {event : UsdcRebalanceEvent} (after : AfterBurn burnTx entity)
    (advances : Advances (some entity) event next) : AfterBurn burnTx next := by
  cases advances <;> first
    | exact after
    | rfl
    | trivial

theorem clearPendingBurn_phase {entity : UsdcRebalance} {now : Time}
    {events : List UsdcRebalanceEvent}
    (answered : transition now entity .clearPendingBurn = .ok events) :
    entity.phase = .bridgingSubmitting := by
  simp only [transition, transitionClearPendingBurn] at answered
  split at answered <;> first | rfl | cases answered

theorem ended_refuses {entity : UsdcRebalance} (known : entity.NonceAfterBurn)
    (ended : entity.isEnded) {now : Time} {command : UsdcRebalanceCommand}
    (proper : Proper (.live entity) command) (events : List UsdcRebalanceEvent) :
    transition now entity command ≠ .ok events := by
  intro answered
  rcases transition_appends (proper.issued answered) answered with
    rfl | ⟨event, next, rfl, advances⟩
  · obtain ⟨rfl, _⟩ := transition_eq_nil answered
    have submitting := clearPendingBurn_phase answered
    cases entity with
    | bridgingSubmitting => cases ended
    | _ => cases submitting
  · cases advances with
    | reconcileBridging _ _ burnTx nonce _ _ _ _ _ postBurn =>
        cases burnTx with
        | none =>
            have absent : nonce = none := known
            subst absent
            cases postBurn
        | some burnTx => cases ended
    | confirmConversion direction | failConversion direction => cases ended
    | _ => cases ended

theorem failure_accepts {entity : UsdcRebalance} (failure : entity.isPostBurnFailure) {now : Time}
    {command : UsdcRebalanceCommand} (proper : Proper (.live entity) command)
    {events : List UsdcRebalanceEvent} (answered : transition now entity command = .ok events) :
    (entity.phase = .bridgingFailed ∧ ∃ mintTx received fee,
        command = .recoverBridging mintTx received fee) ∨
      ∃ reason, command = .reconcileStuckRebalance reason := by
  rcases transition_appends (proper.issued answered) answered with
    rfl | ⟨event, next, rfl, advances⟩
  · obtain ⟨rfl, _⟩ := transition_eq_nil answered
    have submitting := clearPendingBurn_phase answered
    cases entity with
    | bridgingSubmitting => cases failure
    | _ => cases submitting
  · have announces := transition_announces answered (List.mem_singleton_self event)
    cases advances with
    | recoverBridging =>
        left
        refine ⟨rfl, ?_⟩
        cases command <;> simp [UsdcRebalanceCommand.Announces] at announces ⊢
    | reconcileDeposit | reconcileConversion | reconcileBridging =>
        right
        cases command <;> simp [UsdcRebalanceCommand.Announces] at announces ⊢
    | _ => cases failure

/-- A proper run is orderly. -/
theorem orderly_of_proper (proper : aggregate.Each Proper commands) : Orderly commands where
  accepted := fun before part =>
    Aggregate.lifecycle_ne_failed_of_prefix part (lifecycle_ne_failed_of_proper proper)
  direction := by
    intro before during first last part starts ends
    refine (written_of_live proper part ends).between Adds.evolve starts
      (fun entity => entity.direction = first.direction) rfl ?_
    intro entity event next _ same adds
    cases adds.advances <;> exact same
  burnAmount := by
    intro before event burn part burns
    rcases written_of_proper proper with empty | ⟨last, written⟩
    · rw [empty] at part
      simp at part
    · obtain ⟨found, shorter⟩ := written_prefix written part (by simp)
      rcases shorter.concat_inv with ⟨_, originates⟩ | ⟨entity, earlier, adds⟩
      · change originate event = some found at originates
        cases event with
        | bridgingSubmitting => cases originates
        | _ => cases burns
      · obtain ⟨amount, withdrawn, _, most⟩ := burnAmount_of_advances adds.advances burns
        exact ⟨entity, amount, earlier.lifecycle_of Adds.evolve, withdrawn, adds.burns burn burns,
          most⟩
  burnTxHash := by
    intro before burnTx time during last found part ends has
    have written := written_of_live proper part ends
    obtain ⟨burnt, upTo⟩ := written_prefix written (List.prefix_append _ during) (by simp)
    have after : AfterBurn burnTx burnt := by
      rcases upTo.concat_inv with ⟨_, originates⟩ | ⟨entity, _, adds⟩
      · cases originates
      · cases adds.advances <;> rfl
    have kept : AfterBurn burnTx last :=
      written.between Adds.evolve (upTo.lifecycle_of Adds.evolve) (AfterBurn burnTx) after
        fun _ sofar adds => sofar.advances adds.advances
    exact kept.field has
  ended := by
    intro first now command rest entity whole live ended events sent
    have allowed := proper first now command rest whole
    rw [live] at allowed
    have written := written_of_live (proper_take proper whole) (List.prefix_refl _) live
    rcases aggregate.send_eq_ok.mp sent with ⟨absent, _⟩ | ⟨entity', live', moved⟩
    · rw [live] at absent
      cases absent
    · rw [live] at live'
      cases live'
      exact ended_refuses (nonceAfterBurn_of_written written) ended allowed events moved
  failed := by
    intro first now command rest entity whole live failure events sent
    have allowed := proper first now command rest whole
    rw [live] at allowed
    rcases aggregate.send_eq_ok.mp sent with ⟨absent, _⟩ | ⟨entity', live', moved⟩
    · rw [live] at absent
      cases absent
    · rw [live] at live'
      cases live'
      exact failure_accepts failure allowed moved

/-- The command a run comes to is answered, and its answer is in the stream. -/
theorem sent_prefix {first : List (Time × UsdcRebalanceCommand)} {now : Time}
    {command : UsdcRebalanceCommand} {events : List UsdcRebalanceEvent}
    (rest : List (Time × UsdcRebalanceCommand))
    (sent : aggregate.send now command (aggregate.sends first []) = .ok events) :
    aggregate.sends first [] ++ events <+:
      aggregate.sends (first ++ (now, command) :: rest) [] := by
  rw [Aggregate.sends_append]
  simp only [Aggregate.sends, sent]
  exact aggregate.prefix_sends rest _

/-- An improper command is accepted, and breaks the order. -/
theorem proper_of_orderly (orderly : Orderly commands) : aggregate.Each Proper commands := by
  rintro first now command rest rfl
  cases live : aggregate.lifecycle (aggregate.sends first []) with
  | uninitialized => trivial
  | failed => trivial
  | live entity =>
      have accepts : ∀ {events}, transition now entity command = .ok events →
          aggregate.send now command (aggregate.sends first []) = .ok events :=
        fun answered => aggregate.send_eq_ok.mpr (.inr ⟨entity, live, answered⟩)
      have closed : entity.isEnded → ∃ error, transition now entity command = .error error := by
        intro ended
        cases answered : transition now entity command with
        | error error => exact ⟨error, rfl⟩
        | ok events =>
            exact absurd (accepts answered)
              (orderly.ended first now command rest entity rfl live ended events)
      unfold Proper
      split
      · rename_i same
        cases same
        rintro ⟨rfl, rfl⟩
        obtain ⟨error, refused⟩ := closed rfl
        simp [transition, transitionBeginWithdrawal] at refused
      · rename_i same
        cases same
        rintro ⟨rfl, rfl⟩
        obtain ⟨error, refused⟩ := closed rfl
        simp [transition, transitionInitiateWithdrawal, withdrawalEntry] at refused
      · rename_i direction amount initiatedAt confirmedAt withdrawalTx fromBlock burn same
        cases same
        rintro ⟨negative, most⟩
        have inRange : burnAmountOutOfRange burn amount = false := by
          simp [burnAmountOutOfRange, negative.ne, most]
        have answered : transition now
            (.withdrawalComplete direction amount initiatedAt confirmedAt withdrawalTx)
            (.beginBridging fromBlock (some burn)) =
              .ok [.bridgingSubmitting fromBlock now (some burn)] := by
          simp [transition, transitionBeginBridging, inRange]
        have part := sent_prefix rest (accepts answered)
        obtain ⟨_, _, _, _, positive, _⟩ := orderly.burnAmount _ _ burn part rfl
        exact absurd positive negative.not_gt
      · trivial

/-- A run is orderly exactly when all its commands are proper. -/
theorem orderly_iff_proper (commands : List (Time × UsdcRebalanceCommand)) :
    Orderly commands ↔ aggregate.Each Proper commands :=
  ⟨proper_of_orderly, orderly_of_proper⟩

end ProperRuns

/-- A BaseToAlpaca transfer from its withdrawal to the conversion that ends it. -/
def completedTransfer : List (Time × UsdcRebalanceCommand) :=
  [(1, .beginWithdrawal .baseToAlpaca 10 100),
    (2, .initiate .baseToAlpaca 10 (.onchainTx 1)),
    (3, .confirmWithdrawal none),
    (4, .beginBridging 101 (some 10)),
    (5, .initiateBridging 2),
    (6, .receiveAttestation [] 1 [] 200),
    (7, .confirmBridging 3 9 1),
    (8, .initiateDeposit (.onchainTx 4)),
    (9, .confirmDeposit),
    (10, .initiatePostDepositConversion ⟨5⟩ 9),
    (11, .confirmConversion ⟨9, 9⟩)]

/-- A withdrawal whose burn is announced with a negative amount. -/
def negativeBurn : List (Time × UsdcRebalanceCommand) :=
  [(1, .beginWithdrawal .baseToAlpaca 10 100),
    (2, .initiate .baseToAlpaca 10 (.onchainTx 1)),
    (3, .confirmWithdrawal none),
    (4, .beginBridging 101 (some (-1)))]

/-- An ended transfer withdraws again, and a burn of less than nothing is recorded. -/
theorem orderly_fails :
    ¬ Orderly (completedTransfer ++ [(12, .beginWithdrawal .baseToAlpaca 9 300)]) ∧
      ¬ Orderly negativeBurn := by
  constructor
  · intro orderly
    have ended : aggregate.lifecycle (aggregate.sends completedTransfer []) =
        .live (.conversionComplete .baseToAlpaca 9 ⟨9, 9⟩ 2 11) := by decide +kernel
    have refused := orderly.ended completedTransfer 12 (.beginWithdrawal .baseToAlpaca 9 300) [] _
      rfl ended rfl [.withdrawalSubmitting .baseToAlpaca 9 300 12]
    apply refused
    rw [Aggregate.send, ended]
    rfl
  · intro orderly
    have recorded : aggregate.sends negativeBurn [] =
        (aggregate.sends negativeBurn []).take 3 ++ [.bridgingSubmitting 101 4 (some (-1))] := by
      decide +kernel
    obtain ⟨_, _, _, _, positive, _⟩ := orderly.burnAmount _ (.bridgingSubmitting 101 4 (some (-1)))
      (-1) (by rw [← recorded]) rfl
    exact absurd positive (by norm_num)

end UsdcRebalance

end Liquidity
