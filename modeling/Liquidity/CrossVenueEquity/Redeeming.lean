import Liquidity.CrossVenueEquity.Operations

/-!
# The attempts of a redemption

Whatever a redemption's attempt does is a redemption's operation, and its loop ends:
every turn takes the redemption a step further, since a command that is accepted does,
and an error that is passed over has ended it.
-/

namespace Liquidity.CrossVenueEquity

open EventSourcing Process

/-- What a redemption's attempt lives by. -/
def redemptionRole : Role handle World.Truthful where
  rely := fun before after => after.redemption = before.redemption ∧ before.Extends after
  fit := fun op _ => op.OfRedemption
  rely_refl := fun _ => ⟨rfl, .of_eq rfl⟩
  rely_trans := fun _ _ _ first second => ⟨second.1.trans first.1, first.2.trans second.2⟩
  keeps := fun _ _ _ _ _ truthful redeems handled =>
    truthful_of_redemption truthful redeems handled

/-- A program all of whose operations are a redemption's. -/
def Redeems {ε α : Type} (program : Flow ε α) : Prop :=
  redemptionRole.Ensures (fun _ => True) program fun _ _ => True

namespace Redeems

variable {ε ε' α β : Type}

theorem ask (op : Op) (redeems : op.OfRedemption) :
    Redeems (CrossVenueEquity.ask op : Flow ε op.Ret) :=
  Role.Ensures.perform .true fun _ _ _ _ _ _ _ => ⟨redeems, fun _ => trivial⟩

theorem bind {program : Flow ε α} {f : α → Flow ε β} (first : Redeems program)
    (second : ∀ a, Redeems (f a)) : Redeems (program >>= f) :=
  Role.Ensures.bind first second

theorem lift {result : Except ε α} : Redeems (Prog.liftExcept result : Flow ε α) :=
  Role.Ensures.lift fun _ _ _ _ => trivial

theorem pure {a : α} : Redeems (Pure.pure a : Flow ε α) :=
  Role.Ensures.pure fun _ _ => trivial

theorem throw {e : ε} : Redeems (MonadExcept.throw e : Flow ε α) :=
  Role.Ensures.throw

theorem capture {program : Flow ε α} (h : Redeems program) :
    Redeems (program.capture : Flow ε' (Except ε α)) :=
  (Role.Ensures.capture h).weaken (fun _ _ => trivial) fun _ _ _ => trivial

end Redeems

theorem redeem_redeems (command : EquityRedemptionCommand) : Redeems (redeem command) :=
  (Redeems.ask (.redemption command) trivial).bind fun _ => .lift

theorem loadRedemption_redeems : Redeems loadRedemption :=
  (Redeems.ask .loadRedemption trivial).bind fun _ => .lift

theorem loadRedemptionEntity_redeems : Redeems loadRedemptionEntity := by
  refine loadRedemption_redeems.bind fun loaded => ?_
  cases loaded with
  | some entity => exact .pure
  | none => exact .throw

theorem pollDetection_redeems (tx : TxHash) : Redeems (pollDetection tx) := by
  refine (Redeems.ask (.pollForRedemption tx) trivial).bind fun answer => ?_
  cases answer with
  | error error => exact (redeem_redeems _).bind fun _ => .throw
  | ok detected => exact (redeem_redeems _).bind fun _ => .pure

theorem pollCompletion_redeems (requestId : TokenizationRequestId) :
    Redeems (pollCompletion requestId) := by
  refine (Redeems.ask (.pollRedemptionUntilComplete requestId) trivial).bind fun answer => ?_
  cases answer with
  | error error => exact (redeem_redeems _).bind fun _ => .throw
  | ok completed =>
      dsimp only
      split
      case h_1 => exact redeem_redeems _
      case h_2 => exact (redeem_redeems _).bind fun _ => .throw
      case h_3 => exact .throw

theorem ignoreRedemptionErrorIfTerminal_redeems (result : Except RedemptionError Unit) :
    Redeems (ignoreRedemptionErrorIfTerminal result) := by
  cases result with
  | ok => exact .pure
  | error error =>
      have terminal : Redeems redemptionIsTerminal :=
        loadRedemptionEntity_redeems.bind fun _ => .pure
      refine terminal.bind fun ended => ?_
      cases ended with
      | true => exact .pure
      | false => exact .throw

theorem redeemAndGoOn_redeems (command : EquityRedemptionCommand) :
    Redeems (redeemAndGoOn command) :=
  (redeem_redeems command).bind fun _ => .pure

theorem resumePendingRedemption_redeems (requestId : TokenizationRequestId) :
    Redeems (resumePendingRedemption requestId) :=
  (pollCompletion_redeems requestId).capture.bind fun _ =>
    ignoreRedemptionErrorIfTerminal_redeems _

theorem resumeRedemptionFrom_redeems (entity : EquityRedemption) :
    Redeems (resumeRedemptionFrom entity) := by
  cases entity with
  | tokensSent =>
      refine .bind ?_ fun _ => .pure
      exact (pollDetection_redeems _).capture.bind fun _ =>
        ignoreRedemptionErrorIfTerminal_redeems _
  | pending => exact (resumePendingRedemption_redeems _).bind fun _ => .pure
  | completed | failed | reconciled => exact .pure
  | _ => exact redeemAndGoOn_redeems _

/-- The steps a redemption has at most before it. -/
def redemptionLeft (world : World) : Nat :=
  (world.redemption?.map fun entity => 9 - redemptionRank entity).getD 0

/-- Fewer steps than this. -/
def RedemptionWithin (bound : Nat) (world : World) : Prop := redemptionLeft world < bound

theorem redemptionLeft_le (world : World) : redemptionLeft world ≤ 9 := by
  simp only [redemptionLeft]
  cases world.redemption? with
  | none => exact Nat.zero_le 9
  | some entity => exact Nat.sub_le 9 _

theorem stable_redemption (assertion : List EquityRedemptionEvent → Prop) :
    redemptionRole.Stable fun world => assertion world.redemption := by
  intro before after same holds
  rwa [same.1]

theorem redemptionLeft_stable (assertion : Nat → Prop) :
    redemptionRole.Stable fun world => assertion (redemptionLeft world) := by
  intro before after same holds
  simpa only [redemptionLeft, World.redemption?, same.1] using holds

/-- An accepted command leaves fewer steps. -/
theorem redeem_advances {entity : EquityRedemption} (active : entity.isTerminal = false)
    (command : EquityRedemptionCommand) :
    redemptionRole.Ensures (fun world => world.redemption? = some entity) (redeem command)
      fun _ world => redemptionLeft world < 9 - redemptionRank entity := by
  have asked : redemptionRole.Ensures (fun world => world.redemption? = some entity)
      (ask (.redemption command) : Flow RedemptionError _) fun answer world =>
        answer = .ok () → redemptionLeft world < 9 - redemptionRank entity := by
    refine .perform (stable_redemption fun stream =>
      (EquityRedemption.aggregate.lifecycle stream).entity? = some entity)
      fun before live _ choice answer after handled => ⟨trivial, fun _ accepted => ?_⟩
    subst accepted
    simp only [handle] at handled
    split at handled
    case isFalse => cases handled
    case isTrue =>
        rcases execute_cases EquityRedemption.aggregate choice.commit
          (answering choice.redemption
            (choice.broadcast.answer choice.error.message before.nextHash))
          command before.redemption with ⟨_, refused⟩ | ⟨_, events, -, sent, grown⟩
        · simp only [World.redeem, refused, Option.some.injEq, Prod.mk.injEq] at handled
          cases handled.1
        · have stored := live_of_entity live
          simp only [World.redeem, grown, Option.some.injEq, Prod.mk.injEq] at handled
          obtain ⟨-, rfl⟩ := handled
          rcases EquityRedemption.aggregate.send_eq_ok.mp sent with
            ⟨absent, -⟩ | ⟨_, found, moved⟩
          · cases stored.symm.trans absent
          · cases stored.symm.trans found
            obtain ⟨event, next, rfl, evolved, -⟩ := transition_cases moved
            have reached : EquityRedemption.aggregate.replay (.live entity) [event] =
                .live next := by
              simp only [Aggregate.replay_cons, Aggregate.replay_nil, Aggregate.apply, evolved]
            have rises := rank_lt_of_accepted active moved reached
            simp only [redemptionLeft, World.redemption?, Aggregate.lifecycle_append, stored,
              reached, Lifecycle.entity?, Option.map_some, Option.getD_some]
            have most : redemptionRank next ≤ 9 := redemptionRank_le next
            omega
  refine asked.bind fun answer => .lift fun _ accepted world holds => holds ?_
  exact mapError_eq_ok.mp accepted

/-- What is loaded is what the stream stands for. -/
theorem loadRedemptionEntity_loads {pre : World → Prop} (stable : redemptionRole.Stable pre) :
    redemptionRole.Ensures pre loadRedemptionEntity fun entity world =>
      pre world ∧ world.redemption? = some entity := by
  have asked : redemptionRole.Ensures pre (ask .loadRedemption : Flow RedemptionError _)
      fun answer world => pre world ∧
        ∀ entity, answer = .ok (some entity) → world.redemption? = some entity := by
    refine .perform stable fun before holds _ choice answer after handled => ?_
    cases handled
    refine ⟨trivial, fun _ => ⟨holds, fun entity loads => ?_⟩⟩
    split at loads
    case isTrue => cases loads
    case isFalse => exact redemption_live ((Aggregate.load_eq_some _).mp loads)
  have loaded : redemptionRole.Ensures pre loadRedemption fun loaded world => pre world ∧
      ∀ entity, loaded = some entity → world.redemption? = some entity := by
    refine asked.bind fun answer => .lift fun loaded accepted world holds => ?_
    exact ⟨holds.1, fun entity known => holds.2 entity (known ▸ mapError_eq_ok.mp accepted)⟩
  refine loaded.bind fun result => ?_
  cases result with
  | some entity => exact .pure fun _ holds => ⟨holds.1, holds.2 entity rfl⟩
  | none => exact .throw

/-- An error is ignored only of a redemption that has ended. -/
theorem ignoreRedemptionErrorIfTerminal_ends (result : Except RedemptionError Unit) {steps : Nat}
    (some' : 0 < steps) : redemptionRole.Ensures
      (fun world => ∀ a, result = .ok a → redemptionLeft world < steps)
      (ignoreRedemptionErrorIfTerminal result) fun _ world => redemptionLeft world < steps := by
  cases result with
  | ok => exact .pure fun _ holds => holds () rfl
  | error error =>
      have terminal : redemptionRole.Ensures (fun _ => True) redemptionIsTerminal
          fun ended world => ended = true → redemptionLeft world < steps := by
        refine (loadRedemptionEntity_loads .true).bind fun entity => .pure ?_
        rintro world ⟨-, live⟩ ended
        simp only [redemptionLeft, live, Option.map_some, Option.getD_some,
          redemptionRank_of_terminal ended]
        exact some'
      refine (terminal.weaken (fun _ _ => trivial) fun _ _ holds => holds).bind fun ended => ?_
      cases ended with
      | true => exact .pure fun _ holds => holds rfl
      | false => exact .throw

/-- Polling leaves the redemption pending, or ended. -/
theorem resumeSentRedemption_advances {entity : EquityRedemption} {redemptionTx : TxHash}
    (sent : redemptionRank entity = 7) : redemptionRole.Ensures
      (fun world => world.redemption? = some entity) (resumeSentRedemption redemptionTx)
      fun _ world => redemptionLeft world < 2 := by
  have active : entity.isTerminal = false := by
    cases entity <;> cases sent
    rfl
  have asked : redemptionRole.Ensures (fun world => world.redemption? = some entity)
      (ask (.pollForRedemption redemptionTx) : Flow RedemptionError _)
      fun _ world => world.redemption? = some entity := by
    refine .perform (stable_redemption fun stream =>
      (EquityRedemption.aggregate.lifecycle stream).entity? = some entity)
      fun before live _ choice answer after handled => ?_
    cases handled
    exact ⟨trivial, fun _ => live⟩
  have advances : ∀ command, redemptionRole.Ensures (fun world => world.redemption? = some entity)
      (redeem command) fun _ world => redemptionLeft world < 2 := by
    intro command
    refine (redeem_advances active command).weaken (fun _ live => live) fun _ _ fewer => ?_
    rwa [sent] at fewer
  have polled : redemptionRole.Ensures (fun world => world.redemption? = some entity)
      (pollDetection redemptionTx) fun _ world => redemptionLeft world < 2 := by
    refine asked.bind fun answer => ?_
    cases answer with
    | error error => exact (advances _).bind fun _ => .throw
    | ok detected => exact (advances _).bind fun _ => .pure fun _ fewer => fewer
  refine polled.capture.bind fun result => ?_
  refine (ignoreRedemptionErrorIfTerminal_ends _ Nat.two_pos).weaken ?_ fun _ _ fewer => fewer
  intro world holds a mapped
  cases result with
  | ok id => exact holds id rfl
  | error error => cases mapped

/-- A turn ends the loop or takes the redemption a step further. -/
theorem resumeRedemptionFrom_advances (entity : EquityRedemption) {bound : Nat}
    (near : 9 - redemptionRank entity < bound + 1) :
    redemptionRole.Ensures (fun world => world.redemption? = some entity)
      (resumeRedemptionFrom entity) (turned (fun _ _ => True) (RedemptionWithin bound)) := by
  have goesOn : ∀ command, entity.isTerminal = false →
      redemptionRole.Ensures (fun world => world.redemption? = some entity)
        (redeemAndGoOn command) (turned (fun _ _ => True) (RedemptionWithin bound)) := by
    intro command active
    refine (redeem_advances active command).bind fun _ => .pure fun world fewer => ?_
    exact fewer.trans_le (Nat.le_of_lt_succ near)
  cases entity with
  | tokensSent =>
      refine (resumeSentRedemption_advances rfl).bind fun _ => .pure fun world fewer => ?_
      exact fewer.trans_le (Nat.le_of_lt_succ near)
  | pending =>
      exact Role.Ensures.bind ((resumePendingRedemption_redeems _).weaken (fun _ _ => trivial)
        fun _ _ holds => holds) fun _ => .pure fun _ _ => trivial
  | completed | failed | reconciled => exact .pure fun _ _ => trivial
  | _ => exact goesOn _ rfl

/-- Ten turns are enough. -/
theorem resumeRedemption_ends (turns : Nat) :
    redemptionRole.Ensures (fun _ => True) (resumeRedemption turns)
      fun result _ => 10 ≤ turns → result ≠ none := by
  have turn : ∀ bound, redemptionRole.Ensures (RedemptionWithin (bound + 1))
      (do let entity ← loadRedemptionEntity; resumeRedemptionFrom entity)
      (turned (fun _ _ => True) (RedemptionWithin bound)) := by
    intro bound
    refine (loadRedemptionEntity_loads (redemptionLeft_stable (· < bound + 1))).bind
      fun entity => ?_
    refine ⟨fun world holds => ?_⟩
    obtain ⟨near, live⟩ := holds
    simp only [redemptionLeft, live, Option.map_some, Option.getD_some] at near
    exact (resumeRedemptionFrom_advances entity near).sat world live
  by_cases enough : 10 ≤ turns
  · refine (Role.Ensures.loop_within (fun _ => Nat.not_lt_zero _) turn enough).weaken ?_ ?_
    · intro world _
      exact Nat.lt_succ_of_le (redemptionLeft_le world)
    · intro result world ends _ spent
      subst spent
      exact ends
  · have kept : Redeems (do let entity ← loadRedemptionEntity; resumeRedemptionFrom entity) :=
      loadRedemptionEntity_redeems.bind resumeRedemptionFrom_redeems
    refine (Role.Ensures.loop (kept.weaken (fun _ _ => trivial) fun result world _ =>
      turned_true result world) turns).weaken (fun _ _ => trivial)
        fun _ _ _ many => absurd many enough

theorem unwrapAndSend_redeems : Redeems unwrapAndSend := by
  refine (redeem_redeems _).bind fun _ => (redeem_redeems _).bind fun _ => ?_
  refine (redeem_redeems _).bind fun _ => (redeem_redeems _).bind fun _ => ?_
  refine (redeem_redeems _).bind fun _ => loadRedemptionEntity_redeems.bind fun entity => ?_
  split
  case h_1 => exact .pure
  case h_2 => exact .throw
  case h_3 => exact .throw

theorem startRedemption_redeems (symbol : Symbol) (quantity : FractionalShares) :
    Redeems (startRedemption symbol quantity) := by
  refine (Redeems.ask (.vaultTokenForSymbol symbol) trivial).bind fun _ => ?_
  refine Redeems.lift.bind fun token => ?_
  refine Redeems.lift.bind fun amount => ?_
  refine Redeems.bind ?_ fun _ => unwrapAndSend_redeems.bind fun _ =>
    (pollDetection_redeems _).bind fun _ => pollCompletion_redeems _
  exact (redeem_redeems _).bind fun _ => (redeem_redeems _).bind fun _ => redeem_redeems _

theorem resumeEquityToHedging_ends (symbol : Symbol) (quantity : FractionalShares)
    (turns : Nat) : redemptionRole.Ensures (fun _ => True)
      (resumeEquityToHedging symbol quantity turns) fun result _ => 10 ≤ turns → result ≠ none := by
  refine Role.Ensures.bind loadRedemption_redeems fun loaded => ?_
  cases loaded with
  | none =>
      refine Role.Ensures.bind (startRedemption_redeems symbol quantity) fun _ => .pure ?_
      simp
  | some entity => exact resumeRedemption_ends turns

end Liquidity.CrossVenueEquity
