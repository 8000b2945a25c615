import Liquidity.EquityRecovery.Jobs
import Liquidity.Process.Attempts

/-!
# Resuming a recovery

The stream of one recovery, as the attempts of its job leave it. The slot, the
wallet and the services answer as they like; an attempt may be cut off between
any two of its operations.
-/

namespace Liquidity.EquityRecovery

open EventSourcing Process

/-- How the surroundings answer an operation. -/
inductive Answer where
  | claimed (guard : RecoveryGuard)
  | contended
  | done
  | reading (reading : InventoryReading)
  | quantity (quantity : Option FractionalShares)
  | served (services : Services)
  | unavailable

section Generic

variable {Entity Event Command Error : Type}
variable (agg : Aggregate Entity Event Command Error Services)

def handle :
    Answer → (op : Op Command) → List Event → Option (Ret Entity Command Error op × List Event)
  | .claimed guard, .claimGuardForRecoveryOrOrphan, s => some (some guard, s)
  | .contended, .claimGuardForRecoveryOrOrphan, s => some (none, s)
  | .done, .releaseGuard _, s => some ((), s)
  | .done, .dropGuard _, s => some ((), s)
  | .done, .load, s => some (agg.load s, s)
  | .unavailable, .load, s => some (.error .infrastructure, s)
  | .reading reading, .readInventory, s => some (reading, s)
  | .quantity quantity, .loadMint _, s => some (.ok quantity, s)
  | .unavailable, .loadMint _, s => some (.error (), s)
  | .quantity quantity, .loadRedemption _, s => some (.ok quantity, s)
  | .unavailable, .loadRedemption _, s => some (.error (), s)
  | .served services, .send command, s =>
      match agg.send services command s with
      | .ok events => some (.ok (), s ++ events)
      | .error error => some (.error error, s)
  | .unavailable, .send _, s => some (.error .infrastructure, s)
  | .done, .pushWithDelay, s => some (.ok (), s)
  | .unavailable, .pushWithDelay, s => some (.error (), s)
  | _, _, _ => none

/-- Operations answered in an allowed way. -/
def answering (allowed : Answer → List Event → Prop) :
    Step (Ret Entity Command Error) (List Event) :=
  fun op s result t => ∃ answer, allowed answer s ∧ handle agg answer op s = some (result, t)

variable {agg} {allowed : Answer → List Event → Prop} {s : List Event}

theorem leads_claim
    {post : Except (JobError Error) (Option RecoveryGuard) → List Event → Prop}
    (claims : ∀ guard, post (.ok (some guard)) s) (refused : allowed .contended s → post (.ok none) s) :
    (claimGuard : JobProg Entity Command Error _).Leads (answering agg allowed) post s := by
  rintro answer t ⟨how, permitted, handled⟩
  cases how <;> cases handled
  · exact claims _
  · exact refused permitted

theorem leads_load {post : Except (JobError Error) (Option Entity) → List Event → Prop}
    (loads : ∀ loaded, agg.load s = .ok loaded → post (.ok loaded) s)
    (fails : ∀ error, agg.load s = .error error → post (.error (.aggregate error)) s)
    (down : allowed .unavailable s → post (.error (.aggregate .infrastructure)) s) :
    (load : JobProg Entity Command Error _).Leads (answering agg allowed) post s := by
  rintro answer t ⟨how, permitted, handled⟩
  cases how <;> cases handled
  · cases found : agg.load s with
    | ok loaded => exact loads loaded found
    | error error => exact fails error found
  · exact down permitted

theorem leads_send {command : Command} {post : Except (JobError Error) Unit → List Event → Prop}
    (accepted : ∀ services events, allowed (.served services) s →
      agg.send services command s = .ok events → post (.ok ()) (s ++ events))
    (rejected : ∀ services error, allowed (.served services) s →
      agg.send services command s = .error error → post (.error (.aggregate error)) s)
    (down : allowed .unavailable s → post (.error (.aggregate .infrastructure)) s) :
    (send command : JobProg Entity Command Error Unit).Leads (answering agg allowed) post s := by
  rintro answer t ⟨how, permitted, handled⟩
  cases how with
  | served services =>
      simp only [handle] at handled
      cases decided : agg.send services command s with
      | ok events =>
          rw [decided] at handled
          cases handled
          exact accepted services events permitted decided
      | error error =>
          rw [decided] at handled
          cases handled
          exact rejected services error permitted decided
  | unavailable =>
      cases handled
      exact down permitted
  | _ => cases handled

theorem leads_push {post : Except (JobError Error) Unit → List Event → Prop}
    (pushed : post (.ok ()) s) (down : allowed .unavailable s → post (.error .reschedule) s) :
    (pushWithDelay : JobProg Entity Command Error Unit).Leads (answering agg allowed) post s := by
  rintro answer t ⟨how, permitted, handled⟩
  cases how <;> cases handled
  · exact pushed
  · exact down permitted

theorem leads_snapshot
    {post : Except (JobError Error) (Option RecoverySnapshot) → List Event → Prop}
    (reads : ∀ snapshot, post (.ok snapshot) s) :
    (readRecoverySnapshot : JobProg Entity Command Error _).Leads (answering agg allowed) post s := by
  rintro reading t ⟨how, permitted, handled⟩
  cases how <;> cases handled
  simp only [Prog.bind]
  split
  · exact reads none
  · split
    · exact reads none
    · exact reads (some _)

theorem leads_skip {guard : RecoveryGuard}
    {post : Except (JobError Error) (GuardFate × Except (JobError Error) Unit) → List Event → Prop}
    (skipped : post (.ok (.dropped, .ok ())) s) (down : post (.error .reschedule) s) :
    (skipWithoutBalance guard : JobProg Entity Command Error _).Leads (answering agg allowed)
      post s := by
  unfold skipWithoutBalance
  split
  · have pushes : (pushWithDelay : JobProg Entity Command Error Unit).Leads (answering agg allowed)
        (fun result t => t = s ∧ (result = .ok () ∨ result = .error .reschedule)) s :=
      leads_push ⟨rfl, .inl rfl⟩ fun _ => ⟨rfl, .inr rfl⟩
    refine pushes.bind ?_ ?_
    · rintro ⟨⟩ t ⟨rfl, _⟩
      exact skipped
    · rintro error t ⟨rfl, ended⟩
      rcases ended with ended | ended
      · cases ended
      · cases ended
        exact down
  · exact skipped

/-- A failed validation is about the transfer it looked at, or the store was down. -/
def InvalidTransfer : JobError Error → Prop
  | .activeMintQuantityMismatch .. => True
  | .activeRedemptionQuantityMismatch .. => True
  | .activeMintMissing .. => True
  | .activeRedemptionMissing .. => True
  | _ => False

theorem leads_loadMint {mintId : IssuerRequestId}
    {post : Except (JobError Error) (Option FractionalShares) → List Event → Prop}
    (loads : ∀ quantity, post (.ok quantity) s)
    (down : allowed .unavailable s → post (.error .activeMintAggregate) s) :
    (loadMint mintId : JobProg Entity Command Error _).Leads (answering agg allowed) post s := by
  rintro answer t ⟨how, permitted, handled⟩
  cases how <;> cases handled
  · exact loads _
  · exact down permitted

theorem leads_loadRedemption {redemptionId : RedemptionAggregateId}
    {post : Except (JobError Error) (Option FractionalShares) → List Event → Prop}
    (loads : ∀ quantity, post (.ok quantity) s)
    (down : allowed .unavailable s → post (.error .activeRedemptionAggregate) s) :
    (loadRedemption redemptionId : JobProg Entity Command Error _).Leads (answering agg allowed)
      post s := by
  rintro answer t ⟨how, permitted, handled⟩
  cases how <;> cases handled
  · exact loads _
  · exact down permitted

theorem leads_validate {symbol : Symbol} {snapshot : RecoverySnapshot}
    {post : Except (JobError Error) Unit → List Event → Prop} (valid : post (.ok ()) s)
    (invalid : ∀ error, InvalidTransfer error ∨ allowed .unavailable s → post (.error error) s) :
    (validateActiveAggregateQuantity symbol snapshot : JobProg Entity Command Error Unit).Leads
      (answering agg allowed) post s := by
  -- A quantity read of either kind of transfer is judged the same way.
  have judged (aggregateShares : FractionalShares) (mismatch : JobError Error)
      (about : InvalidTransfer mismatch) :
      Prog.Leads (answering agg allowed) post
        (if aggregateShares ≠ snapshot.shares then
          (throw mismatch : JobProg Entity Command Error Unit) else pure ()) s := by
    by_cases same : aggregateShares = snapshot.shares
    · simp only [same, ne_eq, not_true_eq_false, if_false]
      exact valid
    · simp only [ne_eq, same, not_false_eq_true, if_true]
      exact invalid _ (.inl about)
  unfold validateActiveAggregateQuantity
  cases snapshot.dispatch with
  | activeMint mintId =>
      have loads : (loadMint mintId : JobProg Entity Command Error _).Leads (answering agg allowed)
          (fun result t => t = s ∧ ∀ error, result = .error error → allowed .unavailable s) s :=
        leads_loadMint (fun _ => ⟨rfl, by simp⟩) fun down => ⟨rfl, fun _ _ => down⟩
      refine loads.bind ?_ ?_
      · rintro quantity t ⟨rfl, _⟩
        cases quantity with
        | none => exact invalid _ (.inl trivial)
        | some aggregateShares => exact judged aggregateShares _ trivial
      · rintro error t ⟨rfl, down⟩
        exact invalid _ (.inr (down error rfl))
  | activeRedemption redemptionId =>
      have loads : (loadRedemption redemptionId : JobProg Entity Command Error _).Leads
          (answering agg allowed)
          (fun result t => t = s ∧ ∀ error, result = .error error → allowed .unavailable s) s :=
        leads_loadRedemption (fun _ => ⟨rfl, by simp⟩) fun down => ⟨rfl, fun _ _ => down⟩
      refine loads.bind ?_ ?_
      · rintro quantity t ⟨rfl, _⟩
        cases quantity with
        | none => exact invalid _ (.inl trivial)
        | some aggregateShares => exact judged aggregateShares _ trivial
      · rintro error t ⟨rfl, down⟩
        exact invalid _ (.inr (down error rfl))
  | orphan => exact valid
  | conflict => exact valid

/-- How an attempt ends, whatever becomes of the slot. -/
def ending :
    Except (JobError Error) (GuardFate × Except (JobError Error) Unit) →
      Except (JobError Error) Unit
  | .ok (_, ended) => ended
  | .error error => .error error

/-- The guard only ever concerns the slot. -/
theorem leads_withGuard {guard : RecoveryGuard}
    {attempt : JobProg Entity Command Error (GuardFate × Except (JobError Error) Unit)}
    {post : Except (JobError Error) Unit → List Event → Prop}
    (runs : attempt.Leads (answering agg allowed) (fun result t => post (ending result) t) s) :
    (withGuard guard attempt).Leads (answering agg allowed) post s := by
  have ends (ended : Except (JobError Error) Unit) (t : List Event) (holds : post ended t) :
      (Prog.liftExcept ended : JobProg Entity Command Error Unit).Leads (answering agg allowed)
        post t := by
    cases ended <;> exact holds
  have captured : (attempt.capture : JobProg Entity Command Error _).Leads (answering agg allowed)
      (returns fun result t => post (ending result) t) s := Prog.Leads.capture runs
  refine captured.bind_returns fun result t holds => ?_
  match result, holds with
  | .ok (.released, ended), holds =>
      rintro answer u ⟨how, permitted, handled⟩
      cases how <;> cases handled
      exact ends ended _ holds
  | .ok (.dropped, ended), holds =>
      rintro answer u ⟨how, permitted, handled⟩
      cases how <;> cases handled
      exact ends ended _ holds
  | .error error, holds =>
      rintro answer u ⟨how, permitted, handled⟩
      cases how <;> cases handled
      exact holds

theorem leads_underClaim
    {attempt : RecoveryGuard →
      JobProg Entity Command Error (GuardFate × Except (JobError Error) Unit)}
    {post : Except (JobError Error) Unit → List Event → Prop}
    (runs : ∀ guard, (attempt guard).Leads (answering agg allowed)
      (fun result t => post (ending result) t) s)
    (refused : allowed .contended s → post (.ok ()) s ∧ post (.error .reschedule) s) :
    (underClaim attempt).Leads (answering agg allowed) post s := by
  have claims : (claimGuard : JobProg Entity Command Error _).Leads (answering agg allowed)
      (returns fun claim t => t = s ∧ (claim = none → allowed .contended s)) s :=
    leads_claim (fun guard => ⟨rfl, by simp⟩) fun contended => ⟨rfl, fun _ => contended⟩
  refine claims.bind_returns fun claim t => ?_
  rintro ⟨rfl, contended⟩
  cases claim with
  | none =>
      obtain ⟨pushed, down⟩ := refused (contended rfl)
      exact leads_push pushed fun _ => down
  | some guard => exact leads_withGuard (runs guard)

end Generic

end Liquidity.EquityRecovery
