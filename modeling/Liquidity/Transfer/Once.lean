import Liquidity.Transfer.Resume

/-!
# Irreversible calls are made once

An attempt makes each irreversible call at one stage and at most once. What has
to be ruled out is a call of an earlier attempt that was never recorded. An
attempt that got to the stage by itself knows there was none. One that loaded
the stage either looks at the chain first, which shows what was mined and
nothing else, or takes its chances. So each call comes with a condition on the
operation its grounds rest on.
-/

namespace Liquidity.Transfer

open EventSourcing Process UsdcRebalance

/-- Which transactions count. A deposit counts once it is submitted; a withdrawal
or a transfer counts until it is mined reverted. -/
def Call.counts : Call → TxStatus → Bool
  | .deposit, _ => true
  | .withdraw, status | .transfer, status => status.live

namespace World

/-- How often a call was made. -/
def made (world : World) : Effect → Nat
  | .alpacaWithdrawal => world.withdrawals.length
  | .conversion direction => world.orders.countP fun order => order.direction = direction
  | .call call => world.ledger.countP fun tx => tx.kind = .call call && call.counts tx.status

/-- Nobody has ever made the call. -/
def Untried (world : World) : Effect → Prop
  | .call call => ∀ tx ∈ world.ledger, tx.kind ≠ .call call
  | effect => world.made effect = 0

theorem Untried.made {world : World} {effect : Effect} (untried : world.Untried effect) :
    world.made effect = 0 := by
  cases effect with
  | call call =>
      refine List.countP_eq_zero.mpr fun tx listed counts => ?_
      simp only [Bool.and_eq_true, decide_eq_true_eq] at counts
      exact untried tx listed counts.1
  | _ => exact untried

end World

/-- The calls that a resumed attempt makes without looking for an earlier one. -/
def Effect.blind : Effect → Bool
  | .alpacaWithdrawal | .call .deposit => true
  | _ => false

/-- What holds of a call in every reachable world, if its condition is met. -/
structure Once (effect : Effect) (world : World) : Prop where
  untried : world.stage < effect.stage → world.Untried effect
  entitled : effect.Entitled world.attempt → effect ∉ world.attempt.effects →
    world.made effect = 0
  most : world.made effect ≤ 1

theorem Once.empty (effect : Effect) : Once effect World.empty := by
  have none : World.empty.made effect = 0 := by
    cases effect <;> simp [World.made, World.empty]
  refine ⟨fun _ => ?_, fun _ _ => none, by omega⟩
  cases effect with
  | call call => simp [World.Untried, World.empty]
  | _ => exact none

/-! ## What leaves a call alone -/

section Frame

variable {before after : World} {effect : Effect}

theorem Once.frame (once : Once effect before) (attempt : after.attempt = before.attempt)
    (stage : before.stage ≤ after.stage) (untried : before.Untried effect → after.Untried effect)
    (made : after.made effect ≤ before.made effect) : Once effect after where
  untried := fun early => untried (once.untried (stage.trans_lt early))
  entitled := by
    intro entitled unmade
    rw [attempt] at entitled unmade
    have none := once.entitled entitled unmade
    omega
  most := made.trans once.most

theorem made_eq (ledger : after.ledger = before.ledger)
    (withdrawals : after.withdrawals = before.withdrawals) (orders : after.orders = before.orders) :
    after.made effect = before.made effect ∧ (before.Untried effect → after.Untried effect) := by
  cases effect <;> simp only [World.made, World.Untried, ledger, withdrawals, orders] <;>
    exact ⟨trivial, id⟩

/-- A transaction that is no such call. -/
theorem made_append {tx : Tx} (other : ∀ call, effect = .call call → tx.kind ≠ .call call)
    (ledger : after.ledger = before.ledger ++ [tx])
    (withdrawals : after.withdrawals = before.withdrawals) (orders : after.orders = before.orders) :
    after.made effect = before.made effect ∧ (before.Untried effect → after.Untried effect) := by
  cases effect with
  | alpacaWithdrawal | conversion =>
      simp only [World.made, World.Untried, withdrawals, orders]
      exact ⟨trivial, id⟩
  | call call =>
      refine ⟨?_, fun untried listed member => ?_⟩
      · simp only [World.made, ledger, List.countP_append, List.countP_singleton]
        simp [other call rfl]
      · rw [ledger] at member
        rcases List.mem_append.mp member with old | isNew
        · exact untried listed old
        · obtain rfl := List.mem_singleton.mp isNew
          exact other call rfl

theorem environment_made {change : Env} (changed : environment change before = some after) :
    after.made effect ≤ before.made effect ∧ (before.Untried effect → after.Untried effect) := by
  cases change with
  | mine hash success =>
      simp only [environment] at changed
      split at changed
      case h_2 => cases changed
      case h_1 tx found =>
        split at changed
        case isFalse => cases changed
        case isTrue pending =>
          cases changed
          obtain ⟨inBounds, atHash⟩ := List.getElem?_eq_some_iff.mp found
          cases effect with
          | alpacaWithdrawal | conversion => exact ⟨le_refl _, id⟩
          | call call =>
              refine ⟨?_, fun untried listed member => ?_⟩
              · -- A mined transaction counts only if it counted while it was pending.
                simp only [World.made]
                rw [List.countP_set inBounds, atHash]
                have still : call.counts .pending = true := by cases call <;> rfl
                by_cases own : tx.kind = .call call
                · have was : 0 < before.ledger.countP fun tx =>
                      tx.kind = .call call && call.counts tx.status := by
                    refine List.countP_pos_iff.mpr ⟨tx, List.mem_of_getElem? found, ?_⟩
                    simp [own, pending, still]
                  have step : ∀ (total : Nat) (counts : Bool), 0 < total →
                      total - 1 + (if counts = true then 1 else 0) ≤ total := by
                    intro total counts positive
                    cases counts
                    · simp
                    · simp
                      omega
                  simp only [own, pending, still, decide_true, Bool.and_self, if_true]
                  exact step _ _ was
                · simp [own]
              · rcases List.mem_or_eq_of_mem_set member with old | rfl
                · exact untried listed old
                · exact untried tx (List.mem_of_getElem? found)
  | advance | tick =>
      cases changed
      exact ⟨(made_eq rfl rfl rfl).1.le, (made_eq rfl rfl rfl).2⟩
  | landMint chain amount fee =>
      cases changed
      have frame : (before.land (.mint fee) chain amount).made effect = before.made effect ∧
          (before.Untried effect → (before.land (.mint fee) chain amount).Untried effect) :=
        made_append (by simp) rfl rfl rfl
      exact ⟨frame.1.le, frame.2⟩
  | landPayout amount =>
      cases changed
      have frame : (before.land .payout .ethereum amount).made effect = before.made effect ∧
          (before.Untried effect → (before.land .payout .ethereum amount).Untried effect) :=
        made_append (by simp) rfl rfl rfl
      exact ⟨frame.1.le, frame.2⟩
  | lose =>
      simp only [environment] at changed
      split at changed <;> cases changed
      exact ⟨(made_eq rfl rfl rfl).1.le, (made_eq rfl rfl rfl).2⟩

theorem Once.environment {change : Env} (changed : environment change before = some after)
    (once : Once effect before) : Once effect after := by
  obtain ⟨stream, attempt, -⟩ := environment_frame changed
  obtain ⟨made, untried⟩ := @environment_made _ _ effect _ changed
  refine once.frame attempt ?_ untried made
  rw [World.stage, World.stage, entity_eq_of_stream stream]

/-- A task makes none of these calls. -/
theorem Once.ofTask {choice : Choice} {task : Nat} {op : Op} {answer : op.Ret}
    (once : Once effect before) (sane : Sane before) (fits : TaskFits task op before)
    (handled : handle choice op before = some (answer, after)) : Once effect after := by
  obtain ⟨rests, -⟩ := task_meets sane fits handled
  have made : after.made effect = before.made effect ∧
      (before.Untried effect → after.Untried effect) := by
    cases op with
    | acceptBurn =>
        obtain ⟨-, rfl⟩ := handle_acceptBurn handled
        exact made_eq rfl rfl rfl
    | submitBurn =>
        obtain ⟨-, ⟨rfl, -⟩ | ⟨rfl, -⟩⟩ := handle_submitBurn handled
        · exact made_eq rfl rfl rfl
        · exact made_append (by simp) rfl rfl rfl
    | finishBurn =>
        obtain ⟨-, rfl⟩ := handle_finishBurn handled
        exact made_eq rfl rfl rfl
    | send author command =>
        cases author with
        | attempt => exact fits.elim
        | task other =>
            obtain ⟨-, sent, sends, leads⟩ := handle_sendFromTask handled
            obtain ⟨stream, rfl⟩ := send_frame sends
            rcases leads with ⟨rfl, -⟩ | ⟨-, -, rfl⟩
            · exact made_eq rfl rfl rfl
            · exact made_eq rfl rfl rfl
    | _ => exact fits.elim
  exact once.frame rests.attempt rests.stage_eq.ge made.2 made.1.le

end Frame

/-! ## What an attempt does -/

/-- The call a scan looks for. -/
def Op.seeks : Op → Option Call
  | .findRecentWithdrawal _ => some .withdraw
  | .findRecentUsdcTransfer _ _ => some .transfer
  | _ => none

/-- Whoever loads the stage of a call that is made blindly finds it not made. -/
def LoadsUnmade (effect : Effect) (op : Op) (world : World) : Prop :=
  op.loads = true → effect.blind = true → world.stage = effect.stage → world.made effect = 0

section Attempts

variable {choice : Choice} {before after : World} {effect : Effect} {direction : RebalanceDirection}
  {op : Op} {answer : op.Ret}

/-- A scan changes nothing but the record of what it missed. -/
theorem handle_seeks {call : Call} (seeks : op.seeks = some call)
    (handled : handle choice op before = some (answer, after)) :
    after = before ∨ after = before.noteAbsent call := by
  cases op with
  | findRecentWithdrawal =>
      cases seeks
      exact (handle_findRecentWithdrawal handled).imp And.left And.left
  | findRecentUsdcTransfer =>
      cases seeks
      exact (handle_findRecentUsdcTransfer handled).imp And.left And.left
  | _ => cases seeks

/-- What an irreversible call adds to the count. -/
theorem Effected.made {own : Effect} (is : op.effect? = some own)
    (effected : before.Effected op after) :
    (own = effect → after.made effect = before.made effect + 1) ∧
      (own ≠ effect → after.made effect = before.made effect ∧
        (before.Untried effect → after.Untried effect)) := by
  cases effected with
  | broadcast call amount =>
      cases is
      refine ⟨?_, fun other => ?_⟩
      · rintro rfl
        have counts : call.counts .pending = true := by cases call <;> rfl
        simp only [World.made, World.note, World.submit, List.countP_append, List.countP_singleton]
        simp [counts]
      · refine made_append (fun wanted is same => other ?_) rfl rfl rfl
        rw [is, TxKind.call.inj same]
  | initiateWithdrawal amount =>
      cases is
      refine ⟨?_, fun other => ?_⟩
      · rintro rfl
        simp [World.made, World.note]
      · cases effect with
        | alpacaWithdrawal => exact absurd rfl other
        | _ => exact ⟨rfl, id⟩
  | convertUsdcUsd amount direction orderId =>
      cases is
      refine ⟨?_, fun other => ?_⟩
      · rintro rfl
        simp [World.made, World.note, List.countP_append]
      · cases effect with
        | conversion wanted =>
            have apart : direction ≠ wanted := fun same => other (by rw [same])
            simp [World.made, World.Untried, World.note, List.countP_append, apart]
        | _ => exact ⟨rfl, id⟩

theorem Once.effected {own : Effect} (once : Once effect before) (is : op.effect? = some own)
    (due : before.Due own) (effected : before.Effected op after) : Once effect after := by
  obtain ⟨stream, -, -, attempt, -⟩ := effected.frame is
  have stage : after.stage = before.stage := by
    rw [World.stage, World.stage, entity_eq_of_stream stream]
  obtain ⟨makes, leaves⟩ := @Effected.made _ _ effect _ own is effected
  by_cases same : own = effect
  · subst same
    have none : before.made own = 0 :=
      once.entitled due.2.2 fun made => absurd (due.2.1 own made) (by rw [due.1]; exact lt_irrefl _)
    refine ⟨fun early => ?_, fun _ unmade => ?_, by rw [makes rfl]; omega⟩
    · rw [stage, due.1] at early
      exact absurd early (lt_irrefl _)
    · rw [attempt] at unmade
      exact absurd (List.mem_append_right _ (List.mem_singleton_self own)) unmade
  · obtain ⟨made, untried⟩ := leaves same
    refine ⟨fun early => untried (once.untried (stage ▸ early)), fun entitled unmade => ?_,
      made ▸ once.most⟩
    rw [attempt] at entitled unmade
    rw [made]
    refine once.entitled ?_ fun earlier => unmade (List.mem_append_left _ earlier)
    -- What entitles an attempt to a call is not what it has made.
    cases effect with
    | alpacaWithdrawal | conversion => exact entitled
    | call call => cases call <;> exact entitled

/-- What a new attempt is entitled to. -/
theorem Once.loads {answer : Op.load.Ret} (once : Once effect before)
    (unmade : LoadsUnmade effect .load before)
    (handled : handle choice .load before = some (answer, after)) : Once effect after := by
  rcases handle_load handled with ⟨rfl, -⟩ | ⟨-, rfl⟩
  · exact once
  · refine ⟨once.untried, fun entitled _ => ?_, once.most⟩
    have early : before.stage < effect.stage → before.made effect = 0 :=
      fun early => (once.untried early).made
    have blindly : effect.blind = true → before.stage ≤ effect.stage → before.made effect = 0 := by
      intro blind soon
      rcases soon.lt_or_eq with lt | here
      · exact early lt
      · exact unmade rfl blind here
    cases effect with
    | alpacaWithdrawal => exact blindly rfl entitled
    | conversion => exact early entitled
    | call call =>
        cases call with
        | deposit => exact blindly rfl entitled
        | withdraw | transfer =>
            rcases entitled with lt | found
            · exact early lt
            · cases found

/-- An empty scan entitles an attempt to the call it looked for. -/
theorem Once.seeks (once : Once effect before) {call : Call}
    (vouched : effect = .call call → before.made effect = 0) :
    Once effect (before.noteAbsent call) := by
  refine ⟨once.untried, fun entitled unmade => ?_, once.most⟩
  by_cases own : effect = .call call
  · exact vouched own
  · refine once.entitled ?_ unmade
    cases effect with
    | alpacaWithdrawal | conversion => exact entitled
    | call wanted =>
        have apart : wanted ≠ call := fun same => own (by rw [same])
        cases wanted with
        | deposit => exact entitled
        | withdraw | transfer =>
            refine entitled.imp_right fun listed => ?_
            rcases List.mem_append.mp listed with old | isNew
            · exact old
            · exact absurd (List.mem_singleton.mp isNew) apart

/-- An attempt keeps a call unique if what it loads and what it fails to find
say so. -/
theorem Once.ofAttempt (once : Once effect before) (sane : Sane before)
    (unmade : LoadsUnmade effect op before)
    (vouched : ∀ call, op.seeks = some call → effect = .call call →
      after = before.noteAbsent call → before.made effect = 0)
    (fits : AttemptFits direction op before)
    (handled : handle choice op before = some (answer, after)) : Once effect after := by
  cases reads : op.reads with
  | true => exact handle_reads reads handled ▸ once
  | false =>
      cases made : op.effect? with
      | some own =>
          rcases handle_effect made handled with rfl | effected
          · exact once
          · exact once.effected made (fits.due made) effected
      | none =>
          cases sought : op.seeks with
          | some call =>
              rcases handle_seeks sought handled with rfl | rfl
              · exact once
              · exact once.seeks fun own => vouched call sought own rfl
          | none =>
              cases op with
              | load => exact once.loads unmade handled
              | send author command =>
                  cases author with
                  | task => exact fits.elim
                  | attempt =>
                      rcases send_cases sane.emits fits.1 (Option.some.inj handled) with
                        ⟨rfl, -⟩ | records
                      · exact once
                      · have later := records.stage_le
                        obtain ⟨_, _, -, -, rfl, -⟩ := records
                        obtain ⟨made, untried⟩ := @made_eq before
                          { before with stream := before.stream ++ [_] } effect rfl rfl rfl
                        exact once.frame rfl later untried made.le
              | spawnBurn request =>
                  cases handled
                  obtain ⟨made, untried⟩ := @made_eq before
                    { before with tasks := before.tasks ++ [⟨request, .queued⟩] } effect rfl rfl rfl
                  exact once.frame rfl le_rfl untried made.le
              | acceptBurn | submitBurn | finishBurn => exact fits.elim
              | broadcast | initiateWithdrawal | convertUsdcUsd => cases made
              | findRecentWithdrawal | findRecentUsdcTransfer => cases sought
              | _ => cases reads

end Attempts

end Liquidity.Transfer
