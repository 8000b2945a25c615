import Liquidity.Process.Attempts
import Liquidity.Wallet.Submit

/-!
# One send, at most one transaction

A call of the send path is followed on its own, against a node that answers as it
pleases. A transaction that is refused because its nonce is too low or occupied
was not admitted; after any other error it may have been. The call ends after a
few submissions, and no two of those that may have been admitted differ in their
nonce, so at most one of them is mined.

The lock is held, so the nonce cache is the call's own. It is the production
cache; the nonce a submission carries is the pinned one, or the one its filler
takes from there.
-/

namespace Liquidity.Wallet

open Process

/-- One submission of a call, with the answer it got. -/
structure Submission where
  nonce : Nat
  path : SendPath
  answer : Except EvmError TxHash
  deriving DecidableEq

namespace Submission

/-- The answer says that the transaction was not admitted. -/
def Refused (submission : Submission) : Prop :=
  match submission.answer with
  | .ok _ => False
  | .error error => error.isNonceTooLow = true ∨ error.isReplacementUnderpriced = true

def MayBeAdmitted (submission : Submission) : Prop := ¬ submission.Refused

/-- The next nonce the answer names. -/
def hint (submission : Submission) : Option Nat :=
  match submission.answer with
  | .ok _ => none
  | .error error => error.nextNonceHint

/-- A retargeted submission goes above every nonce tried before it, and not below
a hint it was given. -/
def Follows (earlier later : Submission) : Prop :=
  later.path = .retry → (earlier.nonce < u64Max → earlier.nonce < later.nonce) ∧
    ∀ hint, earlier.hint = some hint → hint ≤ later.nonce

end Submission

/-- The cache, and the history of one call. -/
structure CallState where
  cache : Option Nat
  submissions : List Submission
  recorded : List (Nat × TxHash)

namespace CallState

/-- A call begins with whatever the cache holds. -/
def start (cache : Option Nat) : CallState where
  cache := cache
  submissions := []
  recorded := []

def submitted (state : CallState) (submission : Submission) : CallState :=
  { state with submissions := state.submissions ++ [submission] }

@[simp] theorem submitted_submissions (state : CallState) (submission : Submission) :
    (state.submitted submission).submissions = state.submissions ++ [submission] := rfl

@[simp] theorem submitted_recorded (state : CallState) (submission : Submission) :
    (state.submitted submission).recorded = state.recorded := rfl

@[simp] theorem submitted_cache (state : CallState) (submission : Submission) :
    (state.submitted submission).cache = state.cache := rfl

end CallState

/-- Nonces are 64 bits wide, those that are read and those a text is parsed for. -/
def Op.Fits : (op : Op) → op.Ret → Prop
  | .fetchNonce, answer | .latestNonce, answer | .pendingNonce, answer =>
      ∀ nonce, answer = .ok nonce → nonce ≤ u64Max
  | .broadcast .., answer =>
      ∀ error hint, answer = .error error → error.nextNonceHint = some hint → hint ≤ u64Max
  | _, _ => True

/-- The cache answers what it holds. Everything else is answered at will. -/
def callStep : Step Op.Ret CallState
  | .peekNextNonce, s, cached, t => cached = s.cache ∧ t = s
  | .setNextNonce nonce, s, _, t => t = { s with cache := some nonce }
  | .invalidate, s, _, t => t = { s with cache := none }
  | .broadcast tx nonce call path, s, answer, t =>
      Op.Fits (.broadcast tx nonce call path) answer ∧ t = s.submitted ⟨nonce, path, answer⟩
  | .record nonce txHash, s, _, t => t = { s with recorded := s.recorded ++ [(nonce, txHash)] }
  | op, s, answer, t => op.Fits answer ∧ t = s

/-- What a call that has ended did. -/
structure OneTransaction (result : Except EvmError TxHash) (state : CallState) : Prop where
  bounded : state.submissions.length ≤ 5
  one_nonce : ∀ first ∈ state.submissions, ∀ second ∈ state.submissions,
    first.MayBeAdmitted → second.MayBeAdmitted → first.nonce = second.nonce
  ordered : state.submissions.Pairwise Submission.Follows
  recorded : ∀ txHash, result = .ok txHash → ∃ submission ∈ state.submissions,
    submission.answer = .ok txHash ∧ state.recorded = [(submission.nonce, txHash)]
  unrecorded : ∀ error, result = .error error → state.recorded = []

/-! ## While a call is under way -/

/-- Nothing that was submitted has been admitted. -/
structure NoneAdmitted (state : CallState) : Prop where
  refused : ∀ submission ∈ state.submissions, submission.Refused
  ordered : state.submissions.Pairwise Submission.Follows
  unrecorded : state.recorded = []

/-- At most the last submission has been admitted. -/
structure LastAdmitted (state : CallState) : Prop where
  one_nonce : ∀ first ∈ state.submissions, ∀ second ∈ state.submissions,
    first.MayBeAdmitted → second.MayBeAdmitted → first.nonce = second.nonce
  ordered : state.submissions.Pairwise Submission.Follows
  unrecorded : state.recorded = []

variable {s : CallState} {call : SendCall} {path : SendPath}

namespace NoneAdmitted

theorem lastAdmitted (none : NoneAdmitted s) : LastAdmitted s where
  one_nonce first listed _ _ admitted _ := (admitted (none.refused first listed)).elim
  ordered := none.ordered
  unrecorded := none.unrecorded

theorem ordered_submitted (none : NoneAdmitted s) {submission : Submission}
    (follows : ∀ earlier ∈ s.submissions, earlier.Follows submission) :
    (s.submitted submission).submissions.Pairwise Submission.Follows := by
  rw [CallState.submitted_submissions, List.pairwise_append]
  refine ⟨none.ordered, List.pairwise_singleton _ _, ?_⟩
  intro earlier listed later last
  rw [List.mem_singleton] at last
  subst last
  exact follows earlier listed

theorem submitted (none : NoneAdmitted s) {submission : Submission}
    (follows : ∀ earlier ∈ s.submissions, earlier.Follows submission) :
    LastAdmitted (s.submitted submission) where
  one_nonce first listed second listed' admitted admitted' := by
    have last : ∀ tried ∈ (s.submitted submission).submissions, tried.MayBeAdmitted →
        tried = submission := by
      intro tried mem may
      rcases List.mem_append.mp mem with before | now
      · exact (may (none.refused tried before)).elim
      · exact List.mem_singleton.mp now
    rw [last first listed admitted, last second listed' admitted']
  ordered := none.ordered_submitted follows
  unrecorded := none.unrecorded

theorem submitted_refused (none : NoneAdmitted s) {submission : Submission}
    (refused : submission.Refused)
    (follows : ∀ earlier ∈ s.submissions, earlier.Follows submission) :
    NoneAdmitted (s.submitted submission) where
  refused tried mem := by
    rcases List.mem_append.mp mem with before | now
    · exact none.refused tried before
    · rw [List.mem_singleton.mp now]
      exact refused
  ordered := none.ordered_submitted follows
  unrecorded := none.unrecorded

/-- Only a retargeted submission has an order to keep. -/
theorem follows_pinned {nonce : Nat} {answer : Except EvmError TxHash}
    (pinned : path ≠ .retry) :
    ∀ earlier ∈ s.submissions, earlier.Follows ⟨nonce, path, answer⟩ :=
  fun _ _ retried => (pinned retried).elim

end NoneAdmitted

theorem LastAdmitted.ended (last : LastAdmitted s) (few : s.submissions.length ≤ 5)
    (error : EvmError) (cache : Option Nat) :
    OneTransaction (.error error) { s with cache := cache } where
  bounded := few
  one_nonce := last.one_nonce
  ordered := last.ordered
  recorded _ returned := nomatch returned
  unrecorded _ _ := last.unrecorded

/-- A call that gives up clears the cache. -/
theorem LastAdmitted.gives_up (last : LastAdmitted s) (few : s.submissions.length ≤ 5)
    (error : EvmError) :
    (do invalidate; throw error : Send TxHash).Leads callStep OneTransaction s := by
  intro _ t cleared
  subst cleared
  exact last.ended few error none

/-- A submission that is accepted is recorded and ends the call. -/
theorem NoneAdmitted.accepted (none : NoneAdmitted s) {nonce : Nat} {txHash : TxHash}
    (follows : ∀ earlier ∈ s.submissions, earlier.Follows ⟨nonce, path, .ok txHash⟩)
    (few : s.submissions.length < 5) :
    (do record nonce txHash; return txHash : Send TxHash).Leads callStep OneTransaction
      (s.submitted ⟨nonce, path, .ok txHash⟩) := by
  intro _ t entered
  subst entered
  have last := none.submitted follows
  refine ⟨?_, last.one_nonce, last.ordered, ?_, nofun⟩
  · simp only [CallState.submitted_submissions, List.length_append, List.length_singleton]
    omega
  · intro hash returned
    cases returned
    refine ⟨⟨nonce, path, .ok txHash⟩, List.mem_append_right _ List.mem_cons_self, rfl, ?_⟩
    show s.recorded ++ [(nonce, txHash)] = _
    rw [none.unrecorded]
    rfl

/-! ## One submission -/

/-- A pinned nonce is the one submitted. -/
theorem submit_pinned {tx : TransactionRequest} {nonce : Nat} (pinned : tx.nonce = some nonce) :
    (submit call path tx).Leads callStep
      (returns fun answer t => Op.Fits (.broadcast tx nonce call path) answer ∧
        t = s.submitted ⟨nonce, path, answer⟩) s := by
  simp only [submit, pinned]
  intro answer t sent
  exact sent

/-- Without one, the filler takes the nonce the cache holds. -/
theorem submit_cached {tx : TransactionRequest} {nonce : Nat} (unpinned : tx.nonce = none)
    (cached : s.cache = some nonce) :
    (submit call path tx).Leads callStep
      (returns fun answer t => Op.Fits (.broadcast tx nonce call path) answer ∧
        t = CallState.submitted { s with cache := some (saturatingSucc nonce) }
          ⟨nonce, path, answer⟩) s := by
  simp only [submit, unpinned]
  intro peeked t held
  obtain ⟨rfl, rfl⟩ := held
  rw [cached]
  intro _ t moved
  subst moved
  intro answer t sent
  exact sent

/-! ## Raising the fee -/

theorem resubmitWithBumpedFee_leads {nonce : Nat} (remaining : Nat) (none : NoneAdmitted s)
    (few : s.submissions.length + remaining ≤ 5) :
    (resubmitWithBumpedFee call nonce remaining).Leads callStep OneTransaction s := by
  induction remaining generalizing s with
  | zero => exact none.lastAdmitted.gives_up (by omega) _
  | succ remaining ih =>
      intro estimated t asked
      obtain ⟨-, rfl⟩ := asked
      cases estimated with
      | error error => exact none.lastAdmitted.gives_up (by omega) _
      | ok estimate =>
          -- A fee that overflows ends the call before it submits.
          have overflow : ∀ error, OneTransaction (.error error) t :=
            fun error => none.lastAdmitted.ended (by omega) error t.cache
          show (Prog.liftExcept _ >>= _).Leads _ _ _
          cases bumpFee estimate.maxFeePerGas _ with
          | error error => exact overflow error
          | ok maxFeePerGas =>
              show (Prog.liftExcept _ >>= _).Leads _ _ _
              cases bumpFee estimate.maxPriorityFeePerGas _ with
              | error error => exact overflow error
              | ok maxPriorityFeePerGas =>
                  refine (submit_pinned rfl).bind_returns ?_
                  rintro answer u ⟨-, rfl⟩
                  have follows : ∀ earlier ∈ t.submissions,
                      earlier.Follows ⟨nonce, .bump, answer⟩ :=
                    NoneAdmitted.follows_pinned nofun
                  cases answer with
                  | ok txHash => exact none.accepted follows (by omega)
                  | error error =>
                      dsimp only
                      split
                      · rename_i occupied
                        refine ih (none.submitted_refused (.inr occupied) follows) ?_
                        simp only [CallState.submitted_submissions, List.length_append,
                          List.length_singleton]
                        omega
                      · refine (none.submitted follows).gives_up ?_ _
                        simp only [CallState.submitted_submissions, List.length_append,
                          List.length_singleton]
                        omega

/-! ## Retargeting the nonce -/

/-- What the floor and the last rejection say of the submissions so far. -/
structure Retargeting (floor : Nat) (error : EvmError) (state : CallState) : Prop
    extends NoneAdmitted state where
  passed : ∀ submission ∈ state.submissions, submission.nonce < u64Max → submission.nonce < floor
  hinted : ∀ submission ∈ state.submissions, ∀ hint, submission.hint = some hint →
    hint ≤ floor ∨ error.nextNonceHint = some hint

namespace Retargeting

variable {floor nonce : Nat} {error : EvmError}

/-- A target that is neither below the floor nor below the hint. -/
theorem follows (sofar : Retargeting floor error s) (above : floor ≤ nonce)
    (named : ∀ hint, error.nextNonceHint = some hint → hint ≤ nonce)
    (answer : Except EvmError TxHash) :
    ∀ earlier ∈ s.submissions, earlier.Follows ⟨nonce, path, answer⟩ := by
  intro earlier listed _
  refine ⟨fun small => (sofar.passed earlier listed small).trans_le above, ?_⟩
  intro hint given
  rcases sofar.hinted earlier listed hint given with below | last
  · exact below.trans above
  · exact named hint last

/-- After a rejection the floor is past the nonce that was rejected. -/
theorem rejected {floor' : Nat} {rejection : EvmError} (sofar : Retargeting floor error s)
    (above : floor ≤ nonce) (named : ∀ hint, error.nextNonceHint = some hint → hint ≤ nonce)
    (small : ∀ hint, error.nextNonceHint = some hint → hint ≤ u64Max)
    (refused : Submission.Refused ⟨nonce, path, .error rejection⟩)
    (raised : floor ≤ floor') (past : nonce < u64Max → nonce < floor')
    (top : ∀ hint ≤ u64Max, hint ≤ nonce → hint ≤ floor') :
    Retargeting floor' rejection (s.submitted ⟨nonce, path, .error rejection⟩) where
  toNoneAdmitted := sofar.toNoneAdmitted.submitted_refused refused
    (sofar.follows above named _)
  passed submission mem below := by
    rcases List.mem_append.mp mem with before | now
    · exact (sofar.passed submission before below).trans_le raised
    · rw [List.mem_singleton.mp now] at below ⊢
      exact past below
  hinted submission mem hint given := by
    rcases List.mem_append.mp mem with before | now
    · left
      rcases sofar.hinted submission before hint given with below | last
      · exact below.trans raised
      · exact top hint (small hint last) (named hint last)
    · right
      rw [List.mem_singleton.mp now] at given
      exact given

theorem with_cache (sofar : Retargeting floor error s) (cache : Option Nat) :
    Retargeting floor error { s with cache := cache } :=
  ⟨⟨sofar.refused, sofar.ordered, sofar.unrecorded⟩, sofar.passed, sofar.hinted⟩

end Retargeting

theorem lt_saturatingSucc {nonce : Nat} (small : nonce < u64Max) :
    nonce < saturatingSucc nonce := by
  rw [saturatingSucc, if_pos small]
  exact Nat.lt_succ_self nonce

theorem le_saturatingSucc {nonce hint : Nat} (fits : hint ≤ u64Max) (below : hint ≤ nonce) :
    hint ≤ saturatingSucc nonce := by
  unfold saturatingSucc
  split <;> omega

/-- What an occupied nonce raises the floor to is past it. -/
theorem resolveUnderpricedViaLatestNonce_leads (nonce : Nat) :
    (resolveUnderpricedViaLatestNonce nonce).Leads callStep
      (returns fun fallback t => t = s ∧ ∀ floor, fallback = .raiseFloorTo floor →
        (nonce < u64Max → nonce < floor) ∧ ∀ hint ≤ u64Max, hint ≤ nonce → hint ≤ floor) s := by
  refine Prog.Leads.perform_bind ?_
  rintro latest t ⟨-, rfl⟩
  cases latest with
  | error error => exact ⟨rfl, nofun⟩
  | ok latestNonce =>
      dsimp only
      split
      · exact ⟨rfl, nofun⟩
      · split
        · rename_i mined
          refine ⟨rfl, ?_⟩
          intro floor raised
          cases raised
          exact ⟨fun _ => mined, fun hint _ below => below.trans mined.le⟩
        · refine ⟨rfl, ?_⟩
          intro floor raised
          cases raised
          exact ⟨lt_saturatingSucc, fun hint fits below => le_saturatingSucc fits below⟩

theorem retryLoop_leads {floor : Nat} {error : EvmError} (remaining : Nat)
    (sofar : Retargeting floor error s) (fits : ∀ hint, error.nextNonceHint = some hint →
      hint ≤ u64Max) (few : s.submissions.length + remaining ≤ 5) :
    (retryLoop call remaining error (some floor)).Leads callStep OneTransaction s := by
  induction remaining generalizing s floor error with
  | zero => exact sofar.lastAdmitted.gives_up (by omega) _
  | succ remaining ih =>
      refine Prog.Leads.perform_bind ?_
      rintro pending t ⟨-, rfl⟩
      obtain ⟨sourced, resolved, named⟩ := sourcedNonce_floor error.nextNonceHint pending floor
      simp only [resolved, raiseNonceFloor_some]
      have above : floor ≤ max floor sourced := Nat.le_max_left floor sourced
      have hinted : ∀ hint, error.nextNonceHint = some hint → hint ≤ max floor sourced :=
        fun hint given => (named hint given).trans (Nat.le_max_right floor sourced)
      generalize max floor sourced = nonce at above hinted ⊢
      refine Prog.Leads.perform_bind ?_
      rintro _ u rfl
      refine (submit_cached rfl rfl).bind_returns ?_
      rintro answer u ⟨answered, rfl⟩
      have sofar := sofar.with_cache (some (saturatingSucc nonce))
      have follows : ∀ earlier ∈ t.submissions, earlier.Follows ⟨nonce, .retry, answer⟩ :=
        sofar.follows above hinted answer
      have longer (rejection : EvmError) :
          (CallState.submitted { t with cache := some (saturatingSucc nonce) }
            ⟨nonce, .retry, .error rejection⟩).submissions.length + remaining ≤ 5 := by
        simp only [CallState.submitted_submissions, List.length_append, List.length_singleton]
        omega
      cases answer with
      | ok txHash => exact sofar.accepted follows (by simp; omega)
      | error rejection =>
          have given : ∀ hint, rejection.nextNonceHint = some hint → hint ≤ u64Max :=
            fun hint => answered rejection hint rfl
          have last := sofar.toNoneAdmitted.submitted follows
          have length := longer rejection
          dsimp only
          split
          · rename_i low
            refine ih (sofar.rejected above hinted fits (.inl low) (Nat.le_max_left ..) ?_ ?_)
              given length
            · exact fun small => (lt_saturatingSucc small).trans_le (Nat.le_max_right ..)
            · exact fun hint fits below =>
                (le_saturatingSucc fits below).trans (Nat.le_max_right ..)
          · split
            · rename_i occupied
              intro ownership u asked
              obtain ⟨-, rfl⟩ := asked
              cases ownership with
              | ours => exact last.gives_up (by omega) _
              | unknown =>
                  refine (resolveUnderpricedViaLatestNonce_leads nonce).bind_returns ?_
                  rintro fallback u ⟨rfl, past⟩
                  cases fallback with
                  | stop => exact last.gives_up (by omega) _
                  | raiseFloorTo candidate =>
                      obtain ⟨higher, atLeast⟩ := past candidate rfl
                      refine ih (sofar.rejected above hinted fits (.inr occupied)
                        (Nat.le_max_left ..) ?_ ?_) given length
                      · exact fun small => (higher small).trans_le (Nat.le_max_right ..)
                      · exact fun hint fits below =>
                          (atLeast hint fits below).trans (Nat.le_max_right ..)
            · exact last.gives_up (by omega) _

/-! ## A whole call -/

/-- The cache moves past the nonce it gives out. -/
theorem assignNonce_leads : assignNonce.Leads callStep
    (fun result t => match result with
      | .ok nonce => t = { s with cache := some (saturatingSucc nonce) }
      | .error _ => t = s) s := by
  refine Prog.Leads.perform_bind ?_
  rintro cached t ⟨rfl, rfl⟩
  cases t.cache with
  | some nonce =>
      rintro _ u rfl
      rfl
  | none =>
      refine Prog.Leads.perform_bind ?_
      rintro fetched u ⟨-, rfl⟩
      cases fetched with
      | error error => rfl
      | ok nonce =>
          rintro _ v rfl
          rfl

/-- The base send left the cache one past its nonce, so recovery has a floor. -/
theorem retryAfterNonceTooLow_leads {error : EvmError} {nonce : Nat} (low : error.isNonceTooLow)
    (fits : ∀ hint, error.nextNonceHint = some hint → hint ≤ u64Max)
    (cached : s.cache = some (saturatingSucc nonce)) (unrecorded : s.recorded = [])
    (first : s.submissions = [⟨nonce, .base, .error error⟩]) :
    (retryAfterNonceTooLow call error).Leads callStep OneTransaction s := by
  refine Prog.Leads.perform_bind ?_
  rintro peeked t ⟨rfl, rfl⟩
  rw [cached]
  have only : ∀ submission ∈ t.submissions, submission = ⟨nonce, .base, .error error⟩ := by
    intro submission listed
    rw [first] at listed
    exact List.mem_singleton.mp listed
  have floor : ∃ floor, initialFloor error.nextNonceHint (some (saturatingSucc nonce)) =
      some floor ∧ saturatingSucc nonce ≤ floor := by
    cases error.nextNonceHint with
    | none => exact ⟨_, rfl, Nat.le_refl _⟩
    | some hint => exact ⟨_, rfl, Nat.le_max_right _ _⟩
  obtain ⟨floor, initial, above⟩ := floor
  rw [initial]
  have sofar : Retargeting floor error t := by
    refine ⟨⟨?_, ?_, unrecorded⟩, ?_, ?_⟩
    · intro submission listed
      rw [only submission listed]
      exact .inl low
    · rw [first]
      exact List.pairwise_singleton _ _
    · intro submission listed small
      rw [only submission listed] at small ⊢
      exact (lt_saturatingSucc small).trans_le above
    · intro submission listed hint given
      rw [only submission listed] at given
      exact .inr given
  refine retryLoop_leads _ sofar fits ?_
  rw [first]
  exact Nat.le_succ 4

theorem sendWithRecovery_leads (call : SendCall) (cache : Option Nat) :
    (sendWithRecovery call).Leads callStep OneTransaction (.start cache) := by
  have fresh (cache : Option Nat) : NoneAdmitted { CallState.start cache with cache := cache } :=
    ⟨nofun, List.Pairwise.nil, rfl⟩
  refine assignNonce_leads.bind ?_ ?_
  · intro nonce t assigned
    subst assigned
    refine (submit_pinned rfl).bind_returns ?_
    rintro answer u ⟨answered, rfl⟩
    have none : NoneAdmitted { CallState.start cache with cache := some (saturatingSucc nonce) } :=
      fresh (some (saturatingSucc nonce))
    cases answer with
    | ok txHash => exact none.accepted nofun (Nat.zero_lt_succ 4)
    | error error =>
        dsimp only
        split
        · rename_i low
          exact retryAfterNonceTooLow_leads low (fun hint => answered error hint rfl) rfl rfl rfl
        · split
          · rename_i occupied
            exact resubmitWithBumpedFee_leads _
              (none.submitted_refused (.inr occupied) nofun) (Nat.le_refl 5)
          · exact (none.submitted nofun).gives_up (Nat.succ_le_succ (Nat.zero_le 4)) _
  · intro error t failed
    subst failed
    exact (fresh cache).lastAdmitted.ended (Nat.zero_le 5) error cache

/-- Every operation of a call can be answered. -/
theorem callStep_answers (op : Op) (s : CallState) : ∃ answer t, callStep op s answer t := by
  cases op with
  | peekNextNonce => exact ⟨s.cache, s, rfl, rfl⟩
  | setNextNonce nonce => exact ⟨(), _, rfl⟩
  | invalidate => exact ⟨(), _, rfl⟩
  | fetchNonce => exact ⟨.error (.transport ""), s, nofun, rfl⟩
  | latestNonce => exact ⟨.error (.transport ""), s, nofun, rfl⟩
  | pendingNonce => exact ⟨.error (.transport ""), s, nofun, rfl⟩
  | estimateFees => exact ⟨.error (.transport ""), s, trivial, rfl⟩
  | broadcast tx nonce call path => exact ⟨.ok (default : TxHash), _, nofun, rfl⟩
  | record nonce txHash => exact ⟨(), _, rfl⟩
  | ownership nonce => exact ⟨.unknown, s, trivial, rfl⟩

/-- The base send is refused with a hint, and the pending count cannot be read. -/
theorem retried_at_hint (call : SendCall) :
    Completes callStep (sendWithRecovery call) (.start (some 5)) (.ok 1)
      { cache := some 8
        submissions := [⟨5, .base, .error (.response true (some 7) false)⟩, ⟨7, .retry, .ok 1⟩]
        recorded := [(7, 1)] } := by
  let refused : Except EvmError TxHash := .error (.response true (some 7) false)
  let unread : Except EvmError Nat := .error (.transport "timeout")
  let first : CallState := ⟨some 6, [⟨5, .base, refused⟩], []⟩
  let last : CallState := ⟨some 8, [⟨5, .base, refused⟩, ⟨7, .retry, .ok 1⟩], []⟩
  have fits : ∀ error hint, refused = .error error → error.nextNonceHint = some hint →
      hint ≤ u64Max := by
    intro error hint same named
    rw [← Except.error.inj same] at named
    cases named
    decide
  have sent : callStep (.broadcast ⟨call.contract, call.calldata, some 5, none⟩ 5 call .base)
      ⟨some 6, [], []⟩ refused first := ⟨fits, rfl⟩
  have asked : callStep .pendingNonce first unread first := ⟨nofun, rfl⟩
  have again : callStep (.broadcast ⟨call.contract, call.calldata, none, none⟩ 7 call .retry)
      ⟨some 8, [⟨5, .base, refused⟩], []⟩ (.ok 1) last := ⟨nofun, rfl⟩
  have moved (nonce : Nat) (s : CallState) :
      callStep (.setNextNonce nonce) s () { s with cache := some nonce } := rfl
  have entered : callStep (.record 7 1) last () { last with recorded := [(7, 1)] } := rfl
  refine .call ⟨rfl, rfl⟩ (.call (moved 6 _) (.call sent ?_))
  refine .call ⟨rfl, rfl⟩ (.call asked (.call (moved 7 _) ?_))
  exact .call ⟨rfl, rfl⟩ (.call (moved 8 _) (.call again (.call entered (.done 1 _))))

/-- A call ends, whatever it is answered, after a few submissions. Those that may
have been admitted carry one nonce, a retargeted one goes above what was tried and
not below a hint, and the hash that is returned is recorded under the nonce its
transaction carries. -/
theorem one_transaction (call : SendCall) (cache : Option Nat) :
    (∃ result after, Completes callStep (sendWithRecovery call) (.start cache) result after) ∧
      ∀ result after, Completes callStep (sendWithRecovery call) (.start cache) result after →
        OneTransaction result after :=
  ⟨exists_completes callStep_answers _ _, fun _ _ ran =>
    (sendWithRecovery_leads call cache).completes ran⟩

theorem one_transaction_retried : ∃ after,
    Completes callStep (sendWithRecovery ⟨0, "", []⟩) (.start (some 5)) (.ok 1) after ∧
      OneTransaction (.ok 1) after :=
  ⟨_, retried_at_hint _, (one_transaction ⟨0, "", []⟩ (some 5)).2 _ _ (retried_at_hint _)⟩

/-- A retargeted send meets the hint; it need not exceed it. -/
theorem hint_not_exceeded :
    ¬ ∀ call cache result after,
      Completes callStep (sendWithRecovery call) (.start cache) result after →
        after.submissions.Pairwise fun earlier later => later.path = .retry →
          ∀ hint, earlier.hint = some hint → hint < u64Max → hint < later.nonce := by
  intro strictly
  have above := strictly ⟨0, "", []⟩ (some 5) _ _ (retried_at_hint ⟨0, "", []⟩)
  rw [List.pairwise_pair] at above
  exact absurd (above rfl 7 rfl (by decide)) (Nat.lt_irrefl 7)

end Liquidity.Wallet
