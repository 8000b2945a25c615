import Liquidity.Process.Attempts
import Liquidity.Wallet.Submit
import Mathlib.Algebra.Order.Floor.Semiring
import Mathlib.Data.Rat.Floor

/-!
# What a failed send leaves in the nonce cache

A send that fails empties the cache, so that the next one starts from the count of
mined transactions. If it failed before it had a nonce, it leaves the cache as it
was. One exit does neither: where a raised fee overflows, the send ends with the
cache one past a nonce it has not used.
-/

namespace Liquidity.Wallet

open Process

/-- The cache, and what one call has done with it. -/
structure NonceUse where
  cache : Option Nat
  /-- The call has taken a nonce, and moved the cache. -/
  assigned : Bool
  /-- What the node estimated, for one resubmission each. -/
  estimates : List Eip1559Estimation

def NonceUse.start (cache : Option Nat) : NonceUse := ⟨cache, false, []⟩

/-- The cache answers what it holds. Everything else is answered at will. -/
def nonceStep : Step Op.Ret NonceUse
  | .peekNextNonce, s, cached, t => cached = s.cache ∧ t = s
  | .setNextNonce nonce, s, _, t => t = { s with cache := some nonce, assigned := true }
  | .invalidate, s, _, t => t = { s with cache := none }
  | .estimateFees, s, answer, t => t = { s with
      estimates := s.estimates ++ match answer with
        | .ok estimate => [estimate]
        | .error _ => [] }
  | _, s, _, t => t = s

/-- A fee can be raised for a resubmission. -/
def CanBeRaised (attempt fee : Nat) : Prop :=
  fee * (100 + feeBumpPctPerAttempt * attempt) ≤ u128Max

/-- Every estimate can be raised for the resubmission it was asked for. -/
def FeesFit (estimates : List Eip1559Estimation) : Prop :=
  ∀ index estimate, estimates[index]? = some estimate →
    CanBeRaised (index + 1) estimate.maxFeePerGas ∧
      CanBeRaised (index + 1) estimate.maxPriorityFeePerGas

/-- The next send starts from the chain, or from where this one did. -/
def NoStaleNonce (cache : Option Nat) (after : NonceUse) : Prop :=
  after.cache = none ∨ (after.assigned = false ∧ after.cache = cache)

/-! ## Raising a fee -/

theorem bumpFee_fits {value pct : Nat} (fits : value * (100 + pct) ≤ u128Max) :
    bumpFee value pct = .ok ((value * (100 + pct) + 99) / 100) := if_pos fits

theorem bumpFee_overflow {value pct : Nat} (large : ¬ value * (100 + pct) ≤ u128Max) :
    bumpFee value pct = .error .replacementFeeOverflow := if_neg large

/-- The division rounds up. -/
theorem div_ceil_eq (scaled : Nat) : (scaled + 99) / 100 = ⌈(scaled : ℚ) / 100⌉₊ := by
  refine eq_of_forall_ge_iff fun bound => ?_
  rw [Nat.ceil_le, div_le_iff₀ (by norm_num)]
  constructor
  · intro within
    have whole : scaled ≤ bound * 100 := by omega
    exact_mod_cast whole
  · intro within
    have whole : scaled ≤ bound * 100 := by exact_mod_cast within
    omega

/-- A raised fee is exact, rounded up; it does not wrap. -/
theorem bumpFee_exact (value pct : Nat) :
    bumpFee value pct = .ok ⌈(value * (100 + pct) : ℚ) / 100⌉₊ ∨
      (u128Max < value * (100 + pct) ∧ bumpFee value pct = .error .replacementFeeOverflow) := by
  by_cases fits : value * (100 + pct) ≤ u128Max
  · left
    rw [bumpFee_fits fits, div_ceil_eq]
    push_cast
    rfl
  · right
    exact ⟨Nat.lt_of_not_le fits, bumpFee_overflow fits⟩

/-! ## The exits -/

/-- How a call may end: a failure leaves no stale nonce exactly if the fees fit. -/
def Ends (cache : Option Nat) (result : Except EvmError TxHash) (after : NonceUse) : Prop :=
  ∀ error, result = .error error → (NoStaleNonce cache after ↔ FeesFit after.estimates)

variable {s : NonceUse} {call : SendCall} {cache : Option Nat} {path : SendPath}

theorem Ends.returned (txHash : TxHash) (s : NonceUse) : Ends cache (.ok txHash) s := nofun

/-- The cache is emptied on the way out. -/
theorem gives_up (fit : FeesFit s.estimates) (error : EvmError) :
    (do invalidate; throw error : Send TxHash).Leads nonceStep (Ends cache) s := by
  rintro _ t rfl _ -
  exact iff_of_true (.inl rfl) fit

/-- The exit that forgets to. -/
theorem overflows {nonce : Nat} (error : EvmError) (cached : s.cache = some nonce)
    (assigned : s.assigned = true) (large : ¬ FeesFit s.estimates) :
    Ends cache (.error error) s := by
  rintro _ -
  refine iff_of_false ?_ large
  rintro (empty | ⟨unassigned, -⟩)
  · cases cached.symm.trans empty
  · cases assigned.symm.trans unassigned

theorem submit_pinned_nonce {tx : TransactionRequest} {nonce : Nat}
    (pinned : tx.nonce = some nonce) :
    (submit call path tx).Leads nonceStep (returns fun _ t => t = s) s := by
  simp only [submit, pinned]
  rintro answer t rfl
  rfl

theorem submit_cached_nonce {tx : TransactionRequest} {nonce : Nat} (unpinned : tx.nonce = none)
    (cached : s.cache = some nonce) :
    (submit call path tx).Leads nonceStep (returns fun _ t => t.estimates = s.estimates) s := by
  simp only [submit, unpinned]
  rintro peeked t ⟨rfl, rfl⟩
  rw [cached]
  rintro _ t rfl
  rintro answer t rfl
  rfl

/-! ## The two recoveries -/

theorem feesFit_concat {estimates : List Eip1559Estimation} {estimate : Eip1559Estimation}
    (fit : FeesFit estimates)
    (last : CanBeRaised (estimates.length + 1) estimate.maxFeePerGas ∧
      CanBeRaised (estimates.length + 1) estimate.maxPriorityFeePerGas) :
    FeesFit (estimates ++ [estimate]) := by
  intro index found listed
  rcases Nat.lt_or_ge index estimates.length with earlier | later
  · rw [List.getElem?_append_left earlier] at listed
    exact fit index found listed
  · rw [List.getElem?_append_right later] at listed
    obtain ⟨same, rfl⟩ := List.getElem?_eq_some_iff.mp listed
    have here : index = estimates.length := by
      simp only [List.length_singleton] at same
      omega
    subst here
    simpa using last

theorem not_feesFit_concat {estimates : List Eip1559Estimation} {estimate : Eip1559Estimation}
    (large : ¬ (CanBeRaised (estimates.length + 1) estimate.maxFeePerGas ∧
      CanBeRaised (estimates.length + 1) estimate.maxPriorityFeePerGas)) :
    ¬ FeesFit (estimates ++ [estimate]) := fun fit => large (fit _ _ (by simp))

theorem resubmitWithBumpedFee_ends {nonce held : Nat} (remaining : Nat) (fit : FeesFit s.estimates)
    (cached : s.cache = some held) (assigned : s.assigned = true)
    (count : s.estimates.length + remaining = maxReplacementResubmits) :
    (resubmitWithBumpedFee call nonce remaining).Leads nonceStep (Ends cache) s := by
  induction remaining generalizing s with
  | zero => exact gives_up fit _
  | succ remaining ih =>
      rintro estimated t rfl
      cases estimated with
      | error error =>
          refine gives_up ?_ error
          simpa using fit
      | ok estimate =>
          have attempt : maxReplacementResubmits - remaining = s.estimates.length + 1 := by omega
          simp only [attempt]
          show (Prog.liftExcept _ >>= _).Leads _ _ _
          by_cases first : CanBeRaised (s.estimates.length + 1) estimate.maxFeePerGas
          · rw [bumpFee_fits first]
            show (Prog.liftExcept _ >>= _).Leads _ _ _
            by_cases second : CanBeRaised (s.estimates.length + 1) estimate.maxPriorityFeePerGas
            · rw [bumpFee_fits second]
              refine (submit_pinned_nonce rfl).bind_returns ?_
              rintro answer u rfl
              have fit := feesFit_concat fit ⟨first, second⟩
              cases answer with
              | ok txHash =>
                  rintro _ v rfl
                  exact Ends.returned txHash _
              | error error =>
                  dsimp only
                  split
                  · refine ih fit cached assigned ?_
                    simp only [List.length_append, List.length_singleton]
                    omega
                  · exact gives_up fit error
            · rw [bumpFee_overflow second]
              exact overflows _ cached assigned (not_feesFit_concat fun both => second both.2)
          · rw [bumpFee_overflow first]
            exact overflows _ cached assigned (not_feesFit_concat fun both => first both.1)

theorem resolveUnderpricedViaLatestNonce_keeps (nonce : Nat) :
    (resolveUnderpricedViaLatestNonce nonce).Leads nonceStep (returns fun _ t => t = s) s := by
  refine Prog.Leads.perform_bind ?_
  rintro latest t rfl
  cases latest with
  | error error => rfl
  | ok latestNonce =>
      dsimp only
      split
      · rfl
      · split <;> rfl

theorem retryLoop_ends {error : EvmError} {floor : Option Nat} (remaining : Nat)
    (fit : FeesFit s.estimates) :
    (retryLoop call remaining error floor).Leads nonceStep (Ends cache) s := by
  induction remaining generalizing s error floor with
  | zero => exact gives_up fit error
  | succ remaining ih =>
      refine Prog.Leads.perform_bind ?_
      rintro pending t rfl
      cases (NonceSource.resolve error.nextNonceHint pending floor).sourcedNonce with
      | none =>
          rintro _ u rfl
          exact ih fit
      | some sourced =>
          dsimp only
          refine Prog.Leads.perform_bind ?_
          rintro _ u rfl
          refine (submit_cached_nonce rfl rfl).bind_returns ?_
          intro answer u same
          have fit : FeesFit u.estimates := by
            rw [same]
            exact fit
          cases answer with
          | ok txHash =>
              rintro _ v rfl
              exact Ends.returned txHash _
          | error rejection =>
              dsimp only
              split
              · exact ih fit
              · split
                · rintro ownership v rfl
                  cases ownership with
                  | ours => exact gives_up fit rejection
                  | unknown =>
                      refine (resolveUnderpricedViaLatestNonce_keeps _).bind_returns ?_
                      rintro fallback w rfl
                      cases fallback with
                      | stop => exact gives_up fit rejection
                      | raiseFloorTo candidate => exact ih fit
                · exact gives_up fit rejection

/-! ## A whole call -/

/-- A nonce is given out, or the cache stays as it is. -/
theorem assignNonce_uses : assignNonce.Leads nonceStep
    (fun result t => match result with
      | .ok nonce => t = { s with cache := some (saturatingSucc nonce), assigned := true }
      | .error _ => t = s) s := by
  refine Prog.Leads.perform_bind ?_
  rintro cached t ⟨rfl, rfl⟩
  cases t.cache with
  | some nonce =>
      rintro _ u rfl
      rfl
  | none =>
      refine Prog.Leads.perform_bind ?_
      rintro fetched u rfl
      cases fetched with
      | error error => rfl
      | ok nonce =>
          rintro _ v rfl
          rfl

theorem sendWithRecovery_ends (call : SendCall) (cache : Option Nat) :
    (sendWithRecovery call).Leads nonceStep (Ends cache) (.start cache) := by
  have none : FeesFit [] := nofun
  refine assignNonce_uses.bind ?_ ?_
  · rintro nonce t rfl
    refine (submit_pinned_nonce rfl).bind_returns ?_
    rintro answer u rfl
    cases answer with
    | ok txHash =>
        rintro _ v rfl
        exact Ends.returned txHash _
    | error error =>
        dsimp only
        split
        · rintro peeked v ⟨rfl, rfl⟩
          exact retryLoop_ends _ none
        · split
          · exact resubmitWithBumpedFee_ends _ none rfl rfl rfl
          · exact gives_up none error
  · rintro error t rfl _ -
    exact iff_of_true (.inr ⟨rfl, rfl⟩) none

/-- A failed send leaves no stale nonce exactly if every fee that was estimated
could be raised; and a fee is raised exactly, or refused. A percentage is 64 bits
wide, and so is its sum with 100. -/
theorem failed_send_resets (call : SendCall) (cache : Option Nat) :
    (∀ error after,
      Completes nonceStep (sendWithRecovery call) (.start cache) (.error error) after →
        (NoStaleNonce cache after ↔ FeesFit after.estimates)) ∧
    ∀ value pct, 100 + pct ≤ u64Max →
      bumpFee value pct = .ok ⌈(value * (100 + pct) : ℚ) / 100⌉₊ ∨
        (u128Max < value * (100 + pct) ∧ bumpFee value pct = .error .replacementFeeOverflow) :=
  ⟨fun error _ ran => (sendWithRecovery_ends call cache).completes ran error rfl,
    fun value pct _ => bumpFee_exact value pct⟩

/-- The base send fails for a reason of its own. -/
theorem failed_send :
    Completes nonceStep (sendWithRecovery ⟨0, "", []⟩) (.start (some 5))
      (.error (.transport "execution reverted")) ⟨none, true, []⟩ := by
  let failed : Except EvmError TxHash := .error (.transport "execution reverted")
  have taken : nonceStep (.setNextNonce 6) (.start (some 5)) () ⟨some 6, true, []⟩ := rfl
  have sent : nonceStep (.broadcast ⟨"", [], some 5, none⟩ 5 ⟨0, "", []⟩ .base)
      ⟨some 6, true, []⟩ failed ⟨some 6, true, []⟩ := rfl
  have emptied : nonceStep .invalidate ⟨some 6, true, []⟩ () ⟨none, true, []⟩ := rfl
  exact .call ⟨rfl, rfl⟩ (.call taken (.call sent (.call emptied (.fail _ _))))

theorem failed_send_resets_reverted :
    NoStaleNonce (some 5) ⟨none, true, []⟩ ∧
      bumpFee 1000000001 15 = .ok ⌈(1000000001 * (100 + 15) : ℚ) / 100⌉₊ := by
  have every := failed_send_resets ⟨0, "", []⟩ (some 5)
  constructor
  · exact (every.1 _ _ failed_send).mpr nofun
  · rcases every.2 1000000001 15 (by decide) with exactly | ⟨large, -⟩
    · exact_mod_cast exactly
    · exact absurd large (by decide)

/-- The nonce is occupied, and the node's estimate is too large to raise: the send
fails, and the next one takes the nonce after the one that was not used. -/
theorem overflow_leaves_nonce :
    Completes nonceStep (sendWithRecovery ⟨0, "", []⟩) (.start (some 5))
      (.error .replacementFeeOverflow) ⟨some 6, true, [⟨u128Max, 0⟩]⟩ ∧
    ¬ NoStaleNonce (some 5) ⟨some 6, true, [⟨u128Max, 0⟩]⟩ := by
  constructor
  · let occupied : Except EvmError TxHash := .error (.response false none true)
    let estimated : Except EvmError Eip1559Estimation := .ok ⟨u128Max, 0⟩
    have taken : nonceStep (.setNextNonce 6) (.start (some 5)) () ⟨some 6, true, []⟩ := rfl
    have sent : nonceStep (.broadcast ⟨"", [], some 5, none⟩ 5 ⟨0, "", []⟩ .base)
        ⟨some 6, true, []⟩ occupied ⟨some 6, true, []⟩ := rfl
    have asked : nonceStep .estimateFees ⟨some 6, true, []⟩ estimated
        ⟨some 6, true, [⟨u128Max, 0⟩]⟩ := rfl
    exact .call ⟨rfl, rfl⟩ (.call taken (.call sent (.call asked (.fail _ _))))
  · rintro (empty | ⟨unassigned, -⟩)
    · cases empty
    · cases unassigned

end Liquidity.Wallet
