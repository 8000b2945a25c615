import Liquidity.Process.Triples
import Liquidity.Wallet.Mempool

/-!
# When a send evicts the transaction of another

A call that fails for any reason empties the nonce cache. The next call starts
again from the count of mined transactions, finds its nonce occupied by a
transaction that merely waits, and outbids it: the hash an earlier call returned
is gone. The record of nonces in flight is not asked on this path.

As long as no call reads the count while an acknowledged transaction waits, the
cache is ahead of every such transaction, and so is every nonce a call submits.
-/

namespace Liquidity.Wallet

open Process

variable {s t : World} {nonce : Nat}

/-- Every acknowledged transaction that waits is below this nonce. -/
def World.Clear (world : World) (nonce : Nat) : Prop :=
  ∀ tx ∈ world.mempool, tx.acknowledged = true → tx.nonce < nonce

/-- No acknowledged transaction waits. -/
def World.Settled (world : World) : Prop :=
  ∀ tx ∈ world.mempool, tx.acknowledged = false

instance (world : World) : Decidable world.Settled :=
  inferInstanceAs (Decidable (∀ tx ∈ world.mempool, tx.acknowledged = false))

/-- No acknowledged transaction was evicted. -/
def World.Undisplaced (world : World) : Prop :=
  ∀ eviction ∈ world.evictions, eviction.incumbent.acknowledged = false

/-- The condition on a step: the count is read for an empty cache only when no
acknowledged transaction waits. -/
def countsWhenSettled : System.Permits Op World SendCall := fun _ op world =>
  match op with
  | .fetchNonce => world.Settled
  | _ => True

instance (call : SendCall) (op : Op) (world : World) :
    Decidable (countsWhenSettled call op world) :=
  match op with
  | .fetchNonce => inferInstanceAs (Decidable world.Settled)
  | .peekNextNonce | .setNextNonce _ | .invalidate | .latestNonce | .pendingNonce
  | .estimateFees | .broadcast .. | .record .. | .ownership _ => .isTrue trivial

structure Ahead (world : World) : Prop where
  /-- The largest nonce is not taken. -/
  small : ∀ tx ∈ world.mempool, tx.nonce < u64Max
  cached : ∀ nonce, world.cache = some nonce → world.Clear nonce
  undisplaced : world.Undisplaced

theorem World.Clear.mono (clear : s.Clear nonce) {higher : Nat} (above : nonce ≤ higher) :
    s.Clear higher :=
  fun tx listed known => (clear tx listed known).trans_le above

theorem World.Settled.clear (settled : s.Settled) (nonce : Nat) : s.Clear nonce := by
  intro tx listed known
  rw [settled tx listed] at known
  cases known

/-- One past a clear nonce is clear, also where the count saturates. -/
theorem World.Clear.succ (clear : s.Clear nonce) (ahead : Ahead s) :
    s.Clear (saturatingSucc nonce) := by
  intro tx listed known
  have below := clear tx listed known
  have small := ahead.small tx listed
  unfold saturatingSucc
  split <;> omega

/-! ## What the surroundings do -/

/-- Transactions leave the mempool; the cache stays. -/
structure Leaves (s t : World) : Prop where
  cache : t.cache = s.cache
  mempool : ∀ tx ∈ t.mempool, tx ∈ s.mempool
  evictions : t.evictions = s.evictions

namespace Leaves

theorem refl (s : World) : Leaves s s := ⟨rfl, fun _ listed => listed, rfl⟩

theorem trans {u : World} (first : Leaves s t) (second : Leaves t u) : Leaves s u :=
  ⟨second.cache.trans first.cache, fun tx listed => first.mempool tx (second.mempool tx listed),
    second.evictions.trans first.evictions⟩

theorem clear (leaves : Leaves s t) (clear : s.Clear nonce) : t.Clear nonce :=
  fun tx listed => clear tx (leaves.mempool tx listed)

theorem ahead (leaves : Leaves s t) (ahead : Ahead s) : Ahead t where
  small tx listed := ahead.small tx (leaves.mempool tx listed)
  cached nonce held := leaves.clear (ahead.cached nonce (leaves.cache ▸ held))
  undisplaced eviction listed := ahead.undisplaced eviction (leaves.evictions ▸ listed)

theorem filter (s : World) (kept : PendingTx → Bool) (mined : Nat) :
    Leaves s { s with mined := mined, mempool := s.mempool.filter kept } :=
  ⟨rfl, fun _ listed => List.mem_of_mem_filter listed, rfl⟩

end Leaves

theorem environment_leaves {change : Change} (changed : environment change s = some t) :
    Leaves s t := by
  cases change with
  | mine =>
      simp only [environment] at changed
      split at changed <;> cases changed
      exact .filter s _ _
  | drop txHash =>
      cases changed
      exact .filter s _ s.mined
  | waited txHash outcome =>
      cases changed
      cases outcome <;> exact ⟨rfl, fun _ listed => listed, rfl⟩
  | tick seconds =>
      cases changed
      exact ⟨rfl, fun _ listed => listed, rfl⟩

/-! ## What a submission does -/

/-- The call has taken this nonce, and nothing acknowledged waits at it or above. -/
structure Holding (nonce : Nat) (world : World) : Prop where
  clear : world.Clear nonce
  cache : world.cache = some (saturatingSucc nonce)

theorem Holding.leaves (holding : Holding nonce s) (leaves : Leaves s t) : Holding nonce t :=
  ⟨leaves.clear holding.clear, leaves.cache.trans holding.cache⟩

/-- What the node can answer. -/
theorem broadcast_cases {choice : Choice} {tx : TransactionRequest} {call : Nat}
    {answer : Except EvmError TxHash} (sent : s.broadcast choice tx nonce call = some (answer, t)) :
    (t = s ∧ ∃ error, answer = .error error) ∨
      (nonce < u64Max ∧ (answer, t) = s.take choice nonce call (tx.fees.getD choice.fees)) := by
  unfold World.broadcast at sent
  dsimp only at sent
  split at sent
  · split at sent <;> cases sent
    exact .inl ⟨rfl, _, rfl⟩
  · split at sent
    · cases sent
      exact .inl ⟨rfl, _, rfl⟩
    split at sent
    · cases sent
      exact .inl ⟨rfl, _, rfl⟩
    split at sent
    · rename_i small _
      exact .inr ⟨Nat.lt_of_not_le small, (Option.some.inj sent).symm⟩
    · cases sent
      exact .inl ⟨rfl, _, rfl⟩

/-- A submission at a nonce that is held keeps the cache ahead. After an error the
call still holds its nonce, and what was clear is. -/
theorem broadcast_keeps {choice : Choice} {tx : TransactionRequest} {call : Nat}
    {answer : Except EvmError TxHash} (ahead : Ahead s) (holding : Holding nonce s)
    (sent : s.broadcast choice tx nonce call = some (answer, t)) :
    Ahead t ∧ ∀ error, answer = .error error →
      Holding nonce t ∧ ∀ lower, s.Clear lower → t.Clear lower := by
  rcases broadcast_cases sent with ⟨rfl, -⟩ | ⟨small, taken⟩
  · exact ⟨ahead, fun _ _ => ⟨holding, fun _ clear => clear⟩⟩
  · obtain ⟨answered, rfl⟩ := Prod.mk.inj taken
    refine ⟨⟨?_, ?_, ?_⟩, ?_⟩
    · intro tx listed
      rcases List.mem_cons.mp listed with rfl | before
      · exact small
      · exact ahead.small tx (List.mem_of_mem_filter before)
    · intro cached held tx listed known
      have same : cached = saturatingSucc nonce :=
        Option.some.inj (held.symm.trans holding.cache)
      have past : nonce < cached := by
        rw [same, saturatingSucc, if_pos small]
        exact Nat.lt_succ_self nonce
      rcases List.mem_cons.mp listed with rfl | before
      · exact past
      · exact (holding.clear tx (List.mem_of_mem_filter before) known).trans past
    · -- Whatever was evicted waited at the nonce, so it was not acknowledged.
      intro eviction listed
      rcases List.mem_append.mp listed with now | before
      · obtain ⟨incumbent, occupying, rfl⟩ := List.mem_map.mp now
        obtain ⟨waiting, at_nonce⟩ := List.mem_filter.mp occupying
        have same : incumbent.nonce = nonce := by simpa using at_nonce
        by_contra acknowledged
        have below := holding.clear incumbent waiting (by simpa using acknowledged)
        omega
      · exact ahead.undisplaced eviction before
    · intro error failed
      -- An error means that the answer was lost.
      have lost : choice.lost = true := by
        by_contra told
        simp only [told, if_false] at answered
        rw [answered] at failed
        cases failed
      have kept : ∀ lower, s.Clear lower → (s.take choice nonce call
          (tx.fees.getD choice.fees)).2.Clear lower := by
        intro lower clear tx listed known
        rcases List.mem_cons.mp listed with rfl | before
        · simp [lost] at known
        · exact clear tx (List.mem_of_mem_filter before) known
      exact ⟨⟨kept nonce holding.clear, holding.cache⟩, kept⟩

/-! ## A call keeps the cache ahead -/

section Call

variable {α β : Type} {call : SendCall} {path : SendPath} {post : Except EvmError α → World → Prop}

/-- A program of a call, run between whatever the surroundings do. -/
def Sends (call : SendCall) (post : Except EvmError α → World → Prop) (program : Send α)
    (s : World) : Prop :=
  program.Sat handle Ahead (countsWhenSettled call) Leaves (fun _ _ _ => True) post s

/-- Any result will do. -/
abbrev anyhow : Except EvmError α → World → Prop := fun _ _ => True

theorem Sends.seq {program : Send α} {f : α → Send β} {mid : Except EvmError α → World → Prop}
    (first : Sends call mid program s)
    (second : ∀ a t, mid (.ok a) t → Sends call anyhow (f a) t) :
    Sends call anyhow (program >>= f) s :=
  Prog.Sat.seq first second fun _ _ _ => trivial

/-- An operation that takes nothing into the mempool and leaves the cache alone. -/
theorem Sends.quiet (op : Op) {f : op.Ret → Send α}
    (leaves : ∀ choice s answer t, handle choice op s = some (answer, t) → Leaves s t)
    (next : ∀ answer t, Leaves s t → Sends call post (f answer) t) :
    Sends call post (Prog.perform op >>= f) s := by
  refine Prog.Sat.perform ?_
  intro s₁ moved ahead _ choice answer s₂ handled
  have own := leaves choice s₁ answer s₂ handled
  exact ⟨own.ahead ahead, trivial, next answer s₂ (moved.trans own)⟩

theorem Sends.read (op : Op) {f : op.Ret → Send α}
    (reads : ∀ choice s answer t, handle choice op s = some (answer, t) → t = s)
    (next : ∀ answer t, Leaves s t → Sends call post (f answer) t) :
    Sends call post (Prog.perform op >>= f) s :=
  Sends.quiet op (fun choice s answer t handled => reads choice s answer t handled ▸ .refl t) next

/-- The cache, as it is. -/
theorem Sends.peeked {f : Option Nat → Send α}
    (next : ∀ t, Leaves s t → Ahead t → Sends call post (f s.cache) t) :
    Sends call post (Prog.perform Op.peekNextNonce >>= f) s := by
  refine Prog.Sat.perform ?_
  intro s₁ moved ahead _ choice answer s₂ handled
  cases handled
  rw [moved.cache]
  exact ⟨ahead, trivial, next s₁ moved ahead⟩

/-- The cache may be set to a nonce that is clear. -/
theorem Sends.cached {f : Unit → Send α} (clear : s.Clear nonce)
    (next : ∀ t, (∀ lower, s.Clear lower → t.Clear lower) → t.cache = some nonce → Ahead t →
      Sends call post (f ()) t) :
    Sends call post (setNextNonce nonce >>= f) s := by
  refine Prog.Sat.perform ?_
  intro s₁ moved ahead _ choice answer s₂ handled
  cases handled
  have after : Ahead { s₁ with cache := some nonce } := by
    refine ⟨ahead.small, ?_, ahead.undisplaced⟩
    intro cached held
    cases held
    exact moved.clear clear
  exact ⟨after, trivial, next _ (fun _ => moved.clear) rfl after⟩

theorem Sends.givesUp (error : EvmError) (s : World) :
    Sends call anyhow (do invalidate; throw error : Send α) s := by
  refine Prog.Sat.perform ?_
  intro s₁ moved ahead _ choice answer s₂ handled
  cases handled
  exact ⟨⟨ahead.small, nofun, ahead.undisplaced⟩, trivial, trivial⟩

theorem Sends.recorded (txHash : TxHash) (s : World) :
    Sends call anyhow (do record nonce txHash; return txHash) s := by
  refine Sends.quiet (.record nonce txHash) ?_ fun _ _ _ => trivial
  intro choice s answer t handled
  cases handled
  exact ⟨rfl, fun _ listed => listed, rfl⟩

/-- After a submission at a nonce that is held: an error leaves it held. -/
def heldOnError (nonce : Nat) (s : World) :
    Except EvmError (Except EvmError TxHash) → World → Prop :=
  fun result t => ∀ error, result = .ok (.error error) →
    Holding nonce t ∧ ∀ lower, s.Clear lower → t.Clear lower

theorem Sends.broadcast {tx : TransactionRequest} (holding : Holding nonce s) :
    Sends call (heldOnError nonce s) (Prog.perform (Op.broadcast tx nonce call path)) s := by
  intro s₁ moved ahead _ choice answer s₂ handled
  obtain ⟨after, held⟩ := broadcast_keeps ahead (holding.leaves moved) handled
  refine ⟨after, trivial, ?_⟩
  intro error same
  obtain ⟨still, kept⟩ := held error (Except.ok.inj same)
  exact ⟨still, fun lower clear => kept lower (moved.clear clear)⟩

theorem submit_pinned_sends {tx : TransactionRequest} (pinned : tx.nonce = some nonce)
    (holding : Holding nonce s) : Sends call (heldOnError nonce s) (submit call path tx) s := by
  simp only [submit, pinned]
  exact Sends.broadcast holding

/-- The filler takes the nonce that was just cached. -/
theorem submit_cached_sends {tx : TransactionRequest} (unpinned : tx.nonce = none)
    (clear : s.Clear nonce) (cached : s.cache = some nonce) :
    Sends call (heldOnError nonce s) (submit call path tx) s := by
  simp only [submit, unpinned]
  refine Sends.peeked (f := fun peeked => _) ?_
  intro t moved ahead
  rw [cached]
  refine Sends.cached ((moved.clear clear).succ ahead) ?_
  intro u kept cache _
  refine Prog.Sat.mono (Sends.broadcast ⟨kept nonce (moved.clear clear), cache⟩) ?_
  intro result v held error failed
  obtain ⟨still, later⟩ := held error failed
  exact ⟨still, fun lower clear => later lower (kept lower (moved.clear clear))⟩

theorem resubmitWithBumpedFee_sends (remaining : Nat) (holding : Holding nonce s) :
    Sends call anyhow (resubmitWithBumpedFee call nonce remaining) s := by
  induction remaining generalizing s with
  | zero => exact Sends.givesUp _ s
  | succ remaining ih =>
      refine Sends.read .estimateFees ?_ ?_
      · intro choice s answer t handled
        cases handled
        rfl
      intro estimated t moved
      cases estimated with
      | error error => exact Sends.givesUp _ t
      | ok estimate =>
          show Sends _ _ (Prog.liftExcept _ >>= _) _
          cases bumpFee estimate.maxFeePerGas _ with
          | error error => trivial
          | ok maxFeePerGas =>
              show Sends _ _ (Prog.liftExcept _ >>= _) _
              cases bumpFee estimate.maxPriorityFeePerGas _ with
              | error error => trivial
              | ok maxPriorityFeePerGas =>
                  refine (submit_pinned_sends rfl (holding.leaves moved)).seq ?_
                  intro answer u held
                  cases answer with
                  | ok txHash => exact Sends.recorded txHash u
                  | error error =>
                      dsimp only
                      split
                      · exact ih (held error rfl).1
                      · exact Sends.givesUp _ u

theorem resolveUnderpriced_sends {floor : Nat} (nonce : Nat) (clear : s.Clear floor) :
    Sends call (fun _ t => t.Clear floor) (resolveUnderpricedViaLatestNonce nonce) s := by
  refine Sends.read .latestNonce ?_ ?_
  · intro choice s answer t handled
    cases handled
    rfl
  intro latest t moved
  have clear : t.Clear floor := moved.clear clear
  cases latest with
  | error error => exact clear
  | ok latestNonce =>
      dsimp only
      split
      · exact clear
      · split <;> exact clear

theorem retryLoop_sends {floor : Nat} {error : EvmError} (remaining : Nat)
    (clear : s.Clear floor) :
    Sends call anyhow (retryLoop call remaining error (some floor)) s := by
  induction remaining generalizing s floor error with
  | zero => exact Sends.givesUp _ s
  | succ remaining ih =>
      refine Sends.read .pendingNonce ?_ ?_
      · intro choice s answer t handled
        cases handled
        rfl
      intro pending t moved
      obtain ⟨sourced, resolved, -⟩ := sourcedNonce_floor error.nextNonceHint pending floor
      simp only [resolved, raiseNonceFloor_some]
      have target : t.Clear (max floor sourced) :=
        (moved.clear clear).mono (Nat.le_max_left floor sourced)
      refine Sends.cached target ?_
      intro u kept cache _
      refine (submit_cached_sends rfl (kept _ target) cache).seq ?_
      intro answer v held
      cases answer with
      | ok txHash => exact Sends.recorded txHash v
      | error rejection =>
          have floored : v.Clear floor :=
            (held rejection rfl).2 floor (kept floor (moved.clear clear))
          dsimp only
          split
          · exact ih (floored.mono (Nat.le_max_left ..))
          · split
            · refine Sends.quiet (.ownership (max floor sourced)) ?_ ?_
              · intro choice s answer t handled
                cases handled
                exact ⟨rfl, fun _ listed => listed, rfl⟩
              intro ownership w left
              cases ownership with
              | ours => exact Sends.givesUp _ w
              | unknown =>
                  refine (resolveUnderpriced_sends _ (left.clear floored)).seq ?_
                  intro fallback x floored
                  cases fallback with
                  | stop => exact Sends.givesUp _ x
                  | raiseFloorTo candidate => exact ih (floored.mono (Nat.le_max_left ..))
            · exact Sends.givesUp _ v

/-- The floor takes the cache in, which was left one past the nonce of the call. -/
theorem retryAfterNonceTooLow_sends (error : EvmError) (holding : Holding nonce s) :
    Sends call anyhow (retryAfterNonceTooLow call error) s := by
  refine Sends.peeked ?_
  intro t moved ahead
  have past : t.Clear (saturatingSucc nonce) := (moved.clear holding.clear).succ ahead
  rw [holding.cache]
  cases error.nextNonceHint with
  | none => exact retryLoop_sends _ past
  | some hint => exact retryLoop_sends _ (past.mono (Nat.le_max_right ..))

/-- A call holds the nonce it is assigned. -/
theorem assignNonce_sends (ahead : Ahead s) :
    Sends call (fun result t => ∀ nonce, result = .ok nonce → Holding nonce t) assignNonce s := by
  refine Sends.peeked ?_
  intro t moved ahead'
  cases cached : s.cache with
  | some nonce =>
      have clear : t.Clear nonce := moved.clear (ahead.cached nonce cached)
      refine Sends.cached (clear.succ ahead') ?_
      intro u kept cache _ given same
      cases same
      exact ⟨kept nonce clear, cache⟩
  | none =>
      refine Prog.Sat.perform ?_
      intro t₁ moved₁ ahead₁ settled choice fetched t₂ handled
      cases handled
      refine ⟨ahead₁, trivial, ?_⟩
      cases choice.read t₁.mined with
      | error error => exact nofun
      | ok nonce =>
          have clear : t₁.Clear nonce := World.Settled.clear settled nonce
          refine Sends.cached (clear.succ ahead₁) ?_
          intro u kept cache _ given same
          cases same
          exact ⟨kept nonce clear, cache⟩

theorem sendWithRecovery_sends (ahead : Ahead s) : Sends call anyhow (sendWithRecovery call) s := by
  refine (assignNonce_sends ahead).seq ?_
  intro nonce t assigned
  refine (submit_pinned_sends rfl (assigned nonce rfl)).seq ?_
  intro answer u held
  cases answer with
  | ok txHash => exact Sends.recorded txHash u
  | error error =>
      have holding := (held error rfl).1
      dsimp only
      split
      · exact retryAfterNonceTooLow_sends error holding
      · split
        · exact resubmitWithBumpedFee_sends _ holding
        · exact Sends.givesUp _ u

end Call

/-! ## Runs -/

theorem wallet_compatible :
    wallet.Compatible Ahead countsWhenSettled (fun _ => Leaves) (fun _ _ _ _ => True)
      (fun _ _ _ => True) where
  rely_refl _ := Leaves.refl
  rely_trans _ _ _ _ := Leaves.trans
  exclusive_symm _ _ := rfl
  program _ _ ahead _ := sendWithRecovery_sends ahead
  meet _ _ _ _ _ apart := nomatch apart
  env_inv _ _ _ ahead changed := (environment_leaves changed).ahead ahead
  env_rely _ _ _ _ _ changed := environment_leaves changed

theorem ahead_start (mined : Nat) : Ahead (World.start mined) :=
  ⟨nofun, nofun, nofun⟩

/-- As long as the count is read for an empty cache only when no acknowledged
transaction waits, no acknowledged transaction is evicted. -/
theorem no_acknowledged_evicted {mined : Nat} {schedule : List (Act Choice SendCall Change)}
    {final : Config Op Op.Ret EvmError TxHash World SendCall}
    (meets : wallet.MeetsAll countsWhenSettled ⟨World.start mined, []⟩ schedule)
    (ran : wallet.run ⟨World.start mined, []⟩ schedule = some final) :
    final.shared.Undisplaced :=
  ((System.Sound.initial (ahead_start mined)).run wallet_compatible meets ran).holds.undisplaced

/-! ### A transaction that is replaced -/

/-- The node is there, and everything it is asked goes well. -/
def asUsual : Choice where
  fault := none
  hinted := true
  fees := ⟨100, 10⟩
  lost := false

/-- Gas estimation reverts, so nothing is sent. -/
def reverting : Choice := { asUsual with fault := some (.transport "execution reverted") }

def deposit : SendCall := ⟨0, "orderbook", []⟩

def failing : SendCall := ⟨1, "bridge", []⟩

def later : SendCall := ⟨2, "token", []⟩

/-- The first send: count, submit, record. -/
def depositSent : List (Act Choice SendCall Change) :=
  [.start deposit] ++ List.replicate 5 (.step 0 asUsual)

/-- A send that fails, and empties the cache. -/
def failedSend : List (Act Choice SendCall Change) :=
  [.crash 0, .start failing, .step 0 asUsual, .step 0 asUsual, .step 0 reverting, .step 0 asUsual,
    .crash 0]

/-- A send that starts again from the count. If it is refused, it raises its fee. -/
def laterSent (operations : Nat) : List (Act Choice SendCall Change) :=
  [.start later] ++ List.replicate operations (.step 0 asUsual)

/-- The hash of the deposit was returned, and the deposit was merely waiting. -/
theorem acknowledged_evicted :
    (wallet.run ⟨World.start 0, []⟩ depositSent).map
        (fun config =>
          (config.threads.map fun thread => thread.rest.result?, config.shared.mined)) =
      some ([some (.ok 0)], 0) ∧
    (wallet.run ⟨World.start 0, []⟩ (depositSent ++ failedSend ++ laterSent 7)).map
        (fun config => (config.shared.evictions.map fun eviction =>
          (eviction.incumbent.txHash, eviction.incumbent.call, eviction.replacement.call),
          config.shared.mined)) =
      some ([(0, 0, 2)], 0) := by
  decide +kernel

theorem no_acknowledged_evicted_mined :
    ∃ final, wallet.run ⟨World.start 0, []⟩
        (depositSent ++ failedSend ++ [.env .mine] ++ laterSent 5) = some final ∧
      final.shared.sent = 2 ∧ final.shared.Undisplaced := by
  have meets : wallet.MeetsAll countsWhenSettled ⟨World.start 0, []⟩
      (depositSent ++ failedSend ++ [.env .mine] ++ laterSent 5) := by
    decide +kernel
  have runs : (wallet.run ⟨World.start 0, []⟩
      (depositSent ++ failedSend ++ [.env .mine] ++ laterSent 5)).map (·.shared.sent) = some 2 := by
    decide +kernel
  obtain ⟨final, ran, sent⟩ := Option.map_eq_some_iff.mp runs
  exact ⟨final, ran, sent, no_acknowledged_evicted meets ran⟩

end Liquidity.Wallet
