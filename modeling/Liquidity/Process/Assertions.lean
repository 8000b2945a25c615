import Liquidity.Process.Interleaving

/-!
# Assertions along a common order

Often the whole system moves along one preorder: logs only grow, ended things
stay ended. A fact that is stable under that preorder survives whatever the
other threads do, so a thread can be followed on its own, and the interesting
statement is what it knows at the moment it performs an operation.

`Fits` follows a program and asks, before each operation, that `fit` holds of
the operation and the state it meets. `Disciplined` collects the obligations
once; from then on every operation in every schedule is known to fit, and
further invariants are proved from that alone.
-/

namespace Process

variable {Op : Type} {Ret : Op → Type} {ε α β σ Choice Label Env : Type}

/-- Every operation of the program fits the state it is performed in, whatever
happened since the previous one. -/
def Prog.Fits (handle : Choice → (op : Op) → σ → Option (Ret op × σ)) (inv : σ → Prop)
    (moves : σ → σ → Prop) (fit : Op → σ → Prop) (post : Except ε α → σ → Prop) :
    Prog Op Ret ε α → σ → Prop
  | .done a, s => post (.ok a) s
  | .fail e, s => post (.error e) s
  | .call op next, s => ∀ s₁, moves s s₁ → inv s₁ → fit op s₁ ∧
      ∀ choice answer s₂, handle choice op s₁ = some (answer, s₂) → inv s₂ → moves s₁ s₂ →
        (next answer).Fits handle inv moves fit post s₂

namespace Prog.Fits

variable {handle : Choice → (op : Op) → σ → Option (Ret op × σ)} {inv : σ → Prop}
variable {moves : σ → σ → Prop} {fit : Op → σ → Prop} {post : Except ε α → σ → Prop}

/-- Sequencing by an assertion in between. -/
theorem seq {program : Prog Op Ret ε α} {f : α → Prog Op Ret ε β} {mid : Except ε α → σ → Prop}
    {post : Except ε β → σ → Prop} {s : σ} (first : program.Fits handle inv moves fit mid s)
    (second : ∀ a s, mid (.ok a) s → (f a).Fits handle inv moves fit post s)
    (failed : ∀ e s, mid (.error e) s → post (.error e) s) :
    (program >>= f).Fits handle inv moves fit post s := by
  induction program generalizing s with
  | done a => exact second a s first
  | fail e => exact failed e s first
  | call op next ih =>
      intro s₁ moved holds
      obtain ⟨fits, rest⟩ := first s₁ moved holds
      exact ⟨fits, fun choice answer s₂ handled holds₂ moved₂ =>
        ih answer (rest choice answer s₂ handled holds₂ moved₂)⟩

/-- One operation, followed by what is done with its answer. -/
theorem perform {op : Op} {f : Ret op → Prog Op Ret ε α} {s : σ}
    (step : ∀ s₁, moves s s₁ → inv s₁ → fit op s₁ ∧ ∀ choice answer s₂,
      handle choice op s₁ = some (answer, s₂) → inv s₂ → moves s₁ s₂ →
        (f answer).Fits handle inv moves fit post s₂) :
    (Prog.perform op >>= f).Fits handle inv moves fit post s :=
  step

/-- An already computed result. -/
theorem lift {result : Except ε α} {s : σ} (h : post result s) :
    (Prog.liftExcept result : Prog Op Ret ε α).Fits handle inv moves fit post s := by
  cases result <;> exact h

theorem mono {post' : Except ε α → σ → Prop} {program : Prog Op Ret ε α} {s : σ}
    (h : program.Fits handle inv moves fit post s)
    (weaken : ∀ result t, post result t → post' result t) :
    program.Fits handle inv moves fit post' s := by
  induction program generalizing s with
  | done a => exact weaken _ _ h
  | fail e => exact weaken _ _ h
  | call op next ih =>
      intro s₁ moved holds
      obtain ⟨fits, rest⟩ := h s₁ moved holds
      exact ⟨fits, fun choice answer s₂ handled holds₂ moved₂ =>
        ih answer (rest choice answer s₂ handled holds₂ moved₂)⟩

/-- Whatever a program does, it leaves a state reached from where it started. -/
theorem frame (refl : ∀ s, moves s s) (trans : ∀ s t u, moves s t → moves t u → moves s u)
    {program : Prog Op Ret ε α} {s : σ} (h : program.Fits handle inv moves fit post s) :
    program.Fits handle inv moves fit (fun result t => post result t ∧ moves s t) s := by
  induction program generalizing s with
  | done a => exact ⟨h, refl s⟩
  | fail e => exact ⟨h, refl s⟩
  | call op next ih =>
      intro s₁ moved holds
      obtain ⟨fits, rest⟩ := h s₁ moved holds
      refine ⟨fits, fun choice answer s₂ handled holds₂ moved₂ => ?_⟩
      refine (ih answer (rest choice answer s₂ handled holds₂ moved₂)).mono fun result t done => ?_
      exact ⟨done.1, trans _ _ _ moved (trans _ _ _ moved₂ done.2)⟩

end Prog.Fits

namespace System

variable (sys : System Op Ret ε α σ Choice Label Env)

/-- The obligations: programs perform only what fits, and what fits keeps the
invariant and moves along the preorder. -/
structure Disciplined (inv : σ → Prop) (moves : σ → σ → Prop) (fit : Op → σ → Prop) : Prop where
  moves_refl : ∀ s, moves s s
  moves_trans : ∀ s t u, moves s t → moves t u → moves s u
  program : ∀ label s, inv s → sys.canStart label s →
    (sys.program label).Fits sys.handle inv moves fit (fun _ _ => True) s
  operation : ∀ choice op s answer t, inv s → fit op s → sys.handle choice op s = some (answer, t) →
    inv t ∧ moves s t
  environment : ∀ change s t, inv s → sys.environment change s = some t → inv t ∧ moves s t

/-- What holds of every configuration a disciplined system reaches. -/
structure Fitting (inv : σ → Prop) (moves : σ → σ → Prop) (fit : Op → σ → Prop)
    (config : Config Op Ret ε α σ Label) : Prop where
  holds : inv config.shared
  threads : ∀ thread ∈ config.threads, ∃ s₀, moves s₀ config.shared ∧
    thread.rest.Fits sys.handle inv moves fit (fun _ _ => True) s₀

variable {sys} {inv : σ → Prop} {moves : σ → σ → Prop} {fit : Op → σ → Prop}

theorem Fitting.initial {s : σ} (holds : inv s) : sys.Fitting inv moves fit ⟨s, []⟩ :=
  ⟨holds, by simp⟩

/-- The operation a thread performs fits the state it is performed in. -/
theorem Fitting.fits {config : Config Op Ret ε α σ Label}
    (fitting : sys.Fitting inv moves fit config) {index : Nat} {label : Label} {op : Op}
    {cont : Ret op → Prog Op Ret ε α}
    (found : config.threads[index]? = some ⟨label, .call op cont⟩) : fit op config.shared := by
  obtain ⟨s₀, moved, rest⟩ := fitting.threads _ (List.mem_of_getElem? found)
  exact (rest config.shared moved fitting.holds).1

/-- One action keeps a configuration fitting. -/
theorem Fitting.act (h : sys.Disciplined inv moves fit) {config next : Config Op Ret ε α σ Label}
    (fitting : sys.Fitting inv moves fit config) {action : Act Choice Label Env}
    (acted : sys.act config action = some next) : sys.Fitting inv moves fit next := by
  cases action with
  | start label =>
      simp only [System.act] at acted
      split at acted
      case isFalse => cases acted
      case isTrue allowed =>
        cases acted
        obtain ⟨able, -⟩ := Bool.and_eq_true_iff.mp allowed
        refine ⟨fitting.holds, fun thread member => ?_⟩
        rcases List.mem_append.mp member with old | isNew
        · exact fitting.threads thread old
        · obtain rfl := List.mem_singleton.mp isNew
          exact ⟨config.shared, h.moves_refl _, h.program label _ fitting.holds able⟩
  | step index choice =>
      obtain ⟨label, op, cont, answer, shared, found, handled, rfl⟩ := sys.advance_eq_some acted
      obtain ⟨s₀, moved, rest⟩ := fitting.threads _ (List.mem_of_getElem? found)
      obtain ⟨fits, onward⟩ := rest config.shared moved fitting.holds
      obtain ⟨holds, moved'⟩ := h.operation choice op _ answer shared fitting.holds fits handled
      refine ⟨holds, fun thread member => ?_⟩
      rcases List.mem_or_eq_of_mem_set member with old | rfl
      · obtain ⟨s₁, before, follows⟩ := fitting.threads thread old
        exact ⟨s₁, h.moves_trans _ _ _ before moved', follows⟩
      · exact ⟨shared, h.moves_refl _, onward choice answer shared handled holds moved'⟩
  | crash index =>
      cases acted
      exact ⟨fitting.holds, fun thread member =>
        fitting.threads thread (List.mem_of_mem_eraseIdx member)⟩
  | env change =>
      obtain ⟨shared, changed, rfl⟩ := Option.map_eq_some_iff.mp acted
      obtain ⟨holds, moved⟩ := h.environment change _ _ fitting.holds changed
      refine ⟨holds, fun thread member => ?_⟩
      obtain ⟨s₀, before, follows⟩ := fitting.threads thread member
      exact ⟨s₀, h.moves_trans _ _ _ before moved, follows⟩

/-- Every schedule of a disciplined system reaches fitting configurations only. -/
theorem Fitting.run (h : sys.Disciplined inv moves fit) {config final : Config Op Ret ε α σ Label}
    (fitting : sys.Fitting inv moves fit config) {schedule : List (Act Choice Label Env)}
    (ran : sys.run config schedule = some final) : sys.Fitting inv moves fit final := by
  induction schedule generalizing config with
  | nil =>
      cases ran
      exact fitting
  | cons action rest ih =>
      obtain ⟨middle, acted, after⟩ := Option.bind_eq_some_iff.mp ran
      exact ih (fitting.act h acted) after

/-- A further invariant: it is enough that operations preserve it which fit and
meet the condition of the schedule. -/
theorem Fitting.run_invariant (h : sys.Disciplined inv moves fit) {further : σ → Prop}
    {permits : Permits Op σ Label}
    (operation : ∀ label op choice s answer t, inv s → fit op s → permits label op s →
      sys.handle choice op s = some (answer, t) → further s → further t)
    (environment : ∀ change s t, inv s → sys.environment change s = some t → further s → further t)
    {config final : Config Op Ret ε α σ Label} (fitting : sys.Fitting inv moves fit config)
    (holds : further config.shared) {schedule : List (Act Choice Label Env)}
    (meets : sys.MeetsAll permits config schedule) (ran : sys.run config schedule = some final) :
    further final.shared := by
  induction schedule generalizing config with
  | nil =>
      cases ran
      exact holds
  | cons action rest ih =>
      obtain ⟨middle, acted, after⟩ := Option.bind_eq_some_iff.mp ran
      refine ih (fitting.act h acted) ?_ (meets.tail sys acted) after
      cases action with
      | start label =>
          simp only [System.act] at acted
          split at acted <;> cases acted
          exact holds
      | step index choice =>
          obtain ⟨label, op, cont, answer, shared, found, handled, rfl⟩ :=
            sys.advance_eq_some acted
          exact operation label op choice _ answer shared fitting.holds (fitting.fits found)
            (meets.1.operation found) handled holds
      | crash index =>
          cases acted
          exact holds
      | env change =>
          obtain ⟨shared, changed, rfl⟩ := Option.map_eq_some_iff.mp acted
          exact environment change _ _ fitting.holds changed holds

end System

end Process
