import Mathlib.Data.List.Basic

/-!
# Runs of a partial step function

A system whose steps are chosen by its surroundings: `act` carries out a step if
it is possible. A condition on the steps is checked in the state each of them
meets.
-/

namespace Process

variable {State Step : Type}

/-- Carry out steps one after another. -/
def runSteps (act : State → Step → Option State) : State → List Step → Option State
  | s, [] => some s
  | s, step :: rest => (act s step).bind fun t => runSteps act t rest

/-- Every step of a run meets the condition, in the state it is taken in. -/
def Throughout (act : State → Step → Option State) (condition : State → Step → Prop) :
    State → List Step → Prop
  | _, [] => True
  | s, step :: rest => condition s step ∧
      match act s step with
      | some t => Throughout act condition t rest
      | none => True

instance decidableThroughout (act : State → Step → Option State)
    (condition : State → Step → Prop) [∀ s step, Decidable (condition s step)] :
    ∀ (s : State) (steps : List Step), Decidable (Throughout act condition s steps)
  | _, [] => .isTrue trivial
  | s, step :: rest =>
      have _ : Decidable (match act s step with
          | some t => Throughout act condition t rest
          | none => True) :=
        match act s step with
        | some t => decidableThroughout act condition t rest
        | none => .isTrue trivial
      inferInstanceAs (Decidable (_ ∧ _))

variable {act : State → Step → Option State} {condition : State → Step → Prop}

theorem runSteps_cons {s u : State} {step : Step} {rest : List Step} :
    runSteps act s (step :: rest) = some u ↔
      ∃ t, act s step = some t ∧ runSteps act t rest = some u :=
  Option.bind_eq_some_iff

/-- What each step that meets the condition keeps, the run keeps. -/
theorem runSteps_invariant {inv : State → Prop}
    (keeps : ∀ s step t, inv s → condition s step → act s step = some t → inv t)
    {s u : State} {steps : List Step} (start : inv s)
    (meets : Throughout act condition s steps) (ran : runSteps act s steps = some u) : inv u := by
  induction steps generalizing s with
  | nil =>
      cases ran
      exact start
  | cons step rest ih =>
      obtain ⟨t, acted, later⟩ := runSteps_cons.mp ran
      simp only [Throughout, acted] at meets
      exact ih (keeps s step t start meets.1 acted) meets.2 later

end Process
