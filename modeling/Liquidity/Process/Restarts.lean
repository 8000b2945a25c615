import Liquidity.Process.Triples

/-!
# Processes that restart

A process runs under a setting. When it goes down all its threads are gone; the
shared state survives, and the next process starts on it under a setting of its
own. `restart` is what a process does to the shared state before its first
thread.
-/

namespace Process

variable {Op : Type} {Ret : Op → Type} {ε α σ Choice Label Env Setting : Type}

/-- A process at one moment: its setting, its threads and the shared state. -/
structure Running (Op : Type) (Ret : Op → Type) (ε α σ Label Setting : Type) where
  setting : Setting
  config : Config Op Ret ε α σ Label

/-- One move of a process that may restart. -/
inductive Move (Choice Label Env Setting : Type) where
  | act (action : Act Choice Label Env)
  | restart (setting : Setting)

/-- The condition holds of this move, if it is a restart on this shared state. -/
def Move.Meets (allowed : Setting → σ → Prop) (s : σ) : Move Choice Label Env Setting → Prop
  | .restart setting => allowed setting s
  | .act _ => True

/-- One system for each setting, and what starting up does. -/
structure Restarting (Op : Type) (Ret : Op → Type) (ε α σ Choice Label Env Setting : Type) where
  system : Setting → System Op Ret ε α σ Choice Label Env
  restart : Setting → σ → σ

namespace Restarting

variable (sys : Restarting Op Ret ε α σ Choice Label Env Setting)

def move (now : Running Op Ret ε α σ Label Setting) :
    Move Choice Label Env Setting → Option (Running Op Ret ε α σ Label Setting)
  | .act action =>
      ((sys.system now.setting).act now.config action).map fun config => { now with config }
  | .restart setting => some ⟨setting, ⟨sys.restart setting now.config.shared, []⟩⟩

/-- A whole history. A move that is not possible has no result. -/
def run (now : Running Op Ret ε α σ Label Setting) :
    List (Move Choice Label Env Setting) → Option (Running Op Ret ε α σ Label Setting)
  | [] => some now
  | first :: rest => (sys.move now first).bind fun next => run next rest

/-- The condition holds of the setting and the shared state at every restart. -/
def RestartsMeet (allowed : Setting → σ → Prop) (now : Running Op Ret ε α σ Label Setting) :
    List (Move Choice Label Env Setting) → Prop
  | [] => True
  | first :: rest => first.Meets allowed now.config.shared ∧
      match sys.move now first with
      | some next => RestartsMeet allowed next rest
      | none => True

section Decide

variable (allowed : Setting → σ → Prop) [∀ setting s, Decidable (allowed setting s)]

instance (s : σ) (move : Move Choice Label Env Setting) : Decidable (move.Meets allowed s) :=
  match move with
  | .restart setting => inferInstanceAs (Decidable (allowed setting s))
  | .act _ => .isTrue trivial

instance decidableRestartsMeet (now : Running Op Ret ε α σ Label Setting)
    (history : List (Move Choice Label Env Setting)) :
    Decidable (sys.RestartsMeet allowed now history) :=
  match history with
  | [] => .isTrue trivial
  | first :: rest =>
      match h : sys.move now first with
      | some next =>
          have := decidableRestartsMeet next rest
          decidable_of_iff (first.Meets allowed now.config.shared ∧ sys.RestartsMeet allowed next rest)
            (by simp [RestartsMeet, h])
      | none => decidable_of_iff (first.Meets allowed now.config.shared) (by simp [RestartsMeet, h])

end Decide

theorem run_append (now : Running Op Ret ε α σ Label Setting)
    (first second : List (Move Choice Label Env Setting)) :
    sys.run now (first ++ second) = (sys.run now first).bind fun next => sys.run next second := by
  induction first generalizing now with
  | nil => rfl
  | cons move rest ih =>
      simp only [List.cons_append, run, Option.bind_assoc]
      congr 1
      funext next
      exact ih next

/-- A condition that holds of every restart in a history, whatever the state. -/
theorem restartsMeet_of_forall {allowed : Setting → σ → Prop}
    {now : Running Op Ret ε α σ Label Setting} {history : List (Move Choice Label Env Setting)}
    (always : ∀ setting, Move.restart setting ∈ history → ∀ s, allowed setting s) :
    sys.RestartsMeet allowed now history := by
  induction history generalizing now with
  | nil => trivial
  | cons first rest ih =>
      constructor
      · cases first with
        | act => trivial
        | restart setting => exact always setting (by simp) _
      · split
        · exact ih fun setting listed => always setting (by simp [listed])
        · trivial

variable {sys} in
theorem RestartsMeet.and {allowed further : Setting → σ → Prop}
    {now : Running Op Ret ε α σ Label Setting} {history : List (Move Choice Label Env Setting)}
    (one : sys.RestartsMeet allowed now history) (two : sys.RestartsMeet further now history) :
    sys.RestartsMeet (fun setting s => allowed setting s ∧ further setting s) now history := by
  induction history generalizing now with
  | nil => trivial
  | cons first rest ih =>
      obtain ⟨one, ones⟩ := one
      obtain ⟨two, twos⟩ := two
      constructor
      · cases first with
        | act => trivial
        | restart => exact ⟨one, two⟩
      · split
        case h_1 moved =>
          simp only [moved] at ones twos
          exact ih ones twos
        case h_2 => trivial

variable {sys}

/-- What every operation, every change of the environment and every restart keeps. -/
theorem run_invariant {inv : σ → Prop}
    (operation : ∀ setting op choice s answer t, inv s →
      (sys.system setting).handle choice op s = some (answer, t) → inv t)
    (environment : ∀ setting change s t, inv s →
      (sys.system setting).environment change s = some t → inv t)
    (restart : ∀ setting s, inv s → inv (sys.restart setting s))
    {now final : Running Op Ret ε α σ Label Setting} (holds : inv now.config.shared)
    {history : List (Move Choice Label Env Setting)} (ran : sys.run now history = some final) :
    inv final.config.shared := by
  induction history generalizing now with
  | nil =>
      cases ran
      exact holds
  | cons first rest ih =>
      obtain ⟨next, moved, after⟩ := Option.bind_eq_some_iff.mp ran
      refine ih ?_ after
      cases first with
      | restart setting =>
          cases moved
          exact restart setting _ holds
      | act action =>
          obtain ⟨config, acted, rfl⟩ := Option.map_eq_some_iff.mp moved
          have ran : (sys.system now.setting).run now.config [action] = some config := by
            simp [acted]
          refine System.run_invariant _ (fun _ op choice s answer t holds _ handled => ?_)
            (environment now.setting) holds ((sys.system now.setting).meetsAll_true _ _) ran
          exact operation now.setting op choice s answer t holds handled

/-- A rely-guarantee proof for the threads that run under one setting. -/
def Provable (setting : Setting) (inv : σ → Prop) : Prop :=
  ∃ rely guar post, (sys.system setting).Compatible inv (fun _ _ _ => True) rely guar post

/-- An invariant for each setting, kept by the threads that run under it and
handed on at each restart. -/
theorem run_sound {inv : Setting → σ → Prop} {settings : Setting → Prop}
    {allowed : Setting → σ → Prop}
    (provable : ∀ setting, settings setting → sys.Provable setting (inv setting))
    (restart : ∀ old setting s, settings old → inv old s → settings setting → allowed setting s →
      inv setting (sys.restart setting s))
    {setting : Setting} {s : σ} {final : Running Op Ret ε α σ Label Setting}
    (known : settings setting) (holds : inv setting s)
    {history : List (Move Choice Label Env Setting)}
    (meets : sys.RestartsMeet (fun setting s => settings setting ∧ allowed setting s)
      ⟨setting, ⟨s, []⟩⟩ history)
    (ran : sys.run ⟨setting, ⟨s, []⟩⟩ history = some final) :
    inv final.setting final.config.shared := by
  -- At every moment the threads are accounted for by a proof for the present setting.
  have sound : ∀ now : Running Op Ret ε α σ Label Setting, settings now.setting →
      (∃ rely guar post,
        (sys.system now.setting).Compatible (inv now.setting) (fun _ _ _ => True) rely guar post ∧
        (sys.system now.setting).Sound (inv now.setting) (fun _ _ _ => True) rely guar post
          now.config) →
      sys.RestartsMeet (fun setting s => settings setting ∧ allowed setting s) now history →
      sys.run now history = some final → inv final.setting final.config.shared := by
    clear meets ran
    induction history with
    | nil =>
        rintro now - ⟨rely, guar, post, -, sound⟩ - ran
        cases ran
        exact sound.holds
    | cons first rest ih =>
        rintro now known ⟨rely, guar, post, compatible, sound⟩ meets ran
        obtain ⟨next, moved, after⟩ := Option.bind_eq_some_iff.mp ran
        have meetsRest : sys.RestartsMeet (fun setting s => settings setting ∧ allowed setting s)
            next rest := by
          simpa [RestartsMeet, moved] using meets.2
        cases first with
        | restart setting =>
            cases moved
            obtain ⟨permitted, ready⟩ := meets.1
            obtain ⟨rely, guar, post, compatible⟩ := provable setting permitted
            exact ih _ permitted ⟨rely, guar, post, compatible,
              .initial (restart _ setting _ known sound.holds permitted ready)⟩ meetsRest after
        | act action =>
            obtain ⟨config, acted, rfl⟩ := Option.map_eq_some_iff.mp moved
            refine ih ⟨now.setting, config⟩ known ⟨rely, guar, post, compatible, ?_⟩ meetsRest after
            exact sound.act compatible
              ((sys.system now.setting).meetsAll_true now.config [action]).1 acted
  obtain ⟨rely, guar, post, compatible⟩ := provable setting known
  exact sound ⟨setting, ⟨s, []⟩⟩ known ⟨rely, guar, post, compatible, .initial holds⟩ meets ran

end Restarting

end Process
