import Liquidity.Process.Program

/-!
# A program run on its own, attempt after attempt

A job is delivered until it is done. Every attempt runs the same program from
its start, on the state the earlier attempts left, and stops where its answers
end: at a result, or in the middle when the process dies. Attempts do not
overlap.

`Completes` is one attempt that runs to its end, with every operation answered
as `step` allows. `Leads` follows all such attempts at once.
-/

namespace Process

variable {Op : Type} {Ret : Op → Type} {ε ε' α β σ Choice : Type}

/-- How an operation may be answered, and what it then does. -/
abbrev Step (Ret : Op → Type) (σ : Type) := (op : Op) → σ → Ret op → σ → Prop

/-- A run to the end. -/
inductive Completes (step : Step Ret σ) : Prog Op Ret ε α → σ → Except ε α → σ → Prop
  | done (a : α) (s : σ) : Completes step (.done a) s (.ok a) s
  | fail (e : ε) (s : σ) : Completes step (.fail e) s (.error e) s
  | call {op : Op} {next : Ret op → Prog Op Ret ε α} {s t u : σ} {answer : Ret op}
      {result : Except ε α} (stepped : step op s answer t)
      (rest : Completes step (next answer) t result u) : Completes step (.call op next) s result u

/-- Every run to the end satisfies `post`. -/
def Prog.Leads (step : Step Ret σ) (post : Except ε α → σ → Prop) : Prog Op Ret ε α → σ → Prop
  | .done a, s => post (.ok a) s
  | .fail e, s => post (.error e) s
  | .call op next, s => ∀ answer t, step op s answer t → (next answer).Leads step post t

theorem Prog.Leads.completes {step : Step Ret σ} {post : Except ε α → σ → Prop}
    {program : Prog Op Ret ε α} {s t : σ} {result : Except ε α}
    (leads : program.Leads step post s) (ran : Completes step program s result t) :
    post result t := by
  induction ran with
  | done a s => exact leads
  | fail e s => exact leads
  | call stepped rest ih => exact ih (leads _ _ stepped)

/-- If every operation can be answered, every program can run to its end. -/
theorem exists_completes {step : Step Ret σ} (answers : ∀ op s, ∃ answer t, step op s answer t)
    (program : Prog Op Ret ε α) (s : σ) : ∃ result t, Completes step program s result t := by
  induction program generalizing s with
  | done a => exact ⟨.ok a, s, .done a s⟩
  | fail e => exact ⟨.error e, s, .fail e s⟩
  | call op next ih =>
      obtain ⟨answer, t, stepped⟩ := answers op s
      obtain ⟨result, u, rest⟩ := ih answer t
      exact ⟨result, u, .call stepped rest⟩

namespace Prog.Leads

variable {step : Step Ret σ} {s : σ}

theorem bind {post : Except ε β → σ → Prop} {program : Prog Op Ret ε α}
    {f : α → Prog Op Ret ε β} {mid : Except ε α → σ → Prop} (first : program.Leads step mid s)
    (second : ∀ a t, mid (.ok a) t → (f a).Leads step post t)
    (failed : ∀ e t, mid (.error e) t → post (.error e) t) :
    (program >>= f).Leads step post s := by
  induction program generalizing s with
  | done a => exact second a s first
  | fail e => exact failed e s first
  | call op next ih => exact fun answer t stepped => ih answer (first answer t stepped)

theorem perform_bind {post : Except ε β → σ → Prop} {op : Op} {f : Ret op → Prog Op Ret ε β}
    (next : ∀ answer t, step op s answer t → (f answer).Leads step post t) :
    (Prog.perform op >>= f).Leads step post s :=
  next

theorem capture {post : Except ε' (Except ε α) → σ → Prop} {program : Prog Op Ret ε α}
    (leads : program.Leads step (fun result => post (.ok result)) s) :
    (program.capture : Prog Op Ret ε' (Except ε α)).Leads step post s := by
  induction program generalizing s with
  | done a => exact leads
  | fail e => exact leads
  | call op next ih => exact fun answer t stepped => ih answer (leads answer t stepped)

end Prog.Leads

/-- The run returned a value, and this holds of it. -/
def returns (post : α → σ → Prop) : Except ε α → σ → Prop
  | .ok a, s => post a s
  | .error _, _ => False

theorem Prog.Leads.bind_returns {step : Step Ret σ} {s : σ} {post : Except ε β → σ → Prop}
    {program : Prog Op Ret ε α} {f : α → Prog Op Ret ε β} {mid : α → σ → Prop}
    (first : program.Leads step (returns mid) s)
    (second : ∀ a t, mid a t → (f a).Leads step post t) : (program >>= f).Leads step post s :=
  first.bind second fun _ _ never => never.elim

/-! ## Attempts that may be cut off -/

variable (handle : Choice → (op : Op) → σ → Option (Ret op × σ))

/-- Follow a program through the answers it gets, as far as they reach. -/
def Prog.follow : Prog Op Ret ε α → σ → List Choice → Option (Prog Op Ret ε α × σ)
  | program, s, [] => some (program, s)
  | .call op next, s, choice :: rest =>
      (handle choice op s).bind fun (answer, t) => (next answer).follow t rest
  | .done _, _, _ :: _ => none
  | .fail _, _, _ :: _ => none

/-- Deliver a job again and again. An attempt that is not possible has no result. -/
def deliver (program : Prog Op Ret ε α) (s : σ) (attempts : List (List Choice)) : Option σ :=
  attempts.foldlM (fun s choices => (program.follow handle s choices).map Prod.snd) s

/-- The program has nothing left to do. -/
def Prog.Returned : Prog Op Ret ε α → Prop
  | .call .. => False
  | _ => True

instance (program : Prog Op Ret ε α) : Decidable program.Returned :=
  match program with
  | .done _ => .isTrue trivial
  | .fail _ => .isTrue trivial
  | .call .. => .isFalse not_false

/-- While the state is `midway` the attempt is neither cut off nor badly answered. -/
def Prog.Undisturbed (midway : σ → Prop) (fine : Choice → Prop) :
    Prog Op Ret ε α → σ → List Choice → Prop
  | program, s, [] => midway s → program.Returned
  | .call op next, s, choice :: rest => (midway s → fine choice) ∧
      match handle choice op s with
      | some (answer, t) => (next answer).Undisturbed midway fine t rest
      | none => True
  | .done _, _, _ :: _ => True
  | .fail _, _, _ :: _ => True

/-- Every attempt is undisturbed, on the state it finds. -/
def AllUndisturbed (midway : σ → Prop) (fine : Choice → Prop) (program : Prog Op Ret ε α) :
    σ → List (List Choice) → Prop
  | _, [] => True
  | s, choices :: rest => program.Undisturbed handle midway fine s choices ∧
      match program.follow handle s choices with
      | some (_, t) => AllUndisturbed midway fine program t rest
      | none => True

variable {handle}

theorem Prog.follow_invariant {inv : σ → Prop}
    (keeps : ∀ choice op s answer t, inv s → handle choice op s = some (answer, t) → inv t)
    {program rest : Prog Op Ret ε α} {s t : σ} {choices : List Choice} (holds : inv s)
    (followed : program.follow handle s choices = some (rest, t)) : inv t := by
  induction choices generalizing program s with
  | nil =>
      cases program <;> (cases followed; exact holds)
  | cons choice later ih =>
      cases program with
      | done a => cases followed
      | fail e => cases followed
      | call op next =>
          obtain ⟨⟨answer, u⟩, handled, after⟩ := Option.bind_eq_some_iff.mp followed
          exact ih (keeps choice op s answer u holds handled) after

theorem deliver_invariant {inv : σ → Prop}
    (keeps : ∀ choice op s answer t, inv s → handle choice op s = some (answer, t) → inv t)
    {program : Prog Op Ret ε α} {s t : σ} {attempts : List (List Choice)} (holds : inv s)
    (delivered : deliver handle program s attempts = some t) : inv t := by
  induction attempts generalizing s with
  | nil =>
      cases delivered
      exact holds
  | cons choices rest ih =>
      obtain ⟨u, followed, after⟩ := Option.bind_eq_some_iff.mp delivered
      obtain ⟨⟨left, u⟩, reached, rfl⟩ := Option.map_eq_some_iff.mp followed
      exact ih (Prog.follow_invariant keeps holds reached) after

/-- An undisturbed attempt leaves no midway state, if running to the end does not. -/
theorem Prog.Leads.undisturbed {midway : σ → Prop} {fine : Choice → Prop}
    {program rest : Prog Op Ret ε α} {s t : σ} {choices : List Choice}
    (leads : program.Leads
      (fun op s answer t => ∃ choice, (midway s → fine choice) ∧ handle choice op s = some (answer, t))
      (fun _ t => ¬ midway t) s)
    (undisturbed : program.Undisturbed handle midway fine s choices)
    (followed : program.follow handle s choices = some (rest, t)) : ¬ midway t := by
  induction choices generalizing program s with
  | nil =>
      cases program with
      | done a =>
          cases followed
          exact leads
      | fail e =>
          cases followed
          exact leads
      | call op next =>
          cases followed
          exact fun underway => undisturbed underway
  | cons choice later ih =>
      cases program with
      | done a => cases followed
      | fail e => cases followed
      | call op next =>
          obtain ⟨⟨answer, u⟩, handled, after⟩ := Option.bind_eq_some_iff.mp followed
          simp only [Prog.Undisturbed, handled] at undisturbed
          exact ih (leads answer u ⟨choice, undisturbed.1, handled⟩) undisturbed.2 after

theorem deliver_undisturbed {midway : σ → Prop} {fine : Choice → Prop}
    {program : Prog Op Ret ε α}
    (leads : ∀ s, ¬ midway s → program.Leads
      (fun op s answer t => ∃ choice, (midway s → fine choice) ∧ handle choice op s = some (answer, t))
      (fun _ t => ¬ midway t) s)
    {s t : σ} {attempts : List (List Choice)} (start : ¬ midway s)
    (undisturbed : AllUndisturbed handle midway fine program s attempts)
    (delivered : deliver handle program s attempts = some t) : ¬ midway t := by
  induction attempts generalizing s with
  | nil =>
      cases delivered
      exact start
  | cons choices rest ih =>
      obtain ⟨u, followed, after⟩ := Option.bind_eq_some_iff.mp delivered
      obtain ⟨⟨left, u⟩, reached, rfl⟩ := Option.map_eq_some_iff.mp followed
      simp only [AllUndisturbed, reached] at undisturbed
      exact ih ((leads s start).undisturbed undisturbed.1 reached) undisturbed.2 after

end Process
