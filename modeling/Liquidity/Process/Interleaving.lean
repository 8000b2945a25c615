import Liquidity.Process.Program

/-!
# Interleaving programs over a shared state

A system runs any number of copies of its programs against one shared state.
A scheduler chooses which live thread performs its next operation, and the
environment chooses how that operation is answered (its clock, a lost answer,
an outage). A thread may be killed between any two of its operations, and one
that has returned is removed the same way; a retry is a fresh start of the same
label. `exclusive` says which labels a lock or a
single worker keeps from running side by side.

The whole schedule is a list of actions and `run` is executable, so a bad
schedule can be written down and evaluated.

Reasoning is by rely and guarantee. `Sat` follows a program through its calls:
before each call the rest of the system may move the shared state by the rely,
and the call itself has to preserve the invariant and to stay inside the
guarantee. `System.sound` then lifts this to every schedule.
-/

namespace Process

/-- Programs, their operations, and the world that answers them. -/
structure System (Op : Type) (Ret : Op → Type) (ε α σ Choice Label Env : Type) where
  /-- The program a thread with this label runs from its start. -/
  program : Label → Prog Op Ret ε α
  /-- One atomic operation, as the environment chooses to answer it. -/
  handle : Choice → (op : Op) → σ → Option (Ret op × σ)
  /-- A change of the shared state made by nobody's thread. -/
  environment : Env → σ → Option σ
  /-- Whether a thread with this label may start now. -/
  canStart : Label → σ → Bool
  /-- Labels that never run at the same time. -/
  exclusive : Label → Label → Bool

/-- A running copy of a program. -/
structure Thread (Op : Type) (Ret : Op → Type) (ε α Label : Type) where
  label : Label
  rest : Prog Op Ret ε α

/-- The shared state and the threads that are alive. -/
structure Config (Op : Type) (Ret : Op → Type) (ε α σ Label : Type) where
  shared : σ
  threads : List (Thread Op Ret ε α Label)

/-- One move of the scheduler. -/
inductive Act (Choice Label Env : Type) where
  | start (label : Label)
  | step (index : Nat) (choice : Choice)
  | crash (index : Nat)
  | env (change : Env)

namespace System

variable {Op : Type} {Ret : Op → Type} {ε α σ Choice Label Env : Type}
variable (sys : System Op Ret ε α σ Choice Label Env)

/-- Let the thread at `index` perform its next operation. -/
def advance (config : Config Op Ret ε α σ Label) (index : Nat) (choice : Choice) :
    Option (Config Op Ret ε α σ Label) :=
  match config.threads[index]? with
  | some ⟨label, .call op next⟩ =>
      (sys.handle choice op config.shared).map fun (answer, shared) =>
        { shared, threads := config.threads.set index ⟨label, next answer⟩ }
  | _ => none

def act (config : Config Op Ret ε α σ Label) : Act Choice Label Env →
    Option (Config Op Ret ε α σ Label)
  | .start label =>
      if sys.canStart label config.shared &&
          config.threads.all (fun thread => !sys.exclusive thread.label label) then
        some { config with threads := config.threads ++ [⟨label, sys.program label⟩] }
      else none
  | .step index choice => sys.advance config index choice
  | .crash index => some { config with threads := config.threads.eraseIdx index }
  | .env change =>
      (sys.environment change config.shared).map fun shared => { config with shared }

/-- A whole schedule. An action that is not possible has no result. -/
def run (config : Config Op Ret ε α σ Label) :
    List (Act Choice Label Env) → Option (Config Op Ret ε α σ Label)
  | [] => some config
  | action :: rest => (sys.act config action).bind fun next => run next rest

@[simp] theorem run_nil (config : Config Op Ret ε α σ Label) : sys.run config [] = some config :=
  rfl

@[simp] theorem run_cons (config : Config Op Ret ε α σ Label) (action : Act Choice Label Env)
    (rest : List (Act Choice Label Env)) :
    sys.run config (action :: rest) = (sys.act config action).bind fun next => sys.run next rest :=
  rfl

/-- What one possible operation of a thread looks like. -/
theorem advance_eq_some {config next : Config Op Ret ε α σ Label} {index : Nat} {choice : Choice}
    (h : sys.advance config index choice = some next) :
    ∃ label op cont answer shared,
      config.threads[index]? = some ⟨label, .call op cont⟩ ∧
      sys.handle choice op config.shared = some (answer, shared) ∧
      next = { shared, threads := config.threads.set index ⟨label, cont answer⟩ } := by
  unfold advance at h
  split at h
  case h_1 label op cont found =>
      obtain ⟨⟨answer, shared⟩, handled, rfl⟩ := Option.map_eq_some_iff.mp h
      exact ⟨label, op, cont, answer, shared, found, handled, rfl⟩
  case h_2 => cases h

/-- A condition on the operation a step is about to perform, on the label that
performs it, and on the shared state before it. -/
abbrev Permits (Op σ Label : Type) := Label → Op → σ → Prop

/-- The condition holds of this action in this configuration. Starting, killing
and environment moves perform no operation. -/
def Meets (permits : Permits Op σ Label) (config : Config Op Ret ε α σ Label) :
    Act Choice Label Env → Prop
  | .step index _ =>
      match config.threads[index]? with
      | some ⟨label, .call op _⟩ => permits label op config.shared
      | _ => True
  | _ => True

/-- Every step of the schedule meets the condition in the state it is taken in. -/
def MeetsAll (permits : Permits Op σ Label) (config : Config Op Ret ε α σ Label) :
    List (Act Choice Label Env) → Prop
  | [] => True
  | action :: rest => Meets permits config action ∧
      match sys.act config action with
      | some next => MeetsAll permits next rest
      | none => True

section Decide

variable (permits : Permits Op σ Label) [∀ label op s, Decidable (permits label op s)]

instance (config : Config Op Ret ε α σ Label) (action : Act Choice Label Env) :
    Decidable (Meets permits config action) :=
  match action with
  | .step index _ =>
      match h : config.threads[index]? with
      | some ⟨label, .call op _⟩ => decidable_of_iff (permits label op config.shared) (by simp [Meets, h])
      | some ⟨_, .done _⟩ => .isTrue (by simp [Meets, h])
      | some ⟨_, .fail _⟩ => .isTrue (by simp [Meets, h])
      | none => .isTrue (by simp [Meets, h])
  | .start _ => .isTrue trivial
  | .crash _ => .isTrue trivial
  | .env _ => .isTrue trivial

instance decidableMeetsAll (config : Config Op Ret ε α σ Label)
    (schedule : List (Act Choice Label Env)) : Decidable (sys.MeetsAll permits config schedule) :=
  match schedule with
  | [] => .isTrue trivial
  | action :: rest =>
      match h : sys.act config action with
      | some next =>
          have := decidableMeetsAll next rest
          decidable_of_iff (Meets permits config action ∧ sys.MeetsAll permits next rest)
            (by simp [MeetsAll, h])
      | none => decidable_of_iff (Meets permits config action) (by simp [MeetsAll, h])

end Decide

theorem Meets.operation {permits : Permits Op σ Label} {config : Config Op Ret ε α σ Label}
    {index : Nat} {choice : Choice}
    (meets : Meets permits config (.step index choice : Act Choice Label Env)) {label : Label} {op : Op}
    {next : Ret op → Prog Op Ret ε α}
    (found : config.threads[index]? = some ⟨label, .call op next⟩) :
    permits label op config.shared := by
  simpa [Meets, found] using meets

theorem MeetsAll.tail {permits : Permits Op σ Label} {config next : Config Op Ret ε α σ Label}
    {action : Act Choice Label Env} {rest : List (Act Choice Label Env)}
    (meets : sys.MeetsAll permits config (action :: rest))
    (acted : sys.act config action = some next) : sys.MeetsAll permits next rest := by
  simpa [MeetsAll, acted] using meets.2

theorem MeetsAll.imp {permits weaker : Permits Op σ Label}
    (implies : ∀ label op s, permits label op s → weaker label op s)
    {config : Config Op Ret ε α σ Label} {schedule : List (Act Choice Label Env)}
    (meets : sys.MeetsAll permits config schedule) : sys.MeetsAll weaker config schedule := by
  induction schedule generalizing config with
  | nil => trivial
  | cons action rest ih =>
      constructor
      · have first := meets.1
        cases action with
        | step index choice =>
            simp only [Meets] at first ⊢
            split
            case h_1 label op next found =>
                rw [found] at first
                exact implies label op config.shared first
            case h_2 => trivial
        | _ => trivial
      · split
        case h_1 next acted => exact ih (meets.tail sys acted)
        case h_2 => trivial

theorem meetsAll_true (config : Config Op Ret ε α σ Label)
    (schedule : List (Act Choice Label Env)) :
    sys.MeetsAll (fun _ _ _ => True) config schedule := by
  induction schedule generalizing config with
  | nil => trivial
  | cons action rest ih =>
      constructor
      · cases action <;> simp only [Meets]
        split <;> trivial
      · split
        · exact ih _
        · trivial

/-- An invariant of the shared state that every operation preserves, whichever
program performs it, holds after every schedule that meets the condition. -/
theorem run_invariant {inv : σ → Prop} {permits : Permits Op σ Label}
    (operation : ∀ label op choice s answer t, inv s → permits label op s →
      sys.handle choice op s = some (answer, t) → inv t)
    (environment : ∀ change s t, inv s → sys.environment change s = some t → inv t)
    {config final : Config Op Ret ε α σ Label} (holds : inv config.shared)
    {schedule : List (Act Choice Label Env)} (meets : sys.MeetsAll permits config schedule)
    (ran : sys.run config schedule = some final) : inv final.shared := by
  induction schedule generalizing config with
  | nil => cases ran; exact holds
  | cons action rest ih =>
      obtain ⟨middle, acted, after⟩ := Option.bind_eq_some_iff.mp ran
      refine ih ?_ (meets.tail sys acted) after
      cases action with
      | start label =>
          simp only [act] at acted
          split at acted <;> cases acted
          exact holds
      | step index choice =>
          obtain ⟨label, op, cont, answer, shared, found, handled, rfl⟩ :=
            sys.advance_eq_some acted
          exact operation label op choice _ answer shared holds (meets.1.operation found) handled
      | crash index => cases acted; exact holds
      | env change =>
          obtain ⟨shared, changed, rfl⟩ := Option.map_eq_some_iff.mp acted
          exact environment change _ _ holds changed

end System

section RelyGuarantee

variable {Op : Type} {Ret : Op → Type} {ε α β σ Choice Label Env : Type}

/-- Follow a program through its calls. Before each one the state may have moved
by `rely`; the call then keeps `inv`, stays within `guar`, and leaves a state
from which the rest is again satisfactory. `post` is asked of the result at
the moment the program returns. -/
def Prog.Sat (handle : Choice → (op : Op) → σ → Option (Ret op × σ)) (inv : σ → Prop)
    (permits : Op → σ → Prop) (rely : σ → σ → Prop) (guar : Op → σ → σ → Prop)
    (post : Except ε α → σ → Prop) : Prog Op Ret ε α → σ → Prop
  | .done a, s => post (.ok a) s
  | .fail e, s => post (.error e) s
  | .call op next, s => ∀ s₁, rely s s₁ → inv s₁ → permits op s₁ →
      ∀ choice answer s₂, handle choice op s₁ = some (answer, s₂) →
        inv s₂ ∧ guar op s₁ s₂ ∧ (next answer).Sat handle inv permits rely guar post s₂

namespace Prog.Sat

variable {handle : Choice → (op : Op) → σ → Option (Ret op × σ)} {inv : σ → Prop}
variable {permits : Op → σ → Prop} {rely : σ → σ → Prop} {guar : Op → σ → σ → Prop}
variable {post : Except ε α → σ → Prop}

/-- Sequencing by an assertion in between. -/
theorem seq {program : Prog Op Ret ε α} {f : α → Prog Op Ret ε β} {mid : Except ε α → σ → Prop}
    {post : Except ε β → σ → Prop} {s : σ}
    (first : program.Sat handle inv permits rely guar mid s)
    (second : ∀ a s, mid (.ok a) s → (f a).Sat handle inv permits rely guar post s)
    (failed : ∀ e s, mid (.error e) s → post (.error e) s) :
    (program >>= f).Sat handle inv permits rely guar post s := by
  induction program generalizing s with
  | done a => exact second a s first
  | fail e => exact failed e s first
  | call op next ih =>
      intro s₁ moved keeps allowed choice answer s₂ handled
      obtain ⟨keeps₂, within, rest⟩ := first s₁ moved keeps allowed choice answer s₂ handled
      exact ⟨keeps₂, within, ih answer rest⟩

/-- One operation, followed by what is done with its answer. -/
theorem perform {op : Op} {f : Ret op → Prog Op Ret ε α} {s : σ}
    (step : ∀ s₁, rely s s₁ → inv s₁ → permits op s₁ → ∀ choice answer s₂,
      handle choice op s₁ = some (answer, s₂) →
        inv s₂ ∧ guar op s₁ s₂ ∧ (f answer).Sat handle inv permits rely guar post s₂) :
    (Prog.perform op >>= f).Sat handle inv permits rely guar post s :=
  step

end Prog.Sat

namespace System

variable (sys : System Op Ret ε α σ Choice Label Env)
variable {inv : σ → Prop} {permits : Permits Op σ Label} {rely : Label → σ → σ → Prop}
variable {guar : Label → Op → σ → σ → Prop} {post : Label → Except ε α → σ → Prop}

/-- The obligations of a rely-guarantee proof: one program at a time, and one
compatibility condition for each pair of labels that can meet. -/
structure Compatible (inv : σ → Prop) (permits : Permits Op σ Label)
    (rely : Label → σ → σ → Prop) (guar : Label → Op → σ → σ → Prop)
    (post : Label → Except ε α → σ → Prop) : Prop where
  rely_refl : ∀ label s, rely label s s
  rely_trans : ∀ label s t u, rely label s t → rely label t u → rely label s u
  exclusive_symm : ∀ a b, sys.exclusive a b = sys.exclusive b a
  program : ∀ label s, inv s → sys.canStart label s →
    (sys.program label).Sat sys.handle inv (permits label) (rely label) (guar label)
      (post label) s
  meet : ∀ a b op s t, sys.exclusive a b = false → inv s → guar a op s t → rely b s t
  env_inv : ∀ change s t, inv s → sys.environment change s = some t → inv t
  env_rely : ∀ change s t label, inv s → sys.environment change s = some t → rely label s t

/-- A live thread has a correct rest, up to what the others did since its last
operation. -/
def Follows (inv : σ → Prop) (permits : Permits Op σ Label) (rely : Label → σ → σ → Prop)
    (guar : Label → Op → σ → σ → Prop) (post : Label → Except ε α → σ → Prop)
    (thread : Thread Op Ret ε α Label) (s : σ) : Prop :=
  ∃ s₀, rely thread.label s₀ s ∧
    thread.rest.Sat sys.handle inv (permits thread.label) (rely thread.label)
      (guar thread.label) (post thread.label) s₀

/-- What holds of every configuration a schedule reaches. -/
structure Sound (inv : σ → Prop) (permits : Permits Op σ Label) (rely : Label → σ → σ → Prop)
    (guar : Label → Op → σ → σ → Prop) (post : Label → Except ε α → σ → Prop)
    (config : Config Op Ret ε α σ Label) : Prop where
  holds : inv config.shared
  apart : config.threads.Pairwise (fun a b => sys.exclusive a.label b.label = false)
  follows : ∀ thread ∈ config.threads, sys.Follows inv permits rely guar post thread config.shared

variable {sys}

theorem Follows.moved (h : sys.Compatible inv permits rely guar post)
    {thread : Thread Op Ret ε α Label} {s t : σ}
    (follows : sys.Follows inv permits rely guar post thread s) (moved : rely thread.label s t) :
    sys.Follows inv permits rely guar post thread t := by
  obtain ⟨s₀, before, sat⟩ := follows
  exact ⟨s₀, h.rely_trans _ _ _ _ before moved, sat⟩

/-- The operation of a thread: what it keeps, what it guarantees, and that its
rest is correct from the state it leaves. -/
theorem Sound.operation
    {config : Config Op Ret ε α σ Label} (sound : sys.Sound inv permits rely guar post config)
    {index : Nat} {label : Label} {op : Op} {cont : Ret op → Prog Op Ret ε α} {choice : Choice}
    {answer : Ret op} {shared : σ} (found : config.threads[index]? = some ⟨label, .call op cont⟩)
    (allowed : permits label op config.shared)
    (handled : sys.handle choice op config.shared = some (answer, shared)) :
    inv shared ∧ guar label op config.shared shared ∧
      (cont answer).Sat sys.handle inv (permits label) (rely label) (guar label) (post label)
        shared := by
  obtain ⟨s₀, before, sat⟩ := sound.follows _ (List.mem_of_getElem? found)
  exact sat config.shared before sound.holds allowed choice answer shared handled

private theorem Sound.start (h : sys.Compatible inv permits rely guar post)
    {config next : Config Op Ret ε α σ Label} (sound : sys.Sound inv permits rely guar post config)
    {label : Label} (acted : sys.act config (.start label) = some next) :
    sys.Sound inv permits rely guar post next := by
  simp only [act] at acted
  split at acted
  case isFalse => cases acted
  case isTrue allowed =>
    cases acted
    obtain ⟨able, clear⟩ := Bool.and_eq_true_iff.mp allowed
    refine ⟨sound.holds, ?_, ?_⟩
    · refine List.pairwise_append.mpr ⟨sound.apart, List.pairwise_singleton _ _, ?_⟩
      intro thread member started isNew
      obtain rfl := List.mem_singleton.mp isNew
      simpa using List.all_eq_true.mp clear thread member
    · intro thread member
      rcases List.mem_append.mp member with old | isNew
      · exact sound.follows thread old
      · obtain rfl := List.mem_singleton.mp isNew
        exact ⟨config.shared, h.rely_refl _ _, h.program label config.shared sound.holds able⟩

private theorem Sound.step (h : sys.Compatible inv permits rely guar post)
    {config next : Config Op Ret ε α σ Label} (sound : sys.Sound inv permits rely guar post config)
    {index : Nat} {choice : Choice}
    (meets : Meets permits config (.step index choice : Act Choice Label Env))
    (acted : sys.act config (.step index choice) = some next) :
    sys.Sound inv permits rely guar post next := by
  obtain ⟨label, op, cont, answer, shared, found, handled, rfl⟩ := sys.advance_eq_some acted
  obtain ⟨keeps, within, sat⟩ :=
    sound.operation found (meets.operation found) handled
  obtain ⟨inBounds, atIndex⟩ := List.getElem?_eq_some_iff.mp found
  have apart := List.pairwise_iff_getElem.mp sound.apart
  refine ⟨keeps, ?_, ?_⟩
  · -- Only the continuation of one thread changes, so all labels stay where they were.
    rw [List.pairwise_iff_getElem]
    intro i j hi hj before
    have same : ∀ k (hk : k < (config.threads.set index ⟨label, cont answer⟩).length)
        (bound : k < config.threads.length),
        (config.threads.set index ⟨label, cont answer⟩)[k].label =
          config.threads[k].label := by
      intro k hk bound
      rw [List.getElem_set]
      split
      case isTrue eq => subst eq; rw [atIndex]
      case isFalse => rfl
    have boundI : i < config.threads.length := by simpa using hi
    have boundJ : j < config.threads.length := by simpa using hj
    rw [same i hi boundI, same j hj boundJ]
    exact apart i j boundI boundJ before
  · intro thread member
    obtain ⟨j, inRange, rfl⟩ := List.mem_iff_getElem.mp member
    rw [List.getElem_set]
    split
    case isTrue => exact ⟨shared, h.rely_refl _ _, sat⟩
    case isFalse other =>
      have bound : j < config.threads.length := by simpa using inRange
      have separate : sys.exclusive label config.threads[j].label = false := by
        rcases Nat.lt_or_gt_of_ne other with lt | gt
        · simpa [atIndex] using apart index j inBounds bound lt
        · rw [h.exclusive_symm]
          simpa [atIndex] using apart j index bound inBounds gt
      exact (sound.follows _ (List.getElem_mem bound)).moved h
        (h.meet label _ op _ _ separate sound.holds within)

/-- One action keeps a sound configuration sound. -/
theorem Sound.act (h : sys.Compatible inv permits rely guar post)
    {config next : Config Op Ret ε α σ Label} (sound : sys.Sound inv permits rely guar post config)
    {action : Act Choice Label Env} (meets : Meets permits config action)
    (acted : sys.act config action = some next) :
    sys.Sound inv permits rely guar post next := by
  cases action with
  | start label => exact sound.start h acted
  | step index choice => exact sound.step h meets acted
  | crash index =>
      cases acted
      exact ⟨sound.holds, sound.apart.sublist (List.eraseIdx_sublist _ _),
        fun thread member => sound.follows thread (List.mem_of_mem_eraseIdx member)⟩
  | env change =>
      obtain ⟨shared, changed, rfl⟩ := Option.map_eq_some_iff.mp acted
      exact ⟨h.env_inv change _ _ sound.holds changed, sound.apart, fun thread member =>
        (sound.follows thread member).moved h (h.env_rely change _ _ _ sound.holds changed)⟩

/-- Every schedule whose steps meet the condition reaches only sound configurations. -/
theorem Sound.run (h : sys.Compatible inv permits rely guar post)
    {config final : Config Op Ret ε α σ Label} (sound : sys.Sound inv permits rely guar post config)
    {schedule : List (Act Choice Label Env)} (meets : sys.MeetsAll permits config schedule)
    (ran : sys.run config schedule = some final) :
    sys.Sound inv permits rely guar post final := by
  induction schedule generalizing config with
  | nil => cases ran; exact sound
  | cons action rest ih =>
      obtain ⟨middle, acted, after⟩ := Option.bind_eq_some_iff.mp ran
      exact ih (sound.act h meets.1 acted) (meets.tail sys acted) after

/-- A further invariant: it is enough that operations preserve it which stay
within the guarantee and meet a condition of their own. -/
theorem Sound.run_invariant {further : σ → Prop} {permits' : Permits Op σ Label}
    (h : sys.Compatible inv (fun _ _ _ => True) rely guar post)
    (operation : ∀ label op choice s answer t, inv s → inv t → permits' label op s →
      guar label op s t → sys.handle choice op s = some (answer, t) → further s → further t)
    (environment : ∀ change s t, inv s → inv t → sys.environment change s = some t →
      further s → further t)
    {config final : Config Op Ret ε α σ Label}
    (sound : sys.Sound inv (fun _ _ _ => True) rely guar post config)
    (holds : further config.shared) {schedule : List (Act Choice Label Env)}
    (meets : sys.MeetsAll permits' config schedule) (ran : sys.run config schedule = some final) :
    further final.shared := by
  induction schedule generalizing config with
  | nil =>
      cases ran
      exact holds
  | cons action rest ih =>
      obtain ⟨middle, acted, after⟩ := Option.bind_eq_some_iff.mp ran
      have next := sound.act h (sys.meetsAll_true config [action]).1 acted
      refine ih next ?_ (meets.tail sys acted) after
      cases action with
      | start label =>
          simp only [System.act] at acted
          split at acted <;> cases acted
          exact holds
      | step index choice =>
          obtain ⟨label, op, cont, answer, shared, found, handled, rfl⟩ :=
            sys.advance_eq_some acted
          obtain ⟨-, within, -⟩ := sound.operation found trivial handled
          exact operation label op choice _ answer shared sound.holds next.holds
            (meets.1.operation found) within handled holds
      | crash index =>
          cases acted
          exact holds
      | env change =>
          obtain ⟨shared, changed, rfl⟩ := Option.map_eq_some_iff.mp acted
          exact environment change _ _ sound.holds next.holds changed holds

/-- A system that starts without threads is sound as soon as its invariant holds. -/
theorem Sound.initial {s : σ} (holds : inv s) :
    sys.Sound inv permits rely guar post ⟨s, []⟩ :=
  ⟨holds, List.Pairwise.nil, by simp⟩

end System

end RelyGuarantee

end Process
