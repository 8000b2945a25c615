import Liquidity.Finance
import Mathlib.Data.List.Infix

/-!
# Stage runs

The timings of an operation are a list of runs, one for each stage that it has been
through. A run that has not ended is open. Both read models keep such lists, with
stages and outcomes of their own.
-/

namespace Liquidity.Performance

/-- One stage run. -/
structure StoredStage (Stage Outcome : Type) where
  stage : Stage
  startedAt : Time
  endedAt : Option Time
  durationMs : Option Int
  outcome : Outcome
  deriving DecidableEq, Repr

/-- Whole milliseconds from one time to another, none if it goes back. Times count
nanoseconds. -/
def clampedMs (start finish : Time) : Int := max (((finish : Int) - start).tdiv 1000000) 0

variable {Stage Outcome : Type}

namespace StoredStage

def isOpen (run : StoredStage Stage Outcome) : Bool := run.endedAt.isNone

/-- End a run and measure it. -/
def finish (run : StoredStage Stage Outcome) (time : Time) (outcome : Outcome) :
    StoredStage Stage Outcome :=
  { run with
    endedAt := some time
    durationMs := some (clampedMs run.startedAt time)
    outcome := outcome }

@[simp] theorem finish_stage (run : StoredStage Stage Outcome) (time : Time) (outcome : Outcome) :
    (run.finish time outcome).stage = run.stage := rfl

@[simp] theorem finish_isOpen (run : StoredStage Stage Outcome) (time : Time) (outcome : Outcome) :
    (run.finish time outcome).isOpen = false := rfl

end StoredStage

/-- The stage runs of an operation. -/
abbrev Runs (Stage Outcome : Type) := List (StoredStage Stage Outcome)

namespace Runs

variable [DecidableEq Stage]

def hasRun (runs : Runs Stage Outcome) (stage : Stage) : Bool := runs.any (·.stage = stage)

/-- Whether a run of the stage is open. -/
def hasOpen (runs : Runs Stage Outcome) (stage : Stage) : Bool :=
  runs.any fun run => run.stage = stage && run.isOpen

/-- The position of the last open run of the stage. -/
def openRunIndex : Runs Stage Outcome → Stage → Option Nat
  | [], _ => none
  | run :: runs, stage =>
      match openRunIndex runs stage with
      | some index => some (index + 1)
      | none => if run.stage = stage && run.isOpen then some 0 else none

/-- Append a run, unless the stage has one. -/
def pushOnce (runs : Runs Stage Outcome) (run : StoredStage Stage Outcome) : Runs Stage Outcome :=
  if runs.hasRun run.stage then runs else runs ++ [run]

/-- End the last open run of the stage. -/
def close (runs : Runs Stage Outcome) (stage : Stage) (time : Time) (outcome : Outcome) :
    Runs Stage Outcome :=
  match runs.openRunIndex stage with
  | some index => runs.modify index (·.finish time outcome)
  | none => runs

/-- End every run that is open and had begun by then. -/
def closeOpenStages (runs : Runs Stage Outcome) (time : Time) (outcome : Outcome) :
    Runs Stage Outcome :=
  runs.map fun run => if run.isOpen && run.startedAt ≤ time then run.finish time outcome else run

/-! ## What the operations keep -/

variable {runs : Runs Stage Outcome} {stage other : Stage} {time : Time} {outcome : Outcome}

theorem hasRun_iff : runs.hasRun stage ↔ stage ∈ runs.map StoredStage.stage := by
  simp [hasRun, List.mem_map]

theorem hasOpen_iff : runs.hasOpen stage ↔ ∃ run ∈ runs, run.stage = stage ∧ run.isOpen := by
  simp [hasOpen]

/-- No run of the stage is open, or the index is that of one that is. -/
theorem openRunIndex_spec (runs : Runs Stage Outcome) (stage : Stage) :
    (runs.openRunIndex stage = none ∧ runs.hasOpen stage = false) ∨
      ∃ before run after, runs = before ++ run :: after ∧ run.stage = stage ∧ run.isOpen ∧
        runs.openRunIndex stage = some before.length := by
  induction runs with
  | nil => exact .inl ⟨rfl, rfl⟩
  | cons run runs ih =>
      rcases ih with ⟨none, closed⟩ | ⟨before, found, after, split, own, isOpen, index⟩
      · rw [openRunIndex, none]
        cases first : run.stage = stage && run.isOpen with
        | false =>
            refine .inl ⟨rfl, ?_⟩
            rw [hasOpen] at closed ⊢
            rw [List.any_cons, first, closed]
            rfl
        | true =>
            rw [Bool.and_eq_true, decide_eq_true_eq] at first
            exact .inr ⟨[], run, runs, rfl, first.1, first.2, rfl⟩
      · refine .inr ⟨run :: before, found, after, by rw [split]; rfl, own, isOpen, ?_⟩
        rw [openRunIndex, index]
        rfl

theorem openRunIndex_isSome : (runs.openRunIndex stage).isSome = runs.hasOpen stage := by
  rcases openRunIndex_spec runs stage with ⟨none, closed⟩ | ⟨before, run, after, split, own, isOpen, index⟩
  · rw [none, closed]
    rfl
  · rw [index, Option.isSome_some, eq_comm, hasOpen_iff]
    exact ⟨run, by rw [split]; simp, own, isOpen⟩

omit [DecidableEq Stage] in
theorem modify_middle (before : Runs Stage Outcome) (run : StoredStage Stage Outcome)
    (after : Runs Stage Outcome) (change : StoredStage Stage Outcome → StoredStage Stage Outcome) :
    (before ++ run :: after).modify before.length change = before ++ change run :: after := by
  induction before with
  | nil => rfl
  | cons first before ih => exact congrArg (first :: ·) ih

/-- Either the stage has no open run, or one of its open runs is ended. -/
theorem close_spec (runs : Runs Stage Outcome) (stage : Stage) (time : Time) (outcome : Outcome) :
    (runs.hasOpen stage = false ∧ runs.close stage time outcome = runs) ∨
      ∃ before run after, runs = before ++ run :: after ∧ run.stage = stage ∧ run.isOpen ∧
        runs.close stage time outcome = before ++ run.finish time outcome :: after := by
  rcases openRunIndex_spec runs stage with ⟨none, closed⟩ | ⟨before, run, after, split, own, isOpen, index⟩
  · exact .inl ⟨closed, by rw [close, none]⟩
  · refine .inr ⟨before, run, after, split, own, isOpen, ?_⟩
    rw [close, index, split]
    exact modify_middle before run after _

theorem close_of_closed (closed : runs.hasOpen stage = false) :
    runs.close stage time outcome = runs := by
  rcases close_spec runs stage time outcome with ⟨_, same⟩ | ⟨before, run, after, split, own, isOpen, _⟩
  · exact same
  · have found : runs.hasOpen stage := hasOpen_iff.mpr ⟨run, by rw [split]; simp, own, isOpen⟩
    rw [closed] at found
    cases found

/-! ## How a list of runs grows -/

/-- What an event at this time makes of the runs: no run is lost or opened again, each
stage has one run, and what it opens it opens at its own time. -/
structure Grows (time : Time) (before after : Runs Stage Outcome) : Prop where
  keeps : ∀ stage, before.hasRun stage → after.hasRun stage
  single : (before.map StoredStage.stage).Nodup → (after.map StoredStage.stage).Nodup
  ended : ∀ stage, before.hasRun stage → before.hasOpen stage = false → after.hasOpen stage = false
  opened : ∀ run ∈ after, run.isOpen → run ∈ before ∨ run.startedAt = time

theorem Grows.refl (time : Time) (runs : Runs Stage Outcome) : Grows time runs runs :=
  ⟨fun _ has => has, fun single => single, fun _ _ closed => closed, fun _ member _ => .inl member⟩

theorem Grows.trans {first second third : Runs Stage Outcome} (left : Grows time first second)
    (right : Grows time second third) : Grows time first third where
  keeps := fun stage has => right.keeps stage (left.keeps stage has)
  single := fun single => right.single (left.single single)
  ended := fun stage has closed => right.ended stage (left.keeps stage has) (left.ended stage has closed)
  opened := by
    intro run member isOpen
    rcases right.opened run member isOpen with earlier | own
    · exact left.opened run earlier isOpen
    · exact .inr own

theorem pushOnce_of_hasRun {run : StoredStage Stage Outcome} (has : runs.hasRun run.stage) :
    runs.pushOnce run = runs := if_pos has

theorem Grows.pushOnce (runs : Runs Stage Outcome) {run : StoredStage Stage Outcome}
    (own : run.startedAt = time) : Grows time runs (runs.pushOnce run) := by
  rw [Runs.pushOnce]
  split
  case isTrue => exact .refl time runs
  case isFalse fresh =>
    refine ⟨?_, ?_, ?_, ?_⟩
    · intro stage has
      rw [hasRun_iff] at has ⊢
      simp [has]
    · intro single
      rw [hasRun_iff] at fresh
      rw [List.map_append, List.nodup_append]
      refine ⟨single, by simp, ?_⟩
      intro stage member stage' member' same
      obtain rfl : stage' = run.stage := by simpa using member'
      exact fresh (same ▸ member)
    · intro stage has closed
      have apart : run.stage ≠ stage := fun same => fresh (same ▸ has)
      rw [hasOpen] at closed ⊢
      rw [List.any_append, closed]
      simp [apart]
    · intro run' member _
      rcases List.mem_append.mp member with earlier | last
      · exact .inl earlier
      · obtain rfl := List.mem_singleton.mp last
        exact .inr own

theorem map_stage_close (runs : Runs Stage Outcome) (stage : Stage) (time : Time)
    (outcome : Outcome) :
    (runs.close stage time outcome).map StoredStage.stage = runs.map StoredStage.stage := by
  rcases close_spec runs stage time outcome with ⟨_, same⟩ | ⟨before, run, after, split, _, _, ends⟩
  · rw [same]
  · rw [ends, split]
    simp

/-- What keeps the stages and only ends runs. -/
theorem Grows.of_ended {before after : Runs Stage Outcome}
    (stages : after.map StoredStage.stage = before.map StoredStage.stage)
    (ends : ∀ run ∈ after, run.isOpen → run ∈ before) : Grows time before after where
  keeps := by
    intro stage has
    rw [hasRun_iff] at has ⊢
    rw [stages]
    exact has
  single := by
    intro single
    rw [stages]
    exact single
  ended := by
    intro stage _ closed
    cases found : after.hasOpen stage with
    | false => rfl
    | true =>
        obtain ⟨run, member, own, isOpen⟩ := hasOpen_iff.mp found
        rw [← closed, eq_comm, hasOpen_iff]
        exact ⟨run, ends run member isOpen, own, isOpen⟩
  opened := fun run member isOpen => .inl (ends run member isOpen)

theorem Grows.close (runs : Runs Stage Outcome) (stage : Stage) (outcome : Outcome) :
    Grows time runs (runs.close stage time outcome) := by
  refine .of_ended (map_stage_close runs stage time outcome) ?_
  intro run member isOpen
  rcases close_spec runs stage time outcome with ⟨_, same⟩ | ⟨before, ended, after, split, _, _, ends⟩
  · rw [same] at member
    exact member
  · rw [ends] at member
    rw [split]
    rcases List.mem_append.mp member with earlier | later
    · exact List.mem_append_left _ earlier
    · rcases List.mem_cons.mp later with rfl | later
      · cases isOpen
      · exact List.mem_append_right _ (List.mem_cons_of_mem _ later)

omit [DecidableEq Stage] in
theorem closeOpenStages_of_later
    (later : ∀ run ∈ runs, run.isOpen → time < run.startedAt) :
    runs.closeOpenStages time outcome = runs := by
  refine (List.map_congr_left fun run member => ?_).trans (List.map_id runs)
  rw [id_eq, if_neg]
  intro both
  rw [Bool.and_eq_true, decide_eq_true_eq] at both
  exact absurd both.2 (Nat.not_le_of_lt (later run member both.1))

omit [DecidableEq Stage] in
theorem closeOpenStages_later {run : StoredStage Stage Outcome}
    (member : run ∈ runs.closeOpenStages time outcome) (isOpen : run.isOpen) :
    run ∈ runs ∧ time < run.startedAt := by
  obtain ⟨old, inside, rfl⟩ := List.mem_map.mp member
  cases ends : old.isOpen && old.startedAt ≤ time with
  | true =>
      rw [ends, if_pos rfl] at isOpen
      cases isOpen
  | false =>
      rw [ends, if_neg Bool.false_ne_true] at isOpen
      rw [if_neg Bool.false_ne_true]
      rw [isOpen, Bool.true_and, decide_eq_false_iff_not, Nat.not_le] at ends
      exact ⟨inside, ends⟩

theorem Grows.closeOpenStages (runs : Runs Stage Outcome) (outcome : Outcome) :
    Grows time runs (runs.closeOpenStages time outcome) := by
  refine .of_ended ?_ fun run member isOpen => (closeOpenStages_later member isOpen).1
  rw [Runs.closeOpenStages, List.map_map]
  refine List.map_congr_left fun run _ => ?_
  rw [Function.comp_apply]
  split <;> rfl

end Runs

end Liquidity.Performance
