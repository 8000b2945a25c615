import Liquidity.Performance.Equity
import Mathlib.Data.List.Forall2

/-!
# What an event makes of the stages of an equity transfer

An event alters runs one by one, or appends the run of a stage that has none. Whichever
it does, a stage that has ended stays so, and one that has begun does not become a
placeholder. So it shows in the runs that an event was folded, what comes later leaves
it so, and where it shows the event changes nothing when it is folded again.
-/

namespace Liquidity.Performance.Equity

open StageRuns

/-! ## How runs evolve -/

/-- What an event at this time makes of a run. Only some events make it a failure. -/
inductive Alters (time : Time) (failing : Bool) : StageRun → StageRun → Prop where
  | kept (run : StageRun) : Alters time failing run run
  | finished {run : StageRun} {outcome : StoredStageOutcome} (isOpen : run.isOpen)
      (real : outcome ≠ .placeholder) (fails : outcome = .failed → failing) :
      Alters time failing run (run.finish time outcome)
  | begun {run : StageRun} (holds : run.outcome = .placeholder) :
      Alters time failing run (StageRun.begunAt run time)
  | unmeasured (run : StageRun) : Alters time failing run (StageRun.unmeasured run)

/-- What an event at this time makes of the runs. -/
inductive Evolves (time : Time) (failing : Bool) : StageRuns → StageRuns → Prop where
  | altered {before after : StageRuns} (each : List.Forall₂ (Alters time failing) before after) :
      Evolves time failing before after
  | pushed {before : StageRuns} {run : StageRun} (fresh : before.hasRun run.stage = false)
      (started : run.startedAt = time) (real : run.isOpen → run.outcome ≠ .placeholder)
      (fails : run.outcome = .failed → failing) : Evolves time failing before (before ++ [run])
  | trans {first second third : StageRuns} (left : Evolves time failing first second)
      (right : Evolves time failing second third) : Evolves time failing first third

variable {time : Time} {failing : Bool} {run run' : StageRun} {before after runs : StageRuns}
variable {stage : StoredStageName} {outcome : StoredStageOutcome}

@[simp] theorem begunAt_stage (run : StageRun) (time : Time) :
    (StageRun.begunAt run time).stage = run.stage := by
  rw [StageRun.begunAt]
  split <;> rfl

@[simp] theorem begunAt_endedAt (run : StageRun) (time : Time) :
    (StageRun.begunAt run time).endedAt = run.endedAt := by
  rw [StageRun.begunAt]
  split <;> rename_i found <;> rw [found]

@[simp] theorem begunAt_startedAt (run : StageRun) (time : Time) :
    (StageRun.begunAt run time).startedAt = time := by
  rw [StageRun.begunAt]
  split <;> rfl

theorem begunAt_outcome (run : StageRun) (time : Time) (ended : run.isOpen = false) :
    (StageRun.begunAt run time).outcome = .succeeded := by
  rw [StageRun.begunAt]
  split
  case h_1 => rfl
  case h_2 none => simp [StoredStage.isOpen, none] at ended

theorem Alters.stage_eq (alters : Alters time failing run run') : run'.stage = run.stage := by
  cases alters <;> simp [StageRun.unmeasured]

theorem Alters.isOpen (alters : Alters time failing run run') (isOpen : run'.isOpen) :
    run.isOpen := by
  cases alters with
  | kept => exact isOpen
  | finished isOpen' => exact isOpen'
  | begun => simpa [StoredStage.isOpen] using isOpen
  | unmeasured => exact isOpen

theorem Alters.startedAt_eq (alters : Alters time failing run run') :
    run'.startedAt = run.startedAt ∨ run'.startedAt = time := by
  cases alters with
  | begun => exact .inr (begunAt_startedAt _ _)
  | _ => exact .inl rfl

theorem Evolves.refl (time : Time) (failing : Bool) (runs : StageRuns) :
    Evolves time failing runs runs :=
  .altered (List.forall₂_same.mpr fun run _ => .kept run)

theorem forall₂_all {Item : Type} {related : Item → Item → Prop} {holds : Item → Prop}
    {items items' : List Item} (each : List.Forall₂ related items items')
    (keeps : ∀ item item', related item item' → holds item → holds item')
    (all : ∀ item ∈ items, holds item) : ∀ item ∈ items', holds item := by
  induction each with
  | nil => exact all
  | cons first _ ih =>
      obtain ⟨holdsFirst, rest⟩ := List.forall_mem_cons.mp all
      exact List.forall_mem_cons.mpr ⟨keeps _ _ first holdsFirst, ih rest⟩

theorem map_stage_altered (each : List.Forall₂ (Alters time failing) before after) :
    after.map StoredStage.stage = before.map StoredStage.stage := by
  induction each with
  | nil => rfl
  | cons first _ ih => rw [List.map_cons, List.map_cons, first.stage_eq, ih]

/-- What holds of all runs, if altering keeps it and it holds of what is pushed. -/
theorem Evolves.all {holds : StageRun → Prop} (evolves : Evolves time failing before after)
    (keeps : ∀ run run', Alters time failing run run' → holds run → holds run')
    (pushes : ∀ run : StageRun, run.startedAt = time → (run.isOpen → run.outcome ≠ .placeholder) →
      (run.outcome = .failed → failing) → holds run)
    (all : ∀ run ∈ before, holds run) : ∀ run ∈ after, holds run := by
  induction evolves with
  | altered each => exact forall₂_all each keeps all
  | pushed fresh started real fails =>
      intro run member
      rcases List.mem_append.mp member with earlier | last
      · exact all run earlier
      · rw [List.mem_singleton.mp last]
        exact pushes _ started real fails
  | trans left right ihLeft ihRight => exact ihRight (ihLeft all)

/-- The stage has a run, and this holds of it. -/
def Each (runs : StageRuns) (stage : StoredStageName) (holds : StageRun → Prop) : Prop :=
  runs.hasRun stage ∧ ∀ run ∈ runs, run.stage = stage → holds run

/-- What holds of the run of a stage, if altering keeps it. -/
theorem Evolves.each {holds : StageRun → Prop} (evolves : Evolves time failing before after)
    (keeps : ∀ run run', Alters time failing run run' → holds run → holds run')
    (each : Each before stage holds) : Each after stage holds := by
  induction evolves with
  | altered alters =>
      refine ⟨?_, ?_⟩
      · have has := each.1
        rw [Runs.hasRun_iff] at has ⊢
        rwa [map_stage_altered alters]
      · refine forall₂_all alters ?_ each.2
        intro run run' altered held own
        exact keeps run run' altered (held (altered.stage_eq ▸ own))
  | pushed fresh =>
      have has := each.1
      refine ⟨?_, ?_⟩
      · rw [Runs.hasRun_iff] at has ⊢
        rw [List.map_append]
        exact List.mem_append_left _ has
      · intro run member own
        rcases List.mem_append.mp member with earlier | last
        · exact each.2 run earlier own
        · rw [List.mem_singleton.mp last] at own
          rw [own, has] at fresh
          cases fresh
  | trans left right ihLeft ihRight => exact ihRight (ihLeft each)

/-! ## What stays so -/

/-- The stage has ended. -/
def Ended (runs : StageRuns) (stage : StoredStageName) : Prop :=
  Each runs stage fun run => run.isOpen = false

/-- The stage has begun, when it is known. -/
def Begun (runs : StageRuns) (stage : StoredStageName) : Prop :=
  Each runs stage fun run => run.outcome ≠ .placeholder

/-- The stage was passed without being measured. -/
def Passed (runs : StageRuns) (stage : StoredStageName) : Prop :=
  Each runs stage fun run => run.isOpen = false ∧ run.outcome = .unmeasured ∧ run.durationMs = none

/-- Each stage has one run at most, and a placeholder has ended. -/
structure Sound (runs : StageRuns) : Prop where
  single : (runs.map StoredStage.stage).Nodup
  ended : ∀ run ∈ runs, run.outcome = .placeholder → run.isOpen = false

theorem Evolves.hasRun (evolves : Evolves time failing before after) (has : before.hasRun stage) :
    after.hasRun stage := by
  have each : Each before stage fun _ => True := ⟨has, fun _ _ _ => trivial⟩
  exact (evolves.each (fun _ _ _ _ => trivial) each).1

theorem Evolves.ended (evolves : Evolves time failing before after) (ended : Ended before stage) :
    Ended after stage := by
  refine evolves.each ?_ ended
  intro run run' alters closed
  cases isOpen : run'.isOpen with
  | false => rfl
  | true => exact absurd (closed.symm.trans (alters.isOpen isOpen)) (by decide)

theorem Evolves.begun (evolves : Evolves time failing before after) (begun : Begun before stage) :
    Begun after stage := by
  refine evolves.each ?_ begun
  intro run run' alters real
  cases alters with
  | kept => exact real
  | finished _ real' _ => exact real'
  | begun holds => exact absurd holds real
  | unmeasured =>
      intro holds
      cases holds

theorem Evolves.passed (evolves : Evolves time failing before after)
    (passed : Passed before stage) : Passed after stage := by
  refine evolves.each ?_ passed
  rintro run run' alters ⟨closed, outcome, duration⟩
  cases alters with
  | kept => exact ⟨closed, outcome, duration⟩
  | finished isOpen => exact absurd (closed.symm.trans isOpen) (by decide)
  | begun holds =>
      rw [outcome] at holds
      cases holds
  | unmeasured => exact ⟨closed, rfl, rfl⟩

theorem Evolves.sound (evolves : Evolves time failing before after) (sound : Sound before) :
    Sound after where
  single := by
    have single := sound.single
    clear sound
    induction evolves with
    | altered each => rwa [map_stage_altered each]
    | pushed fresh =>
        rw [List.map_append, List.nodup_append]
        refine ⟨single, by simp, ?_⟩
        intro stage member stage' last same
        have has := Runs.hasRun_iff.mpr member
        rw [same, List.mem_singleton.mp last, fresh] at has
        cases has
    | trans left right ihLeft ihRight => exact ihRight (ihLeft single)
  ended := by
    refine evolves.all ?_ ?_ sound.ended
    · intro run run' alters closed holds
      cases alters with
      | kept => exact closed holds
      | finished => rfl
      | begun holds' =>
          rw [begunAt_outcome run time (closed holds')] at holds
          cases holds
      | unmeasured => cases holds
    · intro run _ real _ holds
      cases isOpen : run.isOpen with
      | false => rfl
      | true => exact absurd holds (real isOpen)

/-- What is open began later than this. -/
def Later (runs : StageRuns) (time : Time) : Prop :=
  ∀ run ∈ runs, run.isOpen → time < run.startedAt

theorem Evolves.later {mark : Time} (evolves : Evolves time failing before after)
    (later : Later before mark) (rises : mark < time) : Later after mark := by
  refine evolves.all ?_ ?_ later
  · intro run run' alters holds isOpen
    rcases alters.startedAt_eq with same | own
    · rw [same]
      exact holds (alters.isOpen isOpen)
    · rwa [own]
  · intro run own _ _ _
    rwa [own]

theorem Evolves.bounded {mark : Time} (evolves : Evolves time failing before after)
    (bounded : ∀ run ∈ before, run.startedAt ≤ mark) (rises : mark ≤ time) :
    ∀ run ∈ after, run.startedAt ≤ time := by
  refine evolves.all ?_ ?_ fun run member => (bounded run member).trans rises
  · intro run run' alters holds
    rcases alters.startedAt_eq with same | own
    · rwa [same]
    · exact own.le
  · intro run own _ _
    exact own.le

/-- Where no stage has failed, none fails but by a failure. -/
theorem Evolves.calm (evolves : Evolves time false before after)
    (calm : ∀ run ∈ before, run.outcome ≠ .failed) : ∀ run ∈ after, run.outcome ≠ .failed := by
  refine evolves.all ?_ ?_ calm
  · intro run run' alters holds
    cases alters with
    | kept => exact holds
    | finished _ _ fails =>
        intro failed
        exact absurd (fails failed) (by decide)
    | begun placed =>
        rw [StageRun.begunAt]
        split
        case h_1 =>
          intro failed
          cases failed
        case h_2 => exact holds
    | unmeasured =>
      intro holds
      cases holds
  · intro run _ _ fails failed
    exact absurd (fails failed) (by decide)

/-! ## What the operations do -/

theorem forall₂_replaceF {Item : Type} {related : Item → Item → Prop} {change : Item → Option Item}
    (same : ∀ item, related item item)
    (changes : ∀ item item', change item = some item' → related item item') (items : List Item) :
    List.Forall₂ related items (items.replaceF change) := by
  induction items with
  | nil => exact .nil
  | cons item items ih =>
      cases changed : change item with
      | none =>
          rw [List.replaceF_cons_of_none change changed]
          exact .cons (same item) ih
      | some item' =>
          rw [List.replaceF_cons_of_some change changed]
          exact .cons (changes item item' changed) (List.forall₂_same.mpr fun item _ => same item)

theorem evolves_pushOnce (runs : StageRuns) {run : StageRun} (started : run.startedAt = time)
    (real : run.isOpen → run.outcome ≠ .placeholder) (fails : run.outcome = .failed → failing) :
    Evolves time failing runs (runs.pushOnce run) := by
  rw [Runs.pushOnce]
  split
  case isTrue => exact .refl time failing runs
  case isFalse fresh => exact .pushed (by simpa using fresh) started real fails

theorem evolves_openOnce (runs : StageRuns) (stage : StoredStageName) :
    Evolves time failing runs (openOnce runs stage time) := by
  rw [openOnce]
  split
  case isTrue =>
    refine .altered (forall₂_replaceF .kept ?_ runs)
    intro run run' upgraded
    split at upgraded <;> cases upgraded
    rename_i holds
    rw [StageRun.holdsPlaceOf, Bool.and_eq_true, decide_eq_true_eq, decide_eq_true_eq] at holds
    exact .begun holds.2
  case isFalse =>
    refine evolves_pushOnce runs rfl (fun _ => ?_) fun failed => ?_
    · intro holds
      cases holds
    · cases failed

end Liquidity.Performance.Equity
