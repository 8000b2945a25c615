import Liquidity.Process.Interleaving

/-!
# Roles and triples

A role is what one kind of thread lives by: how the others may move the shared
state (`rely`), and what has to hold of an operation and the state it is
performed in (`fit`). An operation that fits keeps the invariant, and this is
proved once for the role and carried in it. What is left for a program is to
show that each of its operations fits.

`Ensures` states that as a triple. The assertion before an operation has to be
`Stable`, since the others move before it is performed. Nothing is asked of an
early error return.
-/

namespace Process

variable {Op : Type} {Ret : Op → Type} {ε ε' α β σ Choice Label Env : Type}

theorem Prog.Sat.mono {handle : Choice → (op : Op) → σ → Option (Ret op × σ)} {inv : σ → Prop}
    {permits : Op → σ → Prop} {rely : σ → σ → Prop} {guar : Op → σ → σ → Prop}
    {post post' : Except ε α → σ → Prop} {program : Prog Op Ret ε α} {s : σ}
    (h : program.Sat handle inv permits rely guar post s)
    (weaken : ∀ result t, post result t → post' result t) :
    program.Sat handle inv permits rely guar post' s := by
  induction program generalizing s with
  | done a => exact weaken _ _ h
  | fail e => exact weaken _ _ h
  | call op next ih =>
      intro s₁ moved holds allowed choice answer s₂ handled
      obtain ⟨holds₂, within, rest⟩ := h s₁ moved holds allowed choice answer s₂ handled
      exact ⟨holds₂, within, ih answer rest⟩

/-- What a thread relies on and what its operations have to fit. -/
structure Role (handle : Choice → (op : Op) → σ → Option (Ret op × σ)) (inv : σ → Prop) where
  rely : σ → σ → Prop
  fit : Op → σ → Prop
  rely_refl : ∀ s, rely s s
  rely_trans : ∀ s t u, rely s t → rely t u → rely s u
  keeps : ∀ choice op s answer t, inv s → fit op s → handle choice op s = some (answer, t) → inv t

/-- Asked only of a program that goes on. -/
def returning (post : α → σ → Prop) : Except ε α → σ → Prop
  | .ok a, s => post a s
  | .error _, _ => True

namespace Role

variable {handle : Choice → (op : Op) → σ → Option (Ret op × σ)} {inv : σ → Prop}
variable (role : Role handle inv)

/-- A fitting operation, performed. -/
def Performs (op : Op) (s t : σ) : Prop :=
  role.fit op s ∧ ∃ choice answer, handle choice op s = some (answer, t)

/-- The assertion survives what the others do. -/
def Stable (assertion : σ → Prop) : Prop := ∀ s t, role.rely s t → assertion s → assertion t

/-- From `pre` on every operation of the program fits, and `post` holds of its
result. -/
structure Ensures (pre : σ → Prop) (program : Prog Op Ret ε α) (post : α → σ → Prop) : Prop where
  sat : ∀ s, pre s →
    program.Sat handle inv (fun _ _ => True) role.rely role.Performs (returning post) s

variable {role} {pre pre' : σ → Prop} {post post' : α → σ → Prop}

theorem Stable.true : role.Stable fun _ => True := fun _ _ _ _ => trivial

theorem Stable.and {first second : σ → Prop} (one : role.Stable first) (two : role.Stable second) :
    role.Stable fun s => first s ∧ second s :=
  fun s t moved h => ⟨one s t moved h.1, two s t moved h.2⟩

namespace Ensures

/-- Strengthen the precondition, weaken the postcondition. -/
theorem weaken {program : Prog Op Ret ε α} (h : role.Ensures pre program post)
    (before : ∀ s, pre' s → pre s) (after : ∀ a s, post a s → post' a s) :
    role.Ensures pre' program post' := by
  refine ⟨fun s holds => (h.sat s (before s holds)).mono fun result t ends => ?_⟩
  cases result with
  | ok a => exact after a t ends
  | error e => trivial

theorem pure {a : α} (h : ∀ s, pre s → post a s) :
    role.Ensures pre (Pure.pure a : Prog Op Ret ε α) post :=
  ⟨fun s holds => h s holds⟩

theorem throw {e : ε} : role.Ensures pre (MonadExcept.throw e : Prog Op Ret ε α) post :=
  ⟨fun _ _ => trivial⟩

/-- A precondition that is no matter of the state. -/
theorem given {fact : Prop} {program : Prog Op Ret ε α}
    (h : fact → role.Ensures (fun _ => True) program post) :
    role.Ensures (fun _ => fact) program post :=
  ⟨fun s holds => (h holds).sat s trivial⟩

/-- An already computed result. -/
theorem lift {result : Except ε α} (h : ∀ a, result = .ok a → ∀ s, pre s → post a s) :
    role.Ensures pre (Prog.liftExcept result : Prog Op Ret ε α) post := by
  refine ⟨fun s holds => ?_⟩
  cases result with
  | ok a => exact h a rfl s holds
  | error e => trivial

theorem bind {program : Prog Op Ret ε α} {f : α → Prog Op Ret ε β} {mid : α → σ → Prop}
    {post : β → σ → Prop} (first : role.Ensures pre program mid)
    (second : ∀ a, role.Ensures (mid a) (f a) post) : role.Ensures pre (program >>= f) post :=
  ⟨fun s holds => (first.sat s holds).seq (fun a t ends => (second a).sat t ends)
    fun _ _ _ => trivial⟩

/-- Go on with an answer, and leave with an error. -/
theorem tried {program : Prog Op Ret ε (Except ε α)} {f : α → Prog Op Ret ε β}
    {mid : Except ε α → σ → Prop} {post : β → σ → Prop} (first : role.Ensures pre program mid)
    (second : ∀ a, role.Ensures (mid (.ok a)) (f a) post) :
    role.Ensures pre (program >>= fun answer => Prog.liftExcept answer >>= f) post := by
  refine first.bind fun answer => ⟨fun s holds => ?_⟩
  cases answer with
  | ok a => exact (second a).sat s holds
  | error e => trivial

/-- One operation. Whoever could not be answered is not asked. -/
theorem perform {op : Op} {post : Ret op → σ → Prop} (stable : role.Stable pre)
    (step : ∀ s, pre s → inv s → ∀ choice answer t, handle choice op s = some (answer, t) →
      role.fit op s ∧ (inv t → post answer t)) :
    role.Ensures pre (Prog.perform op : Prog Op Ret ε (Ret op)) post := by
  refine ⟨fun s₀ holds s moved keeps _ choice answer t handled => ?_⟩
  obtain ⟨fits, leads⟩ := step s (stable s₀ s moved holds) keeps choice answer t handled
  have kept := role.keeps choice op s answer t keeps fits handled
  exact ⟨kept, ⟨fits, choice, answer, handled⟩, leads kept⟩

/-- How a program ended, handed on: what is known of its result is known if there
is one. -/
theorem capture {program : Prog Op Ret ε α} (h : role.Ensures pre program post) :
    role.Ensures pre (program.capture : Prog Op Ret ε' (Except ε α))
      fun result s => ∀ a, result = .ok a → post a s := by
  refine ⟨fun s holds => ?_⟩
  have sat := h.sat s holds
  clear holds h
  induction program generalizing s with
  | done a =>
      rintro _ ⟨⟩
      exact sat
  | fail e => rintro _ ⟨⟩
  | call op next ih =>
      intro s₁ moved keeps allowed choice answer s₂ handled
      obtain ⟨kept, within, rest⟩ := sat s₁ moved keeps allowed choice answer s₂ handled
      exact ⟨kept, within, ih answer s₂ rest⟩

/-- What a thread's own operations leave alone as well stands throughout, however
the program ends. -/
theorem frame {program : Prog Op Ret ε α} {kept : σ → Prop} (h : role.Ensures pre program post)
    (stable : role.Stable kept) (own : ∀ op s t, inv s → role.Performs op s t → role.rely s t) :
    role.Ensures (fun s => pre s ∧ kept s) program fun a s => post a s ∧ kept s := by
  refine ⟨fun s holds => ?_⟩
  obtain ⟨before, stands⟩ := holds
  have sat := h.sat s before
  clear before h
  induction program generalizing s with
  | done a => exact ⟨sat, stands⟩
  | fail e => trivial
  | call op next ih =>
      intro s₁ moved keeps allowed choice answer s₂ handled
      obtain ⟨kept, within, rest⟩ := sat s₁ moved keeps allowed choice answer s₂ handled
      have stands₁ := stable s s₁ moved stands
      exact ⟨kept, within, ih answer s₂ (stable s₁ s₂ (own op s₁ s₂ keeps within) stands₁) rest⟩

end Ensures

end Role

/-- Roles fit together if each one's operations stay within what the others rely
on, apart from those that never run side by side. -/
theorem System.compatible_of_roles (sys : System Op Ret ε α σ Choice Label Env) {inv : σ → Prop}
    (role : Label → Role sys.handle inv)
    (exclusive_symm : ∀ a b, sys.exclusive a b = sys.exclusive b a)
    (program : ∀ label,
      (role label).Ensures (fun s => sys.canStart label s) (sys.program label) fun _ _ => True)
    (meet : ∀ a b op s t, sys.exclusive a b = false → inv s → (role a).Performs op s t →
      (role b).rely s t)
    (environment : ∀ change s t, inv s → sys.environment change s = some t →
      inv t ∧ ∀ label, (role label).rely s t) :
    sys.Compatible inv (fun _ _ _ => True) (fun label => (role label).rely)
      (fun label => (role label).Performs) (fun _ => returning fun _ _ => True) where
  rely_refl := fun label => (role label).rely_refl
  rely_trans := fun label => (role label).rely_trans
  exclusive_symm := exclusive_symm
  program := fun label s _ able => (program label).sat s able
  meet := meet
  env_inv := fun change s t holds changed => (environment change s t holds changed).1
  env_rely := fun change s t label holds changed => (environment change s t holds changed).2 label

end Process
