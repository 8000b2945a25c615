import Liquidity.Process.Triples

/-!
# Loops and renamed errors

A loop is given as many turns as it may take. What every turn keeps, the loop keeps; if
every turn lowers a bound, the loop ends within that many.
-/

namespace Process

variable {Op : Type} {Ret : Op → Type} {ε ε' α β σ Choice Label Env : Type}

/-- The first turns of a loop. Each turn leaves it with a value or goes on. -/
def Prog.loop (turn : Prog Op Ret ε (Option α)) : Nat → Prog Op Ret ε (Option α)
  | 0 => .done none
  | turns + 1 => turn >>= fun
      | some a => .done (some a)
      | none => loop turn turns

/-- A program whose errors are of another kind. -/
def Prog.mapError (f : ε → ε') : Prog Op Ret ε α → Prog Op Ret ε' α
  | .done a => .done a
  | .fail e => .fail (f e)
  | .call op next => .call op fun answer => (next answer).mapError f

/-- After a turn: `post` of what the loop was left with, or `rest` if it goes on. -/
def turned (post : α → σ → Prop) (rest : σ → Prop) : Option α → σ → Prop
  | some a => post a
  | none => rest

/-- Nothing is asked of a loop that is left. -/
theorem turned_true (result : Option α) (s : σ) :
    turned (fun _ _ => True) (fun _ => True) result s := by
  cases result <;> trivial

namespace Role.Ensures

variable {handle : Choice → (op : Op) → σ → Option (Ret op × σ)} {inv : σ → Prop}
variable {role : Role handle inv} {pre : σ → Prop}

theorem loop {turn : Prog Op Ret ε (Option α)} {post : α → σ → Prop}
    (h : role.Ensures pre turn (turned post pre)) (turns : Nat) :
    role.Ensures pre (turn.loop turns) (turned post pre) := by
  induction turns with
  | zero => exact pure fun _ holds => holds
  | succ turns ih =>
      refine h.bind fun result => ?_
      cases result with
      | some a => exact pure fun _ holds => holds
      | none => exact ih

/-- A loop whose every turn ends it or lowers the bound ends within as many turns. -/
theorem loop_within {turn : Prog Op Ret ε (Option α)} {within : Nat → σ → Prop}
    {post : α → σ → Prop} (never : ∀ s, ¬ within 0 s)
    (h : ∀ bound, role.Ensures (within (bound + 1)) turn (turned post (within bound)))
    {turns bound : Nat} (enough : bound ≤ turns) :
    role.Ensures (within bound) (turn.loop turns) (turned post fun _ => False) := by
  induction turns generalizing bound with
  | zero =>
      obtain rfl := Nat.le_zero.mp enough
      exact ⟨fun s holds => (never s holds).elim⟩
  | succ turns ih =>
      cases bound with
      | zero => exact ⟨fun s holds => (never s holds).elim⟩
      | succ bound =>
          refine (h bound).bind fun result => ?_
          cases result with
          | some a => exact pure fun _ holds => holds
          | none => exact ih (Nat.le_of_succ_le_succ enough)

theorem mapError {program : Prog Op Ret ε α} {post : α → σ → Prop} {f : ε → ε'}
    (h : role.Ensures pre program post) : role.Ensures pre (program.mapError f) post := by
  refine ⟨fun s holds => ?_⟩
  have sat := h.sat s holds
  clear holds h
  induction program generalizing s with
  | done a => exact sat
  | fail e => trivial
  | call op next ih =>
      intro s₁ moved keeps allowed choice answer s₂ handled
      obtain ⟨kept, within, rest⟩ := sat s₁ moved keeps allowed choice answer s₂ handled
      exact ⟨kept, within, ih answer s₂ rest⟩

end Role.Ensures

/-- Roles fit together if each one's operations stay within what the others rely on, apart
from those that never run side by side; and every program ends as its role ensures. -/
theorem System.compatible_of_ensures (sys : System Op Ret ε α σ Choice Label Env) {inv : σ → Prop}
    (role : Label → Role sys.handle inv) {post : Label → α → σ → Prop}
    (exclusive_symm : ∀ a b, sys.exclusive a b = sys.exclusive b a)
    (program : ∀ label,
      (role label).Ensures (fun s => sys.canStart label s) (sys.program label) (post label))
    (meet : ∀ a b op s t, sys.exclusive a b = false → inv s → (role a).Performs op s t →
      (role b).rely s t)
    (environment : ∀ change s t, inv s → sys.environment change s = some t →
      inv t ∧ ∀ label, (role label).rely s t) :
    sys.Compatible inv (fun _ _ _ => True) (fun label => (role label).rely)
      (fun label => (role label).Performs) (fun label => returning (post label)) where
  rely_refl := fun label => (role label).rely_refl
  rely_trans := fun label => (role label).rely_trans
  exclusive_symm := exclusive_symm
  program := fun label s _ able => (program label).sat s able
  meet := meet
  env_inv := fun change s t holds changed => (environment change s t holds changed).1
  env_rely := fun change s t label holds changed => (environment change s t holds changed).2 label

/-- What a program ensures is so of every thread that has returned. -/
theorem System.Sound.returned {sys : System Op Ret ε α σ Choice Label Env} {inv : σ → Prop}
    {permits : System.Permits Op σ Label} {rely : Label → σ → σ → Prop}
    {guar : Label → Op → σ → σ → Prop} {post : Label → α → σ → Prop}
    {config : Config Op Ret ε α σ Label}
    (sound : sys.Sound inv permits rely guar (fun label => returning (post label)) config)
    {thread : Thread Op Ret ε α Label} (alive : thread ∈ config.threads) {a : α}
    (returned : thread.rest.result? = some (.ok a)) : ∃ s, post thread.label a s := by
  obtain ⟨label, rest⟩ := thread
  obtain ⟨s, -, sat⟩ := sound.follows _ alive
  cases rest <;> cases returned
  exact ⟨s, sat⟩

end Process
