import Liquidity.Process.Program

/-!
# What a program asks for

A program is followed on its own, without a state: the answers it gets are any
that are expected, and what is of interest is which operations it then performs.
-/

namespace Process

variable {Op : Type} {Ret : Op → Type} {ε α β : Type}

/-- As long as the answers are expected ones, the operations are allowed ones, and
`post` holds of what is returned. -/
def Prog.Asks (expected : (op : Op) → Ret op → Prop) (allowed : Op → Prop) (post : α → Prop) :
    Prog Op Ret ε α → Prop
  | .done a => post a
  | .fail _ => True
  | .call op next => allowed op ∧
      ∀ answer, expected op answer → (next answer).Asks expected allowed post

namespace Prog.Asks

variable {expected : (op : Op) → Ret op → Prop} {allowed : Op → Prop} {post : α → Prop}

theorem bind {program : Prog Op Ret ε α} {f : α → Prog Op Ret ε β} {post' : β → Prop}
    (first : program.Asks expected allowed post)
    (second : ∀ a, post a → (f a).Asks expected allowed post') :
    (program >>= f).Asks expected allowed post' := by
  induction program with
  | done a => exact second a first
  | fail e => trivial
  | call op next ih => exact ⟨first.1, fun answer known => ih answer (first.2 answer known)⟩

theorem perform {op : Op} {post : Ret op → Prop} (allows : allowed op)
    (known : ∀ answer, expected op answer → post answer) :
    (Prog.perform op : Prog Op Ret ε (Ret op)).Asks expected allowed post :=
  ⟨allows, known⟩

/-- An already computed result. -/
theorem lift {result : Except ε α} (known : ∀ a, result = .ok a → post a) :
    (Prog.liftExcept result : Prog Op Ret ε α).Asks expected allowed post := by
  cases result with
  | ok a => exact known a rfl
  | error e => trivial

theorem mono {post' : α → Prop} {program : Prog Op Ret ε α}
    (asks : program.Asks expected allowed post) (weaken : ∀ a, post a → post' a) :
    program.Asks expected allowed post' := by
  induction program with
  | done a => exact weaken a asks
  | fail e => trivial
  | call op next ih => exact ⟨asks.1, fun answer known => ih answer (asks.2 answer known)⟩

end Prog.Asks

end Process
