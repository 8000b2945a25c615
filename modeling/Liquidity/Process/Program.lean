import Mathlib.Data.List.Basic

/-!
# Programs over atomic operations

A program is a finite tree of calls to atomic operations. Between two calls
nothing is shared: everything the program remembers sits in its continuation.
This is the granularity at which asynchronous code is interleaved, cancelled
and killed, so one `call` node stands for one await point with an effect.

The tree has a separate leaf for an early error return, which `bind`
propagates. Operations answer with ordinary values; an operation that can be
rejected answers with an `Except`, and `liftExcept` turns that answer into an
early return.
-/

namespace Process

/-- A program calling operations `op : Op`, each answering in `Ret op`. -/
inductive Prog (Op : Type) (Ret : Op → Type) (ε α : Type) : Type where
  | done (value : α) : Prog Op Ret ε α
  | fail (error : ε) : Prog Op Ret ε α
  | call (op : Op) (next : Ret op → Prog Op Ret ε α) : Prog Op Ret ε α

namespace Prog

variable {Op : Type} {Ret : Op → Type} {ε α β : Type}

/-- Sequencing. An error leaf ends the whole program. -/
def bind : Prog Op Ret ε α → (α → Prog Op Ret ε β) → Prog Op Ret ε β
  | .done a, f => f a
  | .fail e, _ => .fail e
  | .call op next, f => .call op (fun answer => (next answer).bind f)

instance : Monad (Prog Op Ret ε) where
  pure := .done
  bind := bind

instance : MonadExceptOf ε (Prog Op Ret ε) where
  throw := .fail
  tryCatch program handler :=
    let rec go : Prog Op Ret ε _ → Prog Op Ret ε _
      | .done a => .done a
      | .fail e => handler e
      | .call op next => .call op (fun answer => go (next answer))
    go program

/-- A single call, returning the operation's answer. -/
def perform (op : Op) : Prog Op Ret ε (Ret op) := .call op .done

/-- Return an already computed result, leaving the program on an error. -/
def liftExcept : Except ε α → Prog Op Ret ε α
  | .ok a => .done a
  | .error e => .fail e

/-- Run a program to its end and hand on how it ended. -/
def capture {ε' : Type} : Prog Op Ret ε α → Prog Op Ret ε' (Except ε α)
  | .done a => .done (.ok a)
  | .fail e => .done (.error e)
  | .call op next => .call op (fun answer => (next answer).capture)

/-- How a program ended, if it did. -/
def result? : Prog Op Ret ε α → Option (Except ε α)
  | .done a => some (.ok a)
  | .fail e => some (.error e)
  | .call .. => none

@[simp] theorem pure_eq (a : α) : (pure a : Prog Op Ret ε α) = .done a := rfl

@[simp] theorem throw_eq (e : ε) : (throw e : Prog Op Ret ε α) = .fail e := rfl

@[simp] theorem bind_done (a : α) (f : α → Prog Op Ret ε β) : (Prog.done a >>= f) = f a := rfl

@[simp] theorem bind_fail (e : ε) (f : α → Prog Op Ret ε β) :
    ((Prog.fail e : Prog Op Ret ε α) >>= f) = .fail e := rfl

@[simp] theorem bind_call (op : Op) (next : Ret op → Prog Op Ret ε α)
    (f : α → Prog Op Ret ε β) :
    (Prog.call op next >>= f) = .call op (fun answer => next answer >>= f) := rfl

@[simp] theorem bind_perform (op : Op) (f : Ret op → Prog Op Ret ε β) :
    (perform op >>= f) = .call op f := rfl

@[simp] theorem liftExcept_ok (a : α) :
    (liftExcept (.ok a) : Prog Op Ret ε α) = .done a := rfl

@[simp] theorem liftExcept_error (e : ε) :
    (liftExcept (.error e) : Prog Op Ret ε α) = .fail e := rfl

end Prog

end Process
