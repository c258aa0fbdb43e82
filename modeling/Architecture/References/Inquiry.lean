import Architecture.References.Cache

/-!
Computations that ask for the references of types.

An inquiry can do nothing about references but ask for them. Whoever runs it decides where the
answers come from: a cache of any kind, or no cache at all.
-/

namespace Architecture

inductive Inquiry (α : Type) where
  | done (value : α)
  | ask (q : ReferenceQuery) (next : ReferenceSet → Inquiry α)

namespace Inquiry

variable {α β : Type}

protected def bind : Inquiry α → (α → Inquiry β) → Inquiry β
  | done a, f => f a
  | ask q next, f => ask q fun set => (next set).bind f

instance : Monad Inquiry where
  pure := done
  bind := Inquiry.bind

theorem bind_done (x : Inquiry α) : x.bind done = x := by
  induction x with
  | done a => rfl
  | ask q next inductionHypothesis => exact congrArg (ask q) (funext inductionHypothesis)

theorem bind_bind {γ : Type} (x : Inquiry α) (f : α → Inquiry β) (g : β → Inquiry γ) :
    (x.bind f).bind g = x.bind fun a => (f a).bind g := by
  induction x with
  | done a => rfl
  | ask q next inductionHypothesis => exact congrArg (ask q) (funext inductionHypothesis)

instance : LawfulMonad Inquiry :=
  .mk' Inquiry bind_done (fun _ _ => rfl) bind_bind

/-- The outcome where every question is answered by a new computation. -/
def value : Inquiry α → α
  | done a => a
  | ask q next => (next q.references).value

/-- Runs an inquiry on a cache that knows queries by a key. -/
def cachedBy {κ : Type} [DecidableEq κ] (key : ReferenceQuery → κ) :
    Inquiry α → StateM (Cache κ) α
  | done a => return a
  | ask q next => do (next (← q.answerBy key)).cachedBy key

def cached (x : Inquiry α) : Cached α := x.cachedBy id

end Inquiry

end Architecture
