/-!
# Plans

A plan is what a program still wants to do: it is done with a result, or it asks its surroundings a
request and goes on with the answer. The surroundings are not part of it, so the same plan runs
against any store, endpoint and clock (`Plan.run`), request by request among other plans, or against
a list of answers.

A plan always ends. A program that may go on for ever is a `Loop`: from a state it has a plan, which
ends in a result or in the state to go on with.
-/

namespace RedemptionWatch

/-- The requests that a plan may make, and the type of the answer to each. -/
structure Interface where
  Request : Type
  Answer : Request → Type

/-- What a program still wants to do. -/
inductive Plan (P : Interface) (α : Type) where
  | done (result : α)
  | ask (request : P.Request) (next : P.Answer request → Plan P α)

namespace Plan

variable {P : Interface} {α β γ : Type}

/-- The plan that asks one request and ends with its answer. -/
def request (q : P.Request) : Plan P (P.Answer q) :=
  ask q done

/-- First `p`, then what its result calls for. -/
protected def bind : Plan P α → (α → Plan P β) → Plan P β
  | done a, f => f a
  | ask q k, f => ask q fun a => (k a).bind f

instance : Monad (Plan P) where
  pure := done
  bind := Plan.bind

@[simp] theorem pure_eq (a : α) : (pure a : Plan P α) = done a := rfl

@[simp] theorem done_bind (a : α) (f : α → Plan P β) : done a >>= f = f a := rfl

@[simp] theorem ask_bind (q : P.Request) (k : P.Answer q → Plan P α) (f : α → Plan P β) :
    ask q k >>= f = ask q fun a => k a >>= f := rfl

theorem bind_assoc (p : Plan P α) (f : α → Plan P β) (g : β → Plan P γ) :
    p >>= f >>= g = p >>= fun a => f a >>= g := by
  induction p with
  | done a => rfl
  | ask q k ih => exact congrArg (ask q) (funext ih)

/-- Runs a plan where every request is answered by `answer`. -/
def run {m : Type → Type} [Monad m] (answer : (q : P.Request) → m (P.Answer q)) :
    Plan P α → m α
  | done a => pure a
  | ask q k => do
    let a ← answer q
    (k a).run answer

end Plan

/-- From each state a plan, which ends in the next state or in a result. -/
abbrev Loop (P : Interface) (σ α : Type) := σ → Plan P (σ ⊕ α)

/-- Runs at most `rounds` rounds of a loop; `none` if it has not ended by then. -/
def Loop.run {P : Interface} {σ α : Type} {m : Type → Type} [Monad m] (loop : Loop P σ α)
    (answer : (q : P.Request) → m (P.Answer q)) : Nat → σ → m (Option α)
  | 0, _ => pure none
  | rounds + 1, s => do
    match ← (loop s).run answer with
    | .inl s => loop.run answer rounds s
    | .inr a => pure (some a)

end RedemptionWatch
