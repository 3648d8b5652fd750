import Mathlib.Data.List.Basic
import RedemptionWatch.Plan

/-!
# Logs of plans and loops

A run is known by its log: the requests that were made, each with its answer. `Plan.Logs` and
`Loop.Logs` say which logs a plan and a loop have, whatever answers come in, and what is then left
to do. A run may stop at any of its requests, so every beginning of a log is one too.

`Replays` says that surroundings with a state give the answers of a log. Every run by a handler has
a log that the handler replays (`Plan.logs_of_run`, `Loop.logs_of_run`), so what holds of all logs
holds of all runs.

A monitor reads a log event by event and refuses what is not allowed. `Plan.Obeys` says of a plan
that whatever answers come in, its monitor allows every request. It is computed along the plan, and
a loop each of whose rounds obeys has only logs that its monitor accepts (`Loop.Logs.obeys`).
-/

namespace RedemptionWatch

/-- A request with its answer. -/
structure Event (P : Interface) where
  request : P.Request
  answer : P.Answer request

/-- Requests with their answers, in order. -/
abbrev Log (P : Interface) := List (Event P)

variable {P : Interface} {S σ α β : Type}

/-- The plan makes the requests of the log if they are answered as in the log, and then goes on
with the plan at the end. -/
inductive Plan.Logs : Plan P α → Log P → Plan P α → Prop where
  | nil (p : Plan P α) : Logs p [] p
  | ask {q : P.Request} {next : P.Answer q → Plan P α} {a : P.Answer q} {log : Log P}
      {p : Plan P α} (rest : Logs (next a) log p) : Logs (.ask q next) (⟨q, a⟩ :: log) p

/-- The loop, at this plan of a round, makes the requests of the log, and then goes on with the plan
at the end. -/
inductive Loop.Logs (loop : Loop P σ α) : Plan P (σ ⊕ α) → Log P → Plan P (σ ⊕ α) → Prop where
  | nil (p : Plan P (σ ⊕ α)) : Logs loop p [] p
  | ask {q : P.Request} {next : P.Answer q → Plan P (σ ⊕ α)} {a : P.Answer q} {log : Log P}
      {p : Plan P (σ ⊕ α)} (rest : Logs loop (next a) log p) :
      Logs loop (.ask q next) (⟨q, a⟩ :: log) p
  | round {x : σ} {log : Log P} {p : Plan P (σ ⊕ α)} (rest : Logs loop (loop x) log p) :
      Logs loop (.done (.inl x)) log p

/-- Surroundings in state `s` give the answers of the log, and are in state `s'` then. -/
inductive Replays (serves : S → Event P → S → Prop) : S → Log P → S → Prop where
  | nil (s : S) : Replays serves s [] s
  | cons {s s' t : S} {e : Event P} {log : Log P} (first : serves s e s')
      (rest : Replays serves s' log t) : Replays serves s (e :: log) t

/-- A handler gives this answer. -/
def handles (answer : (q : P.Request) → StateM S (P.Answer q)) (s : S) (e : Event P) (s' : S) :
    Prop :=
  (answer e.request).run s = (e.answer, s')

/-! ## Logs of runs -/

namespace Replays

variable {serves : S → Event P → S → Prop} {s t u : S} {log log' : Log P}

theorem append (h : Replays serves s log t) (h' : Replays serves t log' u) :
    Replays serves s (log ++ log') u := by
  induction h with
  | nil => exact h'
  | cons first _ ih => exact .cons first (ih h')

/-- The parts of a log are replayed one after the other. -/
theorem of_append (h : Replays serves s (log ++ log') u) :
    ∃ t, Replays serves s log t ∧ Replays serves t log' u := by
  induction log generalizing s with
  | nil => exact ⟨s, .nil s, h⟩
  | cons e log ih =>
    cases h with
    | cons first rest =>
      obtain ⟨t, hlog, hlog'⟩ := ih rest
      exact ⟨t, .cons first hlog, hlog'⟩

/-- The last event of a log is replayed last. -/
theorem of_snoc {e : Event P} (h : Replays serves s (log ++ [e]) u) :
    ∃ t, Replays serves s log t ∧ serves t e u := by
  obtain ⟨t, hlog, hlast⟩ := h.of_append
  cases hlast with
  | cons first rest =>
    cases rest
    exact ⟨t, hlog, first⟩

end Replays

theorem Loop.Logs.trans {loop : Loop P σ α} {p q r : Plan P (σ ⊕ α)} {log log' : Log P}
    (h : loop.Logs p log q) (h' : loop.Logs q log' r) : loop.Logs p (log ++ log') r := by
  induction h with
  | nil => exact h'
  | ask _ ih => exact .ask (ih h')
  | round _ ih => exact .round (ih h')

/-- A log determines how the plan goes on after it. -/
theorem Plan.Logs.unique {p q r : Plan P α} {log : Log P} (hq : p.Logs log q) (hr : p.Logs log r) :
    q = r := by
  induction hq with
  | nil p =>
    cases hr
    rfl
  | ask _ ih =>
    cases hr with
    | ask hr => exact ih hr

/-- A request is answered once. -/
theorem Plan.Logs.of_request {q : P.Request} {a : P.Answer q} {log : Log P}
    (h : (Plan.request q).Logs log (.done a)) : log = [⟨q, a⟩] := by
  cases h with
  | ask h =>
    cases h
    rfl

/-- A plan within a loop has the logs of the plan. -/
theorem Plan.Logs.loop {loop : Loop P σ α} {p q : Plan P (σ ⊕ α)} {log : Log P}
    (h : p.Logs log q) : loop.Logs p log q := by
  induction h with
  | nil p => exact .nil p
  | ask _ ih => exact .ask ih

/-- An event of two logs in a row is one of the second, or one of the first. -/
theorem Log.append_eq_append_cons {e : Event P} {first rest before after : Log P}
    (h : first ++ rest = before ++ e :: after) :
    (∃ before', before = first ++ before' ∧ rest = before' ++ e :: after) ∨
      ∃ after', first = before ++ e :: after' ∧ after = after' ++ rest := by
  rcases List.append_eq_append_iff.mp h with ⟨before', hbefore, hrest⟩ | ⟨after', hfirst, hafter⟩
  · exact Or.inl ⟨before', hbefore, hrest⟩
  · rcases List.cons_eq_append_iff.mp hafter with ⟨rfl, rfl⟩ | ⟨after', rfl, rfl⟩
    · exact Or.inl ⟨[], by simpa using hfirst.symm, rfl⟩
    · exact Or.inr ⟨after', hfirst, rfl⟩

theorem Plan.Logs.trans {p q r : Plan P α} {log log' : Log P} (h : p.Logs log q)
    (h' : q.Logs log' r) : p.Logs (log ++ log') r := by
  induction h with
  | nil => exact h'
  | ask _ ih => exact .ask (ih h')

theorem Plan.Logs.bind {f : α → Plan P β} {p : Plan P α} {a : α} {q : Plan P β} {log log' : Log P}
    (h : p.Logs log (.done a)) (h' : (f a).Logs log' q) : (p >>= f).Logs (log ++ log') q := by
  generalize hend : Plan.done a = r at h
  induction h with
  | nil p =>
    cases hend
    exact h'
  | ask _ ih => exact .ask (ih hend)

/-- A log of one plan and then another that comes to its end is a log of each. -/
theorem Plan.Logs.of_bind {f : α → Plan P β} {p : Plan P α} {b : β} {log : Log P}
    (h : (p >>= f).Logs log (.done b)) :
    ∃ a first rest, log = first ++ rest ∧ p.Logs first (.done a) ∧ (f a).Logs rest (.done b) := by
  induction p generalizing log with
  | done a => exact ⟨a, [], log, rfl, .nil _, h⟩
  | ask q next ih =>
    cases h with
    | ask hrest =>
      obtain ⟨a, first, rest, rfl, hfirst, hrest⟩ := ih _ hrest
      exact ⟨a, _ :: first, rest, rfl, .ask hfirst, hrest⟩

/-- The run of a plan by a handler has a log. -/
theorem Plan.logs_of_run (answer : (q : P.Request) → StateM S (P.Answer q)) (p : Plan P α) (s : S) :
    ∃ log, p.Logs log (.done ((p.run answer).run s).1) ∧
      Replays (handles answer) s log ((p.run answer).run s).2 := by
  induction p generalizing s with
  | done a => exact ⟨[], .nil _, .nil s⟩
  | ask q next ih =>
    obtain ⟨log, hlog, hreplay⟩ := ih ((answer q).run s).1 ((answer q).run s).2
    exact ⟨⟨q, ((answer q).run s).1⟩ :: log, .ask hlog, .cons rfl hreplay⟩

/-- A loop runs a round, and then goes on from the state in which the round ended. -/
theorem Loop.run_succ (loop : Loop P σ α) (answer : (q : P.Request) → StateM S (P.Answer q))
    (rounds : Nat) (x : σ) (s : S) :
    (Loop.run loop answer (rounds + 1) x).run s =
      match ((loop x).run answer).run s with
      | (.inl y, t) => (Loop.run loop answer rounds y).run t
      | (.inr a, t) => (some a, t) := by
  rw [Loop.run.eq_2, StateT.run_bind]
  generalize ((loop x).run answer).run s = out
  obtain ⟨y | a, t⟩ := out <;> rfl

/-- The run of a loop by a handler, however many rounds it has, has a log. -/
theorem Loop.logs_of_run (loop : Loop P σ α) (answer : (q : P.Request) → StateM S (P.Answer q))
    (rounds : Nat) (x : σ) (s : S) :
    ∃ log p, loop.Logs (.done (.inl x)) log p ∧
      Replays (handles answer) s log ((Loop.run loop answer rounds x).run s).2 ∧
      ∀ a, ((Loop.run loop answer rounds x).run s).1 = some a → p = .done (.inr a) := by
  induction rounds generalizing x s with
  | zero => exact ⟨[], _, .nil _, .nil s, fun a h => nomatch h⟩
  | succ rounds ih =>
    obtain ⟨log, hlog, hreplay⟩ := Plan.logs_of_run answer (loop x) s
    rw [Loop.run_succ]
    generalize ((loop x).run answer).run s = out at hlog hreplay
    obtain ⟨y | a, t⟩ := out
    · obtain ⟨log', p, hlog', hreplay', hend⟩ := ih y t
      exact ⟨log ++ log', p, .round (hlog.loop.trans hlog'), hreplay.append hreplay', hend⟩
    · exact ⟨log, .done (.inr a), .round hlog.loop, hreplay, fun b h => by cases h; rfl⟩

/-! ## Monitors -/

section Monitor

variable {step : S → Event P → Option S} {s t : S} {e : Event P} {log before after : Log P}

/-- A monitor accepts a log with one more event if it allows the event after the log. -/
theorem Log.foldlM_snoc : (log ++ [e]).foldlM step s = some t ↔
    ∃ m, log.foldlM step s = some m ∧ step m e = some t := by
  simp [List.foldlM_append, Option.bind_eq_some_iff]

/-- In a log that a monitor accepts, it allows every event after what came before. -/
theorem Log.exists_of_foldlM (h : (before ++ e :: after).foldlM step s = some t) :
    ∃ m n, before.foldlM step s = some m ∧ step m e = some n := by
  rw [List.foldlM_append] at h
  obtain ⟨m, hm, hrest⟩ := Option.bind_eq_some_iff.mp h
  rw [List.foldlM_cons] at hrest
  obtain ⟨n, hn, -⟩ := Option.bind_eq_some_iff.mp hrest
  exact ⟨m, n, hm, hn⟩

end Monitor

/-- Whatever answers come in, the monitor allows every request of the plan, from state `s` on. If
the plan ends, then in a state in which `post` holds of its result. -/
def Plan.Obeys (step : S → Event P → Option S) (post : α → S → Prop) : Plan P α → S → Prop
  | .done a, s => post a s
  | .ask q next, s => ∀ a, ∃ s', step s ⟨q, a⟩ = some s' ∧ (next a).Obeys step post s'

namespace Plan.Obeys

variable {step : S → Event P → Option S} {post : α → S → Prop} {s : S}

theorem mono {post' : α → S → Prop} {p : Plan P α} (h : p.Obeys step post s)
    (hpost : ∀ a s, post a s → post' a s) : p.Obeys step post' s := by
  induction p generalizing s with
  | done a => exact hpost a s h
  | ask q next ih =>
    intro a
    obtain ⟨s', hstep, hnext⟩ := h a
    exact ⟨s', hstep, ih a hnext⟩

theorem bind {f : α → Plan P β} {post' : β → S → Prop} {p : Plan P α} (h : p.Obeys step post s)
    (hf : ∀ a s, post a s → (f a).Obeys step post' s) : (p >>= f).Obeys step post' s := by
  induction p generalizing s with
  | done a => exact hf a s h
  | ask q next ih =>
    intro a
    obtain ⟨s', hstep, hnext⟩ := h a
    exact ⟨s', hstep, ih a hnext⟩

end Plan.Obeys

/-- If every round of a loop obeys the monitor and keeps its invariant, the monitor accepts every
log of the loop, and what is left of the round obeys it too. -/
theorem Loop.Logs.obeys {loop : Loop P σ α} {step : S → Event P → Option S} {inv : σ → S → Prop}
    {post : α → S → Prop}
    (hround : ∀ x s, inv x s → (loop x).Obeys step (fun r s => r.elim (inv · s) (post · s)) s)
    {p q : Plan P (σ ⊕ α)} {log : Log P} (h : loop.Logs p log q) {s : S}
    (hp : p.Obeys step (fun r s => r.elim (inv · s) (post · s)) s) :
    ∃ s', log.foldlM step s = some s' ∧
      q.Obeys step (fun r s => r.elim (inv · s) (post · s)) s' := by
  induction h generalizing s with
  | nil p => exact ⟨s, rfl, hp⟩
  | ask rest ih =>
    obtain ⟨s', hstep, hnext⟩ := hp _
    obtain ⟨t, hlog, hq⟩ := ih hnext
    refine ⟨t, ?_, hq⟩
    rw [List.foldlM_cons, hstep]
    exact hlog
  | round rest ih => exact ih (hround _ s hp)

end RedemptionWatch
