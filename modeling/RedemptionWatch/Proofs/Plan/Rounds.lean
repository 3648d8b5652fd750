import RedemptionWatch.Proofs.Plan.Log

/-!
# The rounds of a loop

A log of a loop is that of some whole rounds, one after the other (`Loop.Rounds`), and then of the
round under way. So what holds at first and is kept by each round holds between any two rounds, and
a loop that has ended did so in the round after these (`Loop.Logs.ended`). If something decreases
with each round, the loop ends (`Loop.exists_run_eq_some`). It also ends where a handler gives the
answers of a log by which it ends (`Loop.Logs.exists_run`).
-/

namespace RedemptionWatch

variable {P : Interface} {S σ α : Type}

/-- Some whole rounds of a loop, from state `x` to another state. -/
inductive Loop.Rounds (loop : Loop P σ α) (x : σ) : Log P → σ → Prop where
  | start : Rounds loop x [] x
  | snoc {y z : σ} {log events : Log P} (earlier : Rounds loop x log y)
      (h : (loop y).Logs events (.done (.inl z))) : Rounds loop x (log ++ events) z

namespace Loop

variable {loop : Loop P σ α} {x : σ}

/-- A log of a loop is that of whole rounds, and then of the round under way. -/
theorem Logs.rounds {p q : Plan P (σ ⊕ α)} {log : Log P} (h : loop.Logs p log q) {y : σ}
    {past events : Log P} (hpast : Rounds loop x past y) (hp : (loop y).Logs events p) :
    ∃ y past' events', past ++ (events ++ log) = past' ++ events' ∧ Rounds loop x past' y ∧
      (loop y).Logs events' q := by
  induction h generalizing y past events with
  | nil p =>
    rw [List.append_nil]
    exact ⟨y, past, events, rfl, hpast, hp⟩
  | @ask q next a log p _ ih =>
    obtain ⟨z, past', events', heq, hpast', hevents⟩ := ih hpast (hp.trans (.ask (.nil _)))
    refine ⟨z, past', events', ?_, hpast', hevents⟩
    rw [← heq, List.append_assoc, List.singleton_append]
  | round _ ih =>
    obtain ⟨z, past', events', heq, hpast', hevents⟩ := ih (hpast.snoc hp) (.nil _)
    refine ⟨z, past', events', ?_, hpast', hevents⟩
    rw [← heq, List.append_assoc, List.nil_append]

/-- A loop that has ended did so in the round after some whole ones. -/
theorem Logs.ended {log : Log P} {a : α} (h : loop.Logs (.done (.inl x)) log (.done (.inr a))) :
    ∃ y past events, log = past ++ events ∧ Rounds loop x past y ∧
      (loop y).Logs events (.done (.inr a)) := by
  cases h with
  | round h =>
    obtain ⟨y, past, events, heq, hpast, hevents⟩ := h.rounds .start (.nil _)
    exact ⟨y, past, events, heq, hpast, hevents⟩

/-- Whole rounds are a log of the loop. -/
theorem Rounds.logs {log : Log P} {y : σ} (h : Rounds loop x log y) :
    loop.Logs (.done (.inl x)) log (.done (.inl y)) := by
  induction h with
  | start => exact .nil _
  | snoc _ h ih => exact ih.trans (.round h.loop)

/-- By a handler that gives the answers of a log, a loop runs as in the log. -/
theorem Logs.exists_run {answer : (q : P.Request) → StateM S (P.Answer q)} {p : Plan P (σ ⊕ α)}
    {log : Log P} {a : α} {s t : S} (h : loop.Logs p log (.done (.inr a)))
    (hreplays : Replays (handles answer) s log t) :
    ∃ n, ∀ rounds ≥ n, (p.run answer >>= fun
      | .inl x => Loop.run loop answer rounds x
      | .inr a => pure (some a) : StateM S (Option α)).run s = (some a, t) := by
  generalize hend : Plan.done (Sum.inr a) = q at h
  induction h generalizing s with
  | nil p =>
    cases hend
    cases hreplays
    exact ⟨0, fun _ _ => rfl⟩
  | @ask q next b log p _ ih =>
    cases hreplays with
    | cons hfirst hrest =>
      obtain ⟨n, hn⟩ := ih hrest hend
      refine ⟨n, fun rounds hle => ?_⟩
      rw [Plan.run, bind_assoc, StateT.run_bind, show (answer q).run s = (b, _) from hfirst]
      exact hn rounds hle
  | @round x log p _ ih =>
    obtain ⟨n, hn⟩ := ih hreplays hend
    refine ⟨n + 1, fun rounds hle => ?_⟩
    obtain ⟨rounds, rfl⟩ := Nat.exists_eq_add_of_le' hle
    exact hn (rounds + n) (Nat.le_add_left _ _)

/-- If with each round that a handler may run something decreases, the loop ends. -/
theorem exists_run_eq_some {answer : (q : P.Request) → StateM S (P.Answer q)} {s : S} (μ : σ → Nat)
    (hround : ∀ y z past log t, Rounds loop x past y → (loop y).Logs log (.done (.inl z)) →
      Replays (handles answer) s (past ++ log) t → μ z < μ y)
    (rounds : Nat) {y : σ} {past : Log P} {t : S} (hpast : Rounds loop x past y)
    (hreplays : Replays (handles answer) s past t) (hlt : μ y < rounds) :
    ∃ a, ((Loop.run loop answer rounds y).run t).1 = some a := by
  induction rounds generalizing y past t with
  | zero => exact absurd hlt (Nat.not_lt_zero _)
  | succ rounds ih =>
    obtain ⟨log, hlog, hround'⟩ := Plan.logs_of_run answer (loop y) t
    rw [Loop.run_succ]
    generalize ((loop y).run answer).run t = out at hlog hround'
    obtain ⟨z | a, u⟩ := out
    · have hboth := hreplays.append hround'
      have hdecreases := hround y z past log u hpast hlog hboth
      exact ih (hpast.snoc hlog) hboth (by omega)
    · exact ⟨a, rfl⟩

end Loop

end RedemptionWatch
