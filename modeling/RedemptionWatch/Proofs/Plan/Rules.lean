import RedemptionWatch.Proofs.Plan.Ensemble
import RedemptionWatch.Proofs.Plan.Log

/-!
# Rules that go by the log

A rule says which requests may be made after what was asked and answered so far. `Plan.Respects`
says of a plan that it keeps to a rule whatever answers come in, and what holds of its result and of
the whole log when it ends. It is read along the plan, as `Plan.Obeys` is for a monitor; but a rule
sees all that came before, where a monitor sees what it chose to remember. A loop whose rounds
respect a rule keeps to it in all its logs (`Loop.Logs.respects`).

Some programs do not look at some answers: their rounds are alike (`Plan.Alike`). Then the same log
with other such answers is a log as well (`Loop.Logs.alike`).
-/

namespace RedemptionWatch

variable {P : Interface} {σ α β : Type}

/-! ## Rules -/

/-- Whatever answers come in, the plan makes no request against the rule, which goes by what was
asked and answered before. If the plan ends, `post` holds of its result and of the whole log. -/
def Plan.Respects (rule : Log P → P.Request → Prop) (post : α → Log P → Prop) :
    Plan P α → Log P → Prop
  | .done a, log => post a log
  | .ask q next, log => rule log q ∧ ∀ a, (next a).Respects rule post (log ++ [⟨q, a⟩])

namespace Plan.Respects

variable {rule rule' : Log P → P.Request → Prop} {post : α → Log P → Prop} {p q : Plan P α}
  {log events : Log P}

theorem mono {post' : α → Log P → Prop} (h : p.Respects rule post log)
    (hpost : ∀ a log, post a log → post' a log) : p.Respects rule post' log := by
  induction p generalizing log with
  | done a => exact hpost a log h
  | ask q next ih => exact ⟨h.1, fun a => ih a (h.2 a)⟩

theorem bind {f : α → Plan P β} {post' : β → Log P → Prop} (h : p.Respects rule post log)
    (hf : ∀ a log, post a log → (f a).Respects rule post' log) :
    (p >>= f).Respects rule post' log := by
  induction p generalizing log with
  | done a => exact hf a log h
  | ask q next ih => exact ⟨h.1, fun a => ih a (h.2 a)⟩

/-- A plan that goes by its own log does so after anything else. -/
theorem of_logs (hrule : ∀ events q next, p.Logs events (.ask q next) → rule (log ++ events) q)
    (hpost : ∀ events a, p.Logs events (.done a) → post a (log ++ events)) :
    p.Respects rule post log := by
  induction p generalizing log with
  | done a =>
    have h := hpost [] a (.nil _)
    rwa [List.append_nil] at h
  | ask q next ih =>
    have h := hrule [] q next (.nil _)
    rw [List.append_nil] at h
    refine ⟨h, fun a => ih a (fun events q' next' hlogs => ?_) (fun events b hlogs => ?_)⟩
    · have h := hrule (⟨q, a⟩ :: events) q' next' (.ask hlogs)
      rwa [← List.singleton_append, ← List.append_assoc] at h
    · have h := hpost (⟨q, a⟩ :: events) b (.ask hlogs)
      rwa [← List.singleton_append, ← List.append_assoc] at h

/-- What a plan respects, and the log by which it has come to its end. -/
theorem with_logs (h : p.Respects rule post log) :
    p.Respects rule (fun a log' => post a log' ∧
      ∃ events, log' = log ++ events ∧ p.Logs events (.done a)) log := by
  induction p generalizing log with
  | done a => exact ⟨h, [], (List.append_nil log).symm, .nil _⟩
  | ask q next ih =>
    refine ⟨h.1, fun a => (ih a (h.2 a)).mono ?_⟩
    rintro b _ ⟨hpost, events, rfl, hlogs⟩
    exact ⟨hpost, ⟨q, a⟩ :: events, by simp, .ask hlogs⟩

end Plan.Respects

/-- Every request of the events that follow a log is within the rule. -/
def Log.Keeps (rule : Log P → P.Request → Prop) (log events : Log P) : Prop :=
  ∀ before e after, events = before ++ e :: after → rule (log ++ before) e.request

namespace Log.Keeps

variable {rule : Log P → P.Request → Prop} {log events : Log P} {e : Event P}

theorem nil (rule : Log P → P.Request → Prop) (log : Log P) : log.Keeps rule [] := by
  intro before e after h
  simp at h

theorem cons (he : rule log e.request) (h : (log ++ [e]).Keeps rule events) :
    log.Keeps rule (e :: events) := by
  intro before e' after hsplit
  rcases List.cons_eq_append_iff.mp hsplit with ⟨rfl, heq⟩ | ⟨before, rfl, rfl⟩
  · cases heq
    rwa [List.append_nil]
  · have h := h before e' after rfl
    rwa [List.append_assoc, List.singleton_append] at h

theorem forall_mem {rule : P.Request → Prop} (h : log.Keeps (fun _ => rule) events) :
    ∀ e ∈ events, rule e.request := by
  intro e he
  obtain ⟨before, after, rfl⟩ := List.append_of_mem he
  exact h before e after rfl

end Log.Keeps

/-- The requests of a plan are within the rule, and what is left of it respects the rule too. -/
theorem Plan.Logs.respects {rule : Log P → P.Request → Prop} {post : α → Log P → Prop}
    {p q : Plan P α} {log events : Log P} (h : p.Logs events q) (hp : p.Respects rule post log) :
    log.Keeps rule events ∧ q.Respects rule post (log ++ events) := by
  induction h generalizing log with
  | nil p =>
    rw [List.append_nil]
    exact ⟨.nil rule log, hp⟩
  | ask _ ih =>
    obtain ⟨hkeeps, hrest⟩ := ih (hp.2 _)
    rw [List.append_assoc, List.singleton_append] at hrest
    exact ⟨hkeeps.cons hp.1, hrest⟩

/-- If every round of a loop, after any log by which the loop came there, respects a rule and keeps
an invariant, then all logs of the loop keep to the rule, and what is left of a round respects it
too. -/
theorem Loop.Logs.respects {loop : Loop P σ α} {rule : Log P → P.Request → Prop} {start : σ}
    (inv : σ → Log P → Prop) (post : α → Log P → Prop)
    (hround : ∀ x log, loop.Logs (.done (.inl start)) log (.done (.inl x)) → inv x log →
      (loop x).Respects rule (fun r log => r.elim (inv · log) (post · log)) log)
    {p : Plan P (σ ⊕ α)} {log : Log P} (h : loop.Logs (.done (.inl start)) log p)
    (hstart : inv start []) :
    Log.Keeps rule [] log ∧
      p.Respects rule (fun r log => r.elim (inv · log) (post · log)) log := by
  -- from any place within a round to which the loop has come
  have hfrom : ∀ {p q : Plan P (σ ⊕ α)} {events : Log P}, loop.Logs p events q → ∀ {log : Log P},
      loop.Logs (.done (.inl start)) log p →
      p.Respects rule (fun r log => r.elim (inv · log) (post · log)) log →
      log.Keeps rule events ∧
        q.Respects rule (fun r log => r.elim (inv · log) (post · log)) (log ++ events) := by
    intro p q events h
    induction h with
    | nil p =>
      intro log _ hp
      rw [List.append_nil]
      exact ⟨.nil rule log, hp⟩
    | @ask q next a events p _ ih =>
      intro log hcomes hp
      obtain ⟨hkeeps, hq⟩ := ih (hcomes.trans (.ask (.nil _))) (hp.2 a)
      rw [List.append_assoc, List.singleton_append] at hq
      exact ⟨hkeeps.cons hp.1, hq⟩
    | @round x events p _ ih =>
      intro log hcomes hp
      have hbegin : loop.Logs (.done (.inl start)) (log ++ []) (loop x) :=
        hcomes.trans (.round (.nil _))
      rw [List.append_nil] at hbegin
      exact ih hbegin (hround x log hcomes hp)
  exact hfrom h (.nil _) hstart

/-- A loop goes on after a log in one way only. -/
theorem Loop.Logs.of_append {loop : Loop P σ α} {p q r : Plan P (σ ⊕ α)} {log log' : Log P}
    (h : loop.Logs p (log ++ log') r) (hq : loop.Logs p log q) (hne : log' ≠ []) :
    loop.Logs q log' r := by
  induction hq with
  | nil p => exact h
  | ask _ ih =>
    cases h with
    | ask h => exact ih h
  | @round x log p _ ih =>
    generalize hlog : log ++ log' = whole at h
    cases h with
    | nil => exact absurd (List.append_eq_nil_iff.mp hlog).2 hne
    | round h => exact ih (hlog ▸ h)

/-- A loop that makes the rounds of another one, and then something else, has its logs. -/
theorem Loop.Logs.embed {τ γ : Type} {loop : Loop P σ α} (outer : Loop P τ γ) (state : σ → τ)
    (k : σ ⊕ α → Plan P (τ ⊕ γ)) (hstate : ∀ x, k (.inl x) = .done (.inl (state x)))
    (hround : ∀ x, outer (state x) = loop x >>= k) {p q : Plan P (σ ⊕ α)} {log : Log P}
    (h : loop.Logs p log q) : outer.Logs (p >>= k) log (q >>= k) := by
  induction h with
  | nil p => exact .nil _
  | ask _ ih => exact .ask ih
  | @round x log p _ ih =>
    rw [Plan.done_bind, hstate]
    rw [← hround] at ih
    exact .round ih

/-! ## Answers that make no difference -/

/-- The same request, with answers that count as the same. -/
inductive Event.Same (same : (q : P.Request) → P.Answer q → P.Answer q → Prop) :
    Event P → Event P → Prop where
  | intro {q : P.Request} {a b : P.Answer q} (h : same q a b) : Same same ⟨q, a⟩ ⟨q, b⟩

/-- A loop whose rounds are alike goes on in like manner when the answers count as the same. -/
theorem Loop.Logs.alike {loop : Loop P σ α} {allowed : P.Request → Prop}
    {same : (q : P.Request) → P.Answer q → P.Answer q → Prop} {R : σ → σ → Prop}
    {R' : α → α → Prop}
    (hround : ∀ x y, R x y → (loop x).Alike allowed same (Sum.LiftRel R R') (loop y))
    {p p' q : Plan P (σ ⊕ α)} {log log' : Log P} (h : loop.Logs p log q)
    (hp : p.Alike allowed same (Sum.LiftRel R R') p')
    (hlog : List.Forall₂ (Event.Same same) log log') :
    ∃ q', loop.Logs p' log' q' ∧ q.Alike allowed same (Sum.LiftRel R R') q' := by
  induction h generalizing p' log' with
  | nil p =>
    cases hlog
    exact ⟨p', .nil p', hp⟩
  | ask _ ih =>
    cases hlog with
    | cons hfirst hrest =>
      cases hfirst with
      | intro hsame =>
        cases hp with
        | ask _ hnext =>
          obtain ⟨q', hlogs, hq⟩ := ih (hnext _ _ hsame) hrest
          exact ⟨q', .ask hlogs, hq⟩
  | round _ ih =>
    cases hp with
    | done hresults =>
      cases hresults with
      | inl hrelated =>
        obtain ⟨q', hlogs, hq⟩ := ih (hround _ _ hrelated) hlog
        exact ⟨q', .round hlogs, hq⟩

end RedemptionWatch
