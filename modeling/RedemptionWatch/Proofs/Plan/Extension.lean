import RedemptionWatch.Proofs.Plan.Rules

/-!
# Requests on the side

A plan extends another one (`Plan.Extends`) if it makes the same requests, and besides them requests
of some kind whose answers it does not heed. A log of it, without these, is a log of the other plan
(`Plan.Extends.logs`), and every log of the other plan comes from one of it
(`Plan.Extends.exists_logs`). So two plans that extend the same third one do the same but for what
they ask on the side.
-/

namespace RedemptionWatch

variable {P : Interface} {α β α' β' : Type} {aside : P.Request → Bool}

/-- The events of a log whose requests are not of some kind. -/
def Log.without (aside : P.Request → Bool) (log : Log P) : Log P :=
  log.filter fun e => !aside e.request

theorem Log.without_cons_of_aside {e : Event P} (h : aside e.request = true) (log : Log P) :
    Log.without aside (e :: log) = log.without aside :=
  List.filter_cons_of_neg (by simp [h])

theorem Log.without_cons_of_not_aside {e : Event P} (h : aside e.request = false) (log : Log P) :
    Log.without aside (e :: log) = e :: log.without aside :=
  List.filter_cons_of_pos (by simp [h])

theorem Log.without_append (log log' : Log P) :
    Log.without aside (log ++ log') = log.without aside ++ log'.without aside :=
  List.filter_append ..

/-- The first plan makes the requests of the second one, none of which is on the side, and others
that are, and both come to related results. -/
inductive Plan.Extends (aside : P.Request → Bool) (R : α → β → Prop) :
    Plan P α → Plan P β → Prop where
  | done {a : α} {b : β} (h : R a b) : Extends aside R (.done a) (.done b)
  | ask {q : P.Request} {next : P.Answer q → Plan P α} {next' : P.Answer q → Plan P β}
      (hq : aside q = false) (h : ∀ a, Extends aside R (next a) (next' a)) :
      Extends aside R (.ask q next) (.ask q next')
  | aside {q : P.Request} {next : P.Answer q → Plan P α} {p : Plan P β} (hq : aside q = true)
      (h : ∀ a, Extends aside R (next a) p) : Extends aside R (.ask q next) p

namespace Plan.Extends

variable {R : α → β → Prop} {R' : α' → β' → Prop} {p : Plan P α} {p' : Plan P β} {log : Log P}

theorem bind {f : α → Plan P α'} {f' : β → Plan P β'} (h : p.Extends aside R p')
    (hf : ∀ a b, R a b → (f a).Extends aside R' (f' b)) :
    (p >>= f).Extends aside R' (p' >>= f') := by
  induction h with
  | done h => exact hf _ _ h
  | ask hq _ ih => exact .ask hq ih
  | aside hq _ ih => exact .aside hq ih

/-- A plan that asks nothing on the side extends itself. -/
theorem of_respects {post : α → Log P → Prop}
    (h : p.Respects (fun _ q => aside q = false) post log) : p.Extends aside (· = ·) p := by
  induction p generalizing log with
  | done a => exact .done rfl
  | ask q next ih => exact .ask h.1 fun a => ih a (h.2 a)

/-- Without what it asks on the side, a plan has a log of the plan that it extends. -/
theorem logs (h : p.Extends aside R p') {a : α} (hlog : p.Logs log (.done a)) :
    ∃ b, R a b ∧ p'.Logs (log.without aside) (.done b) := by
  induction h generalizing log with
  | done h =>
    cases hlog
    exact ⟨_, h, .nil _⟩
  | @ask q _ _ hq _ ih =>
    cases hlog with
    | @ask _ _ answer rest _ hrest =>
      obtain ⟨b, hb, hlogs⟩ := ih answer hrest
      rw [Log.without_cons_of_not_aside hq]
      exact ⟨b, hb, .ask hlogs⟩
  | @aside q _ _ hq _ ih =>
    cases hlog with
    | @ask _ _ answer rest _ hrest =>
      obtain ⟨b, hb, hlogs⟩ := ih answer hrest
      rw [Log.without_cons_of_aside hq]
      exact ⟨b, hb, hlogs⟩

/-- Whatever a plan is answered, a plan that extends it does the same if it gets the same answers,
and on the side any answers that there are. -/
theorem exists_logs (reply : (q : P.Request) → P.Answer q) (h : p.Extends aside R p') {b : β}
    (hlog : p'.Logs log (.done b)) :
    ∃ log' a, R a b ∧ p.Logs log' (.done a) ∧ log'.without aside = log ∧
      ∀ e ∈ log', aside e.request = true → e.answer = reply e.request := by
  induction h generalizing log with
  | done h =>
    cases hlog
    exact ⟨[], _, h, .nil _, rfl, fun _ he => absurd he List.not_mem_nil⟩
  | @ask q _ _ hq _ ih =>
    cases hlog with
    | @ask _ _ answer rest _ hrest =>
      obtain ⟨log', a, ha, hlogs, rfl, hreply⟩ := ih answer hrest
      refine ⟨⟨q, answer⟩ :: log', a, ha, .ask hlogs, Log.without_cons_of_not_aside hq log', ?_⟩
      intro e he haside
      rcases List.mem_cons.mp he with rfl | he
      · exact nomatch hq.symm.trans haside
      · exact hreply e he haside
  | @aside q _ _ hq _ ih =>
    obtain ⟨log', a, ha, hlogs, rfl, hreply⟩ := ih (reply q) hlog
    refine ⟨⟨q, reply q⟩ :: log', a, ha, .ask hlogs, Log.without_cons_of_aside hq log', ?_⟩
    intro e he haside
    rcases List.mem_cons.mp he with rfl | he
    · rfl
    · exact hreply e he haside

end Plan.Extends

end RedemptionWatch
