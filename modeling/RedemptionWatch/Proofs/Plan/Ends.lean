import RedemptionWatch.Plan

/-!
# How plans end

A plan that runs by a handler always ends. `Plan.Ends` says with what result and in which state, and
is read along the plan: a plan that is put together ends as its parts do, one after the other
(`Plan.ends_bind`). A loop ends with its round if that round has a result (`Loop.run_eq_of_ends`).
-/

namespace RedemptionWatch

variable {P : Interface} {S σ α β : Type} {answer : (q : P.Request) → StateM S (P.Answer q)}

namespace Plan

/-- Run from state `s`, the plan comes to a result and to a state of which `post` holds. -/
def Ends (answer : (q : P.Request) → StateM S (P.Answer q)) (p : Plan P α) (s : S)
    (post : α → S → Prop) : Prop :=
  post ((p.run answer).run s).1 ((p.run answer).run s).2

variable {p : Plan P α} {s : S} {post : α → S → Prop}

theorem ends_ask {q : P.Request} {next : P.Answer q → Plan P α} :
    (ask q next).Ends answer s post ↔
      (next ((answer q).run s).1).Ends answer ((answer q).run s).2 post :=
  Iff.rfl

theorem ends_bind {f : α → Plan P β} {post : β → S → Prop} :
    (p >>= f).Ends answer s post ↔
      p.Ends answer s fun a s' => (f a).Ends answer s' post := by
  induction p generalizing s with
  | done a => exact Iff.rfl
  | ask q next ih => exact ih _

theorem Ends.mono {post' : α → S → Prop} (h : p.Ends answer s post)
    (hpost : ∀ a s', post a s' → post' a s') : p.Ends answer s post' :=
  hpost _ _ h

end Plan

/-- A loop whose first round has a result ends with it. -/
theorem Loop.run_eq_of_ends {loop : Loop P σ α} {x : σ} {s : S} {post : α → S → Prop}
    (h : (loop x).Ends answer s fun y s' => ∃ a, y = .inr a ∧ post a s') (rounds : Nat) :
    ∃ a s', (Loop.run loop answer (rounds + 1) x).run s = (some a, s') ∧ post a s' := by
  obtain ⟨a, ha, hpost⟩ := h
  generalize hout : ((loop x).run answer).run s = out at ha hpost
  obtain ⟨y, s'⟩ := out
  obtain rfl : y = .inr a := ha
  refine ⟨a, s', ?_, hpost⟩
  rw [Loop.run, StateT.run_bind, hout]
  rfl

end RedemptionWatch
