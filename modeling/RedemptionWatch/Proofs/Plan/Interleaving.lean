import Mathlib.Data.List.Induction
import Mathlib.Logic.Function.Basic
import RedemptionWatch.Plan

/-!
# Interleavings of plans

Several clients share a state, each with a plan of its own. In a turn one client makes its next
request and has the answer, and between two of its turns any others may come. So every list of turns
is an interleaving (`Clients.run`). A client whose plan is done does nothing in its turn.

What a client still wants to do changes in its own turns only, so what it has come to, it came to in
one of them (`Clients.exists_turn`). A client that is left alone does what `Plan.run` says
(`Clients.exists_run_alone`).
-/

namespace RedemptionWatch

variable {P : Interface} {S ι α : Type}

/-- The request that a plan begins with. -/
def Plan.next? : Plan P α → Option P.Request
  | .done _ => none
  | .ask q _ => some q

/-- A state that clients share, and what each of them still wants to do. -/
structure Clients (P : Interface) (S ι α : Type) where
  state : S
  left : ι → Plan P α

namespace Clients

variable [DecidableEq ι] (answer : (q : P.Request) → StateM S (P.Answer q))
  (c : Clients P S ι α) (i j : ι) (turns : List ι)

/-- The client makes its next request, if it has one. -/
def turn : Clients P S ι α :=
  match c.left i with
  | .done _ => c
  | .ask q next =>
    let (a, s) := (answer q).run c.state
    { state := s, left := Function.update c.left i (next a) }

/-- The clients take turns. -/
def run : Clients P S ι α :=
  turns.foldl (turn answer) c

/-- The requests that a client makes in these turns. -/
def requests (c : Clients P S ι α) (i : ι) : List ι → List P.Request
  | [] => []
  | j :: rest =>
    (if j = i then (c.left i).next?.toList else []) ++ requests (c.turn answer j) i rest

/-! ## One turn -/

variable {answer c i j}

theorem turn_of_done {a : α} (h : c.left i = .done a) : c.turn answer i = c := by
  simp [turn, h]

theorem turn_of_ask {q : P.Request} {next : P.Answer q → Plan P α} (h : c.left i = .ask q next) :
    c.turn answer i = {
      state := ((answer q).run c.state).2
      left := Function.update c.left i (next ((answer q).run c.state).1) } := by
  simp only [turn, h]
  rfl

theorem state_turn {q : P.Request} {next : P.Answer q → Plan P α} (h : c.left i = .ask q next) :
    (c.turn answer i).state = ((answer q).run c.state).2 := by
  rw [turn_of_ask h]

/-- A client goes on with the answer to its request. -/
theorem left_turn_self {q : P.Request} {next : P.Answer q → Plan P α} (h : c.left i = .ask q next) :
    (c.turn answer i).left i = next ((answer q).run c.state).1 := by
  rw [turn_of_ask h]
  exact Function.update_self ..

/-- What others still want to do stays as it is. -/
theorem left_turn_of_ne (h : i ≠ j) : (c.turn answer j).left i = c.left i := by
  cases hj : c.left j with
  | done a => rw [turn_of_done hj]
  | ask q next =>
    rw [turn_of_ask hj]
    exact Function.update_of_ne h _ _

/-! ## Any number of turns -/

variable (answer c i j)

theorem run_append (turns' : List ι) :
    c.run answer (turns ++ turns') = (c.run answer turns).run answer turns' :=
  List.foldl_append ..

theorem run_snoc : c.run answer (turns ++ [j]) = (c.run answer turns).turn answer j :=
  run_append answer c turns [j]

theorem requests_snoc : c.requests answer i (turns ++ [j]) = c.requests answer i turns ++
    if j = i then ((c.run answer turns).left i).next?.toList else [] := by
  induction turns generalizing c with
  | nil => simp [requests, run]
  | cons k rest ih =>
    rw [List.cons_append, requests, ih, requests, List.append_assoc]
    rfl

variable {answer c i turns}

/-- What a client has come to, it came to in one of its turns. -/
theorem exists_turn {p : Plan P α → Prop} (hstart : ¬p (c.left i))
    (hend : p ((c.run answer turns).left i)) :
    ∃ before after, turns = before ++ i :: after ∧ ¬p ((c.run answer before).left i) ∧
      p (((c.run answer before).turn answer i).left i) := by
  induction turns using List.reverseRecOn with
  | nil => exact absurd hend hstart
  | append_singleton turns j ih =>
    by_cases hp : p ((c.run answer turns).left i)
    · obtain ⟨before, after, rfl, hbefore, hturn⟩ := ih hp
      exact ⟨before, after ++ [j], by simp, hbefore, hturn⟩
    · rw [run_snoc] at hend
      by_cases hij : i = j
      · subst hij
        exact ⟨turns, [], rfl, hp, hend⟩
      · rw [left_turn_of_ne hij] at hend
        exact absurd hend hp

/-- A client that is not done has made a request in each of its turns. -/
theorem length_requests (h : ∀ a, (c.run answer turns).left i ≠ .done a) :
    (c.requests answer i turns).length = turns.count i := by
  induction turns using List.reverseRecOn with
  | nil => rfl
  | append_singleton turns j ih =>
    have hbefore : ∀ a, (c.run answer turns).left i ≠ .done a := by
      intro a ha
      refine h a ?_
      rw [run_snoc]
      by_cases hij : i = j
      · subst hij
        rw [turn_of_done ha, ha]
      · rw [left_turn_of_ne hij, ha]
    rw [requests_snoc, List.length_append, ih hbefore, List.count_append, List.count_singleton]
    cases hleft : (c.run answer turns).left i with
    | done a => exact absurd hleft (hbefore a)
    | ask q next => by_cases hij : j = i <;> simp [hij, Plan.next?]

/-- A client that is left alone does what its plan says. -/
theorem exists_run_alone (p : Plan P α) (hp : c.left i = p) :
    ∃ n, c.run answer (List.replicate n i) = {
      state := ((p.run answer).run c.state).2
      left := Function.update c.left i (.done ((p.run answer).run c.state).1) } := by
  induction p generalizing c with
  | done a =>
    refine ⟨0, ?_⟩
    have hsame : Function.update c.left i (.done a) = c.left := by
      rw [← hp, Function.update_eq_self]
    exact congrArg (Clients.mk c.state) hsame.symm
  | ask q next ih =>
    have hnext : (c.turn answer i).left i = next ((answer q).run c.state).1 := left_turn_self hp
    obtain ⟨n, hn⟩ := ih _ hnext
    refine ⟨n + 1, ?_⟩
    rw [List.replicate_succ]
    change (c.turn answer i).run answer (List.replicate n i) = _
    rw [hn, turn_of_ask hp, Function.update_idem]
    rfl

end Clients

end RedemptionWatch
