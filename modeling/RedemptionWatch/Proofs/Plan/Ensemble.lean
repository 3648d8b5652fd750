import Mathlib.Data.Sum.Basic
import RedemptionWatch.Proofs.Plan.Interleaving

/-!
# Loops side by side

Several loops share a state. In a turn one of them makes its next request and has the answer, or
goes on to its next round, and between two of its turns any others may come; so every list of turns
is an interleaving (`Ensemble.run`).

Two plans are alike (`Plan.Alike`) if they make the same requests as long as they get the same
answers, where some answers count as the same though they differ. A loop whose rounds are alike does
not look at these differences. If moreover all that it does look at is out of reach of the others
(`Discipline.Isolates`), then it asks in every interleaving what it asks when it takes its turns
alone (`Discipline.Agree.run`).
-/

namespace RedemptionWatch

variable {P : Interface} {α β α' β' : Type}

/-! ## Plans that are alike -/

/-- The plans make the same requests, all of them allowed, while they get answers that count as the
same, and come to related results. -/
inductive Plan.Alike (allowed : P.Request → Prop)
    (same : (q : P.Request) → P.Answer q → P.Answer q → Prop) (R : α → β → Prop) :
    Plan P α → Plan P β → Prop where
  | done {a : α} {b : β} (h : R a b) : Alike allowed same R (.done a) (.done b)
  | ask {q : P.Request} {next : P.Answer q → Plan P α} {next' : P.Answer q → Plan P β}
      (hq : allowed q) (h : ∀ a b, same q a b → Alike allowed same R (next a) (next' b)) :
      Alike allowed same R (.ask q next) (.ask q next')

namespace Plan.Alike

variable {allowed : P.Request → Prop} {same : (q : P.Request) → P.Answer q → P.Answer q → Prop}
  {R : α → β → Prop} {R' : α' → β' → Prop} {p : Plan P α} {p' : Plan P β}

theorem bind {f : α → Plan P α'} {f' : β → Plan P β'} (h : Alike allowed same R p p')
    (hf : ∀ a b, R a b → Alike allowed same R' (f a) (f' b)) :
    Alike allowed same R' (p >>= f) (p' >>= f') := by
  induction h with
  | done h => exact hf _ _ h
  | ask hq _ ih => exact .ask hq ih

theorem mono {R' : α → β → Prop} (h : Alike allowed same R p p') (hR : ∀ a b, R a b → R' a b) :
    Alike allowed same R' p p' := by
  induction h with
  | done h => exact .done (hR _ _ h)
  | ask hq _ ih => exact .ask hq ih

/-- Plans that are alike make the same request next. -/
theorem next?_eq (h : Alike allowed same R p p') : p.next? = p'.next? := by
  cases h <;> rfl

theorem allowed_next? (h : Alike allowed same R p p') {q : P.Request} (hq : p.next? = some q) :
    allowed q := by
  cases h with
  | done _ => exact nomatch hq
  | ask hallowed _ =>
    cases hq
    exact hallowed

end Plan.Alike

/-! ## Ensembles -/

/-- A state that loops share, what is left of the round of each loop, and what they have asked. -/
structure Ensemble (P : Interface) (S : Type) {ι : Type} (σ α : ι → Type) where
  state : S
  left : (i : ι) → Plan P (σ i ⊕ α i)
  asked : List (ι × P.Request)

namespace Ensemble

variable {S V ι : Type} [DecidableEq ι] {σ α : ι → Type}

/-- The loops, each about to begin from some state. -/
def start (s : S) (begin : (i : ι) → σ i) : Ensemble P S σ α where
  state := s
  left i := .done (.inl (begin i))
  asked := []

variable (loops : (i : ι) → Loop P (σ i) (α i))
  (answer : (i : ι) → (q : P.Request) → StateM S (P.Answer q)) (c : Ensemble P S σ α) (i j : ι)

/-- What a loop has asked, in order. -/
def askedBy : List P.Request :=
  (c.asked.filter (·.1 = i)).map (·.2)

/-- The loop makes its next request or begins its next round, if it has not ended. -/
def turn : Ensemble P S σ α :=
  match c.left i with
  | .done (.inr _) => c
  | .done (.inl x) => { c with left := Function.update c.left i (loops i x) }
  | .ask q next =>
    let answered := (answer i q).run c.state
    { state := answered.2
      left := Function.update c.left i (next answered.1)
      asked := c.asked ++ [(i, q)] }

/-- The loops take turns. -/
def run (turns : List ι) : Ensemble P S σ α :=
  turns.foldl (turn loops answer) c

/-! ### One turn -/

variable {loops answer c i j}

theorem mem_askedBy {q : P.Request} : q ∈ c.askedBy i ↔ (i, q) ∈ c.asked := by
  simp [askedBy]

theorem turn_of_ended {a : α i} (h : c.left i = .done (.inr a)) : c.turn loops answer i = c := by
  simp [turn, h]

theorem turn_of_round {x : σ i} (h : c.left i = .done (.inl x)) :
    c.turn loops answer i = { c with left := Function.update c.left i (loops i x) } := by
  simp [turn, h]

theorem turn_of_ask {q : P.Request} {next : P.Answer q → Plan P (σ i ⊕ α i)}
    (h : c.left i = .ask q next) : c.turn loops answer i = {
      state := ((answer i q).run c.state).2
      left := Function.update c.left i (next ((answer i q).run c.state).1)
      asked := c.asked ++ [(i, q)] } := by
  simp only [turn, h]

/-- The state changes by the answer to the next request, if there is one. -/
theorem state_turn : (c.turn loops answer i).state = match (c.left i).next? with
    | some q => ((answer i q).run c.state).2
    | none => c.state := by
  rcases h : c.left i with (x | a) | ⟨q, next⟩
  · rw [turn_of_round h]
    rfl
  · rw [turn_of_ended h]
    rfl
  · rw [turn_of_ask h]
    rfl

theorem asked_turn : (c.turn loops answer i).asked =
    c.asked ++ ((c.left i).next?.map fun q => (i, q)).toList := by
  rcases h : c.left i with (x | a) | ⟨q, next⟩
  · rw [turn_of_round h]
    exact (List.append_nil _).symm
  · rw [turn_of_ended h]
    exact (List.append_nil _).symm
  · rw [turn_of_ask h]
    rfl

/-- What others still want to do stays as it is. -/
theorem left_turn_of_ne (h : i ≠ j) : (c.turn loops answer j).left i = c.left i := by
  rcases hj : c.left j with (x | a) | ⟨q, next⟩
  · rw [turn_of_round hj]
    exact Function.update_of_ne h _ _
  · rw [turn_of_ended hj]
  · rw [turn_of_ask hj]
    exact Function.update_of_ne h _ _

theorem askedBy_turn_self :
    (c.turn loops answer i).askedBy i = c.askedBy i ++ (c.left i).next?.toList := by
  unfold askedBy
  rw [asked_turn, List.filter_append, List.map_append]
  cases (c.left i).next? <;> simp

theorem askedBy_turn_of_ne (h : i ≠ j) : (c.turn loops answer j).askedBy i = c.askedBy i := by
  unfold askedBy
  rw [asked_turn, List.filter_append, List.map_append]
  cases (c.left j).next? <;> simp [h.symm]

omit P S σ α c in
/-- In whatever order the turns come, those of one loop are as many. -/
theorem filter_turns_eq {turns turns' : List ι} (h : turns.Perm turns') (i : ι) :
    turns.filter (· = i) = turns'.filter (· = i) := by
  rw [List.filter_eq, List.filter_eq, h.count_eq]

end Ensemble

/-! ## Disciplined loops -/

/-- What loops may ask, which answers they take for the same, and which states of a loop count as
the same. -/
structure Discipline (P : Interface) {ι : Type} (σ : ι → Type) where
  allowed : ι → P.Request → Prop
  same : (q : P.Request) → P.Answer q → P.Answer q → Prop
  related : (i : ι) → σ i → σ i → Prop
  same_refl : ∀ q a, same q a a

namespace Discipline

variable {S V ι : Type} [DecidableEq ι] {σ α : ι → Type} (D : Discipline P σ)

/-- What is left of a round of loop `i` is alike. The results of the loop may be anything. -/
def LeftAlike (i : ι) (p p' : Plan P (σ i ⊕ α i)) : Prop :=
  p.Alike (D.allowed i) D.same (Sum.LiftRel (D.related i) fun _ _ => True) p'

/-- Rounds from states that count as the same are alike. -/
def Governs (loops : (i : ι) → Loop P (σ i) (α i)) : Prop :=
  ∀ i x y, D.related i x y → D.LeftAlike i (loops i x) (loops i y)

/-- All loops have asked what they may, and will do so. -/
structure Kept (c : Ensemble P S σ α) : Prop where
  left : ∀ i, D.LeftAlike i (c.left i) (c.left i)
  asked : ∀ e ∈ c.asked, D.allowed e.1 e.2

/-- Two ensembles have come to the same as far as loop `i` is concerned, which sees no more of the
state than `view`. -/
structure Agree (view : S → V) (i : ι) (c d : Ensemble P S σ α) : Prop where
  view_eq : view c.state = view d.state
  left : D.LeftAlike i (c.left i) (d.left i)
  askedBy_eq : c.askedBy i = d.askedBy i

/-- Loop `i` is answered by its view of the state, by either handler. What the others may ask does
not change the view, and what the loop may ask changes it alike. -/
structure Isolates (view : S → V)
    (answer answer' : (i : ι) → (q : P.Request) → StateM S (P.Answer q)) (i : ι) : Prop where
  other : ∀ j, i ≠ j → ∀ q, D.allowed j q → ∀ s, view ((answer j q).run s).2 = view s
  own : ∀ q, D.allowed i q → ∀ s t, view s = view t →
    D.same q ((answer i q).run s).1 ((answer' i q).run t).1 ∧
      view ((answer i q).run s).2 = view ((answer' i q).run t).2

variable {D} {loops : (i : ι) → Loop P (σ i) (α i)} {i j : ι} {c d : Ensemble P S σ α}
  {answer answer' : (i : ι) → (q : P.Request) → StateM S (P.Answer q)} {view : S → V}

/-- What is left of a loop stays alike in its own turn. -/
theorem LeftAlike.turn (h : D.LeftAlike i (c.left i) (d.left i)) (hgoverns : D.Governs loops)
    (hsame : ∀ q, D.allowed i q →
      D.same q ((answer i q).run c.state).1 ((answer' i q).run d.state).1) :
    D.LeftAlike i ((c.turn loops answer i).left i) ((d.turn loops answer' i).left i) := by
  unfold LeftAlike at h
  generalize hc : c.left i = p, hd : d.left i = p' at h
  cases h with
  | done hresults =>
    cases hresults with
    | inl hrelated =>
      rw [Ensemble.turn_of_round hc, Ensemble.turn_of_round hd]
      simp only [Function.update_self]
      exact hgoverns i _ _ hrelated
    | inr _ =>
      rw [Ensemble.turn_of_ended hc, Ensemble.turn_of_ended hd, hc, hd]
      exact .done (.inr trivial)
  | ask hq hnext =>
    rw [Ensemble.turn_of_ask hc, Ensemble.turn_of_ask hd]
    simp only [Function.update_self]
    exact hnext _ _ (hsame _ hq)

/-- All loops keep to the discipline in every turn. -/
theorem Kept.turn (h : D.Kept c) (hgoverns : D.Governs loops) (j : ι) :
    D.Kept (c.turn loops answer j) := by
  refine ⟨fun i => ?_, fun e he => ?_⟩
  · by_cases hij : i = j
    · subst hij
      exact (h.left i).turn hgoverns fun q _ => D.same_refl q _
    · rw [Ensemble.left_turn_of_ne hij]
      exact h.left i
  · rw [Ensemble.asked_turn, List.mem_append] at he
    rcases he with he | he
    · exact h.asked e he
    · obtain ⟨q, hq, rfl⟩ := Option.map_eq_some_iff.mp (Option.mem_toList.mp he)
      exact Plan.Alike.allowed_next? (h.left j) hq

/-- A turn of loop `i` itself, in both ensembles. -/
theorem Agree.turn_self (h : D.Agree view i c d) (hgoverns : D.Governs loops)
    (hisolates : D.Isolates view answer answer' i) :
    D.Agree view i (c.turn loops answer i) (d.turn loops answer' i) := by
  have hnext := Plan.Alike.next?_eq h.left
  refine ⟨?_, ?_, ?_⟩
  · rw [Ensemble.state_turn, Ensemble.state_turn, ← hnext]
    cases hq : (c.left i).next? with
    | none => exact h.view_eq
    | some q =>
      exact (hisolates.own q (Plan.Alike.allowed_next? h.left hq) _ _ h.view_eq).2
  · exact h.left.turn hgoverns fun q hq => (hisolates.own q hq _ _ h.view_eq).1
  · rw [Ensemble.askedBy_turn_self, Ensemble.askedBy_turn_self, h.askedBy_eq, hnext]

/-- A turn of another loop, in one of the ensembles. -/
theorem Agree.turn_other (h : D.Agree view i c d) (hkept : D.Kept c) (hne : i ≠ j)
    (hisolates : D.Isolates view answer answer' i) :
    D.Agree view i (c.turn loops answer j) d := by
  refine ⟨?_, ?_, ?_⟩
  · rw [← h.view_eq, Ensemble.state_turn]
    cases hq : (c.left j).next? with
    | none => rfl
    | some q => exact hisolates.other j hne q (Plan.Alike.allowed_next? (hkept.left j) hq) _
  · rw [Ensemble.left_turn_of_ne hne]
    exact h.left
  · rw [Ensemble.askedBy_turn_of_ne hne]
    exact h.askedBy_eq

/-- A loop that is isolated comes to the same in an interleaving and alone. -/
theorem Agree.run (h : D.Agree view i c d) (hkept : D.Kept c) (hgoverns : D.Governs loops)
    (hisolates : D.Isolates view answer answer' i) (turns : List ι) :
    D.Agree view i (c.run loops answer turns)
      (d.run loops answer' (turns.filter (· = i))) := by
  induction turns generalizing c d with
  | nil => exact h
  | cons j turns ih =>
    by_cases hij : i = j
    · subst hij
      rw [List.filter_cons_of_pos (by simp)]
      exact ih (h.turn_self hgoverns hisolates) (hkept.turn hgoverns i)
    · rw [List.filter_cons_of_neg (by simpa using Ne.symm hij)]
      exact ih (h.turn_other hkept hij hisolates) (hkept.turn hgoverns j)

/-- Ensembles that begin in related states agree. -/
theorem agree_start {s t : S} {begin : (i : ι) → σ i} (hview : view s = view t)
    (hbegin : D.related i (begin i) (begin i)) :
    D.Agree view i (.start s begin : Ensemble P S σ α) (.start t begin) :=
  ⟨hview, .done (.inl hbegin), rfl⟩

omit [DecidableEq ι] in
theorem kept_start {s : S} {begin : (i : ι) → σ i}
    (hbegin : ∀ i, D.related i (begin i) (begin i)) :
    D.Kept (.start s begin : Ensemble P S σ α) :=
  ⟨fun i => .done (.inl (hbegin i)), fun _ h => absurd h List.not_mem_nil⟩

theorem Kept.run (h : D.Kept c) (hgoverns : D.Governs loops) (turns : List ι) :
    D.Kept (c.run loops answer turns) := by
  induction turns generalizing c with
  | nil => exact h
  | cons j turns ih => exact ih (h.turn hgoverns j)

end Discipline

end RedemptionWatch
