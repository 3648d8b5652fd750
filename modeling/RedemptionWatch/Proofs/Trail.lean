import Mathlib.Computability.StateTransition
import Mathlib.Data.Finset.Card
import Mathlib.Data.Fintype.EquivFin

/-!
# Trails of partial steps

A step leads from a state to the next one, or to none. `trail f n a` are the first `n` states from
`a` on, fewer if one of them has no next one, and `stops f n a` says that this is so.

A trail that stops has no state twice, however long it is followed (`nodup_trail`). In a finite type
it stops if and only if no state that is reached leads back to itself (`exists_stops_iff`), and if
and only if it has no state twice (`exists_stops_iff_nodup`).
-/

namespace RedemptionWatch

open StateTransition (Reaches Reaches₁)

variable {α : Type} {f : α → Option α} {a b c : α} {n : Nat}

/-- The first `n` states from `a` on. -/
def trail (f : α → Option α) : Nat → α → List α
  | 0, _ => []
  | n + 1, a => a :: (f a).elim [] (trail f n)

/-- Is there a state without a next one among the first `n` states from `a` on? -/
def stops (f : α → Option α) : Nat → α → Bool
  | 0, _ => false
  | n + 1, a => (f a).all (stops f n)

theorem trail_succ_of_none (h : f a = none) : trail f (n + 1) a = [a] := by
  simp [trail, h]

theorem trail_succ_of_some (h : f a = some b) : trail f (n + 1) a = a :: trail f n b := by
  simp [trail, h]

theorem stops_succ_of_none (h : f a = none) : stops f (n + 1) a = true := by
  simp [stops, h]

theorem stops_succ_of_some (h : f a = some b) : stops f (n + 1) a = stops f n b := by
  simp [stops, h]

/-! ## Where a trail stops -/

theorem exists_stops_iff_reaches :
    (∃ n, stops f n a = true) ↔ ∃ b, Reaches f a b ∧ f b = none := by
  constructor
  · rintro ⟨n, h⟩
    induction n generalizing a with
    | zero => exact nomatch h
    | succ n ih =>
      cases hnext : f a with
      | none => exact ⟨a, .refl, hnext⟩
      | some b =>
        rw [stops_succ_of_some hnext] at h
        obtain ⟨c, hreaches, hc⟩ := ih h
        exact ⟨c, .head hnext hreaches, hc⟩
  · rintro ⟨b, hreaches, hb⟩
    induction hreaches using Relation.ReflTransGen.head_induction_on with
    | refl => exact ⟨1, stops_succ_of_none hb⟩
    | head hnext _ ih =>
      obtain ⟨n, h⟩ := ih
      exact ⟨n + 1, (stops_succ_of_some hnext).trans h⟩

/-- What is reached from a state that leads back to itself leads back to itself too. -/
theorem reaches₁_self_of_reaches (hself : Reaches₁ f a a) (h : Reaches f a b) :
    Reaches₁ f b b := by
  induction h with
  | refl => exact hself
  | tail _ hnext ih => exact .tail' (StateTransition.reaches₁_fwd ih hnext) hnext

/-- On the way to a state without a next one, no state leads back to itself. -/
theorem not_reaches₁_self (hb : f b = none) (hreaches : Reaches f a b) (h : Reaches f a c) :
    ¬Reaches₁ f c c := by
  have hend : b ∈ StateTransition.eval f a := StateTransition.mem_eval.mpr ⟨hreaches, hb⟩
  intro hself
  rcases StateTransition.reaches_total hreaches h with hbc | hcb
  · rw [StateTransition.eval_maximal hend] at hbc
    subst hbc
    exact StateTransition.eval_maximal₁ hend _ hself
  · exact StateTransition.eval_maximal₁ hend _ (reaches₁_self_of_reaches hself hcb)

/-- A trail in a finite type stops unless a state that is reached leads back to itself. -/
theorem exists_stops_iff [Finite α] :
    (∃ n, stops f n a = true) ↔ ∀ b, Reaches f a b → ¬Reaches₁ f b b := by
  rw [exists_stops_iff_reaches]
  constructor
  · rintro ⟨b, hreaches, hb⟩ c h
    exact not_reaches₁_self hb hreaches h
  · intro hself
    -- induction from later to earlier states, which is well-founded where nothing leads back
    let later : α → α → Prop := fun c b => Reaches f a b ∧ Reaches₁ f b c
    have : IsTrans α later := ⟨fun _ _ _ h h' => ⟨h'.1, h'.2.trans h.2⟩⟩
    have : Std.Irrefl later := ⟨fun b h => hself b h.1 h.2⟩
    have hall : ∀ b, Reaches f a b → ∃ c, Reaches f b c ∧ f c = none := by
      intro b
      induction b using (Finite.wellFounded_of_trans_of_irrefl later).induction with
      | h b ih =>
        intro hb
        cases hnext : f b with
        | none => exact ⟨b, .refl, hnext⟩
        | some c =>
          obtain ⟨d, hreaches, hd⟩ := ih c ⟨hb, .single hnext⟩ (hb.tail hnext)
          exact ⟨d, .head hnext hreaches, hd⟩
    exact hall a .refl

/-! ## The states of a trail -/

theorem reaches_of_mem_trail (h : b ∈ trail f n a) : Reaches f a b := by
  induction n generalizing a with
  | zero => exact absurd h List.not_mem_nil
  | succ n ih =>
    rcases List.mem_cons.mp h with rfl | hrest
    · exact .refl
    · cases hnext : f a with
      | none => simp [hnext] at hrest
      | some c =>
        rw [hnext] at hrest
        exact .head hnext (ih hrest)

/-- A trail that stops has no state twice. -/
theorem nodup_trail (h : ∃ m, stops f m a = true) (n : Nat) : (trail f n a).Nodup := by
  obtain ⟨b, hreaches, hb⟩ := exists_stops_iff_reaches.mp h
  have hself {c : α} : Reaches f a c → ¬Reaches₁ f c c := not_reaches₁_self hb hreaches
  clear h hreaches
  induction n generalizing a with
  | zero => exact List.nodup_nil
  | succ n ih =>
    cases hnext : f a with
    | none =>
      rw [trail_succ_of_none hnext]
      exact List.nodup_singleton a
    | some c =>
      rw [trail_succ_of_some hnext]
      refine List.nodup_cons.mpr ⟨fun hmem => ?_, ih fun h => hself (.head hnext h)⟩
      exact hself .refl (.head' hnext (reaches_of_mem_trail hmem))

theorem length_trail (h : stops f n a = false) : (trail f n a).length = n := by
  induction n generalizing a with
  | zero => rfl
  | succ n ih =>
    cases hnext : f a with
    | none => rw [stops_succ_of_none hnext] at h; exact nomatch h
    | some b =>
      rw [stops_succ_of_some hnext] at h
      rw [trail_succ_of_some hnext, List.length_cons, ih h]

/-- A trail in a finite type stops unless it comes to a state twice. -/
theorem exists_stops_iff_nodup [Finite α] :
    (∃ n, stops f n a = true) ↔ ∀ n, (trail f n a).Nodup := by
  refine ⟨nodup_trail, fun hnodup => ?_⟩
  have := Fintype.ofFinite α
  by_contra hnever
  have hgoes : stops f (Fintype.card α + 1) a = false := by
    rw [← Bool.not_eq_true]
    exact fun h => hnever ⟨_, h⟩
  have hcard := (hnodup (Fintype.card α + 1)).length_le_card
  rw [length_trail hgoes] at hcard
  omega

/-- After the first state come states that steps lead to. -/
theorem exists_of_mem_tail_trail (h : b ∈ (trail f n a).tail) :
    ∃ c ∈ trail f n a, f c = some b := by
  induction n generalizing a with
  | zero => exact absurd h List.not_mem_nil
  | succ n ih =>
    cases hnext : f a with
    | none =>
      rw [trail_succ_of_none hnext] at h
      exact absurd h List.not_mem_nil
    | some c =>
      rw [trail_succ_of_some hnext] at h ⊢
      cases n with
      | zero => exact absurd h List.not_mem_nil
      | succ n =>
        rcases List.mem_cons.mp h with rfl | hrest
        · exact ⟨a, List.mem_cons_self, hnext⟩
        · obtain ⟨d, hd, hdb⟩ := ih hrest
          exact ⟨d, List.mem_cons_of_mem a hd, hdb⟩

/-- A trail that has no state twice has at most one state more than there are states to which its
steps may lead. -/
theorem length_trail_le [DecidableEq α] (h : (trail f n a).Nodup) {targets : Finset α}
    (htargets : ∀ b ∈ trail f n a, ∀ c, f b = some c → c ∈ targets) :
    (trail f n a).length ≤ targets.card + 1 := by
  have hnodup : (trail f n a).tail.Nodup := h.sublist (List.tail_sublist _)
  have hsub : (trail f n a).tail.toFinset ⊆ targets := by
    intro c hc
    obtain ⟨b, hb, hbc⟩ := exists_of_mem_tail_trail (List.mem_toFinset.mp hc)
    exact htargets b hb c hbc
  have hcard := Finset.card_le_card hsub
  rw [List.toFinset_card_of_nodup hnodup, List.length_tail] at hcard
  omega

end RedemptionWatch
