import Mathlib.Data.List.Induction
import Mathlib.Data.Nat.Basic
import Mathlib.Order.Basic
import RedemptionWatch.Store.Basic

/-!
# The last entry of the highest rank

Entries of a list have ranks, and of those with the highest rank the last one counts
(`IsLastBest`). `lastBest?` finds it in one pass, taking the later of two entries unless its rank
is lower (`lastBest?_eq_some_iff`).

What is found depends on the order of the list, its rank only on the entries of the list
(`map_rank_lastBest?_congr`). An entry that comes again later may be left out
(`lastBest?_append_of_subset`), so a list that is repeated counts once.
-/

namespace RedemptionWatch

/-- The rank of the status of a candidate. -/
def Candidate.rank (c : Candidate) : Nat :=
  c.status.rank

/-- The rank of the status of a record. -/
def Record.rank (r : Record) : Nat :=
  r.toCandidate.rank

variable {α : Type} {rank : α → Nat} {l l' m : List α} {a b : α}

/-- No entry of the list has a higher rank than `a`, and every one after `a` has a lower rank. -/
def IsLastBest (rank : α → Nat) (l : List α) (a : α) : Prop :=
  ∃ before after, l = before ++ a :: after ∧
    (∀ b ∈ before, rank b ≤ rank a) ∧ ∀ b ∈ after, rank b < rank a

/-- The last entry of the highest rank. -/
def lastBest? (rank : α → Nat) (l : List α) : Option α :=
  l.foldl (fun best a => some (match best with
    | some b => if rank b ≤ rank a then a else b
    | none => a)) none

namespace IsLastBest

theorem mem (h : IsLastBest rank l a) : a ∈ l := by
  obtain ⟨before, after, rfl, -, -⟩ := h
  simp

theorem rank_le (h : IsLastBest rank l a) (hb : b ∈ l) : rank b ≤ rank a := by
  obtain ⟨before, after, rfl, hle, hlt⟩ := h
  rcases List.mem_append.mp hb with hb | hb
  · exact hle b hb
  · rcases List.mem_cons.mp hb with rfl | hb
    · exact le_rfl
    · exact (hlt b hb).le

/-- The entries after the last one of the highest rank do not have that rank. -/
theorem unique (ha : IsLastBest rank l a) (hb : IsLastBest rank l b) : a = b := by
  have hrank : rank a = rank b := le_antisymm (hb.rank_le ha.mem) (ha.rank_le hb.mem)
  obtain ⟨before, after, rfl, -, hlt⟩ := ha
  obtain ⟨before', after', heq, -, hlt'⟩ := hb
  rcases List.append_eq_append_iff.mp heq with ⟨mid, -, hmid⟩ | ⟨mid, -, hmid⟩
  · cases mid with
    | nil => exact (List.cons.inj hmid).1
    | cons c mid =>
      have hmem : b ∈ after := by
        rw [(List.cons.inj hmid).2]
        simp
      exact absurd (hlt b hmem) (by omega)
  · cases mid with
    | nil => exact (List.cons.inj hmid).1.symm
    | cons c mid =>
      have hmem : a ∈ after' := by
        rw [(List.cons.inj hmid).2]
        simp
      exact absurd (hlt' a hmem) (by omega)

theorem singleton (a : α) : IsLastBest rank [a] a :=
  ⟨[], [], rfl, by simp, by simp⟩

/-- One more entry is the last best unless its rank is lower. -/
theorem snoc (h : IsLastBest rank l b) (a : α) :
    IsLastBest rank (l ++ [a]) (if rank b ≤ rank a then a else b) := by
  split_ifs with hle
  · exact ⟨l, [], rfl, fun c hc => (h.rank_le hc).trans hle, by simp⟩
  · obtain ⟨before, after, rfl, hbefore, hafter⟩ := h
    refine ⟨before, after ++ [a], by simp, hbefore, fun c hc => ?_⟩
    rcases List.mem_append.mp hc with hc | hc
    · exact hafter c hc
    · rw [List.mem_singleton.mp hc]
      omega

/-- Entries that come again later may be put in. -/
theorem insert_of_subset (h : IsLastBest rank (l ++ l') a) (hm : m ⊆ l') :
    IsLastBest rank (l ++ m ++ l') a := by
  have hrank : ∀ b ∈ m, rank b ≤ rank a := fun b hb =>
    h.rank_le (List.mem_append_right l (hm hb))
  obtain ⟨before, after, heq, hle, hlt⟩ := h
  rcases List.append_eq_append_iff.mp heq with ⟨mid, rfl, hmid⟩ | ⟨mid, rfl, hmid⟩
  · refine ⟨l ++ m ++ mid, after, by simp [hmid], fun b hb => ?_, hlt⟩
    rcases List.mem_append.mp hb with hb | hb
    · rcases List.mem_append.mp hb with hb | hb
      · exact hle b (List.mem_append_left mid hb)
      · exact hrank b hb
    · exact hle b (List.mem_append_right l hb)
  · cases mid with
    | nil =>
      refine ⟨before ++ m, after, by simp [show l' = a :: after from hmid.symm], fun b hb => ?_,
        hlt⟩
      rcases List.mem_append.mp hb with hb | hb
      · exact hle b hb
      · exact hrank b hb
    | cons c mid =>
      obtain ⟨rfl, rfl⟩ := List.cons.inj hmid
      refine ⟨before, mid ++ m ++ l', by simp, hle, fun b hb => ?_⟩
      rcases List.mem_append.mp hb with hb | hb
      · rcases List.mem_append.mp hb with hb | hb
        · exact hlt b (List.mem_append_left l' hb)
        · exact hlt b (List.mem_append_right mid (hm hb))
      · exact hlt b (List.mem_append_right mid hb)

end IsLastBest

/-! ## Finding it -/

@[simp] theorem lastBest?_nil : lastBest? rank [] = none :=
  rfl

theorem lastBest?_snoc (l : List α) (a : α) :
    lastBest? rank (l ++ [a]) = some (match lastBest? rank l with
      | some b => if rank b ≤ rank a then a else b
      | none => a) := by
  simp [lastBest?, List.foldl_append]

theorem lastBest?_append_congr (h : lastBest? rank l = lastBest? rank l') (m : List α) :
    lastBest? rank (l ++ m) = lastBest? rank (l' ++ m) := by
  unfold lastBest? at h ⊢
  rw [List.foldl_append, List.foldl_append, h]

theorem isLastBest_of_lastBest? (h : lastBest? rank l = some a) : IsLastBest rank l a := by
  induction l using List.reverseRecOn generalizing a with
  | nil => simp at h
  | append_singleton l c ih =>
    rw [lastBest?_snoc] at h
    obtain rfl := Option.some.inj h
    cases hl : lastBest? rank l with
    | some b => exact (ih hl).snoc c
    | none =>
      cases l using List.reverseRecOn with
      | nil => exact IsLastBest.singleton c
      | append_singleton l d => simp [lastBest?_snoc] at hl

theorem lastBest?_eq_none_iff : lastBest? rank l = none ↔ l = [] := by
  cases l using List.reverseRecOn with
  | nil => simp
  | append_singleton l a => simp [lastBest?_snoc]

theorem lastBest?_eq_some_iff : lastBest? rank l = some a ↔ IsLastBest rank l a := by
  refine ⟨isLastBest_of_lastBest?, fun h => ?_⟩
  cases hl : lastBest? rank l with
  | some b => rw [(isLastBest_of_lastBest? hl).unique h]
  | none =>
    rw [lastBest?_eq_none_iff.mp hl] at h
    exact absurd h.mem (List.not_mem_nil)

/-- Entries that come again later may be left out. -/
theorem lastBest?_append_of_subset (l : List α) (h : m ⊆ l') :
    lastBest? rank (l ++ m ++ l') = lastBest? rank (l ++ l') := by
  cases hl : lastBest? rank (l ++ l') with
  | some a => exact lastBest?_eq_some_iff.mpr ((isLastBest_of_lastBest? hl).insert_of_subset h)
  | none =>
    obtain ⟨rfl, rfl⟩ := List.append_eq_nil_iff.mp (lastBest?_eq_none_iff.mp hl)
    rw [List.subset_nil.mp h]
    rfl

/-- The highest rank depends on the entries alone. -/
theorem map_rank_lastBest?_congr (h : ∀ a, a ∈ l ↔ a ∈ l') :
    (lastBest? rank l).map rank = (lastBest? rank l').map rank := by
  cases hl : lastBest? rank l with
  | none =>
    obtain rfl := lastBest?_eq_none_iff.mp hl
    rw [List.eq_nil_iff_forall_not_mem.mpr fun a ha => List.not_mem_nil ((h a).mpr ha)]
    rfl
  | some a =>
    have ha := isLastBest_of_lastBest? hl
    cases hl' : lastBest? rank l' with
    | none =>
      rw [lastBest?_eq_none_iff.mp hl'] at h
      exact absurd ((h a).mp ha.mem) List.not_mem_nil
    | some b =>
      have hb := isLastBest_of_lastBest? hl'
      exact congrArg some
        (le_antisymm (hb.rank_le ((h a).mp ha.mem)) (ha.rank_le ((h b).mpr hb.mem)))

/-- Ranks that are read off another list find the entry of that list. -/
theorem map_lastBest? {β : Type} (f : β → α) (l : List β) :
    (lastBest? (rank ∘ f) l).map f = lastBest? rank (l.map f) := by
  induction l using List.reverseRecOn with
  | nil => rfl
  | append_singleton l b ih =>
    rw [List.map_append, List.map_singleton, lastBest?_snoc, lastBest?_snoc, ← ih]
    cases lastBest? (rank ∘ f) l with
    | none => rfl
    | some best => exact congrArg some (apply_ite f _ b best)

end RedemptionWatch
