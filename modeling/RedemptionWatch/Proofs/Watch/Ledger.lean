import Mathlib.Algebra.Group.Nat.Defs
import RedemptionWatch.Fetch
import RedemptionWatch.Proofs.Store.Candidates

/-!
# Chains with a fixed outcome for every block

A `Ledger` fixes what every block of a chain comes to in the end: its candidates, no block, or an
answer that cannot be read. Its candidates are to be written in the order of their blocks
(`Ledger.between`).

Who is interrupted writes the candidates of some blocks again. `Ledger.Covered` says of what was
written that it has the candidates of all blocks so far, and that it comes to the same as one pass
over them, once it has come to their end from any block at which it may go on. Another block keeps
this, a new one as well as one that comes again (`Ledger.Covered.done`), and so does going back
(`Ledger.Covered.back`).
-/

namespace RedemptionWatch

/-- What every block comes to: its candidates, no block, or why it cannot be read. -/
abbrev Ledger := UInt64 → Except String (Option (List Candidate))

namespace Ledger

variable (l : Ledger)

/-- The candidates of a block; one that cannot be read has none. -/
def candidates (block : UInt64) : List Candidate :=
  match l block with
  | .ok found => found.getD []
  | .error _ => []

/-- An answer for a block is its outcome, or a failure that may pass. -/
def Answers (block : UInt64) : Except FetchError (Option (List Candidate)) → Prop
  | .ok found => l block = .ok found
  | .error (.decode reason) => l block = .error reason
  | .error _ => True

/-- The candidates of the blocks from `first` on and before `last`, in the order of the blocks. -/
def between (first last : Nat) : List Candidate :=
  (List.range' first (last - first)).flatMap fun n => l.candidates (UInt64.ofNat n)

variable {l} {a b c : Nat} {block : UInt64}

theorem candidates_of_ok {found : Option (List Candidate)} (h : l.Answers block (.ok found)) :
    l.candidates block = found.getD [] := by
  unfold candidates
  rw [show l block = .ok found from h]

theorem candidates_of_decode {reason : String} (h : l.Answers block (.error (.decode reason))) :
    l.candidates block = [] := by
  unfold candidates
  rw [show l block = .error reason from h]

theorem between_self (l : Ledger) (n : Nat) : l.between n n = [] := by
  simp [between]

theorem between_append (hab : a ≤ b) (hbc : b ≤ c) :
    l.between a b ++ l.between b c = l.between a c := by
  obtain ⟨m, rfl⟩ := Nat.exists_eq_add_of_le hab
  obtain ⟨n, rfl⟩ := Nat.exists_eq_add_of_le hbc
  unfold between
  rw [← List.flatMap_append, Nat.add_sub_cancel_left, Nat.add_sub_cancel_left,
    List.range'_append_1, Nat.add_assoc, Nat.add_sub_cancel_left]

theorem between_succ (l : Ledger) (block : UInt64) :
    l.between block.toNat (block.toNat + 1) = l.candidates block := by
  simp [between]

theorem candidates_subset_between (ha : a ≤ block.toNat) (hb : block.toNat < b) :
    l.candidates block ⊆ l.between a b := by
  rw [← between_append ha hb.le, ← between_append (Nat.le_succ block.toNat) hb, between_succ]
  exact List.subset_append_of_subset_right _ (List.subset_append_left _ _)

/-- Blocks without candidates may be left out. -/
theorem between_eq_nil (hb : b ≤ 2 ^ 64)
    (h : ∀ block : UInt64, a ≤ block.toNat → block.toNat < b → l.candidates block = []) :
    l.between a b = [] := by
  unfold between
  refine List.flatMap_eq_nil_iff.mpr fun n hn => ?_
  have hmem := List.mem_range'_1.mp hn
  have hn : (UInt64.ofNat n).toNat = n := UInt64.toNat_ofNat_of_lt' (by unfold UInt64.size; omega)
  exact h _ (by omega) (by omega)

/-! ## What covers a ledger -/

/-- What was written holds the candidates of all blocks from `start` on and before `bound`. With the
candidates from a block at which one may go on, up to `next`, it comes to the same as one pass. -/
structure Covered (l : Ledger) (start next bound : Nat) (written : List Candidate) : Prop where
  next_le : next ≤ bound
  mem : ∀ c, c ∈ written ↔ c ∈ l.between start bound
  sameBest : ∀ k, start ≤ k → k ≤ next →
    SameBest (written ++ l.between k bound) (l.between start bound)

namespace Covered

variable {start next bound : Nat} {written : List Candidate}

theorem nil (l : Ledger) (start : Nat) : l.Covered start start start [] where
  next_le := le_rfl
  mem c := by rw [between_self]
  sameBest k hk hle := by
    rw [le_antisymm hle hk]
    exact SameBest.refl _

/-- Going back keeps what is covered. -/
theorem back (h : l.Covered start next bound written) {next' : Nat} (hle : next' ≤ next) :
    l.Covered start next' bound written :=
  ⟨hle.trans h.next_le, h.mem, fun k hk hle' => h.sameBest k hk (hle'.trans hle)⟩

/-- The candidates of the next block, or of one that comes again, are covered then. -/
theorem done (h : l.Covered start next bound written) (hstart : start ≤ block.toNat)
    (hnext : block.toNat ≤ next) :
    l.Covered start (block.toNat + 1) (max bound (block.toNat + 1))
      (written ++ l.candidates block) := by
  obtain ⟨bound', hbound⟩ : ∃ bound', bound' = max bound (block.toNat + 1) := ⟨_, rfl⟩
  rw [← hbound]
  -- with one more block, or with the same ones if it comes again, nothing has changed yet
  have hbest : ∀ k, start ≤ k → k ≤ block.toNat →
      SameBest (written ++ l.between k bound') (l.between start bound') := by
    intro k hk hle
    rcases Nat.lt_or_ge block.toNat bound with hlt | hge
    · rw [hbound, max_eq_left hlt]
      exact h.sameBest k hk (hle.trans hnext)
    · have heq : bound = block.toNat := le_antisymm hge (hnext.trans h.next_le)
      subst heq
      rw [hbound, max_eq_right (Nat.le_succ _), ← between_append hle (Nat.le_succ _),
        ← between_append hstart (Nat.le_succ _), ← List.append_assoc]
      exact (h.sameBest k hk (hle.trans hnext)).append_right _
  have hlt : block.toNat < bound' := by omega
  refine ⟨by omega, fun c => ?_, fun k hk hle => ?_⟩
  · rw [List.mem_append, h.mem]
    rcases Nat.lt_or_ge block.toNat bound with hlt' | hge
    · rw [hbound, max_eq_left hlt']
      exact ⟨fun hc => hc.elim id fun hc => candidates_subset_between hstart hlt' hc, Or.inl⟩
    · have heq : bound = block.toNat := le_antisymm hge (hnext.trans h.next_le)
      subst heq
      rw [hbound, max_eq_right (Nat.le_succ _), ← between_append hstart (Nat.le_succ _),
        between_succ, List.mem_append]
  · rcases Nat.lt_or_ge block.toNat k with hlast | hbefore
    · have heq : k = block.toNat + 1 := le_antisymm hle hlast
      rw [heq, List.append_assoc, ← between_succ, between_append (Nat.le_succ _) hlt]
      exact hbest _ hstart le_rfl
    · exact (SameBest.of_subset _ (candidates_subset_between hbefore hlt)).trans
        (hbest k hk hbefore)

end Covered

end Ledger

end RedemptionWatch
