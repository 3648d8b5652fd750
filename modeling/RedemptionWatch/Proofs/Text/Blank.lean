import Mathlib.Data.List.Basic
import RedemptionWatch.Text.Blank

/-!
# Trimming and cutting texts

A text without blanks is trimmed (`trimChars_of_forall`). A text is cut where the separator stands
first: nothing is lost, and no cut has a shorter part before it (`cut?_eq_some_iff`).
-/

namespace RedemptionWatch.Text

variable {sep cs before after : List Char}

theorem trimChars_of_forall (h : ∀ c ∈ cs, isBlank c = false) : trimChars cs = cs := by
  have hdrop {ds : List Char} (hds : ∀ c ∈ ds, isBlank c = false) : ds.dropWhile isBlank = ds := by
    cases ds with
    | nil => rfl
    | cons d ds => exact List.dropWhile_cons_of_neg (by simp [hds d (List.mem_cons_self ..)])
  rw [trimChars, hdrop h, hdrop fun c hc => h c (List.mem_reverse.mp hc), List.reverse_reverse]

/-- The separator stands between the two parts, and it does not stand any earlier. -/
def IsFirstCut (sep cs before after : List Char) : Prop :=
  cs = before ++ (sep ++ after) ∧
    ∀ earlier rest, cs = earlier ++ (sep ++ rest) → before.length ≤ earlier.length

/-- A text that begins with the separator is cut there. -/
theorem isFirstCut_append : IsFirstCut sep (sep ++ cs) before after ↔ before = [] ∧ after = cs := by
  constructor
  · rintro ⟨hcut, hfirst⟩
    obtain rfl : before = [] := List.length_eq_zero_iff.mp (Nat.le_zero.mp (hfirst [] cs rfl))
    exact ⟨rfl, (List.append_cancel_left hcut).symm⟩
  · rintro ⟨rfl, rfl⟩
    exact ⟨rfl, fun _ _ _ => Nat.zero_le _⟩

/-- Any other text is cut where it is cut after its first character. -/
theorem isFirstCut_cons {c : Char} (h : ¬sep <+: c :: cs) :
    IsFirstCut sep (c :: cs) before after ↔
      ∃ rest, before = c :: rest ∧ IsFirstCut sep cs rest after := by
  constructor
  · rintro ⟨hcut, hfirst⟩
    rcases List.cons_eq_append_iff.mp hcut with ⟨rfl, hsep⟩ | ⟨rest, rfl, rfl⟩
    · exact absurd ⟨after, hsep⟩ h
    · refine ⟨rest, rfl, rfl, fun earlier later hearlier => ?_⟩
      exact Nat.le_of_succ_le_succ (hfirst (c :: earlier) later (congrArg (c :: ·) hearlier))
  · rintro ⟨rest, rfl, rfl, hfirst⟩
    refine ⟨rfl, fun earlier later hearlier => ?_⟩
    rcases List.cons_eq_append_iff.mp hearlier with ⟨rfl, hsep⟩ | ⟨earlier, rfl, hrest⟩
    · exact absurd ⟨later, hsep⟩ h
    · exact Nat.succ_le_succ (hfirst earlier later hrest)

/-- A text is cut where the separator stands first. -/
theorem cut?_eq_some_iff : cut? sep cs = some (before, after) ↔ IsFirstCut sep cs before after := by
  induction cs generalizing before with
  | nil =>
    unfold cut?
    split_ifs with hsep
    · have hfirst : IsFirstCut [] [] before after ↔ before = [] ∧ after = [] :=
        isFirstCut_append
      rw [hsep, hfirst, Option.some_inj, Prod.mk.injEq, eq_comm, @eq_comm _ after]
    · refine iff_of_false nofun fun ⟨hcut, _⟩ => hsep ?_
      exact (List.append_eq_nil_iff.mp (List.append_eq_nil_iff.mp hcut.symm).2).1
  | cons c cs ih =>
    unfold cut?
    split_ifs with hsep
    · obtain ⟨rest, hrest⟩ := List.isPrefixOf_iff_prefix.mp hsep
      rw [← hrest, List.drop_left, isFirstCut_append, Option.some_inj, Prod.mk.injEq,
        @eq_comm _ before, @eq_comm _ after]
    · rw [isFirstCut_cons (mt List.isPrefixOf_iff_prefix.mpr hsep), Option.map_eq_some_iff]
      simp only [← ih, Prod.exists, Prod.mk.injEq]
      constructor
      · rintro ⟨rest, _, hcut, rfl, rfl⟩
        exact ⟨rest, rfl, hcut⟩
      · rintro ⟨rest, rfl, hcut⟩
        exact ⟨rest, after, hcut, rfl, rfl⟩

end RedemptionWatch.Text
