import Mathlib.Algebra.Group.Nat.Defs
import Mathlib.Data.Nat.Basic
import Mathlib.Order.Basic
import RedemptionWatch.Pagination
import RedemptionWatch.Proofs.Checked

/-!
# The pages of a range

The pages of a range are computed without a breakdown (`BlockRange.page_eq_ok`), and they are what
`BlockRange.nthPage` says: as long as there is a page with this index, it starts where the blocks of
the pages before it end (`BlockRange.toNat_first_page`) and ends after a page's worth of blocks or
with the range (`BlockRange.toNat_last_page`). So a page has blocks, the next one starts right after
it, and the last one ends with the range.
-/

namespace RedemptionWatch.BlockRange

variable {r : BlockRange} {size i count : UInt64} {n : Nat} {reason : Breakdown}

/-- The page with this index, where there is one. -/
def nthPage (r : BlockRange) (pageSize index : UInt64) : BlockRange :=
  let first := r.first + index * pageSize
  ⟨first, min (Saturating.add first (pageSize - 1)) r.last⟩

/-- The number of pages of a range, or zero where they cannot be counted. -/
def pageCount (r : BlockRange) (size : UInt64) : Nat :=
  (((r.countPages size).toOption).map UInt64.toNat).getD 0

theorem toNat_min (a b : UInt64) : (min a b).toNat = min a.toNat b.toNat := by
  have hmin : min a b = if a ≤ b then a else b := rfl
  rw [hmin, min_def]
  simp only [UInt64.le_iff_toNat_le]
  split_ifs <;> rfl

theorem toNat_max (a b : UInt64) : (max a b).toNat = max a.toNat b.toNat := by
  have hmax : max a b = if a ≤ b then b else a := rfl
  rw [hmax, max_def]
  simp only [UInt64.le_iff_toNat_le]
  split_ifs <;> rfl

theorem le_max_left (a b : UInt64) : a ≤ max a b := by
  rw [UInt64.le_iff_toNat_le, toNat_max]
  exact Nat.le_max_left _ _

theorem le_max_right (a b : UInt64) : b ≤ max a b := by
  rw [UInt64.le_iff_toNat_le, toNat_max]
  exact Nat.le_max_right _ _

theorem one_le_pageSize (size : UInt64) : 1 ≤ pageSize size :=
  le_max_right size 1

theorem pageSize_pos (size : UInt64) : 0 < (pageSize size).toNat :=
  UInt64.le_iff_toNat_le.mp (one_le_pageSize size)

theorem countPages_eq (hle : r.first ≤ r.last) (size : UInt64) :
    r.countPages size = Checked.add ((r.last - r.first) / pageSize size) 1 := by
  rw [countPages, if_neg (UInt64.not_lt.mpr hle), totalPages, if_pos ⟨hle, one_le_pageSize size⟩]

theorem pageCount_eq_toNat (h : r.countPages size = .ok count) :
    r.pageCount size = count.toNat := by
  rw [pageCount, h]
  rfl

theorem pageCount_lt (r : BlockRange) (size : UInt64) : r.pageCount size < 2 ^ 64 := by
  cases h : r.countPages size with
  | error reason =>
    rw [pageCount, h]
    exact Nat.two_pow_pos 64
  | ok count => exact pageCount_eq_toNat h ▸ count.toNat_lt

theorem toNat_add_one (h : i.toNat + 1 < 2 ^ 64) : (i + 1).toNat = i.toNat + 1 := by
  rw [UInt64.toNat_add]
  exact Nat.mod_eq_of_lt h

theorem toNat_sub_one (h : 0 < i) : (i - 1).toNat = i.toNat - 1 :=
  UInt64.toNat_sub_of_le _ _ (UInt64.le_iff_toNat_le.mpr (UInt64.lt_iff_toNat_lt.mp h))

/-- Where there are pages, they have been counted. -/
theorem countPages_of_lt (h : n < r.pageCount size) : ∃ count, r.countPages size = .ok count := by
  cases hcount : r.countPages size with
  | error reason =>
    rw [pageCount, hcount] at h
    exact absurd h (Nat.not_lt_zero n)
  | ok count => exact ⟨count, rfl⟩

theorem first_le_last_of_lt_pageCount (h : n < r.pageCount size) : r.first ≤ r.last := by
  by_contra hlt
  have hnone : r.countPages size = .ok 0 := if_pos (UInt64.not_le.mp hlt)
  rw [pageCount_eq_toNat hnone] at h
  exact absurd h (Nat.not_lt_zero n)

theorem pageCount_eq (h : n < r.pageCount size) :
    r.pageCount size = (r.last.toNat - r.first.toNat) / (pageSize size).toNat + 1 := by
  have hle := first_le_last_of_lt_pageCount h
  obtain ⟨count, hcount⟩ := countPages_of_lt h
  rw [pageCount_eq_toNat hcount]
  rw [countPages_eq hle, Checked.add_eq_ok_iff, UInt64.toNat_div,
    UInt64.toNat_sub_of_le _ _ hle] at hcount
  exact hcount

/-- The pages before this one leave blocks of the range. -/
theorem mul_pageSize_le (h : n < r.pageCount size) :
    r.first.toNat + n * (pageSize size).toNat ≤ r.last.toNat := by
  have hle := UInt64.le_iff_toNat_le.mp (first_le_last_of_lt_pageCount h)
  rw [pageCount_eq h] at h
  have hmul := (Nat.le_div_iff_mul_le (pageSize_pos size)).mp (Nat.lt_succ_iff.mp h)
  omega

theorem toNat_mul_pageSize (h : i.toNat < r.pageCount size) :
    (i * pageSize size).toNat = i.toNat * (pageSize size).toNat := by
  have hle := mul_pageSize_le h
  have hlast := r.last.toNat_lt
  rw [UInt64.toNat_mul]
  exact Nat.mod_eq_of_lt (by omega)

theorem toNat_first_page (h : i.toNat < r.pageCount size) :
    (r.nthPage (pageSize size) i).first.toNat =
      r.first.toNat + i.toNat * (pageSize size).toNat := by
  have hle := mul_pageSize_le h
  have hlast := r.last.toNat_lt
  have hfirst : (r.nthPage (pageSize size) i).first = r.first + i * pageSize size := rfl
  rw [hfirst, UInt64.toNat_add, toNat_mul_pageSize h, Nat.mod_eq_of_lt (by omega)]

theorem toNat_last_page (r : BlockRange) (size i : UInt64) :
    (r.nthPage (pageSize size) i).last.toNat =
      min ((r.nthPage (pageSize size) i).first.toNat + (pageSize size).toNat - 1)
        r.last.toNat := by
  have hlast := r.last.toNat_lt
  have hpos := pageSize_pos size
  have hone : (pageSize size - 1).toNat = (pageSize size).toNat - 1 :=
    UInt64.toNat_sub_of_le _ _ (one_le_pageSize size)
  have hpage : (r.nthPage (pageSize size) i).last =
      min (Saturating.add (r.nthPage (pageSize size) i).first (pageSize size - 1)) r.last := rfl
  rw [hpage, toNat_min, Saturating.toNat_add, hone]
  omega

/-- Where there is a page with this index, it is computed without a breakdown. -/
theorem page_eq_ok (h : i.toNat < r.pageCount size) :
    r.page (pageSize size) i = .ok (r.nthPage (pageSize size) i) := by
  have hle := mul_pageSize_le h
  have hlast := r.last.toNat_lt
  have hproduct := toNat_mul_pageSize h
  have hmul : Checked.mul i (pageSize size) = .ok (i * pageSize size) :=
    Checked.mul_eq_ok (by omega)
  have hadd : Checked.add r.first (i * pageSize size) = .ok (r.first + i * pageSize size) :=
    Checked.add_eq_ok (by omega)
  have hsub : Checked.sub (pageSize size) 1 = .ok (pageSize size - 1) :=
    Checked.sub_eq_ok (one_le_pageSize size)
  unfold page
  rw [hmul, hsub]
  dsimp only [bind, Except.bind]
  rw [hadd]
  rfl

/-! ## A page, the next and the last -/

theorem first_page_le_last_page (h : i.toNat < r.pageCount size) :
    (r.nthPage (pageSize size) i).first ≤ (r.nthPage (pageSize size) i).last := by
  have hle := mul_pageSize_le h
  have hpos := pageSize_pos size
  rw [UInt64.le_iff_toNat_le, toNat_last_page, toNat_first_page h]
  omega

theorem last_page_le_last (r : BlockRange) (size i : UInt64) :
    (r.nthPage (pageSize size) i).last ≤ r.last := by
  rw [UInt64.le_iff_toNat_le, toNat_last_page]
  omega

theorem first_le_first_page (h : i.toNat < r.pageCount size) :
    r.first ≤ (r.nthPage (pageSize size) i).first := by
  rw [UInt64.le_iff_toNat_le, toNat_first_page h]
  omega

theorem blockCount_page (h : i.toNat < r.pageCount size) :
    (r.nthPage (pageSize size) i).first.toNat + (r.nthPage (pageSize size) i).blockCount =
      (r.nthPage (pageSize size) i).last.toNat + 1 := by
  have hle := first_page_le_last_page h
  unfold blockCount
  rw [if_neg (UInt64.not_lt.mpr hle)]
  have := UInt64.le_iff_toNat_le.mp hle
  omega

theorem first_page_zero (r : BlockRange) (size : UInt64) : (r.nthPage size 0).first = r.first := by
  simp [nthPage]

/-- The next page starts right after a page. -/
theorem first_page_succ (h : i.toNat + 1 < r.pageCount size) :
    (r.nthPage (pageSize size) (i + 1)).first.toNat =
      (r.nthPage (pageSize size) i).last.toNat + 1 := by
  have hle := mul_pageSize_le h
  have hpos := pageSize_pos size
  have hnext := toNat_add_one (h.trans (pageCount_lt r size))
  rw [toNat_first_page (hnext ▸ h), toNat_last_page,
    toNat_first_page (Nat.lt_of_succ_lt h), hnext, Nat.succ_mul] at *
  omega

/-- The last page ends with the range. -/
theorem last_page_eq_last (h : i.toNat + 1 = r.pageCount size) :
    (r.nthPage (pageSize size) i).last = r.last := by
  have hlt : i.toNat < r.pageCount size := by omega
  have hpos := pageSize_pos size
  have hle := UInt64.le_iff_toNat_le.mp (first_le_last_of_lt_pageCount hlt)
  have hdiv := Nat.div_add_mod (r.last.toNat - r.first.toNat) (pageSize size).toNat
  have hmod := Nat.mod_lt (r.last.toNat - r.first.toNat) hpos
  rw [pageCount_eq hlt] at h
  rw [← Nat.succ_injective h, Nat.mul_comm] at hdiv
  rw [← UInt64.toNat_inj, toNat_last_page, toNat_first_page hlt]
  omega

end RedemptionWatch.BlockRange
