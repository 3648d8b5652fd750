import Mathlib.Data.List.Chain
import RedemptionWatch.Proofs.Pagination

/-!
# Pages cover their range

The pages of a range hold its blocks, each once and in order (`BlockRange.pages_cover`): they follow
each other without gaps from the first block of the range to the last one, and all but the last one
are full. They are computed without a breakdown, for no product, sum or count on the way leaves the
numbers of 64 bits, unless the range has all `2 ^ 64` blocks and a page holds a single one, so that
even the number of pages does (`BlockRange.HasPages`).

Page by page, the blocks of the first pages are the blocks of the range before the next page
(`BlockRange.map_toNat_flatMap_takePages`).
-/

namespace RedemptionWatch.BlockRange

/-- The range has blocks, and the number of its pages is one of 64 bits. -/
structure HasPages (r : BlockRange) (size : UInt64) : Prop where
  first_le_last : r.first ≤ r.last
  count_lt : (r.last.toNat - r.first.toNat) / (pageSize size).toNat + 1 < 2 ^ 64

variable {r : BlockRange} {size i count : UInt64} {k n : Nat}

/-! ## The number of pages -/

theorem toNat_pageSize (size : UInt64) : (pageSize size).toNat = max size.toNat 1 :=
  toNat_max size 1

/-- Only all the blocks there are, in pages of one block, have more pages than a number of 64 bits
counts. -/
theorem hasPages_iff (hle : r.first ≤ r.last) (size : UInt64) :
    r.HasPages size ↔ ¬(r.first = 0 ∧ r.last.toNat + 1 = 2 ^ 64 ∧ size ≤ 1) := by
  have hlast := r.last.toNat_lt
  have hpos := pageSize_pos size
  have hone : UInt64.toNat 1 = 1 := rfl
  rw [UInt64.le_iff_toNat_le] at hle
  rw [← UInt64.toNat_inj, UInt64.le_iff_toNat_le, UInt64.toNat_zero, hone]
  have hquot : (r.last.toNat - r.first.toNat) / (pageSize size).toNat + 1 < 2 ^ 64 ↔
      r.last.toNat - r.first.toNat < (2 ^ 64 - 1) * (pageSize size).toNat := by
    rw [← Nat.div_lt_iff_lt_mul hpos]
    omega
  have hsize := toNat_pageSize size
  constructor
  · rintro ⟨-, hcount⟩ ⟨hfirst, hall, hsmall⟩
    rw [hquot, hsize] at hcount
    omega
  · intro h
    refine ⟨UInt64.le_iff_toNat_le.mpr hle, hquot.mpr ?_⟩
    rw [hsize]
    by_cases hsmall : size.toNat ≤ 1
    · omega
    · omega

theorem countPages_eq_totalPages (hle : r.first ≤ r.last) (size : UInt64) :
    r.countPages size = r.totalPages (pageSize size) :=
  if_neg (UInt64.not_lt.mpr hle)

namespace HasPages

variable (h : r.HasPages size)

include h

theorem exists_totalPages : ∃ total, r.totalPages (pageSize size) = .ok total ∧
    total.toNat = (r.last.toNat - r.first.toNat) / (pageSize size).toNat + 1 := by
  have hquot : ((r.last - r.first) / pageSize size).toNat =
      (r.last.toNat - r.first.toNat) / (pageSize size).toNat := by
    rw [UInt64.toNat_div, UInt64.toNat_sub_of_le _ _ h.first_le_last]
  have htotal : r.totalPages (pageSize size) =
      .ok ((r.last - r.first) / pageSize size + 1) := by
    rw [← countPages_eq_totalPages h.first_le_last, countPages_eq h.first_le_last]
    exact Checked.add_eq_ok (hquot ▸ h.count_lt)
  refine ⟨_, htotal, ?_⟩
  rw [← countPages_eq_totalPages h.first_le_last, countPages_eq h.first_le_last,
    Checked.add_eq_ok_iff, hquot] at htotal
  exact htotal

theorem exists_countPages : ∃ total, r.countPages size = .ok total ∧
    r.totalPages (pageSize size) = .ok total ∧ total.toNat = r.pageCount size := by
  obtain ⟨total, htotal, -⟩ := h.exists_totalPages
  have hcount := (countPages_eq_totalPages h.first_le_last size).trans htotal
  exact ⟨total, hcount, htotal, (pageCount_eq_toNat hcount).symm⟩

theorem pageCount_pos : 0 < r.pageCount size := by
  obtain ⟨total, htotal, hcount⟩ := h.exists_totalPages
  rw [← countPages_eq_totalPages h.first_le_last] at htotal
  rw [pageCount_eq_toNat htotal, hcount]
  exact Nat.succ_pos _

end HasPages

/-! ## Pages by their index -/

/-- Up to the number of pages, an index is a number of 64 bits. -/
theorem toNat_index (h : k ≤ r.pageCount size) : (UInt64.ofNat k).toNat = k :=
  UInt64.toNat_ofNat_of_lt' (h.trans_lt (pageCount_lt r size))

/-- The first `k` pages, or all of them if there are fewer. -/
def takePages (r : BlockRange) (size : UInt64) (k : Nat) : List BlockRange :=
  (List.range (min k (r.pageCount size))).map fun i => r.nthPage (pageSize size) (UInt64.ofNat i)

/-- All pages. -/
def allPages (r : BlockRange) (size : UInt64) : List BlockRange :=
  r.takePages size (r.pageCount size)

theorem takePages_eq_take (r : BlockRange) (size : UInt64) (k : Nat) :
    r.takePages size k = (r.allPages size).take k := by
  simp [allPages, takePages, ← List.map_take, List.take_range]

theorem length_takePages (r : BlockRange) (size : UInt64) (k : Nat) :
    (r.takePages size k).length = min k (r.pageCount size) := by
  rw [takePages, List.length_map, List.length_range]

theorem takePages_succ (h : k < r.pageCount size) : r.takePages size (k + 1) =
    r.takePages size k ++ [r.nthPage (pageSize size) (UInt64.ofNat k)] := by
  unfold takePages
  rw [min_eq_left h, min_eq_left h.le, List.range_succ, List.map_append, List.map_singleton]

theorem getElem_allPages (h : k < (r.allPages size).length) :
    (r.allPages size)[k] = r.nthPage (pageSize size) (UInt64.ofNat k) := by
  simp [allPages, takePages]

theorem length_allPages (r : BlockRange) (size : UInt64) :
    (r.allPages size).length = r.pageCount size := by
  rw [allPages, length_takePages, min_self]

theorem mem_allPages {page : BlockRange} : page ∈ r.allPages size ↔
    ∃ k < r.pageCount size, page = r.nthPage (pageSize size) (UInt64.ofNat k) := by
  simp [allPages, takePages, eq_comm]

/-- What is computed without a breakdown for every element of a list is for the list. -/
theorem mapM_eq_ok {α β : Type} {f : α → Except Breakdown β} {g : α → β} {l : List α}
    (h : ∀ a ∈ l, f a = .ok (g a)) : l.mapM f = .ok (l.map g) := by
  induction l with
  | nil => rfl
  | cons a l ih =>
    obtain ⟨ha, hl⟩ := List.forall_mem_cons.mp h
    rw [List.mapM_cons, ha, ih hl]
    rfl

/-- The first pages are computed without a breakdown. -/
theorem HasPages.firstPages_eq_ok (h : r.HasPages size) (k : Nat) :
    r.firstPages size k = .ok (r.takePages size k) := by
  obtain ⟨total, hcount, -, htotal⟩ := h.exists_countPages
  have hpages : ∀ i ∈ List.range (min k (r.pageCount size)),
      r.page (pageSize size) (UInt64.ofNat i) =
        .ok (r.nthPage (pageSize size) (UInt64.ofNat i)) := by
    intro i hi
    have hlt : i < r.pageCount size := (List.mem_range.mp hi).trans_le (min_le_right _ _)
    exact page_eq_ok (by rwa [toNat_index hlt.le])
  rw [takePages, ← mapM_eq_ok hpages, firstPages, hcount, ← htotal]
  rfl

/-- The pages are computed without a breakdown. -/
theorem HasPages.pages_eq_ok (h : r.HasPages size) : r.pages size = .ok (r.allPages size) := by
  obtain ⟨total, hcount, -, htotal⟩ := h.exists_countPages
  rw [allPages, ← h.firstPages_eq_ok, ← htotal, pages, hcount]
  rfl

/-! ## Ranges whose pages are too many -/

/-- Pages that are too many cannot be counted. -/
theorem countPages_eq_error (hle : r.first ≤ r.last) (h : ¬r.HasPages size) :
    r.countPages size = .error .add := by
  have hmany : ¬(r.last.toNat - r.first.toNat) / (pageSize size).toNat + 1 < 2 ^ 64 :=
    fun hcount => h ⟨hle, hcount⟩
  rw [countPages_eq hle, Checked.add_eq_error_iff, UInt64.toNat_div,
    UInt64.toNat_sub_of_le _ _ hle]
  exact ⟨Nat.not_lt.mp hmany, rfl⟩

/-- The first block after the first `k` pages. -/
def afterPages (r : BlockRange) (size : UInt64) (k : Nat) : Nat :=
  min (r.first.toNat + k * (pageSize size).toNat) (r.last.toNat + 1)

theorem afterPages_zero (h : r.first ≤ r.last) : r.afterPages size 0 = r.first.toNat := by
  have hle := UInt64.le_iff_toNat_le.mp h
  unfold afterPages
  omega

theorem toNat_first_eq_afterPages (h : k < r.pageCount size) :
    (r.nthPage (pageSize size) (UInt64.ofNat k)).first.toNat = r.afterPages size k := by
  have hk := toNat_index h.le
  have hle := mul_pageSize_le h
  rw [toNat_first_page (by rwa [hk]), hk]
  unfold afterPages
  omega

/-- The next page comes right after this one, or the range ends with it. -/
theorem toNat_last_eq_afterPages (h : k < r.pageCount size) :
    (r.nthPage (pageSize size) (UInt64.ofNat k)).last.toNat + 1 = r.afterPages size (k + 1) := by
  have hpos := pageSize_pos size
  have hfirst := toNat_first_eq_afterPages h
  have hle := mul_pageSize_le h
  rw [toNat_last_page, hfirst]
  unfold afterPages
  rw [Nat.succ_mul]
  omega

/-- The pages end with the range. -/
theorem afterPages_pageCount (h : 0 < r.pageCount size) :
    r.afterPages size (r.pageCount size) = r.last.toNat + 1 := by
  obtain ⟨k, hk⟩ := Nat.exists_eq_add_one_of_ne_zero h.ne'
  have hlt : k < r.pageCount size := by omega
  have hlast : (UInt64.ofNat k).toNat + 1 = r.pageCount size := by rw [toNat_index hlt.le, hk]
  rw [hk, ← toNat_last_eq_afterPages hlt, last_page_eq_last hlast]

theorem afterPages_mono (r : BlockRange) (size : UInt64) (h : k ≤ n) :
    r.afterPages size k ≤ r.afterPages size n := by
  have hmul := Nat.mul_le_mul_right (pageSize size).toNat h
  unfold afterPages
  omega

/-- The page comes in the range right after the first `k` ones. -/
structure PageAt (r : BlockRange) (size : UInt64) (k : Nat) (page : BlockRange) : Prop where
  toNat_first : page.first.toNat = r.afterPages size k
  toNat_last : page.last.toNat + 1 = r.afterPages size (k + 1)
  blockCount : page.first.toNat + page.blockCount = page.last.toNat + 1
  first_le_last : page.first ≤ page.last
  first_le : r.first ≤ page.first

theorem pageAt (h : k < r.pageCount size) :
    r.PageAt size k (r.nthPage (pageSize size) (UInt64.ofNat k)) := by
  have hindex : (UInt64.ofNat k).toNat < r.pageCount size := by rwa [toNat_index h.le]
  exact ⟨toNat_first_eq_afterPages h, toNat_last_eq_afterPages h, blockCount_page hindex,
    first_page_le_last_page hindex, first_le_first_page hindex⟩

/-! ## Blocks -/

/-- A block has one right before it in the range exactly if the range starts before the block. -/
theorem le_sub_one_iff {a b : UInt64} : 0 < b ∧ a ≤ b - 1 ↔ a < b := by
  have hzero : UInt64.toNat 0 = 0 := rfl
  constructor
  · rintro ⟨hpos, hle⟩
    have hone := toNat_sub_one hpos
    rw [UInt64.lt_iff_toNat_lt] at hpos ⊢
    rw [UInt64.le_iff_toNat_le] at hle
    omega
  · intro hlt
    have hpos : 0 < b := by
      rw [UInt64.lt_iff_toNat_lt] at hlt ⊢
      omega
    have hone := toNat_sub_one hpos
    refine ⟨hpos, ?_⟩
    rw [UInt64.lt_iff_toNat_lt] at hlt
    rw [UInt64.le_iff_toNat_le]
    omega

theorem size_eq_ok_iff (h : r.first ≤ r.last) :
    r.size = .ok count ↔ count.toNat = r.last.toNat - r.first.toNat + 1 := by
  have hsub := Checked.sub_eq_ok h
  rw [size, hsub, ← UInt64.toNat_sub_of_le _ _ h]
  exact Checked.add_eq_ok_iff

theorem blockCount_eq (h : r.first ≤ r.last) :
    r.blockCount = r.last.toNat - r.first.toNat + 1 :=
  if_neg (UInt64.not_lt.mpr h)

theorem add_one_add_ofNat (a : UInt64) (i : Nat) :
    a + 1 + UInt64.ofNat i = a + UInt64.ofNat (i + 1) := by
  rw [UInt64.ofNat_add, UInt64.add_comm (UInt64.ofNat i), ← UInt64.add_assoc]
  rfl

/-- Numbers from a block on are consecutive while they are of 64 bits. -/
theorem map_toNat_range {a : UInt64} (h : a.toNat + n ≤ 2 ^ 64) :
    ((List.range n).map fun i => a + UInt64.ofNat i).map UInt64.toNat = List.range' a.toNat n := by
  rw [List.range'_eq_map_range, List.map_map]
  refine List.map_congr_left fun i hi => ?_
  have hi := List.mem_range.mp hi
  have hofNat : (UInt64.ofNat i).toNat = i :=
    UInt64.toNat_ofNat_of_lt' (by unfold UInt64.size; omega)
  rw [Function.comp_apply, UInt64.toNat_add, hofNat]
  exact Nat.mod_eq_of_lt (by omega)

/-- The blocks of a range are the numbers from its first one to its last one. -/
theorem map_toNat_blocks (h : r.first ≤ r.last) :
    r.blocks.map UInt64.toNat = List.range' r.first.toNat r.blockCount := by
  have hlast := r.last.toNat_lt
  have hle := UInt64.le_iff_toNat_le.mp h
  have hcount := blockCount_eq h
  exact map_toNat_range (by omega)

theorem mem_blocks {b : UInt64} (h : r.first ≤ r.last) :
    b ∈ r.blocks ↔ r.first ≤ b ∧ b ≤ r.last := by
  have hle := UInt64.le_iff_toNat_le.mp h
  have hmem : b ∈ r.blocks ↔ b.toNat ∈ r.blocks.map UInt64.toNat :=
    (List.mem_map_of_injective fun _ _ => UInt64.toNat_inj.mp).symm
  rw [hmem, map_toNat_blocks h, List.mem_range'_1, blockCount_eq h, UInt64.le_iff_toNat_le,
    UInt64.le_iff_toNat_le]
  omega

/-- The blocks of the first pages are those of the range before the next page. -/
theorem map_toNat_flatMap_takePages (h : r.first ≤ r.last) (hk : k ≤ r.pageCount size) :
    ((r.takePages size k).flatMap blocks).map UInt64.toNat =
      List.range' r.first.toNat (r.afterPages size k - r.first.toNat) := by
  induction k with
  | zero =>
    rw [afterPages_zero h, Nat.sub_self]
    simp [takePages]
  | succ k ih =>
    have hpage := pageAt hk
    have hfirst := hpage.toNat_first
    have hlast := hpage.toNat_last
    have hcount := hpage.blockCount
    have hmono := r.afterPages_mono size (Nat.zero_le k)
    rw [afterPages_zero h] at hmono
    obtain ⟨done, hdone⟩ := Nat.exists_eq_add_of_le hmono
    rw [takePages_succ hk, List.flatMap_append, List.map_append, ih (Nat.le_of_succ_le hk),
      List.flatMap_singleton, map_toNat_blocks hpage.first_le_last, hfirst, hdone,
      Nat.add_sub_cancel_left, List.range'_append_1]
    congr 1
    omega

/-- The blocks of the pages are those of the range. -/
theorem flatMap_blocks_allPages (h : r.HasPages size) :
    (r.allPages size).flatMap blocks = r.blocks := by
  refine List.map_injective_iff.mpr (fun _ _ => UInt64.toNat_inj.mp) ?_
  have hle := UInt64.le_iff_toNat_le.mp h.first_le_last
  rw [allPages, map_toNat_flatMap_takePages h.first_le_last le_rfl,
    afterPages_pageCount h.pageCount_pos, map_toNat_blocks h.first_le_last,
    blockCount_eq h.first_le_last]
  congr 1
  omega

/-! ## The pages of a range -/

/-- A range whose blocks are counted by a number of 64 bits has pages of every size. -/
theorem HasPages.of_blockCount_lt (hle : r.first ≤ r.last) (h : r.blockCount < 2 ^ 64) :
    r.HasPages size := by
  have hdiv := Nat.div_le_self (r.last.toNat - r.first.toNat) (pageSize size).toNat
  rw [blockCount_eq hle] at h
  exact ⟨hle, by omega⟩

/-- A page has blocks, and no more than a page holds. -/
theorem size_nthPage (h : i.toNat < r.pageCount size) :
    (r.nthPage (pageSize size) i).first ≤ (r.nthPage (pageSize size) i).last ∧
      ∃ blocks, (r.nthPage (pageSize size) i).size = .ok blocks ∧ blocks ≤ pageSize size ∧
        blocks.toNat = (r.nthPage (pageSize size) i).last.toNat -
          (r.nthPage (pageSize size) i).first.toNat + 1 := by
  have hle := first_page_le_last_page h
  have hlast := toNat_last_page r size i
  have hpos := pageSize_pos size
  have hbound := (pageSize size).toNat_lt
  generalize r.nthPage (pageSize size) i = page at *
  have hcount : (UInt64.ofNat (page.last.toNat - page.first.toNat + 1)).toNat =
      page.last.toNat - page.first.toNat + 1 :=
    UInt64.toNat_ofNat_of_lt' (by unfold UInt64.size; omega)
  refine ⟨hle, _, (size_eq_ok_iff hle).mpr hcount, ?_, hcount⟩
  rw [UInt64.le_iff_toNat_le, hcount]
  omega

/-- A page that is not the last one is full. -/
theorem size_nthPage_of_succ_lt (h : i.toNat + 1 < r.pageCount size) :
    (r.nthPage (pageSize size) i).size = .ok (pageSize size) := by
  have hlt := Nat.lt_of_succ_lt h
  have hpos := pageSize_pos size
  have hle := mul_pageSize_le h
  have hfirst := toNat_first_page hlt
  have hlast := toNat_last_page r size i
  rw [Nat.succ_mul] at hle
  rw [size_eq_ok_iff (first_page_le_last_page hlt)]
  omega

theorem isChain_allPages (r : BlockRange) (size : UInt64) :
    (r.allPages size).IsChain fun page next => page.last.toNat + 1 = next.first.toNat := by
  rw [List.isChain_iff_getElem]
  intro k hk
  rw [length_allPages] at hk
  rw [getElem_allPages, getElem_allPages, toNat_last_eq_afterPages (Nat.lt_of_succ_lt hk),
    toNat_first_eq_afterPages hk]

/-- **Pages cover their range.** A range that ends before it starts has no pages. The pages of any
other range, but for all `2 ^ 64` blocks in pages of a single one, are computed without a breakdown,
and there are as many as `totalPages` counts. They follow each other without gaps from the first
block of the range to its last one; each has a block and at most as many as a page holds, which all
but the last one have. So they hold the blocks of the range, each once and in order. Whatever is
computed for them is computed as in the natural numbers. -/
theorem pages_cover (r : BlockRange) (size : UInt64) :
    (r.last < r.first → r.pages size = .ok []) ∧
    (r.first ≤ r.last → ¬(r.first = 0 ∧ r.last.toNat + 1 = 2 ^ 64 ∧ size ≤ 1) →
      ∃ pages total, r.pages size = .ok pages ∧ r.totalPages (pageSize size) = .ok total ∧
        pages.length = total.toNat ∧
        (∃ page, pages.head? = some page ∧ page.first = r.first) ∧
        (∃ page, pages.getLast? = some page ∧ page.last = r.last) ∧
        pages.IsChain (fun page next => page.last.toNat + 1 = next.first.toNat) ∧
        (∀ page ∈ pages, page.first ≤ page.last ∧ ∃ blocks, page.size = .ok blocks ∧
          blocks ≤ pageSize size ∧ blocks.toNat = page.last.toNat - page.first.toNat + 1) ∧
        (∀ page ∈ pages.dropLast, page.size = .ok (pageSize size)) ∧
        pages.flatMap blocks = r.blocks ∧
        r.blocks.map UInt64.toNat =
          List.range' r.first.toNat (r.last.toNat - r.first.toNat + 1) ∧
        total.toNat = (r.last.toNat - r.first.toNat) / (pageSize size).toNat + 1 ∧
        ∀ i : UInt64, i.toNat < pages.length →
          (∃ page, r.page (pageSize size) i = .ok page ∧ pages[i.toNat]? = some page) ∧
          (i * pageSize size).toNat = i.toNat * (pageSize size).toNat ∧
          (r.first + i * pageSize size).toNat =
            r.first.toNat + i.toNat * (pageSize size).toNat) := by
  refine ⟨fun hlt => ?_, fun hle hshape => ?_⟩
  · have hnone : r.countPages size = .ok 0 := if_pos hlt
    unfold pages firstPages
    rw [hnone]
    rfl
  have h := (hasPages_iff hle size).mpr hshape
  have hpos := h.pageCount_pos
  have hlength := length_allPages r size
  obtain ⟨total, -, htotal, hcount⟩ := h.exists_countPages
  obtain ⟨_, htotal', hquot⟩ := h.exists_totalPages
  obtain rfl := Except.ok.inj (htotal.symm.trans htotal')
  refine ⟨r.allPages size, total, h.pages_eq_ok, htotal, hlength.trans hcount.symm, ?_, ?_,
    isChain_allPages r size, fun page hpage => ?_, ?_, flatMap_blocks_allPages h, ?_, hquot,
    fun i hi => ?_⟩
  · refine ⟨_, List.head?_eq_getElem?.trans (List.getElem?_eq_getElem (by rwa [hlength])), ?_⟩
    rw [getElem_allPages]
    exact first_page_zero r _
  · refine ⟨_, List.getLast?_eq_getElem?.trans (List.getElem?_eq_getElem (by omega)), ?_⟩
    have hlt : (r.allPages size).length - 1 < r.pageCount size := by omega
    have hindex : (UInt64.ofNat ((r.allPages size).length - 1)).toNat + 1 = r.pageCount size := by
      rw [toNat_index hlt.le]
      omega
    rw [getElem_allPages]
    exact last_page_eq_last hindex
  · obtain ⟨k, hk, rfl⟩ := mem_allPages.mp hpage
    exact size_nthPage (by rwa [toNat_index hk.le])
  · intro page hpage
    obtain ⟨k, hk, rfl⟩ := List.mem_iff_getElem.mp hpage
    rw [List.length_dropLast, hlength] at hk
    have hlt : k < r.pageCount size := by omega
    rw [List.getElem_dropLast, getElem_allPages]
    refine size_nthPage_of_succ_lt ?_
    rw [toNat_index hlt.le]
    omega
  · rw [map_toNat_blocks hle, blockCount_eq hle]
  · have hlt : i.toNat < r.pageCount size := hlength ▸ hi
    refine ⟨⟨_, page_eq_ok hlt, ?_⟩, toNat_mul_pageSize hlt, toNat_first_page hlt⟩
    rw [List.getElem?_eq_getElem hi, getElem_allPages, UInt64.ofNat_toNat]

/-- The last five blocks there are, in pages of two: the second sum of the last page would leave the
numbers of 64 bits. -/
theorem pages_cover_lastBlocks :
    let r : BlockRange := ⟨18446744073709551611, 18446744073709551615⟩
    r.first ≤ r.last ∧ ¬(r.first = 0 ∧ r.last.toNat + 1 = 2 ^ 64 ∧ (2 : UInt64) ≤ 1) ∧
    (∃ pages, r.pages 2 = .ok pages ∧ pages.length = 3 ∧ pages.flatMap blocks = r.blocks) ∧
    (⟨3, 2⟩ : BlockRange).last < (⟨3, 2⟩ : BlockRange).first ∧
    (⟨3, 2⟩ : BlockRange).pages 2 = .ok [] := by
  have hshape : ¬((18446744073709551611 : UInt64) = 0 ∧
      (18446744073709551615 : UInt64).toNat + 1 = 2 ^ 64 ∧ (2 : UInt64) ≤ 1) := by decide
  obtain ⟨pages, total, hpages, -, hlength, -, -, -, -, -, hblocks, -, htotal, -⟩ :=
    (pages_cover ⟨18446744073709551611, 18446744073709551615⟩ 2).2 (by decide) hshape
  exact ⟨by decide, hshape, ⟨pages, hpages, hlength.trans htotal, hblocks⟩, by decide,
    (pages_cover ⟨3, 2⟩ 2).1 (by decide)⟩

end RedemptionWatch.BlockRange
