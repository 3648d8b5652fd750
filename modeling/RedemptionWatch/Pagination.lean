import RedemptionWatch.Checked

/-!
# Pages of a block range

An inclusive range of blocks is cut into pages of a given number of blocks; the last page holds what
is left. How many pages and blocks there are is computed with numbers of 64 bits, and a computation
that leaves them breaks off.
-/

namespace RedemptionWatch

/-- The blocks from `first` to `last`, both included. -/
structure BlockRange where
  first : UInt64
  last : UInt64
  deriving DecidableEq, Repr, Inhabited

namespace BlockRange

/-- The number of blocks of a range, which has to have blocks. -/
def size (r : BlockRange) : Except Breakdown UInt64 := do
  Checked.add (← Checked.sub r.last r.first) 1

/-- The number of blocks of a range, none for a range that ends before it starts. -/
def blockCount (r : BlockRange) : Nat :=
  if r.last < r.first then 0 else r.last.toNat - r.first.toNat + 1

/-- The number of blocks from the first one of a range up to another one, but at least one. -/
def reach (r : BlockRange) (last : UInt64) : Except Breakdown UInt64 :=
  Checked.add (Saturating.sub last r.first) 1

/-- The number of pages of `pageSize` blocks that cover a range. The range has to have blocks, and
so have its pages. -/
def totalPages (r : BlockRange) (pageSize : UInt64) : Except Breakdown UInt64 :=
  if r.first ≤ r.last ∧ 1 ≤ pageSize then Checked.add ((r.last - r.first) / pageSize) 1
  else .error (.unmet "last >= current && page_size >= 1")

/-- The page with this index, cut off where the range ends. -/
def page (r : BlockRange) (pageSize index : UInt64) : Except Breakdown BlockRange := do
  let first ← Checked.add r.first (← Checked.mul index pageSize)
  let last := Saturating.add first (← Checked.sub pageSize 1)
  return ⟨first, min last r.last⟩

/-- A page has at least one block. -/
def pageSize (requested : UInt64) : UInt64 :=
  max requested 1

/-- The number of pages of a range, none for a range that ends before it starts. -/
def countPages (r : BlockRange) (size : UInt64) : Except Breakdown UInt64 :=
  if r.last < r.first then .ok 0 else r.totalPages (pageSize size)

/-- The first `count` pages of a range, or all of them if there are fewer. -/
def firstPages (r : BlockRange) (size : UInt64) (count : Nat) :
    Except Breakdown (List BlockRange) := do
  let total ← r.countPages size
  (List.range (min count total.toNat)).mapM fun i => r.page (pageSize size) (UInt64.ofNat i)

/-- The pages of a range in order. -/
def pages (r : BlockRange) (size : UInt64) : Except Breakdown (List BlockRange) := do
  let total ← r.countPages size
  r.firstPages size total.toNat

/-- The blocks of a range in order. -/
def blocks (r : BlockRange) : List UInt64 :=
  (List.range r.blockCount).map fun i => r.first + UInt64.ofNat i

end BlockRange

end RedemptionWatch
