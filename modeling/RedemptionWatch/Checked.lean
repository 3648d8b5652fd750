/-!
# Arithmetic that breaks off

Block numbers and counts of blocks are unsigned numbers of 64 bits. A sum, difference or product
that is none of these numbers does not wrap around: the computation breaks off (`Checked`), unless
the result is meant to be cut off at the greatest or the least number (`Saturating`).
-/

namespace RedemptionWatch

/-- Why a computation broke off. -/
inductive Breakdown where
  | add
  | sub
  | mul
  /-- A condition that the caller has to see to does not hold. -/
  | unmet (condition : String)
  deriving DecidableEq, Repr

/-- The text of a breakdown. -/
def Breakdown.message : Breakdown → String
  | add => "attempt to add with overflow"
  | sub => "attempt to subtract with overflow"
  | mul => "attempt to multiply with overflow"
  | unmet condition => "assertion failed: " ++ condition

namespace Checked

/-- The sum, if it is a number of 64 bits. -/
def add (a b : UInt64) : Except Breakdown UInt64 :=
  if a.toNat + b.toNat < UInt64.size then .ok (a + b) else .error .add

/-- The difference, if it is a number. -/
def sub (a b : UInt64) : Except Breakdown UInt64 :=
  if b ≤ a then .ok (a - b) else .error .sub

/-- The product, if it is a number of 64 bits. -/
def mul (a b : UInt64) : Except Breakdown UInt64 :=
  if a.toNat * b.toNat < UInt64.size then .ok (a * b) else .error .mul

end Checked

namespace Saturating

/-- The sum, or the greatest number. -/
def add (a b : UInt64) : UInt64 :=
  if a.toNat + b.toNat < UInt64.size then a + b else UInt64.ofNat (UInt64.size - 1)

/-- The difference, or zero. -/
def sub (a b : UInt64) : UInt64 :=
  if a < b then 0 else a - b

end Saturating

end RedemptionWatch
