/-!
# Shortest decimals

The decimal with the fewest digits that rounds to a given double, computed in exact arithmetic. A
double `m · 2 ^ q` is the rounding of every real number closer to it than half the distance to its
neighbours, the ends included if `m` is even.
-/

namespace RedemptionWatch

/-- The decimal `digits · 10 ^ exponent`. -/
structure Decimal where
  digits : Nat
  exponent : Int
  deriving DecidableEq, Repr

namespace Decimal

/-- A positive binary number `mantissa · 2 ^ exponent`, and whether the next number below it is only
half as far away as the one above. -/
structure Binary where
  mantissa : Nat
  exponent : Int
  narrowBelow : Bool
  deriving DecidableEq, Repr

/-- The absolute value of a finite double. -/
def Binary.ofFloat (x : Float) : Binary :=
  let bits := x.toBits.toNat % Nat.pow 2 63
  let fraction := bits % Nat.pow 2 52
  let biased := bits / Nat.pow 2 52
  if biased = 0 then ⟨fraction, -1074, false⟩
  else ⟨Nat.pow 2 52 + fraction, Int.ofNat biased - 1075, fraction = 0 ∧ 1 < biased⟩

/-- A power as a fraction: numerator and denominator. -/
def power (base : Nat) (e : Int) : Nat × Nat :=
  if 0 ≤ e then (Nat.pow base e.toNat, 1) else (1, Nat.pow base e.natAbs)

/-- Does `c · 10 ^ e` round to `b`? All numbers are multiplied by four to keep the ends whole. -/
def rounds (b : Binary) (c : Nat) (e : Int) : Bool :=
  let (p, p') := power 2 b.exponent
  let (d, d') := power 10 e
  let x := 4 * c * d * p'
  let unit := p * d'
  let value := 4 * b.mantissa * unit
  let below := value - (if b.narrowBelow then unit else 2 * unit)
  let above := value + 2 * unit
  if b.mantissa % 2 = 0 then below ≤ x && x ≤ above else below < x && x < above

/-- The multiple of `10 ^ e` at or below `b`. -/
def floorAt (b : Binary) (e : Int) : Nat :=
  let (p, p') := power 2 b.exponent
  let (d, d') := power 10 e
  b.mantissa * p * d' / (p' * d)

/-- Is `b` nearer to `c · 10 ^ e` than to `(c + 1) · 10 ^ e`, or as near? -/
def nearerBelow (b : Binary) (c : Nat) (e : Int) : Bool :=
  let (p, p') := power 2 b.exponent
  let (d, d') := power 10 e
  2 * b.mantissa * p * d' ≤ (2 * c + 1) * d * p'

/-- The neighbour of `b` on the grid `10 ^ e` that rounds to it, the nearer of two. -/
def onGrid? (b : Binary) (e : Int) : Option Decimal :=
  let c := floorAt b e
  let low := c ≠ 0 && rounds b c e
  let high := rounds b (c + 1) e
  if low && (!high || nearerBelow b c e) then some ⟨c, e⟩
  else if high then some ⟨c + 1, e⟩
  else none

/-- The first hit on grids that get finer from `10 ^ e` on. -/
def search (b : Binary) : Nat → Int → Decimal
  | 0, e => ⟨floorAt b e, e⟩
  | fuel + 1, e => (onGrid? b e).getD (search b fuel (e - 1))

/-- `d` without zeros at the end of its digits. -/
def trimZeros : Nat → Decimal → Decimal
  | 0, d => d
  | fuel + 1, d =>
    if d.digits ≠ 0 ∧ d.digits % 10 = 0 then trimZeros fuel ⟨d.digits / 10, d.exponent + 1⟩ else d

/-- An exponent of ten that is above every double of this size, and at most one too high. -/
def startExponent (b : Binary) : Int :=
  ((Nat.log2 b.mantissa : Int) + b.exponent + 1) * 30103 / 100000 + 1

/-- The decimal with the fewest digits that rounds to a positive finite double. -/
def shortest (x : Float) : Decimal :=
  let b := Binary.ofFloat x
  trimZeros 20 (search b 20 (startExponent b))

end Decimal

end RedemptionWatch
