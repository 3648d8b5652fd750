import RedemptionWatch.Clock
import RedemptionWatch.Decimal.Shortest
import RedemptionWatch.RateLimit.Bucket

/-!
# Rate limits on a clock of milliseconds

Rates and tokens are doubles. A wait in seconds is rounded to nanoseconds, a tie to the even one,
and ends at the first whole millisecond that is not before its end.
-/

namespace RedemptionWatch

/-- `numerator / denominator` rounded to the nearest whole number, a tie to the even one. -/
def Decimal.roundEven (numerator denominator : Nat) : Nat :=
  let q := numerator / denominator
  let r := numerator % denominator
  if 2 * r < denominator ∨ (2 * r = denominator ∧ q % 2 = 0) then q else q + 1

/-- A time span given in seconds, in nanoseconds: nothing that is negative or no number, and less
than `2 ^ 64` seconds. -/
def Decimal.nanoseconds? (seconds : Float) : Option Nat :=
  if 0 ≤ seconds ∧ seconds < 18446744073709551616 then
    let b := Decimal.Binary.ofFloat seconds
    let (p, p') := Decimal.power 2 b.exponent
    some (Decimal.roundEven (b.mantissa * p * 1000000000) p')
  else none

namespace RateLimit

/-- The seconds between two times in milliseconds. -/
def seconds (start stop : Nat) : Float :=
  let millis := stop - start
  (millis / 1000).toFloat + (millis % 1000 * 1000000).toFloat / 1000000000

/-- The limit of so many requests a second; a rate that is not positive is no limit. -/
def perSecond? (rate : Float) : Option (RateLimit Nat Float) :=
  if 0 < rate then some ⟨rate, seconds⟩ else none

/-- The millisecond at which a wait that begins at `now` ends. -/
def wakeTime? (now : Nat) (wait : Float) : Option Nat :=
  (Decimal.nanoseconds? wait).map fun nanos => Clock.wakeTime now ((nanos + 999999) / 1000000)

end RateLimit

end RedemptionWatch
