/-!
# Clocks

Time is counted in whole milliseconds. A clock does not look further ahead than thirty years.
-/

namespace RedemptionWatch.Clock

/-- Thirty years of 365 days. -/
def horizon : Nat := 30 * 365 * 86400000

/-- When a pause of so many milliseconds ends that begins at `now`. A longer one than the clock can
look ahead ends at its horizon. -/
def wakeTime (now millis : Nat) : Nat :=
  now + min millis horizon

end RedemptionWatch.Clock
