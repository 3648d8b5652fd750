import RedemptionWatch.RateLimit.Clock

/-!
# Rehearsals of a rate limit

A bucket on a clock that moves while somebody waits for a token, or when it is told to.
-/

namespace RedemptionWatch.Rehearsal

/-- A limit, or none, and its bucket at a time in milliseconds. -/
structure Quota where
  limit : Option (RateLimit Nat Float)
  bucket : Bucket Nat Float
  now : Nat

namespace Quota

/-- A full bucket at time 0. -/
def start (rate : Float) : Quota :=
  let limit := RateLimit.perSecond? rate
  ⟨limit, (limit.map fun l => .full l 0).getD ⟨0, 0⟩, 0⟩

/-- Waits for a token and spends it. Fails if the wait is longer than a clock can count. -/
def take (q : Quota) : Option Quota :=
  match q.limit with
  | none => some q
  | some l =>
    match (q.bucket.refill l q.now).shortage? l with
    | none => some { q with bucket := q.bucket.take l q.now q.now }
    | some wait =>
      (RateLimit.wakeTime? q.now wait).map fun later =>
        { q with bucket := q.bucket.take l q.now later, now := later }

/-- Spends a token if there is a whole one. -/
def tryTake (q : Quota) : Bool × Quota :=
  match q.limit with
  | none => (true, q)
  | some l =>
    let (taken, bucket) := q.bucket.tryTake l q.now
    (taken, { q with bucket })

/-- Lets time pass. -/
def advance (q : Quota) (millis : Nat) : Quota :=
  { q with now := q.now + millis }

end Quota

end RedemptionWatch.Rehearsal
