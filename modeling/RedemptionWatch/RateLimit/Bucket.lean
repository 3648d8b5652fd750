/-!
# Token buckets

A bucket bounds how often something is done. It holds up to `max rate 1` tokens and gains `rate`
tokens a second; each deed spends one. Nothing here reads a clock: the time is passed in. Numbers
may be doubles, as when it runs, or rationals, in which the bound is exact.
-/

namespace RedemptionWatch

/-- How fast a bucket gains tokens, and how many seconds lie between two times. -/
structure RateLimit (T K : Type) where
  rate : K
  elapsed : T → T → K

/-- The tokens at hand, and when they were last counted. -/
structure Bucket (T K : Type) where
  tokens : K
  time : T
  deriving Repr

section

variable {T K : Type} [Add K] [Sub K] [Mul K] [Div K] [OfNat K 0] [OfNat K 1] [Min K] [Max K]
  [LE K] [DecidableLE K] [LT K] [DecidableLT K]

/-- The most tokens a bucket holds. -/
def RateLimit.capacity (l : RateLimit T K) : K :=
  max l.rate 1

namespace Bucket

/-- A full bucket. -/
def full (l : RateLimit T K) (now : T) : Bucket T K :=
  ⟨l.capacity, now⟩

/-- The bucket with what it has gained by `now`. -/
def refill (l : RateLimit T K) (b : Bucket T K) (now : T) : Bucket T K :=
  ⟨min (b.tokens + l.elapsed b.time now * l.rate) l.capacity, now⟩

/-- The seconds until there is a whole token, if there is none. -/
def shortage? (l : RateLimit T K) (b : Bucket T K) : Option K :=
  if b.tokens < 1 then some ((1 - b.tokens) / l.rate) else none

/-- The bucket with one token less. -/
def spend (b : Bucket T K) : Bucket T K :=
  { b with tokens := max (b.tokens - 1) 0 }

/-- Spends a token if there is a whole one. -/
def tryTake (l : RateLimit T K) (b : Bucket T K) (now : T) : Bool × Bucket T K :=
  let b := b.refill l now
  if 1 ≤ b.tokens then (true, { b with tokens := b.tokens - 1 }) else (false, b)

/-- The bucket after a token was taken that there was a whole one of at `now`, or only at `later`.
-/
def take (l : RateLimit T K) (b : Bucket T K) (now later : T) : Bucket T K :=
  let b := b.refill l now
  match b.shortage? l with
  | none => b.spend
  | some _ => (b.refill l later).spend

end Bucket

end

end RedemptionWatch
