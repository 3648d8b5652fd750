/-!
# Fetch errors

Why a request to an endpoint gave no answer, and what follows from it: a throttled request is tried
again within the attempts of a `RetryPolicy`, any other failure ends the unit of work at once.
-/

namespace RedemptionWatch

/-- Why a request to an endpoint gave no answer. -/
inductive FetchError where
  /-- The endpoint asked for fewer requests. -/
  | throttled (reason : String)
  /-- The network failed, or the endpoint answered with an error. -/
  | remote (reason : String)
  /-- The answer could not be read. -/
  | decode (reason : String)
  /-- The run was cancelled. -/
  | cancelled
  deriving DecidableEq, Repr, Inhabited

namespace FetchError

/-- The text of an error. -/
def message : FetchError → String
  | throttled reason => "throttled: " ++ reason
  | remote reason => "remote error: " ++ reason
  | decode reason => "decode error: " ++ reason
  | cancelled => "cancelled"

/-- May the same request succeed later? An answer that cannot be read stays so. -/
def isTransient : FetchError → Bool
  | throttled _ => true
  | remote _ => true
  | decode _ => false
  | cancelled => false

end FetchError

/-- What is done about a failed request. -/
inductive RetryAction where
  /-- Try again while attempts are left, then skip the unit of work. -/
  | retryThenSkip
  /-- Skip the unit of work. -/
  | skipNow
  /-- End the scan. -/
  | abort
  deriving DecidableEq, Repr

/-- What is done about this error. -/
def FetchError.action : FetchError → RetryAction
  | throttled _ => .retryThenSkip
  | remote _ => .skipNow
  | decode _ => .skipNow
  | cancelled => .abort

/-- How often a request is tried, and how many milliseconds pass between two attempts. -/
structure RetryPolicy where
  attempts : UInt32
  delay : Nat
  deriving DecidableEq, Repr

namespace RetryPolicy

/-- Ten attempts, five seconds apart. -/
def standard : RetryPolicy := ⟨10, 5000⟩

/-- A policy of at least one attempt. -/
def of (attempts : UInt32) (delay : Nat) : RetryPolicy :=
  ⟨max attempts 1, delay⟩

/-- The number of attempts after the first one. -/
def retries (p : RetryPolicy) : Nat :=
  p.attempts.toNat - 1

end RetryPolicy

end RedemptionWatch
