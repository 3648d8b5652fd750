import RedemptionWatch.Watch.Interface

/-!
# Retries

`RetryPolicy.execute` asks again while the answer is that the endpoint is throttled and attempts are
left. A pause that is interrupted ends it as cancelled; every other answer, and the last throttled
one, is passed on as it is.
-/

namespace RedemptionWatch

/-- Asks, and asks again at most `retries` times with a pause before each. -/
def Watch.attempt {α : Type} (ask : Watch.Act (Except FetchError α)) (delay : Nat) :
    Nat → Watch.Act (Except FetchError α)
  | 0 => ask
  | retries + 1 => do
    match ← ask with
    | .ok a => return .ok a
    | .error e =>
      match e.action with
      | .retryThenSkip =>
        match ← Watch.pause delay with
        | .interrupted => return .error .cancelled
        | .elapsed => Watch.attempt ask delay retries
      | _ => return .error e

/-- Asks under this policy. -/
def RetryPolicy.execute {α : Type} (p : RetryPolicy) (ask : Watch.Act (Except FetchError α)) :
    Watch.Act (Except FetchError α) :=
  Watch.attempt ask p.delay p.retries

end RedemptionWatch
