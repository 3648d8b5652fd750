import RedemptionWatch.Clock
import RedemptionWatch.Rehearsal.Script
import RedemptionWatch.Watch.Watcher

/-!
# Rehearsals of one plan

A single plan runs against a script and books on a clock that moves only while the plan pauses. The
run is cancelled by the script, or at a given time.
-/

namespace RedemptionWatch.Rehearsal

/-- The surroundings of a plan that runs alone. -/
structure Solo where
  chain : String
  script : Script
  books : Books
  /-- Milliseconds since the start. -/
  now : Nat
  cancelled : Bool
  /-- When the run is cancelled. -/
  alarm : Option Nat

namespace Solo

/-- The time as a timestamp. -/
def time (s : Solo) : Timestamp :=
  .ofMillis (Int64.ofNat s.now)

/-- A pause. One that ends at the very time of the alarm has elapsed. -/
def pause (s : Solo) (millis : Nat) : PauseEnd × Solo :=
  let wake := Clock.wakeTime s.now millis
  if s.cancelled then (.interrupted, s)
  else match s.alarm with
    | some t =>
      if 0 < millis ∧ t < wake then
        (.interrupted, { s with now := max s.now t, cancelled := true })
      else (.elapsed, { s with now := wake })
    | none => (.elapsed, { s with now := wake })

/-- The answer to a request. -/
def answer (q : Watch.Request) : StateM Solo q.Answer := fun s =>
  match q with
  | .cursor fallback => (s.books.cursor s.chain fallback, s)
  | .latestBlock =>
    let (a, script) := s.script.latestBlock
    (a, { s with script })
  | .block number =>
    let (a, script) := s.script.block number
    (a, { s with script, cancelled := s.cancelled || s.script.cancelsAtBlock number })
  | .activity range token =>
    let (a, script) := s.script.activity range token
    (a, { s with script, cancelled := s.cancelled || s.script.cancelsAtPage })
  | .record c =>
    let (a, books) := s.books.record c s.time
    (a, { s with books })
  | .moveCursor block =>
    let (a, books) := s.books.moveCursor s.chain block s.time
    (a, { s with books })
  | .pause millis => s.pause millis
  | .isCancelled => (s.cancelled, s)
  | .publish _ => ((), s)

/-- Runs a plan to its end. -/
def run {α : Type} (s : Solo) (plan : Watch.Act α) : α × Solo :=
  (plan.run (P := Watch.interface) answer).run s

/-- Runs a loop for at most so many rounds. -/
def runLoop {σ α : Type} (s : Solo) (loop : Loop Watch.interface σ α) (rounds : Nat) (start : σ) :
    Option α × Solo :=
  (Loop.run loop answer rounds start).run s

/-- Scans a range, from the start cancelled or not. Every round of a listing brings a token that has
not come before, or is the last one. -/
def scan (s : Solo) (mode : ScanMode) (retry : RetryPolicy) (options : ScanOptions)
    (range : BlockRange) (cancelled : Bool) : Option (Except WatchError ScanReport) × Solo :=
  let s := { s with cancelled, script := { s.script with visits := #[] } }
  s.runLoop (mode.scan retry options) (s.script.pages.length + 2) (.start range)

end Solo

end RedemptionWatch.Rehearsal
