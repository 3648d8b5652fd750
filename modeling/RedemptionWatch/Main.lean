import RedemptionWatch.Json.Writer
import RedemptionWatch.Rehearsal.Job

/-!
# The program

Reads the command line and the configuration and shows what they come to: the report of a backfill
on standard output, or the reason why there is none on standard error. No network is linked in, so
every endpoint counts as one that cannot be reached, and records stay in memory.
-/

open RedemptionWatch

/-- The text of a file, if it can be read. -/
def readText (path : String) : IO (Option String) := do
  try
    return some (← IO.FS.readFile path)
  catch _ =>
    return none

/-- Carries out a command line. -/
def main (words : List String) : IO UInt32 := do
  let some outcome ← Rehearsal.commandLine .down () readText (fun _ => .ok ()) words
    | do
      IO.eprintln "The scan has not come to an end."
      return 1
  if let some report := outcome.output then IO.println report.text
  if let some reason := outcome.error then IO.eprintln reason
  return UInt32.ofNat outcome.code
