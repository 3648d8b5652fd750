import RedemptionWatch.Cli.Outcome
import RedemptionWatch.Rehearsal.Remote

/-!
# Rehearsals of jobs

What a command line comes to over given endpoints, with an empty database and on a clock that jumps
from pause to pause. A service is begun and ended at once.
-/

namespace RedemptionWatch.Rehearsal

variable {ρ : Type}

/-- The outcome of a job; `none` if its scan has not come to an end within the rounds that a listing
may have. -/
def outcome (n : Network ρ) (remote : ρ) : Cli.Job → Option Cli.Outcome
  | .serve _ => some { code := 0, output := none, error := none }
  | .scan settings request =>
    let world := World.ofSettings n remote [settings] (.on (.sql .empty))
    (world.backfill settings.chain request).1.map Cli.scanOutcome

/-- The outcome of a command line, given how the text of a file is had and what comes of preparing a
database. -/
def commandLine {m : Type → Type} [Monad m] (n : Network ρ) (remote : ρ)
    (readFile : String → m (Option String)) (prepare : DatabasePlace → Except DatabaseFault Unit)
    (words : List String) : m (Option Cli.Outcome) := do
  match Cli.Invocation.of words with
  | .error e => return some e.outcome
  | .ok i =>
    match i.job (← readFile i.config) prepare with
    | .error f => return some f.outcome
    | .ok job => return outcome n remote job

end RedemptionWatch.Rehearsal
