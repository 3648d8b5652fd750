import RedemptionWatch.Cli.Options
import RedemptionWatch.Service
import RedemptionWatch.Text.Real

/-!
# Invocations

The program either runs all watchers (`run`) or scans a range of one chain once (`backfiller`).
Where the configuration and the database lie may be said before the subcommand or after it; after it
counts.
-/

namespace RedemptionWatch.Cli

/-- What goes with `run`. -/
structure RunArguments where
  host : String
  port : UInt16
  /-- How many seconds watchers get to stop. -/
  shutdownTimeout : UInt64
  deriving DecidableEq, Repr

/-- What goes with `backfiller`. -/
structure BackfillArguments where
  network : String
  chain : String
  url : Option String
  first : UInt64
  last : UInt64
  rateLimit : Option Float
  pageSize : Option UInt64
  /-- Move the cursor as pages are done. -/
  persist : Bool
  deriving Repr

/-- What is to be done. -/
inductive Command where
  | run (arguments : RunArguments)
  | backfill (arguments : BackfillArguments)
  deriving Repr

/-- A command line that has been understood. -/
structure Invocation where
  config : String
  database : String
  command : Command
  deriving Repr

/-- The usual place of the configuration. -/
def usualConfig : String := "config/watchers.json"

/-- The usual place of the database. -/
def usualDatabase : String := "./watcher-data/watcher.db"

/-- A port. A zero may have a minus. -/
def port? (s : String) : Option UInt16 :=
  match s.toList with
  | '-' :: ds => if Text.Numeral.digits? 10 ds = some 0 then some 0 else none
  | _ => Text.Numeral.uint16? s

/-- Options that may stand anywhere. -/
def commonOptions : List (String × Arity) :=
  [("config", anyText), ("database-url", anyText), ("help", .help)]

/-- The words before a subcommand. -/
def topLevel : Grammar where
  options := commonOptions
  subcommands := ["run", "backfiller", "help"]

/-- The words after `run`. -/
def runWords : Grammar where
  options := [("host", anyText), ("port", readBy port?),
    ("shutdown-timeout", readBy Text.Numeral.uint64?)] ++ commonOptions
  subcommands := []

/-- The words after `backfiller`. -/
def backfillWords : Grammar where
  options := [("network", oneOf ["mainnet", "testnet"]), ("chain-name", anyText),
    ("chain-url", anyText), ("from", readBy Text.Numeral.uint64?),
    ("to", readBy Text.Numeral.uint64?), ("rate-limit", readBy Text.Real.parse?),
    ("page-size", readBy Text.Numeral.uint64?), ("persist-blocks", .flag)] ++ commonOptions
  subcommands := []

/-- A number that has been accepted as one. -/
def number (r : Reading) (name : String) (usual : UInt64) : UInt64 :=
  ((r.get? name).bind Text.Numeral.uint64?).getD usual

/-- What was said after `run`. -/
def RunArguments.of (r : Reading) : RunArguments where
  host := (r.get? "host").getD Service.usual.host
  port := ((r.get? "port").bind port?).getD Service.usual.port
  shutdownTimeout := number r "shutdown-timeout" Service.usual.shutdownTimeout

/-- What was said after `backfiller`. -/
def BackfillArguments.of (r : Reading) : BackfillArguments where
  network := (r.get? "network").getD "mainnet"
  chain := (r.get? "chain-name").getD ""
  url := r.get? "chain-url"
  first := number r "from" 0
  last := number r "to" 0
  rateLimit := (r.get? "rate-limit").bind Text.Real.parse?
  pageSize := (r.get? "page-size").bind Text.Numeral.uint64?
  persist := (r.get? "persist-blocks").isSome

/-- The words after `help` are the name of a subcommand, or none. -/
def helpError (words : List String) : UsageError :=
  match words with
  | [] => .help
  | [word] => if word ∈ topLevel.subcommands then .help else .invalidSubcommand
  | _ => .invalidSubcommand

/-- The command of a subcommand, and how its words were read. -/
def commandOf (subcommand : Subcommand) : Except UsageError (Command × Reading) := do
  let (name, words) := subcommand
  if name = "run" then
    let r ← runWords.readAll [] words
    return (.run (.of r), r)
  else if name = "backfiller" then
    let r ← backfillWords.readAll ["chain-name", "from", "to"] words
    return (.backfill (.of r), r)
  else throw (helpError words)

/-- The error of a command line without a subcommand. -/
def lacking (r : Reading) : UsageError :=
  if r.given.isEmpty then .nothingGiven else .missingSubcommand

/-- Understands the words after the name of the program. -/
def Invocation.of (words : List String) : Except UsageError Invocation := do
  let (top, subcommand) ← topLevel.read .start words
  match subcommand with
  | none => throw (lacking top)
  | some subcommand =>
    let (command, own) ← commandOf subcommand
    let top ← top.settle
    let said (name usual : String) : String :=
      ((own.get? name).orElse fun _ => top.get? name).getD usual
    return {
      config := said "config" usualConfig
      database := said "database-url" usualDatabase
      command }

end RedemptionWatch.Cli
