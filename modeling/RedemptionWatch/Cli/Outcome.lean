import RedemptionWatch.Cli.Invocation
import RedemptionWatch.Config.Settings
import RedemptionWatch.Store.Place
import RedemptionWatch.Watch.Summary

/-!
# Outcomes

What a command line comes to before and after the work itself. For a backfill, the settings of the
chain are looked up in the configuration and changed as the arguments say, and the report is shown,
or the reason why there is none. A service is begun if the address it is to listen on can be read.
Whatever is done needs the database.
-/

namespace RedemptionWatch.Cli

/-- Why a task was not carried out. -/
inductive Failure where
  /-- The configuration cannot be had, or is refused. -/
  | config (path : String)
  | unknownChain (chain path : String)
  /-- The endpoint that was given is refused. -/
  | endpoint (reason : ConfigError)
  /-- The scan failed. -/
  | scan (reason : WatchError)
  | database (fault : DatabaseFault)
  /-- The address to listen on cannot be read. -/
  | address
  deriving DecidableEq, Repr

/-- The text of a failure. -/
def Failure.message : Failure → String
  | config path => "Invalid watcher config " ++ path
  | unknownChain chain path => "Chain " ++ chain ++ " is not in " ++ path
  | endpoint reason => reason.message
  | scan _ => "Backfill failed"
  | database fault => fault.message
  | address => "Watcher failed: invalid socket address syntax"

/-- The settings of all watchers, from the text of the configuration if it could be had. -/
def Invocation.settings (i : Invocation) (text : Option String) :
    Except Failure (List Settings) :=
  match text.map Config.load with
  | some (.ok settings) => .ok settings
  | _ => .error (.config i.config)

namespace BackfillArguments

/-- The scan that is asked for. -/
def request (a : BackfillArguments) : BackfillRequest where
  range := ⟨a.first, a.last⟩
  pageSize := a.pageSize
  persist := a.persist

/-- The settings of the chain, changed as the arguments say. -/
def choose (a : BackfillArguments) (path : String) (all : List Settings) :
    Except Failure Settings :=
  match all.find? (·.chain = a.chain) with
  | none => .error (.unknownChain a.chain path)
  | some s => do
    let s ← match a.url.map s.withUrl with
      | some (.error reason) => throw (.endpoint reason)
      | some (.ok s) => pure s
      | none => pure s
    return { s with rateLimit := a.rateLimit.getD s.rateLimit }

end BackfillArguments

/-- The service that is asked for. -/
def RunArguments.service (a : RunArguments) (all : List Settings) : Except Failure Service :=
  let s : Service := {
    port := a.port, host := a.host, shutdownTimeout := a.shutdownTimeout, watchers := all }
  if s.hasAddress then .ok s else .error .address

/-- What is left to do once the command line and the configuration have been understood. -/
inductive Job where
  | serve (service : Service)
  | scan (settings : Settings) (request : BackfillRequest)
  deriving Repr

/-- The job of an invocation, given the text of the configuration, if it could be had, and what
comes of preparing the database. -/
def Invocation.job (i : Invocation) (text : Option String)
    (prepare : DatabasePlace → Except DatabaseFault Unit) : Except Failure Job := do
  let all ← i.settings text
  let database := (prepare (.of i.database)).mapError Failure.database
  match i.command with
  | .run a =>
    database
    return .serve (← a.service all)
  | .backfill a =>
    let settings ← a.choose i.config all
    database
    return .scan settings a.request

/-- How the program ends. -/
structure Outcome where
  code : Nat
  output : Option Json
  error : Option String
  deriving Repr

/-- The end of a task that was not carried out. -/
def Failure.outcome (f : Failure) : Outcome where
  code := 1
  output := none
  error := some ("Error: " ++ f.message)

/-- The end of a scan. The program breaks off if the scan does. -/
def scanOutcome : Except WatchError ScanReport → Outcome
  | .ok report => { code := 0, output := some report.json, error := none }
  | .error (.broken reason) => { code := 101, output := none, error := some reason.message }
  | .error reason => (Failure.scan reason).outcome

/-- The end of a command line that was not understood. -/
def UsageError.outcome (e : UsageError) : Outcome where
  code := if e = .help then 0 else 2
  output := none
  error := none

end RedemptionWatch.Cli
