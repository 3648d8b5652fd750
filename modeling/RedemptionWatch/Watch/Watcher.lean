import RedemptionWatch.Watch.ActivityScan
import RedemptionWatch.Watch.BlockScan

/-!
# Watchers

A watcher follows one chain. Its live loop (`Watcher.live`) reads the cursor, then polls: it asks
for the latest block, scans what lies between, and waits once it has caught up or could not go on.
Only a cursor that cannot be read ends it with an error. If a scan breaks off, so does the loop. A
backfill (`Watcher.backfill`) is one scan of a given range.
-/

namespace RedemptionWatch

/-- How a chain is scanned. -/
inductive ScanMode where
  /-- Block by block. -/
  | blocks
  /-- By its activity listings. -/
  | activity
  deriving DecidableEq, Repr

/-- The settings of a watcher. -/
structure Watcher where
  chain : String
  chainId : ChainId
  /-- The kind of chain, by name. -/
  family : String
  mode : ScanMode
  /-- The page size of scans. -/
  pageSize : UInt64
  /-- Milliseconds between two polls. -/
  wait : Nat
  /-- Where the live loop starts if no cursor was written. -/
  initialBlock : UInt64
  retry : RetryPolicy
  deriving DecidableEq, Repr

/-- A request to scan a range once. -/
structure BackfillRequest where
  range : BlockRange
  pageSize : Option UInt64
  /-- Move the cursor as pages are done. -/
  persist : Bool
  deriving DecidableEq, Repr

/-- A range has to start before it ends, and a page has at least one block. -/
def BackfillRequest.validate (r : BackfillRequest) : Except WatchError Unit :=
  if r.range.last < r.range.first then
    .error (.invalidRange ("fromBlock " ++ toString r.range.first.toNat ++ " is after toBlock " ++
      toString r.range.last.toNat))
  else if r.pageSize = some 0 then .error (.invalidRange "pageSize must be at least 1")
  else .ok ()

/-- The scan of a range in the given mode. It is kept as a listing, of which a scan by blocks uses
the range alone. -/
def ScanMode.scan (mode : ScanMode) (retry : RetryPolicy) (options : ScanOptions) :
    Loop Watch.interface Listing (Except WatchError ScanReport) := fun l =>
  match mode with
  | blocks => Sum.inr <$> BlockScan.scan retry options l.report.range
  | activity => l.next retry options

namespace Watcher

/-- Where a live loop stands. -/
inductive Stage where
  | start
  /-- Everything before this block is done. -/
  | poll (position : UInt64)
  /-- A scan from this block on is under way. -/
  | scan (position : UInt64) (listing : Listing)
  /-- The loop broke off. It does nothing more, does not show that it is closed, and has no
  result. -/
  | broken (reason : Breakdown)
  deriving Repr, Inhabited

/-- What a live loop goes on with, or how it ended. -/
abbrev Turn := Stage ⊕ Except WatchError Unit

variable (w : Watcher)

/-- How the live loop scans. -/
def liveOptions : ScanOptions where
  pageSize := w.pageSize
  persist := true
  stopAtFailure := true

/-- Ends the loop. -/
def close (result : Except WatchError Unit) : Watch.Act Turn := do
  Watch.publish .closed
  return .inr result

/-- Waits before the next poll. -/
def rest (position : UInt64) : Watch.Act Turn := do
  Watch.publish .waiting
  match ← Watch.pause w.wait with
  | .elapsed => return .inl (.poll position)
  | .interrupted => close (.ok ())

/-- Asks for the latest block, and scans up to it if it lies ahead. -/
def poll (position : UInt64) : Watch.Act Turn := do
  if ← Watch.isCancelled then close (.ok ())
  else
    Watch.publish .polling
    match ← w.retry.execute Watch.latestBlock with
    | .error .cancelled => close (.ok ())
    | .error _ => w.rest position
    | .ok head =>
      if position < head then return .inl (.scan position (.start ⟨position, head⟩))
      else w.rest position

/-- What follows a scan: the next poll if it was complete, else a wait before it. A scan that broke
off breaks off the loop. -/
def afterScan (position : UInt64) : Except WatchError ScanReport → Watch.Act Turn
  | .error .cancelled => close (.ok ())
  | .error (.broken reason) => return .inl (.broken reason)
  | .error e => close (.error e)
  | .ok report =>
    let position := max position (report.lastBlock.getD position)
    if report.complete then return .inl (.poll position) else w.rest position

/-- The live loop. -/
def live : Loop Watch.interface Stage (Except WatchError Unit)
  | .start => do
    match ← Watch.cursor w.initialBlock with
    | .ok position => return .inl (.poll position)
    | .error e => close (.error (.cursor e))
  | .poll position => w.poll position
  | .scan position listing => do
    match ← w.mode.scan w.retry w.liveOptions listing with
    | .inl listing => return .inl (.scan position listing)
    | .inr result => w.afterScan position result
  | .broken reason => return .inl (.broken reason)

/-- How a backfill scans. -/
def backfillOptions (r : BackfillRequest) : ScanOptions where
  pageSize := r.pageSize.getD w.pageSize
  persist := r.persist
  stopAtFailure := false

/-- The scan that a request asks for. -/
def backfill (r : BackfillRequest) : Loop Watch.interface Listing (Except WatchError ScanReport) :=
  fun l =>
    match r.validate with
    | .error e => return .inr (.error e)
    | .ok () => w.mode.scan w.retry (w.backfillOptions r) l

end Watcher

end RedemptionWatch
