import RedemptionWatch.Watch.Report
import RedemptionWatch.Watch.Retry

/-!
# Scanning block by block

A range is scanned page by page and each page block by block, in ascending order. After each page
the cursor moves to its last block. A block that cannot be had is skipped, or, if the scan is to
stop at failures that may pass, ends the scan with the cursor right before it. If the pages cannot
be computed the scan breaks off.
-/

namespace RedemptionWatch.BlockScan

/-- How the scan of a page ended. -/
inductive Progress where
  /-- All its blocks are done. -/
  | done (report : ScanReport)
  /-- The scan ends at a block that failed. -/
  | stopped (report : ScanReport)
  | cancelled
  deriving DecidableEq, Repr

variable (retry : RetryPolicy) (options : ScanOptions)

/-- Ends the scan before block `number` of a page. The cursor moves only if the page has blocks
before it; for an earlier page it has moved already. -/
def stopBefore (page : BlockRange) (number : UInt64) (report : ScanReport) :
    Watch.Act ScanReport := do
  if 0 < number ∧ report.range.first ≤ number - 1 then
    if options.persist ∧ page.first ≤ number - 1 then Watch.moveCursor (number - 1)
    return { report with lastBlock := some (number - 1) }
  else return report

/-- Scans `count` blocks of a page from block `number` on. -/
def scanBlocks (page : BlockRange) : Nat → UInt64 → ScanReport → Watch.Act Progress
  | 0, _, report => return .done report
  | count + 1, number, report => do
    if ← Watch.isCancelled then return .cancelled
    match ← retry.execute (Watch.block number) with
    | .ok candidates =>
      let report ← report.recordAll (candidates.getD [])
      scanBlocks page count (number + 1) report.processed
    | .error .cancelled => return .cancelled
    | .error e =>
      if options.stopAtFailure ∧ e.isTransient then
        return .stopped (← stopBefore options page number report.skipped)
      else scanBlocks page count (number + 1) report.skipped

/-- Scans the next `count` pages from the page with this index on. -/
def scanPages : Nat → UInt64 → ScanReport → Watch.Act (Except WatchError ScanReport)
  | 0, _, report => return .ok { report with complete := true }
  | count + 1, index, report =>
    match report.range.page (BlockRange.pageSize options.pageSize) index with
    | .error reason => return .error (.broken reason)
    | .ok page => do
      match ← scanBlocks retry options page page.blockCount page.first report with
      | .cancelled => return .error .cancelled
      | .stopped report => return .ok report
      | .done report =>
        if options.persist then Watch.moveCursor page.last
        scanPages count (index + 1) { report with lastBlock := some page.last }

/-- Scans a range. -/
def scan (range : BlockRange) : Watch.Act (Except WatchError ScanReport) :=
  match range.countPages options.pageSize with
  | .error reason => return .error (.broken reason)
  | .ok count => scanPages retry options count.toNat 0 (.start range)

end RedemptionWatch.BlockScan
