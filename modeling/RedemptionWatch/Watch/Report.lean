import RedemptionWatch.Watch.Interface

/-!
# Scan reports

What a scan of a range of blocks has done so far, and why a watcher may fail.
-/

namespace RedemptionWatch

/-- How a range is scanned. -/
structure ScanOptions where
  pageSize : UInt64
  /-- Move the cursor as pages are done. -/
  persist : Bool
  /-- End the scan at a block whose failure may pass, instead of skipping it. -/
  stopAtFailure : Bool
  deriving DecidableEq, Repr

/-- What a scan has done. -/
structure ScanReport where
  range : BlockRange
  blocksProcessed : UInt64
  blocksSkipped : UInt64
  candidates : UInt64
  recordsWritten : UInt64
  recordsRejected : UInt64
  /-- The last block up to which everything is done. -/
  lastBlock : Option UInt64
  /-- Was the whole range scanned? -/
  complete : Bool
  deriving DecidableEq, Repr, Inhabited

/-- Why a watcher failed. -/
inductive WatchError where
  | cursor (reason : StoreError)
  | cancelled
  | unknownChain (name : String)
  | invalidRange (reason : String)
  /-- It did not fail but broke off: there is no result at all. -/
  | broken (reason : Breakdown)
  deriving DecidableEq, Repr

/-- The text of an error. -/
def WatchError.message : WatchError → String
  | cursor reason => "failed to read cursor: " ++ reason.message
  | cancelled => "cancelled"
  | unknownChain name => "unknown chain: " ++ name
  | invalidRange reason => "invalid range: " ++ reason
  | broken reason => "watcher task failed: " ++ reason.message

namespace ScanReport

/-- The report of a scan that has done nothing yet. -/
def start (range : BlockRange) : ScanReport where
  range := range
  blocksProcessed := 0
  blocksSkipped := 0
  candidates := 0
  recordsWritten := 0
  recordsRejected := 0
  lastBlock := none
  complete := false

/-- One more block is processed. -/
def processed (r : ScanReport) : ScanReport :=
  { r with blocksProcessed := r.blocksProcessed + 1 }

/-- One more block is skipped. -/
def skipped (r : ScanReport) : ScanReport :=
  { r with blocksSkipped := r.blocksSkipped + 1 }

/-- One more candidate was handed to the store, which answered `outcome`. A failure of the store
counts as a rejection. -/
def recorded (r : ScanReport) (outcome : Except StoreError UpsertOutcome) : ScanReport :=
  match outcome with
  | .ok .written =>
    { r with candidates := r.candidates + 1, recordsWritten := r.recordsWritten + 1 }
  | _ => { r with candidates := r.candidates + 1, recordsRejected := r.recordsRejected + 1 }

/-- Hands candidates to the store one after the other. -/
def recordAll : ScanReport → List Candidate → Watch.Act ScanReport
  | r, [] => return r
  | r, c :: rest => do
    let outcome ← Watch.record c
    (r.recorded outcome).recordAll rest

end ScanReport

end RedemptionWatch
