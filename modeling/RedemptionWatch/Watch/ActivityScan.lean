import RedemptionWatch.Watch.Report
import RedemptionWatch.Watch.Retry

/-!
# Scanning activity listings

The activity in a range of blocks is listed in pages, each of which names the next one by a token. A
listing ends at a page without a token or with one that has come before. The cursor then moves to
the highest block that was listed, or to the end of the range if none was. A page that cannot be had
ends the scan, and the cursor stays where it is, for a listing cannot be taken up in the middle. If
the blocks up to the highest one cannot be counted the scan breaks off, after the cursor has moved.
-/

namespace RedemptionWatch

/-- A listing of which some pages have been read. -/
structure Listing where
  /-- The token of the page to read. -/
  token : Option String
  /-- The tokens that have come. -/
  seen : List String
  highest : Option UInt64
  report : ScanReport
  deriving Repr, Inhabited

/-- What a listing comes to that has ended and whose highest block is known. -/
def ScanReport.upTo (r : ScanReport) (last : UInt64) : Except WatchError ScanReport :=
  match r.range.reach last with
  | .error reason => .error (.broken reason)
  | .ok blocks => .ok { r with
      blocksProcessed := blocks
      lastBlock := some last
      complete := r.range.last ≤ last }

namespace Listing

/-- The listing of a range, before its first page. -/
def start (range : BlockRange) : Listing where
  token := none
  seen := []
  highest := none
  report := .start range

/-- The higher one of two blocks, if there is any. -/
def higher : Option UInt64 → Option UInt64 → Option UInt64
  | some a, some b => some (max a b)
  | some a, none => some a
  | none, b => b

variable (retry : RetryPolicy) (options : ScanOptions)

/-- The end of a listing whose highest block is known. -/
def finish (highest : Option UInt64) (report : ScanReport) :
    Watch.Act (Except WatchError ScanReport) := do
  let last := highest.getD report.range.last
  if options.persist then Watch.moveCursor last
  return report.upTo last

/-- Reads one page. -/
def next (l : Listing) : Watch.Act (Listing ⊕ Except WatchError ScanReport) := do
  if ← Watch.isCancelled then return .inr (.error .cancelled)
  match ← retry.execute (Watch.activity l.report.range l.token) with
  | .error .cancelled => return .inr (.error .cancelled)
  | .error _ => return .inr (.ok l.report.skipped)
  | .ok page =>
    let highest := higher l.highest page.highest
    let report ← l.report.recordAll page.candidates
    match page.next with
    | some token =>
      if token ∈ l.seen then return .inr (← finish options highest report)
      else return .inl { token := some token, seen := token :: l.seen, highest, report }
    | none => return .inr (← finish options highest report)

end Listing

end RedemptionWatch
