import RedemptionWatch.Json.Basic
import RedemptionWatch.Watch.Report

/-!
# Reports as JSON
-/

namespace RedemptionWatch

/-- A report as it is shown to users. -/
def ScanReport.json (r : ScanReport) : Json :=
  .object [
    ("from_block", .ofUInt64 r.range.first),
    ("to_block", .ofUInt64 r.range.last),
    ("blocks_processed", .ofUInt64 r.blocksProcessed),
    ("blocks_skipped", .ofUInt64 r.blocksSkipped),
    ("candidates", .ofUInt64 r.candidates),
    ("records_written", .ofUInt64 r.recordsWritten),
    ("records_rejected", .ofUInt64 r.recordsRejected),
    ("last_block", (r.lastBlock.map Json.ofUInt64).getD .null),
    ("complete", .bool r.complete)]

end RedemptionWatch
