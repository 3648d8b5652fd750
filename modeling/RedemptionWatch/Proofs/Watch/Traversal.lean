import RedemptionWatch.Proofs.Watch.Visits

/-!
# Scans by blocks visit their range in order

A scan by blocks that is not cancelled visits the blocks of its range from the first one on, each
once and in order, up to its last one or to the first one at which it stops
(`BlockScan.scan_traverses`). What it reports is counted from these visits. The size of its pages
and the moves of its cursor do not come in.
-/

namespace RedemptionWatch

open Watch (interface Cancelled isMove)

namespace BlockScan

/-! ## What a report says of visits -/

/-- A report counts visits, and does not yet say that the scan is complete. -/
structure Tallies (range : BlockRange) (visits : List Visit) (r : ScanReport) : Prop where
  range_eq : r.range = range
  processed : r.blocksProcessed = UInt64.ofNat (visits.countP Visit.isProcessed)
  skipped : r.blocksSkipped = UInt64.ofNat (visits.countP fun v => !v.isProcessed)
  candidates : r.candidates = UInt64.ofNat (visits.flatMap Visit.candidates).length
  unfinished : r.complete = false

variable {retry : RetryPolicy} {options : ScanOptions} {range : BlockRange} {r report : ScanReport}
  {v : Visit} {visits : List Visit} {log : Log interface} {result : Except WatchError ScanReport}

theorem tallies_start (range : BlockRange) : Tallies range [] (.start range) :=
  ⟨rfl, rfl, rfl, rfl, rfl⟩

/-- One more visit is counted. -/
theorem Tallies.snoc (h : Tallies range visits r) (hv : v.stored.length = v.candidates.length) :
    Tallies range (visits ++ [v]) (reportVisit r v) := by
  have hone (n : Nat) : UInt64.ofNat (n + 1) = UInt64.ofNat n + 1 := UInt64.ofNat_add n 1
  obtain ⟨hrange, hprocessed, hskipped, hcandidates, hunfinished⟩ := h
  obtain ⟨written, rejected, hstored⟩ := r.foldl_recorded v.stored
  cases hv' : v.isProcessed with
  | true =>
    have hreport : reportVisit r v = (v.stored.foldl ScanReport.recorded r).processed := if_pos hv'
    rw [hreport, hstored]
    refine ⟨hrange, ?_, ?_, ?_, hunfinished⟩
    · simp [ScanReport.processed, hprocessed, hv', hone]
    · simp [ScanReport.processed, hskipped, hv']
    · simp [ScanReport.processed, hcandidates, hv, UInt64.ofNat_add]
  | false =>
    have hreport : reportVisit r v = r.skipped := if_neg (hv' ▸ Bool.false_ne_true)
    have hnone := Visit.candidates_eq_nil hv'
    rw [hreport]
    refine ⟨hrange, ?_, ?_, ?_, hunfinished⟩
    · simp [ScanReport.skipped, hprocessed, hv']
    · simp [ScanReport.skipped, hskipped, hv', hone]
    · simp [ScanReport.skipped, hcandidates, hnone]

/-- After some visits the report counts them. -/
theorem tallies_foldl (hstores : ∀ v ∈ visits, v.stored.length = v.candidates.length) :
    Tallies range visits (visits.foldl reportVisit (.start range)) := by
  induction visits using List.reverseRecOn with
  | nil => exact tallies_start range
  | append_singleton visits v ih =>
    rw [List.foldl_append]
    exact (ih fun w hw => hstores w (List.mem_append_left _ hw)).snoc
      (hstores v (List.mem_append_right _ List.mem_cons_self))

theorem Tallies.toNat_counts (h : Tallies range visits r) (hlt : visits.length < 2 ^ 64) :
    r.blocksProcessed.toNat = visits.countP Visit.isProcessed ∧
      r.blocksSkipped.toNat = (visits.countP fun v => !v.isProcessed) ∧
      r.blocksProcessed.toNat + r.blocksSkipped.toNat = visits.length := by
  have hsum : visits.countP Visit.isProcessed + (visits.countP fun v => !v.isProcessed) =
      visits.length := by
    rw [List.length_eq_countP_add_countP Visit.isProcessed]
    simp
  have hprocessed : r.blocksProcessed.toNat = visits.countP Visit.isProcessed := by
    rw [h.processed]
    exact UInt64.toNat_ofNat_of_lt' (by unfold UInt64.size; omega)
  have hskipped : r.blocksSkipped.toNat = visits.countP fun v => !v.isProcessed := by
    rw [h.skipped]
    exact UInt64.toNat_ofNat_of_lt' (by unfold UInt64.size; omega)
  exact ⟨hprocessed, hskipped, by rw [hprocessed, hskipped, hsum]⟩

/-! ## The scan of a range -/

/-- The block at which a scan stops, if it does: the first one visited whose failure may pass, if
the scan is to stop at these. -/
def stop? (options : ScanOptions) (visits : List Visit) : Option UInt64 :=
  (visits.find? (·.stops options.stopAtFailure)).map (·.number)

/-- A scan of a range visits its blocks and reports this. -/
structure Traverses (retry : RetryPolicy) (options : ScanOptions) (range : BlockRange)
    (log : Log interface) (visits : List Visit) (report : ScanReport) : Prop where
  /-- Each block is one unit of work under the retry policy. -/
  made : ∀ v ∈ visits, v.Made retry
  /-- But for its cursor the scan does nothing else. -/
  log_eq : log.without isMove = visits.flatMap Visit.log
  stop_le : ∀ number ∈ stop? options visits, range.first ≤ number ∧ number ≤ range.last
  /-- The blocks are those of the range in order, up to the one at which it stops. -/
  numbers : visits.map (·.number) =
    BlockRange.blocks ⟨range.first, (stop? options visits).getD range.last⟩
  /-- Each candidate is handed to the store once, in the order of the blocks. -/
  recorded : Watch.recorded log = visits.flatMap Visit.candidates
  processed : report.blocksProcessed.toNat = visits.countP Visit.isProcessed
  skipped : report.blocksSkipped.toNat = visits.countP fun v => !v.isProcessed
  visited : report.blocksProcessed.toNat + report.blocksSkipped.toNat = visits.length
  candidates : report.candidates.toNat = (Watch.recorded log).length
  stored : report.recordsWritten.toNat + report.recordsRejected.toNat = (Watch.recorded log).length
  complete : report.complete = true ↔ stop? options visits = none
  lastBlock : report.lastBlock = match stop? options visits with
    | none => some range.last
    | some number => if range.first < number then some (number - 1) else none

theorem stop?_eq_none (hgoes : ∀ v ∈ visits, v.stops options.stopAtFailure = false) :
    stop? options visits = none := by
  have hfind : visits.find? (·.stops options.stopAtFailure) = none :=
    List.find?_eq_none.mpr fun v hv => by simp [hgoes v hv]
  rw [stop?, hfind, Option.map_none]

theorem stop?_snoc (hgoes : ∀ v ∈ visits, v.stops options.stopAtFailure = false)
    (hstops : v.stops options.stopAtFailure = true) :
    stop? options (visits ++ [v]) = some v.number := by
  have hfind : visits.find? (·.stops options.stopAtFailure) = none :=
    List.find?_eq_none.mpr fun v hv => by simp [hgoes v hv]
  rw [stop?, List.find?_append, hfind, Option.none_or, List.find?_singleton, if_pos hstops,
    Option.map_some]

/-- If a scan is not cancelled it ends with a report, and its visits end with the range or at a
block at which it stops. -/
theorem scan_visits (h : range.HasPages options.pageSize)
    (hlog : (scan retry options range).Logs log (.done result)) (hgoes : ¬Cancelled log) :
    ∃ visits report, result = .ok report ∧ Visits retry range.first visits ∧
      log.without isMove = visits.flatMap Visit.log ∧ visits.length ≤ range.blockCount ∧
      ((visits.length = range.blockCount ∧ stop? options visits = none ∧
          report = (visits.foldl reportVisit (.start range)).finished) ∨
        ∃ earlier v, visits = earlier ++ [v] ∧ stop? options visits = some v.number ∧
          report = (visits.foldl reportVisit (.start range)).before v.number) := by
  obtain ⟨visits, hvisits, hends⟩ := scan_logs h hlog
  rw [← Watch.cancelled_without] at hgoes
  generalize log.without isMove = walked at hends hgoes
  cases hends with
  | finished hlength hstops =>
    exact ⟨visits, _, rfl, hvisits, rfl, hlength.le, Or.inl ⟨hlength, stop?_eq_none hstops, rfl⟩⟩
  | @stopped earlier v hearlier hlength hstops hstop =>
    refine ⟨visits, _, rfl, hvisits, rfl, hlength, Or.inr ⟨earlier, v, hearlier, ?_, rfl⟩⟩
    rw [hearlier]
    exact stop?_snoc hstops hstop
  | cancelled _ _ htail =>
    exact absurd (Watch.cancelled_append.mpr (Or.inr htail.cancelled)) hgoes

/-- The answers of the store that a report counts are those for the candidates handed to it. -/
theorem stored_eq (hlog : (scan retry options range).Logs log (.done (.ok report)))
    (hlt : (Watch.recorded log).length < 2 ^ 64) :
    report.recordsWritten.toNat + report.recordsRejected.toNat = (Watch.recorded log).length := by
  have hsum := Watch.countP_isWritten_add_countP_isRejected log
  have hreports : ScanReport.Reports (.ok report) ([] ++ log) :=
    (hlog.respects (scan_respects range)).2
  rw [hreports.written, hreports.rejected, List.nil_append,
    UInt64.toNat_ofNat_of_lt' (by unfold UInt64.size; omega),
    UInt64.toNat_ofNat_of_lt' (by unfold UInt64.size; omega), hsum]

/-- The block visited last is one of the range, which up to it has as many blocks as were
visited. -/
theorem Visits.within {earlier : List Visit} (h : Visits retry range.first (earlier ++ [v]))
    (hle : range.first ≤ range.last) (hlength : (earlier ++ [v]).length ≤ range.blockCount) :
    (range.first ≤ v.number ∧ v.number ≤ range.last) ∧
      BlockRange.blockCount ⟨range.first, v.number⟩ = (earlier ++ [v]).length := by
  rw [List.length_append, List.length_singleton] at hlength
  have hfirst := UInt64.le_iff_toNat_le.mp hle
  have hlast := range.last.toNat_lt
  have hblocks := BlockRange.blockCount_eq hle
  have hnumber : v.number.toNat = range.first.toNat + earlier.length := h.toNat_last (by omega)
  have hwithin : range.first ≤ v.number ∧ v.number ≤ range.last := by
    rw [UInt64.le_iff_toNat_le, UInt64.le_iff_toNat_le]
    omega
  refine ⟨hwithin, ?_⟩
  rw [BlockRange.blockCount_eq hwithin.1, List.length_append, List.length_singleton]
  dsimp only
  omega

/-- **Scans by blocks visit their range in order.** A scan of a range with fewer than `2 ^ 64`
blocks and candidates that is not cancelled ends with a report: it visits the blocks of the range in
order, as `Traverses` says. -/
theorem scan_traverses (hle : range.first ≤ range.last) (hcount : range.blockCount < 2 ^ 64)
    (hlog : (scan retry options range).Logs log (.done result)) (hgoes : ¬Cancelled log)
    (hcandidates : (Watch.recorded log).length < 2 ^ 64) :
    ∃ visits report, result = .ok report ∧ Traverses retry options range log visits report := by
  have h : range.HasPages options.pageSize := .of_blockCount_lt hle hcount
  obtain ⟨visits, report, rfl, hvisits, heq, hlength, hends⟩ := scan_visits h hlog hgoes
  have hrecorded : Watch.recorded log = visits.flatMap Visit.candidates := by
    rw [← Watch.recorded_without, heq, hvisits.recorded_flatMap_log]
  have htallies : Tallies range visits (visits.foldl reportVisit (.start range)) :=
    tallies_foldl fun v hv => (hvisits.made v hv).stores
  obtain ⟨hprocessed, hskipped, hvisited⟩ := htallies.toNat_counts (hlength.trans_lt hcount)
  have hcounted : (visits.foldl reportVisit (.start range)).candidates.toNat =
      (Watch.recorded log).length := by
    rw [htallies.candidates, hrecorded]
    rw [hrecorded] at hcandidates
    exact UInt64.toNat_ofNat_of_lt' hcandidates
  have hstored := stored_eq hlog hcandidates
  refine ⟨visits, report, rfl, ?_⟩
  rcases hends with ⟨hall, hstop, rfl⟩ | ⟨earlier, v, rfl, hstop, rfl⟩
  · refine ⟨hvisits.made, heq, ?_, ?_, hrecorded, hprocessed, hskipped, hvisited, hcounted, hstored,
      iff_of_true rfl hstop, ?_⟩
    · rw [hstop]
      exact nofun
    · rw [hstop, hvisits.numbers, hall]
      rfl
    · rw [hstop]
      exact congrArg (some ·.last) htallies.range_eq
  · obtain ⟨hwithin, hupto⟩ := hvisits.within hle hlength
    refine ⟨hvisits.made, heq, ?_, ?_, hrecorded, hprocessed, hskipped, hvisited, hcounted, hstored,
      iff_of_false ?_ ?_, ?_⟩
    · rw [hstop]
      rintro _ ⟨⟩
      exact hwithin
    · rw [hstop, hvisits.numbers, ← hupto]
      rfl
    · exact Bool.eq_false_iff.mp htallies.unfinished
    · rw [hstop]
      exact nofun
    · rw [hstop]
      unfold ScanReport.before
      rw [htallies.range_eq]

/-- A scan of blocks 7 to 10 in pages of two that stops at block 9: block 7 has a redemption, block
8 cannot be read, and for block 9 the endpoint is throttled. -/
def sampleStop : Log interface :=
  [⟨.isCancelled, false⟩, ⟨.block 7, .ok (some [default])⟩, ⟨.record default, .ok .written⟩,
    ⟨.isCancelled, false⟩, ⟨.block 8, .error (.decode "no block")⟩, ⟨.moveCursor 8, .ok ()⟩,
    ⟨.isCancelled, false⟩, ⟨.block 9, .error (.throttled "slow down")⟩]

theorem not_cancelled_sampleStop : ¬Cancelled sampleStop := by
  rintro ⟨e, he, h⟩
  simp only [sampleStop, List.mem_cons, List.not_mem_nil, or_false] at he
  rcases he with rfl | rfl | rfl | rfl | rfl | rfl | rfl | rfl <;> revert h <;> decide

/-- Blocks 7, 8 and 9 are visited, and everything is done up to block 8. -/
theorem scan_traverses_sampleStop :
    ∃ visits report,
      (scan ⟨1, 0⟩ ⟨2, true, true⟩ ⟨7, 10⟩).Logs sampleStop (.done (.ok report)) ∧
      (7 : UInt64) ≤ 10 ∧ BlockRange.blockCount ⟨7, 10⟩ < 2 ^ 64 ∧ ¬Cancelled sampleStop ∧
      (Watch.recorded sampleStop).length < 2 ^ 64 ∧
      Traverses ⟨1, 0⟩ ⟨2, true, true⟩ ⟨7, 10⟩ sampleStop visits report ∧
      report.blocksProcessed = 1 ∧ report.blocksSkipped = 2 ∧ report.lastBlock = some 8 := by
  have hlog : (scan ⟨1, 0⟩ ⟨2, true, true⟩ ⟨7, 10⟩).Logs sampleStop (.done (.ok _)) :=
    .ask <| .ask <| .ask <| .ask <| .ask <| .ask <| .ask <| .ask <| .nil _
  have hle : (7 : UInt64) ≤ 10 := by decide
  have hcount : BlockRange.blockCount ⟨7, 10⟩ < 2 ^ 64 := by decide
  have hcandidates : (Watch.recorded sampleStop).length < 2 ^ 64 := by decide
  obtain ⟨visits, report, hreport, h⟩ :=
    scan_traverses hle hcount hlog not_cancelled_sampleStop hcandidates
  obtain rfl := Except.ok.inj hreport
  exact ⟨visits, _, hlog, hle, hcount, not_cancelled_sampleStop, hcandidates, h, rfl, rfl, rfl⟩

end BlockScan

end RedemptionWatch
