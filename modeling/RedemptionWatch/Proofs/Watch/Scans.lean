import RedemptionWatch.Proofs.Plan.Rules
import RedemptionWatch.Watch.Watcher

/-!
# What scans ask and report

A scan, block by block or by a listing, asks for what it scans, hands candidates to the store, moves
the cursor, pauses, and looks whether it has been cancelled (`Watch.Request.isScan`). Nothing but a
cancellation ends it with an error, unless it breaks off, and its report counts how the store
answered (`ScanMode.logs_reported`).
-/

namespace RedemptionWatch

namespace Watch

/-! ## Events of scans -/

/-- May a scan make the request? Only live loops read the cursor, ask for the latest block and show
their state. -/
def Request.isScan : Request → Bool
  | cursor _ | latestBlock | publish _ => false
  | _ => true

/-- Was a candidate written? -/
def isWritten : Event interface → Bool
  | ⟨.record _, .ok .written⟩ => true
  | _ => false

/-- Was a candidate not written, because the store rejected it or failed? -/
def isRejected : Event interface → Bool
  | ⟨.record _, .ok .written⟩ => false
  | ⟨.record _, _⟩ => true
  | _ => false

/-- Has the watcher learned that it has been cancelled? -/
def showsCancelled : Event interface → Bool
  | ⟨.isCancelled, answer⟩ => answer
  | ⟨.pause _, .interrupted⟩ => true
  | _ => false

/-- Why the endpoint gave no answer. -/
def failure? : Event interface → Option FetchError
  | ⟨.latestBlock, .error e⟩ => some e
  | ⟨.block _, .error e⟩ => some e
  | ⟨.activity _ _, .error e⟩ => some e
  | _ => none

/-- The watcher has learned that it has been cancelled, or the endpoint has told it so. -/
def Cancelled (log : Log interface) : Prop :=
  ∃ e ∈ log, showsCancelled e = true ∨ failure? e = some .cancelled

theorem Cancelled.of_snoc {log : Log interface} {e : Event interface}
    (h : showsCancelled e = true ∨ failure? e = some .cancelled) : Cancelled (log ++ [e]) :=
  ⟨e, by simp, h⟩

theorem Cancelled.append {log : Log interface} (h : Cancelled log) (events : Log interface) :
    Cancelled (log ++ events) := by
  obtain ⟨e, he, hcancelled⟩ := h
  exact ⟨e, List.mem_append_left _ he, hcancelled⟩

/-! ## Retries and records -/

variable {α : Type} {rule : Log interface → Request → Prop} {log : Log interface}

/-- Retries respect what asking again after a pause respects. -/
theorem attempt_respects {ask : Act (Except FetchError α)} {keeps : Log interface → Prop}
    {post : Except FetchError α → Log interface → Prop} {delay : Nat}
    (hask : ∀ log, keeps log → ask.Respects rule post log)
    (hthrottled : ∀ reason log, post (.error (.throttled reason)) log → rule log (.pause delay) ∧
      keeps (log ++ [⟨.pause delay, .elapsed⟩]) ∧
      post (.error .cancelled) (log ++ [⟨.pause delay, .interrupted⟩])) (retries : Nat)
    (h : keeps log) : (attempt ask delay retries).Respects rule post log := by
  induction retries generalizing log with
  | zero => exact hask log h
  | succ retries ih =>
    refine (hask log h).bind ?_
    rintro (e | a) log' hpost
    · cases e with
      | throttled reason =>
        obtain ⟨hrule, helapsed, hinterrupted⟩ := hthrottled reason log' hpost
        refine ⟨hrule, ?_⟩
        rintro (_ | _)
        · exact ih helapsed
        · exact hinterrupted
      | remote reason => exact hpost
      | decode reason => exact hpost
      | cancelled => exact hpost
    · exact hpost

/-- Something is kept, and if the answer is that the watcher has been cancelled, the log says so. -/
def Keeping (keeps : Log interface → Prop) (a : Except FetchError α) (log : Log interface) : Prop :=
  keeps log ∧ (a = .error .cancelled → Cancelled log)

/-- Asking under a policy keeps what pauses and each attempt keep. -/
theorem execute_respects {ask : Act (Except FetchError α)} {keeps : Log interface → Prop}
    (retry : RetryPolicy)
    (hpause : ∀ log millis a, keeps log →
      rule log (.pause millis) ∧ keeps (log ++ [⟨.pause millis, a⟩]))
    (hask : ∀ log, keeps log → ask.Respects rule (Keeping keeps) log) (h : keeps log) :
    (retry.execute ask).Respects rule (Keeping keeps) log := by
  refine attempt_respects hask ?_ retry.retries h
  rintro reason log' ⟨hkeeps, -⟩
  obtain ⟨hrule, helapsed⟩ := hpause log' retry.delay .elapsed hkeeps
  obtain ⟨-, hinterrupted⟩ := hpause log' retry.delay .interrupted hkeeps
  exact ⟨hrule, helapsed, hinterrupted, fun _ => .of_snoc (.inl rfl)⟩

end Watch

namespace ScanReport

variable {rule : Log Watch.interface → Watch.Request → Prop} {log : Log Watch.interface}
  {r : ScanReport}

/-- If each candidate in turn may be recorded, all are recorded. -/
theorem recordAll_respects (left : ScanReport → List Candidate → Log Watch.interface → Prop)
    (hrecord : ∀ r c rest log, left r (c :: rest) log → rule log (.record c) ∧
      ∀ outcome, left (r.recorded outcome) rest (log ++ [⟨.record c, outcome⟩]))
    {cs : List Candidate} (h : left r cs log) :
    (r.recordAll cs).Respects rule (fun r' log' => left r' [] log') log := by
  induction cs generalizing r log with
  | nil => exact h
  | cons c rest ih =>
    obtain ⟨hrule, hrest⟩ := hrecord r c rest log h
    exact ⟨hrule, fun outcome => ih (hrest outcome)⟩

/-! ## Counts -/

/-- The report counts which candidates of the log were written and which were not. -/
structure Counts (r : ScanReport) (log : Log Watch.interface) : Prop where
  written : r.recordsWritten = UInt64.ofNat (log.countP Watch.isWritten)
  rejected : r.recordsRejected = UInt64.ofNat (log.countP Watch.isRejected)

theorem counts_start (range : BlockRange) : (ScanReport.start range).Counts [] :=
  ⟨rfl, rfl⟩

/-- Other events are not counted. -/
theorem Counts.snoc (h : r.Counts log) {e : Event Watch.interface}
    (hwritten : Watch.isWritten e = false) (hrejected : Watch.isRejected e = false) :
    r.Counts (log ++ [e]) := by
  refine ⟨?_, ?_⟩
  · rw [h.written, List.countP_append, List.countP_singleton, hwritten]
    rfl
  · rw [h.rejected, List.countP_append, List.countP_singleton, hrejected]
    rfl

theorem Counts.record (h : r.Counts log) (c : Candidate)
    (outcome : Except StoreError UpsertOutcome) :
    (r.recorded outcome).Counts (log ++ [⟨.record c, outcome⟩]) := by
  have hone (n : Nat) : UInt64.ofNat (n + 1) = UInt64.ofNat n + 1 := UInt64.ofNat_add n 1
  obtain ⟨hwritten, hrejected⟩ := h
  rcases outcome with e | (_ | _)
  all_goals
    refine ⟨?_, ?_⟩
    · rw [List.countP_append, List.countP_singleton]
      simp [ScanReport.recorded, Watch.isWritten, hwritten, hone]
    · rw [List.countP_append, List.countP_singleton]
      simp [ScanReport.recorded, Watch.isRejected, hrejected, hone]

end ScanReport

/-! ## Scans -/

/-- What the result of a scan says of its log. -/
def ScanReport.Reports : Except WatchError ScanReport → Log Watch.interface → Prop
  | .ok r, log => r.Counts log
  | .error e, log => e = .cancelled ∧ Watch.Cancelled log ∨ ∃ reason, e = .broken reason

namespace Watch

/-- Scans make their requests at any time. -/
abbrev scanRule (_ : Log interface) (q : interface.Request) : Prop :=
  Request.isScan q = true

variable {log : Log interface} {r : ScanReport}

/-- The answer of an endpoint leaves the counts, and a scan that ends by it knows why. -/
abbrev Answered {α : Type} (r : ScanReport) : Except FetchError α → Log interface → Prop :=
  Keeping fun log => r.Counts log

theorem execute_counts {α : Type} {ask : Act (Except FetchError α)} (retry : RetryPolicy)
    (hask : ∀ log, r.Counts log → ask.Respects scanRule (Answered r) log) (h : r.Counts log) :
    (retry.execute ask).Respects scanRule (Answered r) log :=
  execute_respects retry (fun _ _ _ h => ⟨rfl, h.snoc rfl rfl⟩) hask h

theorem block_respects (number : UInt64) (h : r.Counts log) :
    (block number).Respects scanRule (Answered r) log := by
  refine ⟨rfl, fun a => ⟨h.snoc rfl rfl, ?_⟩⟩
  rintro rfl
  exact .of_snoc (.inr rfl)

theorem activity_respects (range : BlockRange) (token : Option String) (h : r.Counts log) :
    (activity range token).Respects scanRule (Answered r) log := by
  refine ⟨rfl, fun a => ⟨h.snoc rfl rfl, ?_⟩⟩
  rintro rfl
  exact .of_snoc (.inr rfl)

end Watch

open Watch (scanRule)

variable {retry : RetryPolicy} {options : ScanOptions} {log : Log Watch.interface} {r : ScanReport}

/-- Recording candidates counts them. -/
theorem ScanReport.counts_recordAll (h : r.Counts log) (cs : List Candidate) :
    (r.recordAll cs).Respects scanRule ScanReport.Counts log :=
  recordAll_respects (fun r _ log => r.Counts log) (fun _ c _ _ h => ⟨rfl, h.record c⟩) h

namespace BlockScan

/-- What the end of a page says of the log. -/
def Progress.Reports : Progress → Log Watch.interface → Prop
  | .done r, log => r.Counts log
  | .stopped r, log => r.Counts log
  | .cancelled, log => Watch.Cancelled log

theorem stopBefore_respects (h : r.Counts log) (page : BlockRange) (number : UInt64) :
    (stopBefore options page number r).Respects scanRule ScanReport.Counts log := by
  unfold stopBefore
  split_ifs
  · exact ⟨rfl, fun a => ⟨(h.snoc rfl rfl).written, (h.snoc rfl rfl).rejected⟩⟩
  · exact ⟨h.written, h.rejected⟩
  · exact h

theorem scanBlocks_respects (h : r.Counts log) (page : BlockRange) (count : Nat) (number : UInt64) :
    (scanBlocks retry options page count number r).Respects scanRule Progress.Reports log := by
  induction count generalizing number r log with
  | zero => exact h
  | succ count ih =>
    refine ⟨rfl, ?_⟩
    rintro (_ | _)
    · refine (Watch.execute_counts retry (fun _ h => Watch.block_respects number h)
        (h.snoc rfl rfl)).bind ?_
      rintro (e | found) log' ⟨hcounts, hcancelled⟩
      · have hskipped : r.skipped.Counts log' := ⟨hcounts.written, hcounts.rejected⟩
        have hfailed : (if options.stopAtFailure = true ∧ e.isTransient = true then
            stopBefore options page number r.skipped >>= fun r => pure (Progress.stopped r)
          else scanBlocks retry options page count (number + 1) r.skipped).Respects scanRule
            Progress.Reports log' := by
          split_ifs
          · exact (stopBefore_respects hskipped page number).bind fun _ _ h => h
          · exact ih hskipped (number + 1)
        cases e with
        | cancelled => exact hcancelled rfl
        | throttled reason | remote reason | decode reason => exact hfailed
      · refine (ScanReport.counts_recordAll hcounts _).bind fun r' log'' h => ?_
        have hprocessed : r'.processed.Counts log'' := ⟨h.written, h.rejected⟩
        exact ih hprocessed (number + 1)
    · exact .of_snoc (.inl rfl)

theorem scanPages_respects (h : r.Counts log) (count : Nat) (index : UInt64) :
    (scanPages retry options count index r).Respects scanRule ScanReport.Reports log := by
  induction count generalizing index r log with
  | zero => exact ⟨h.written, h.rejected⟩
  | succ count ih =>
    rw [scanPages]
    cases r.range.page (BlockRange.pageSize options.pageSize) index with
    | error reason => exact Or.inr ⟨reason, rfl⟩
    | ok page =>
      refine (scanBlocks_respects h _ _ _).bind ?_
      rintro (r' | r' | _) log' hreports
      · have hrest : ∀ log, r'.Counts log → (scanPages retry options count (index + 1)
            { r' with lastBlock := some page.last }).Respects scanRule ScanReport.Reports log := by
          intro log h
          have hreached : { r' with lastBlock := some page.last }.Counts log :=
            ⟨h.written, h.rejected⟩
          exact ih hreached (index + 1)
        have hcounts : r'.Counts log' := hreports
        dsimp only
        split_ifs
        · exact ⟨rfl, fun a => hrest _ (hcounts.snoc rfl rfl)⟩
        · exact hrest log' hcounts
      · exact hreports
      · exact Or.inl ⟨rfl, hreports⟩

theorem scan_respects (range : BlockRange) :
    (scan retry options range).Respects scanRule ScanReport.Reports [] := by
  unfold scan
  cases range.countPages options.pageSize with
  | error reason => exact Or.inr ⟨reason, rfl⟩
  | ok count => exact scanPages_respects (ScanReport.counts_start range) _ 0

end BlockScan

namespace Listing

variable {l : Listing}

/-- What a page of a listing says of the log. -/
def Reports (next : Listing ⊕ Except WatchError ScanReport) (log : Log Watch.interface) : Prop :=
  next.elim (·.report.Counts log) (ScanReport.Reports · log)

/-- A scan that has ended counts what it counted before, if the report can be made. -/
theorem reports_upTo (h : r.Counts log) (last : UInt64) :
    ScanReport.Reports (r.upTo last) log := by
  unfold ScanReport.upTo
  cases r.range.reach last with
  | error reason => exact Or.inr ⟨reason, rfl⟩
  | ok blocks => exact ⟨h.written, h.rejected⟩

theorem finish_respects (h : r.Counts log) (highest : Option UInt64) :
    (finish options highest r).Respects scanRule ScanReport.Reports log := by
  unfold finish
  split_ifs
  · exact ⟨rfl, fun a => reports_upTo (h.snoc rfl rfl) _⟩
  · exact reports_upTo h _

theorem next_respects (h : l.report.Counts log) :
    (l.next retry options).Respects scanRule Reports log := by
  refine ⟨rfl, ?_⟩
  rintro (_ | _)
  · refine (Watch.execute_counts retry (fun _ h => Watch.activity_respects _ _ h)
      (h.snoc rfl rfl)).bind ?_
    rintro (e | page) log' ⟨hcounts, hcancelled⟩
    · cases e with
      | cancelled => exact Or.inl ⟨rfl, hcancelled rfl⟩
      | throttled reason | remote reason | decode reason =>
        exact ⟨hcounts.written, hcounts.rejected⟩
    · refine (ScanReport.counts_recordAll hcounts _).bind fun r' log'' h => ?_
      have hfinish : (finish options (higher l.highest page.highest) r' >>= fun r =>
          pure (Sum.inr r)).Respects scanRule Reports log'' :=
        (finish_respects h _).bind fun _ _ h => h
      cases page.next with
      | none => exact hfinish
      | some token =>
        dsimp only
        split_ifs
        · exact hfinish
        · exact h
  · exact Or.inl ⟨rfl, .of_snoc (.inl rfl)⟩

end Listing

namespace ScanMode

variable {mode : ScanMode} {l : Listing} {range : BlockRange}

/-- Between two rounds of a scan its report counts what was recorded. A scan by blocks has a single
round, and so it has not begun. -/
def Between : ScanMode → Listing → Log Watch.interface → Prop
  | .blocks, _, log => log = []
  | .activity, l, log => l.report.Counts log

/-- What holds after a round of a scan. -/
abbrev AfterRound (mode : ScanMode) (next : Listing ⊕ Except WatchError ScanReport)
    (log : Log Watch.interface) : Prop :=
  next.elim (mode.Between · log) (ScanReport.Reports · log)

theorem scan_respects (h : mode.Between l log) :
    (mode.scan retry options l).Respects scanRule mode.AfterRound log := by
  cases mode with
  | blocks =>
    cases h
    exact (BlockScan.scan_respects _).bind fun _ _ h => h
  | activity => exact Listing.next_respects h

/-- Every scan makes the requests of scans only. If it ends with a report, this counts which
candidates were written and which were not; else the watcher has learned that it was cancelled, or
the scan has broken off. -/
theorem logs_reported {p : Watch.Act (Listing ⊕ Except WatchError ScanReport)}
    (h : Loop.Logs (mode.scan retry options) (.done (.inl (.start range))) log p) :
    (∀ e ∈ log, Watch.Request.isScan e.request = true) ∧
      p.Respects scanRule mode.AfterRound log := by
  have hstart : mode.Between (.start range) [] := by
    cases mode with
    | blocks => rfl
    | activity => exact ScanReport.counts_start range
  obtain ⟨hkeeps, hp⟩ := h.respects mode.Between ScanReport.Reports
    (fun l log _ h => scan_respects h) hstart
  exact ⟨hkeeps.forall_mem, hp⟩

end ScanMode

/-! ## Backfills -/

/-- The backfill of a valid request is the scan that it asks for. -/
theorem Watcher.backfill_eq_scan (w : Watcher) {r : BackfillRequest}
    (hvalid : r.validate = .ok ()) :
    w.backfill r = w.mode.scan w.retry (w.backfillOptions r) := by
  funext l
  rw [backfill, hvalid]

end RedemptionWatch
