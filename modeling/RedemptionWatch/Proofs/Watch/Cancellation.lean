import RedemptionWatch.Proofs.Watch.Overflow

/-!
# Watchers that are cancelled before they begin

A live loop reads its cursor and then looks whether it has been cancelled, and a scan looks before
anything else. So a live loop that was cancelled before it began asks for nothing but the cursor and
shows that it is closed (`Watcher.live_logs_of_cancelled`), and a scan that was cancelled before it
began asks for nothing at all (`Watcher.backfill_logs_of_cancelled`). Both hold of all logs, whoever
else runs meanwhile.
-/

namespace RedemptionWatch

open Watch (interface)

/-! ## Scans -/

/-- A scan with pages looks first whether it has been cancelled, and ends at once if so. A listing
has a first page, whatever its range is. -/
theorem ScanMode.scan_eq_ask (mode : ScanMode) (retry : RetryPolicy) {options : ScanOptions}
    {l : Listing} (h : mode = .blocks → l.report.range.HasPages options.pageSize) :
    ∃ next, mode.scan retry options l = .ask Watch.Request.isCancelled next ∧
      next true = .done (.inr (.error .cancelled)) := by
  cases mode with
  | activity => exact ⟨_, rfl, rfl⟩
  | blocks =>
    have hpages := (h rfl).pageCount_pos
    have hblocks :
        0 < (l.report.range.nthPage (BlockRange.pageSize options.pageSize) 0).blockCount := by
      have hcount := BlockRange.blockCount_page (i := 0) hpages
      have hle := UInt64.le_iff_toNat_le.mp (BlockRange.first_page_le_last_page (i := 0) hpages)
      omega
    have hfirst := BlockRange.page_eq_ok (i := 0) hpages
    have hscan := BlockScan.scan_eq retry hpages
    obtain ⟨pages, hpages⟩ := Nat.exists_eq_succ_of_ne_zero hpages.ne'
    obtain ⟨blocks, hblocks⟩ := Nat.exists_eq_succ_of_ne_zero hblocks.ne'
    have hrange : (ScanReport.start l.report.range).range = l.report.range := rfl
    unfold ScanMode.scan
    dsimp only
    rw [hscan, hpages, BlockScan.scanPages, hrange, hfirst]
    dsimp only
    rw [hblocks, BlockScan.scanBlocks]
    exact ⟨_, rfl, rfl⟩

/-- A backfill is refused for its range only. -/
theorem BackfillRequest.validate_cases (r : BackfillRequest) :
    r.validate = .ok () ∨ ∃ reason, r.validate = .error (.invalidRange reason) := by
  unfold BackfillRequest.validate
  split
  · exact Or.inr ⟨_, rfl⟩
  · split
    · exact Or.inr ⟨_, rfl⟩
    · exact Or.inl rfl

namespace Watcher

variable (w : Watcher)

/-- A backfill that is refused asks for nothing. -/
theorem backfill_eq_refused {r : BackfillRequest} {e : WatchError} (h : r.validate = .error e)
    (l : Listing) : w.backfill r l = .done (.inr (.error e)) := by
  rw [backfill, h]
  rfl

theorem backfill_eq_ask {r : BackfillRequest} (hvalid : r.validate = .ok ())
    (hpages : w.mode = .blocks → r.range.HasPages (w.backfillOptions r).pageSize) :
    ∃ next, w.backfill r (.start r.range) = .ask Watch.Request.isCancelled next ∧
      next true = .done (.inr (.error .cancelled)) := by
  rw [w.backfill_eq_scan hvalid]
  exact w.mode.scan_eq_ask w.retry hpages

/-- A backfill ends without a request, or looks first whether it has been cancelled. -/
theorem backfill_cases (r : BackfillRequest) :
    (∃ result, w.backfill r (.start r.range) = .done (.inr result)) ∨
      ∃ next, w.backfill r (.start r.range) = .ask Watch.Request.isCancelled next ∧
        next true = .done (.inr (.error .cancelled)) := by
  cases hvalid : r.validate with
  | error e => exact Or.inl ⟨_, w.backfill_eq_refused hvalid _⟩
  | ok =>
    by_cases hpages : w.mode = .blocks → r.range.HasPages (w.backfillOptions r).pageSize
    · exact Or.inr (w.backfill_eq_ask hvalid hpages)
    · obtain ⟨hblocks, hnone⟩ := Classical.not_imp.mp hpages
      left
      rw [w.backfill_eq_scan hvalid, hblocks]
      exact ⟨_, congrArg (Sum.inr <$> ·)
        (BlockScan.scan_eq_broken w.retry (r.first_le_last hvalid) hnone)⟩

/-! ## Logs -/

/-- The answers that a watcher gets whose cursor can be read and that has been cancelled. -/
def CancelledAnswer (e : Event interface) : Prop :=
  match e with
  | ⟨.cursor _, answer⟩ => ∃ position, answer = .ok position
  | ⟨.isCancelled, answer⟩ => answer = true
  | _ => True

/-- What a live loop asks that was cancelled before it began. -/
def closingLog (position : UInt64) : Log interface :=
  [⟨.cursor w.initialBlock, .ok position⟩, ⟨.isCancelled, true⟩, ⟨.publish .closed, ()⟩]

variable {w}

/-- After the cursor, a live loop that has been cancelled shows that it is closed. -/
theorem poll_logs_of_cancelled {position : UInt64} {log : Log interface} {p : Watch.Act Turn}
    (h : Loop.Logs w.live (.done (.inl (.poll position))) log p)
    (hanswers : ∀ e ∈ log, CancelledAnswer e) :
    log <+: [⟨.isCancelled, true⟩, ⟨.publish .closed, ()⟩] ∧
      ∀ result, p = .done (.inr result) →
        log = [⟨.isCancelled, true⟩, ⟨.publish .closed, ()⟩] ∧ result = .ok () := by
  cases h with
  | nil => exact ⟨List.nil_prefix, nofun⟩
  | round hround =>
    cases hround with
    | nil => exact ⟨List.nil_prefix, nofun⟩
    | ask hclose =>
      obtain rfl : _ = true := hanswers _ List.mem_cons_self
      cases hclose with
      | nil => exact ⟨List.prefix_append [_] [_], nofun⟩
      | ask hend =>
        cases hend
        exact ⟨List.prefix_rfl, fun result hresult => by cases hresult; exact ⟨rfl, rfl⟩⟩

/-- A live loop that was cancelled before it began ends well, and has asked for its cursor only. -/
theorem live_logs_of_cancelled {log : Log interface} {p : Watch.Act Turn}
    (h : Loop.Logs w.live (.done (.inl .start)) log p) (hanswers : ∀ e ∈ log, CancelledAnswer e) :
    ∃ position, log <+: w.closingLog position ∧
      ∀ result, p = .done (.inr result) → log = w.closingLog position ∧ result = .ok () := by
  cases h with
  | nil => exact ⟨0, List.nil_prefix, nofun⟩
  | round hround =>
    cases hround with
    | nil => exact ⟨0, List.nil_prefix, nofun⟩
    | ask hpoll =>
      obtain ⟨hcursor, hrest⟩ := List.forall_mem_cons.mp hanswers
      obtain ⟨position, rfl⟩ : ∃ position, _ = Except.ok position := hcursor
      obtain ⟨hlog, hend⟩ := poll_logs_of_cancelled hpoll hrest
      refine ⟨position, List.cons_prefix_cons.mpr ⟨rfl, hlog⟩, fun result hresult => ?_⟩
      obtain ⟨rfl, rfl⟩ := hend result hresult
      exact ⟨rfl, rfl⟩

/-- A backfill that was cancelled before it began is reported as cancelled, and has asked for
nothing. -/
theorem backfill_logs_of_cancelled {r : BackfillRequest} (hvalid : r.validate = .ok ())
    (hpages : w.mode = .blocks → r.range.HasPages (w.backfillOptions r).pageSize)
    {log : Log interface}
    {p : Watch.Act (Listing ⊕ Except WatchError ScanReport)}
    (h : Loop.Logs (w.backfill r) (.done (.inl (.start r.range))) log p)
    (hanswers : ∀ e ∈ log, CancelledAnswer e) :
    log <+: [⟨.isCancelled, true⟩] ∧
      ∀ result, p = .done (.inr result) → result = .error .cancelled := by
  obtain ⟨next, hask, hnext⟩ := w.backfill_eq_ask hvalid hpages
  cases h with
  | nil => exact ⟨List.nil_prefix, nofun⟩
  | round hround =>
    rw [hask] at hround
    cases hround with
    | nil => exact ⟨List.nil_prefix, nofun⟩
    | ask hend =>
      obtain rfl : _ = true := hanswers _ List.mem_cons_self
      rw [hnext] at hend
      cases hend
      exact ⟨List.prefix_rfl, fun result hresult => by cases hresult; rfl⟩

end Watcher

end RedemptionWatch
