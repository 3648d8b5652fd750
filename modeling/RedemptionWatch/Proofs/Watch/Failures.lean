import Mathlib.Data.List.Forall2
import RedemptionWatch.Proofs.Watch.CursorSafety
import RedemptionWatch.Proofs.Watch.Indifference
import RedemptionWatch.Proofs.Watch.Polls

/-!
# What fails a watcher

Nothing but an initial cursor that cannot be read fails a live loop (`Watcher.failures_contained`).
Whatever fails of what it asks for, it goes on until it is cancelled, and then it ends well; and
however its writes are answered, it asks the same and its scans report the same, but for the two
counts of records.
-/

namespace RedemptionWatch

open Watch (Unread)

/-- The same events, but for the answers to writes. -/
abbrev Watch.SameButWrites : Log Watch.interface → Log Watch.interface → Prop :=
  List.Forall₂ (Event.Same Unread)

/-- A scan whose writes are answered differently goes on and ends in the same way, with a report
that counts the answers it got. -/
theorem ScanMode.report_of_writes (mode : ScanMode) {retry : RetryPolicy} {options : ScanOptions}
    {range : BlockRange} {log log' : Log Watch.interface} {report : ScanReport}
    (h : Loop.Logs (mode.scan retry options) (.done (.inl (.start range))) log
      (.done (.inr (.ok report)))) (hlog : Watch.SameButWrites log log') :
    Loop.Logs (mode.scan retry options) (.done (.inl (.start range))) log'
      (.done (.inr (.ok { report with
        recordsWritten := UInt64.ofNat (log'.countP Watch.isWritten)
        recordsRejected := UInt64.ofNat (log'.countP Watch.isRejected) }))) := by
  have hround : ∀ l l' : Listing, l.Like l' →
      Watch.Alike true Listing.LikeNext (mode.scan retry options l) (mode.scan retry options l') :=
    fun l l' hl => mode.scan_alike hl (fun _ => rfl) retry
  have hstart : (Listing.start range).Like (.start range) := ⟨_, .refl _, rfl⟩
  obtain ⟨q, hlogs, hq⟩ := h.alike hround (.done (.inl hstart)) hlog
  cases hq with
  | done hresults =>
    cases hresults with
    | inr hresult =>
      cases hresult with
      | ok hlike =>
        obtain ⟨written, rejected, rfl⟩ := hlike
        have hcounts : ScanReport.Counts { report with
            recordsWritten := written, recordsRejected := rejected } log' :=
          (ScanMode.logs_reported hlogs).2
        rw [← hcounts.written, ← hcounts.rejected]
        exact hlogs

namespace Watcher

variable {w : Watcher} {log log' : Log Watch.interface}

/-- A live loop that ends has been cancelled, unless its cursor could not be read. -/
theorem result_of_logs {result : Except WatchError Unit}
    (h : Loop.Logs w.live (.done (.inl .start)) log (.done (.inr result))) :
    result = .ok () ∧ Watch.Cancelled log ∨ ∃ reason, result = .error (.cursor reason) ∧
      log = [⟨.cursor w.initialBlock, .error reason⟩, ⟨.publish .closed, ()⟩] := by
  have hended : w.Ended result log := (live_lawful h).2
  exact hended.2

/-- A live loop whose writes are answered differently makes the same requests and ends in the same
way. -/
theorem live_of_writes {p : Watch.Act Turn} (h : Loop.Logs w.live (.done (.inl .start)) log p)
    (hlog : Watch.SameButWrites log log') :
    ∃ p', Loop.Logs w.live (.done (.inl .start)) log' p' ∧ p'.next? = p.next? ∧
      ∀ result, p' = .done (.inr result) ↔ p = .done (.inr result) := by
  obtain ⟨p', hlogs, hp⟩ := h.alike (fun _ _ => w.live_alike) (.done (.inl .start)) hlog
  refine ⟨p', hlogs, hp.next?_eq.symm, fun result => ?_⟩
  cases hp with
  | ask _ _ => simp
  | done hresults => cases hresults <;> simp_all

/-- **Failures are contained.** Let a live loop end, and let no endpoint say that it was cancelled.
* Either the cursor could not be read at first; then this is the result, and nothing else was asked.
  Or the loop ends well, and has learned that it was cancelled.
* If its writes are answered differently, a live loop still makes the same requests, and ends if it
  did, with the same result.
* A scan still ends with the same report, where each candidate counts as written if it was, and else
  as rejected. -/
theorem failures_contained (w : Watcher) {log : Log Watch.interface} :
    (∀ result, Loop.Logs w.live (.done (.inl .start)) log (.done (.inr result)) →
      (∀ e ∈ log, Watch.failure? e ≠ some .cancelled) →
      (∃ reason, log = [⟨.cursor w.initialBlock, .error reason⟩, ⟨.publish .closed, ()⟩] ∧
        result = .error (.cursor reason)) ∨
      (∃ e ∈ log, Watch.showsCancelled e = true) ∧ result = .ok ()) ∧
    ∀ log', Watch.SameButWrites log log' →
      (∀ p, Loop.Logs w.live (.done (.inl .start)) log p →
        ∃ p', Loop.Logs w.live (.done (.inl .start)) log' p' ∧ p'.next? = p.next? ∧
          ∀ result, p' = .done (.inr result) ↔ p = .done (.inr result)) ∧
      ∀ options range report,
        Loop.Logs (w.mode.scan w.retry options) (.done (.inl (.start range))) log
          (.done (.inr (.ok report))) →
        Loop.Logs (w.mode.scan w.retry options) (.done (.inl (.start range))) log'
          (.done (.inr (.ok { report with
            recordsWritten := UInt64.ofNat (log'.countP Watch.isWritten)
            recordsRejected := UInt64.ofNat (log'.countP Watch.isRejected) }))) := by
  refine ⟨fun result h hendpoint => ?_, fun log' hlog => ⟨fun p h => live_of_writes h hlog,
    fun options range report h => w.mode.report_of_writes h hlog⟩⟩
  rcases result_of_logs h with ⟨rfl, e, he, hcancelled⟩ | ⟨reason, rfl, rfl⟩
  · exact Or.inr ⟨⟨e, he, hcancelled.resolve_right (hendpoint e he)⟩, rfl⟩
  · exact Or.inl ⟨reason, rfl, rfl⟩

/-- A scan that finds a redemption in block 7, and stops before block 8. -/
def sampleFinding (recorded : Except StoreError UpsertOutcome) (moved : Except StoreError Unit) :
    Log Watch.interface :=
  [⟨.isCancelled, false⟩, ⟨.block 7, .ok (some [default])⟩, ⟨.record default, recorded⟩,
    ⟨.isCancelled, false⟩, ⟨.block 8, .error (.remote "gone")⟩, ⟨.moveCursor 7, moved⟩]

/-- A live loop that makes this scan, and is cancelled while it waits. -/
def sampleStay (recorded : Except StoreError UpsertOutcome) (moved : Except StoreError Unit) :
    Log Watch.interface :=
  [⟨.cursor 7, .ok 7⟩, ⟨.isCancelled, false⟩, ⟨.publish .polling, ()⟩, ⟨.latestBlock, .ok 8⟩] ++
    sampleFinding recorded moved ++
    [⟨.publish .waiting, ()⟩, ⟨.pause 1000, .interrupted⟩, ⟨.publish .closed, ()⟩]

/-- If the store fails, the loop ends as it does otherwise, and the scan reports a candidate that
was not written. -/
theorem failures_contained_sampleStay :
    Loop.Logs sampleLive.live (.done (.inl .start)) (sampleStay (.ok .written) (.ok ()))
      (.done (.inr (.ok ()))) ∧
    (∃ e ∈ sampleStay (.ok .written) (.ok ()), Watch.showsCancelled e = true) ∧
    Loop.Logs sampleLive.live (.done (.inl .start))
      (sampleStay (.error .invalidChainId) (.error .invalidChainId)) (.done (.inr (.ok ()))) ∧
    ∃ report, Loop.Logs (sampleLive.mode.scan sampleLive.retry sampleLive.liveOptions)
        (.done (.inl (.start ⟨7, 8⟩)))
        (sampleFinding (.error .invalidChainId) (.error .invalidChainId))
        (.done (.inr (.ok report))) ∧
      report.recordsWritten = 0 ∧ report.recordsRejected = 1 := by
  have hlogs : Loop.Logs sampleLive.live (.done (.inl .start)) (sampleStay (.ok .written) (.ok ()))
      (.done (.inr (.ok ()))) :=
    .round <| .ask <| .round <| .ask <| .ask <| .ask <| .round <| .ask <| .ask <| .ask <| .ask <|
      .ask <| .ask <| .ask <| .ask <| .ask <| .nil _
  have hscan : Loop.Logs (sampleLive.mode.scan sampleLive.retry sampleLive.liveOptions)
      (.done (.inl (.start ⟨7, 8⟩))) (sampleFinding (.ok .written) (.ok ()))
      (.done (.inr (.ok _))) :=
    .round <| .ask <| .ask <| .ask <| .ask <| .ask <| .ask <| .nil _
  have hsame (e : Event Watch.interface) : Event.Same Unread e e := .intro fun _ => rfl
  have hfinding : Watch.SameButWrites (sampleFinding (.ok .written) (.ok ()))
      (sampleFinding (.error .invalidChainId) (.error .invalidChainId)) :=
    .cons (hsame _) <| .cons (hsame _) <| .cons (.intro nofun) <| .cons (hsame _) <|
      .cons (hsame _) <| .cons (.intro nofun) .nil
  have hstay : Watch.SameButWrites (sampleStay (.ok .written) (.ok ()))
      (sampleStay (.error .invalidChainId) (.error .invalidChainId)) :=
    List.rel_append (List.rel_append (List.forall₂_same.mpr fun e _ => hsame e) hfinding)
      (List.forall₂_same.mpr fun e _ => hsame e)
  have hendpoint : ∀ e ∈ sampleStay (.ok .written) (.ok ()),
      Watch.failure? e ≠ some .cancelled := by
    simp [sampleStay, sampleFinding, Watch.failure?]
  obtain ⟨p, hlive, -, hp⟩ := ((failures_contained sampleLive).2 _ hstay).1 _ hlogs
  have hreport := ((failures_contained sampleLive).2 _ hfinding).2 _ _ _ hscan
  obtain rfl := (hp _).mpr rfl
  refine ⟨hlogs, ?_, hlive, _, hreport, rfl, rfl⟩
  rcases (failures_contained sampleLive).1 _ hlogs hendpoint with
    ⟨reason, hlog, -⟩ | ⟨hcancelled, -⟩
  · simp [sampleStay] at hlog
  · exact hcancelled

end Watcher

end RedemptionWatch
