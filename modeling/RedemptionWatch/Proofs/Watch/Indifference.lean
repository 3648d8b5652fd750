import RedemptionWatch.Proofs.Plan.Ensemble
import RedemptionWatch.Watch.Watcher

/-!
# Watchers do not go by what the store answers

A watcher hands candidates to the record store and counts how many were written and how many were
rejected, and it moves its cursor, but it never goes on differently for how that went: whatever is
answered to these writes, live loops and backfills make the same requests (`Watcher.live_alike`,
`Watcher.backfill_alike`). What differs are the two counts in their reports (`ScanReport.Like`).

The same reading along the programs shows which requests they make at all: a backfill that is not to
move the cursor neither moves nor reads it (`Watch.Permitted`).
-/

namespace RedemptionWatch

namespace Watch

/-- Requests of those who may use the cursor, and of those who may not. -/
def Permitted (cursor : Bool) : Request → Prop
  | .cursor _ | .moveCursor _ => cursor = true
  | _ => True

/-- Does the request write a candidate or the cursor? -/
def Request.isWrite : Request → Bool
  | record _ | moveCursor _ => true
  | _ => false

/-- Answers to a request that make no difference: to a write, any of them do. -/
def Unread (q : interface.Request) (a b : interface.Answer q) : Prop :=
  Request.isWrite q = false → a = b

/-- Plans that make the same permitted requests whatever is answered to writes, and come to related
results. -/
abbrev Alike {α β : Type} (cursor : Bool) (R : α → β → Prop) : Act α → Act β → Prop :=
  Plan.Alike (P := interface) (Permitted cursor) Unread R

variable {α : Type} {cursor : Bool}

theorem request_alike {q : interface.Request} (hq : Permitted cursor q)
    (hread : Request.isWrite q = false) :
    Alike cursor (· = ·) (Plan.request (P := interface) q) (Plan.request q) :=
  .ask hq fun _ _ h => .done (h hread)

theorem pause_alike (millis : Nat) : Alike cursor (· = ·) (pause millis) (pause millis) :=
  request_alike (q := .pause millis) trivial rfl

theorem isCancelled_alike : Alike cursor (· = ·) isCancelled isCancelled :=
  request_alike (q := .isCancelled) trivial rfl

theorem publish_alike (state : WatchState) :
    Alike cursor (· = ·) (publish state) (publish state) :=
  request_alike (q := .publish state) trivial rfl

theorem latestBlock_alike : Alike cursor (· = ·) latestBlock latestBlock :=
  request_alike (q := .latestBlock) trivial rfl

theorem block_alike (number : UInt64) : Alike cursor (· = ·) (block number) (block number) :=
  request_alike (q := .block number) trivial rfl

theorem activity_alike (range : BlockRange) (token : Option String) :
    Alike cursor (· = ·) (activity range token) (activity range token) :=
  request_alike (q := .activity range token) trivial rfl

theorem cursor_alike (hcursor : cursor = true) (fallback : UInt64) :
    Alike cursor (· = ·) (Watch.cursor fallback) (Watch.cursor fallback) :=
  request_alike (q := .cursor fallback) hcursor rfl

theorem moveCursor_alike (hcursor : cursor = true) (block : UInt64) :
    Alike cursor (· = ·) (moveCursor block) (moveCursor block) :=
  .ask hcursor fun _ _ _ => .done rfl

theorem record_alike (c : Candidate) :
    Alike cursor (fun _ _ => True) (record c) (record c) :=
  .ask trivial fun _ _ _ => .done trivial

/-- Retries are alike if what is tried is. -/
theorem execute_alike {ask : Act (Except FetchError α)} (hask : Alike cursor (· = ·) ask ask)
    (retry : RetryPolicy) : Alike cursor (· = ·) (retry.execute ask) (retry.execute ask) := by
  unfold RetryPolicy.execute
  induction retry.retries with
  | zero => exact hask
  | succ retries ih =>
    refine hask.bind ?_
    rintro (e | a) _ rfl
    · cases e with
      | throttled reason =>
        refine (pause_alike retry.delay).bind ?_
        rintro (_ | _) _ rfl
        · exact ih
        · exact .done rfl
      | remote reason => exact .done rfl
      | decode reason => exact .done rfl
      | cancelled => exact .done rfl
    · exact .done rfl

end Watch

open Watch (Alike)

variable {cursor : Bool}

/-! ## Scans -/

/-- The reports differ at most in how many records were written and how many were rejected. -/
def ScanReport.Like (r r' : ScanReport) : Prop :=
  ∃ written rejected, r' = { r with recordsWritten := written, recordsRejected := rejected }

namespace ScanReport

variable {r r' : ScanReport}

theorem Like.refl (r : ScanReport) : r.Like r :=
  ⟨_, _, rfl⟩

theorem Like.processed (h : r.Like r') : r.processed.Like r'.processed := by
  obtain ⟨_, _, rfl⟩ := h
  exact ⟨_, _, rfl⟩

theorem Like.skipped (h : r.Like r') : r.skipped.Like r'.skipped := by
  obtain ⟨_, _, rfl⟩ := h
  exact ⟨_, _, rfl⟩

theorem Like.reached (h : r.Like r') (block : UInt64) :
    { r with lastBlock := some block }.Like { r' with lastBlock := some block } := by
  obtain ⟨_, _, rfl⟩ := h
  exact ⟨_, _, rfl⟩

theorem Like.recorded (h : r.Like r') (outcome outcome' : Except StoreError UpsertOutcome) :
    (r.recorded outcome).Like (r'.recorded outcome') := by
  obtain ⟨_, _, rfl⟩ := h
  unfold ScanReport.recorded
  split <;> split <;> exact ⟨_, _, rfl⟩

theorem recordAll_alike (h : r.Like r') (cs : List Candidate) :
    Alike cursor Like (r.recordAll cs) (r'.recordAll cs) := by
  induction cs generalizing r r' with
  | nil => exact .done h
  | cons c rest ih =>
    exact (Watch.record_alike c).bind fun outcome outcome' _ => ih (h.recorded outcome outcome')

end ScanReport

/-- Results of scans whose reports are alike. -/
inductive ScanReport.LikeResult :
    Except WatchError ScanReport → Except WatchError ScanReport → Prop where
  | ok {r r' : ScanReport} (h : r.Like r') : LikeResult (.ok r) (.ok r')
  | error (e : WatchError) : LikeResult (.error e) (.error e)

namespace BlockScan

variable {r r' : ScanReport} {options : ScanOptions}

/-- Ends of pages whose reports are alike. -/
inductive Progress.Like : Progress → Progress → Prop where
  | done {r r' : ScanReport} (h : r.Like r') : Like (.done r) (.done r')
  | stopped {r r' : ScanReport} (h : r.Like r') : Like (.stopped r) (.stopped r')
  | cancelled : Like .cancelled .cancelled

theorem stopBefore_alike (h : r.Like r') (hcursor : options.persist = true → cursor = true)
    (page : BlockRange) (number : UInt64) :
    Alike cursor ScanReport.Like (stopBefore options page number r)
      (stopBefore options page number r') := by
  obtain ⟨written, rejected, rfl⟩ := h
  unfold stopBefore
  dsimp only
  split_ifs with hbefore hpersist
  · exact (Watch.moveCursor_alike (hcursor hpersist.1) _).bind fun _ _ _ => .done ⟨_, _, rfl⟩
  · exact .done ⟨_, _, rfl⟩
  · exact .done ⟨_, _, rfl⟩

theorem scanBlocks_alike (h : r.Like r') (hcursor : options.persist = true → cursor = true)
    (retry : RetryPolicy) (page : BlockRange) (count : Nat) (number : UInt64) :
    Alike cursor Progress.Like (scanBlocks retry options page count number r)
      (scanBlocks retry options page count number r') := by
  induction count generalizing number r r' with
  | zero => exact .done (.done h)
  | succ count ih =>
    refine Watch.isCancelled_alike.bind ?_
    rintro cancelled _ rfl
    split_ifs with hcancelled
    · exact .done .cancelled
    refine (Watch.execute_alike (Watch.block_alike number) retry).bind ?_
    rintro (e | found) _ rfl
    · have hskip := ih h.skipped (number + 1)
      have hstop : Alike cursor Progress.Like
          (stopBefore options page number r.skipped >>= fun r => pure (.stopped r))
          (stopBefore options page number r'.skipped >>= fun r => pure (.stopped r)) :=
        (stopBefore_alike h.skipped hcursor page number).bind fun _ _ h => .done (.stopped h)
      cases e with
      | cancelled => exact .done .cancelled
      | throttled reason | remote reason | decode reason =>
        dsimp only
        split_ifs with hstops
        · exact hstop
        · exact hskip
    · exact (ScanReport.recordAll_alike h _).bind fun _ _ h => ih h.processed (number + 1)

theorem scanPages_alike (h : r.Like r') (hcursor : options.persist = true → cursor = true)
    (retry : RetryPolicy) (count : Nat) (index : UInt64) :
    Alike cursor ScanReport.LikeResult (scanPages retry options count index r)
      (scanPages retry options count index r') := by
  induction count generalizing index r r' with
  | zero =>
    obtain ⟨written, rejected, rfl⟩ := h
    exact .done (.ok ⟨_, _, rfl⟩)
  | succ count ih =>
    have hrange : r'.range = r.range := by
      obtain ⟨written, rejected, rfl⟩ := h
      rfl
    rw [scanPages, scanPages, hrange]
    cases r.range.page (BlockRange.pageSize options.pageSize) index with
    | error reason => exact .done (.error (.broken reason))
    | ok page =>
      refine (scanBlocks_alike h hcursor retry _ _ _).bind ?_
      intro progress progress' hprogress
      cases hprogress with
      | done h =>
        have hrest := ih (h.reached page.last) (index + 1)
        dsimp only
        split_ifs with hpersist
        · exact (Watch.moveCursor_alike (hcursor hpersist) _).bind fun _ _ _ => hrest
        · exact hrest
      | stopped h => exact .done (.ok h)
      | cancelled => exact .done (.error .cancelled)

theorem scan_alike (hcursor : options.persist = true → cursor = true) (retry : RetryPolicy)
    (range : BlockRange) :
    Alike cursor ScanReport.LikeResult (scan retry options range) (scan retry options range) := by
  unfold scan
  cases range.countPages options.pageSize with
  | error reason => exact .done (.error (.broken reason))
  | ok count => exact scanPages_alike (.refl _) hcursor retry _ 0

end BlockScan

namespace Listing

variable {options : ScanOptions} {l l' : Listing}

/-- Listings whose reports are alike. -/
def Like (l l' : Listing) : Prop :=
  ∃ r', l.report.Like r' ∧ l' = { l with report := r' }

/-- What follows a page of a listing whose reports are alike. -/
abbrev LikeNext :
    Listing ⊕ Except WatchError ScanReport → Listing ⊕ Except WatchError ScanReport → Prop :=
  Sum.LiftRel Like ScanReport.LikeResult

theorem finish_alike {r r' : ScanReport} (h : r.Like r')
    (hcursor : options.persist = true → cursor = true) (highest : Option UInt64) :
    Alike cursor ScanReport.LikeResult (finish options highest r)
      (finish options highest r') := by
  obtain ⟨written, rejected, rfl⟩ := h
  have hresult (last : UInt64) : ScanReport.LikeResult (r.upTo last)
      (ScanReport.upTo { r with recordsWritten := written, recordsRejected := rejected } last) := by
    unfold ScanReport.upTo
    dsimp only
    cases r.range.reach last with
    | error reason => exact .error (.broken reason)
    | ok blocks => exact .ok ⟨_, _, rfl⟩
  unfold finish
  dsimp only
  by_cases hpersist : options.persist = true
  · rw [if_pos hpersist, if_pos hpersist]
    exact (Watch.moveCursor_alike (hcursor hpersist) _).bind fun _ _ _ => .done (hresult _)
  · rw [if_neg hpersist, if_neg hpersist]
    exact .done (hresult _)

theorem next_alike (h : l.Like l') (hcursor : options.persist = true → cursor = true)
    (retry : RetryPolicy) : Alike cursor LikeNext (l.next retry options) (l'.next retry options) := by
  obtain ⟨_, ⟨written, rejected, rfl⟩, rfl⟩ := h
  refine Watch.isCancelled_alike.bind ?_
  rintro cancelled _ rfl
  split_ifs with hcancelled
  · exact .done (.inr (.error .cancelled))
  refine (Watch.execute_alike (Watch.activity_alike _ _) retry).bind ?_
  rintro (e | page) _ rfl
  · cases e with
    | cancelled => exact .done (.inr (.error .cancelled))
    | throttled reason | remote reason | decode reason =>
      exact .done (.inr (.ok ⟨written, rejected, rfl⟩))
  · refine (ScanReport.recordAll_alike ⟨written, rejected, rfl⟩ page.candidates).bind ?_
    intro r r' h
    have hfinish : Alike cursor LikeNext
        (finish options (higher l.highest page.highest) r >>= fun result => pure (.inr result))
        (finish options (higher l.highest page.highest) r' >>= fun result => pure (.inr result)) :=
      (finish_alike h hcursor _).bind fun _ _ h => .done (.inr h)
    cases page.next with
    | none => exact hfinish
    | some token =>
      dsimp only
      split_ifs with hseen
      · exact hfinish
      · exact .done (.inl ⟨r', h, rfl⟩)

end Listing

theorem ScanMode.scan_alike (mode : ScanMode) {options : ScanOptions} {l l' : Listing}
    (h : l.Like l') (hcursor : options.persist = true → cursor = true) (retry : RetryPolicy) :
    Alike cursor Listing.LikeNext (mode.scan retry options l) (mode.scan retry options l') := by
  cases mode with
  | activity => exact Listing.next_alike h hcursor retry
  | blocks =>
    obtain ⟨_, ⟨written, rejected, rfl⟩, rfl⟩ := h
    exact (BlockScan.scan_alike hcursor retry _).bind fun _ _ h => .done (.inr h)

/-! ## Live loops and backfills -/

namespace Watcher

variable (w : Watcher)

/-- A backfill makes the same requests whatever is answered to writes, and has nothing to do with
the cursor if it is not to move it. -/
theorem backfill_alike (r : BackfillRequest) {l l' : Listing} (h : l.Like l') :
    Alike r.persist Listing.LikeNext (w.backfill r l) (w.backfill r l') := by
  have hpersist : (w.backfillOptions r).persist = true → r.persist = true := id
  have hscan := w.mode.scan_alike h hpersist w.retry
  unfold backfill
  cases r.validate with
  | error e => exact .done (.inr (.error e))
  | ok => exact hscan

/-- Stages whose listings are alike. -/
inductive Stage.Like : Stage → Stage → Prop where
  | start : Like .start .start
  | poll (position : UInt64) : Like (.poll position) (.poll position)
  | scan (position : UInt64) {l l' : Listing} (h : l.Like l') :
      Like (.scan position l) (.scan position l')
  | broken (reason : Breakdown) : Like (.broken reason) (.broken reason)

/-- Turns whose stages are alike. -/
abbrev LikeTurn : Turn → Turn → Prop :=
  Sum.LiftRel Stage.Like (· = ·)

theorem close_alike (result : Except WatchError Unit) :
    Alike cursor LikeTurn (close result) (close result) :=
  (Watch.publish_alike .closed).bind fun _ _ _ => .done (.inr rfl)

theorem rest_alike (position : UInt64) :
    Alike cursor LikeTurn (w.rest position) (w.rest position) := by
  refine (Watch.publish_alike .waiting).bind fun _ _ _ => ?_
  refine (Watch.pause_alike w.wait).bind ?_
  rintro (_ | _) _ rfl
  · exact .done (.inl (.poll position))
  · exact close_alike (.ok ())

theorem poll_alike (position : UInt64) :
    Alike cursor LikeTurn (w.poll position) (w.poll position) := by
  refine Watch.isCancelled_alike.bind ?_
  rintro cancelled _ rfl
  split_ifs with hcancelled
  · exact close_alike (.ok ())
  refine (Watch.publish_alike .polling).bind fun _ _ _ => ?_
  refine (Watch.execute_alike Watch.latestBlock_alike w.retry).bind ?_
  rintro (e | head) _ rfl
  · cases e with
    | cancelled => exact close_alike (.ok ())
    | throttled reason | remote reason | decode reason => exact w.rest_alike position
  · dsimp only
    split_ifs with hlt
    · exact .done (.inl (.scan position ⟨_, .refl _, rfl⟩))
    · exact w.rest_alike position

theorem afterScan_alike (position : UInt64) {result result' : Except WatchError ScanReport}
    (h : ScanReport.LikeResult result result') :
    Alike cursor LikeTurn (w.afterScan position result) (w.afterScan position result') := by
  cases h with
  | error e =>
    cases e with
    | cancelled => exact close_alike (.ok ())
    | broken reason => exact .done (.inl (.broken reason))
    | cursor reason | unknownChain name | invalidRange reason => exact close_alike (.error _)
  | ok h =>
    obtain ⟨written, rejected, rfl⟩ := h
    unfold afterScan
    dsimp only
    split_ifs with hcomplete
    · exact .done (.inl (.poll _))
    · exact w.rest_alike _

/-- A live loop makes the same requests whatever is answered to writes. -/
theorem live_alike {stage stage' : Stage} (h : stage.Like stage') :
    Alike true LikeTurn (w.live stage) (w.live stage') := by
  cases h with
  | start =>
    refine (Watch.cursor_alike rfl w.initialBlock).bind ?_
    rintro (e | position) _ rfl
    · exact close_alike (.error (.cursor e))
    · exact .done (.inl (.poll position))
  | poll position => exact w.poll_alike position
  | scan position h =>
    refine (w.mode.scan_alike h (fun _ => rfl) w.retry).bind ?_
    intro next next' hnext
    cases hnext with
    | inl h => exact .done (.inl (.scan position h))
    | inr h => exact w.afterScan_alike position h
  | broken reason => exact .done (.inl (.broken reason))

end Watcher

end RedemptionWatch
