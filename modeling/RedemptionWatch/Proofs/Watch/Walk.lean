import RedemptionWatch.Proofs.Pagination.Cover
import RedemptionWatch.Proofs.Watch.LiveScan
import RedemptionWatch.Proofs.Watch.ScanLogs

/-!
# Scans by blocks walk along their range

Pages say when a scan by blocks moves its cursor and nothing else. `BlockScan.walk` goes along the
blocks of a range without pages and without a cursor, and a scan by pages of any size extends it by
moves of the cursor (`BlockScan.scan_extends`). So what a scan asks and reports is what a walk asks
and reports.
-/

namespace RedemptionWatch

namespace ScanReport

/-- The report when the last block is not known yet. -/
def unplaced (r : ScanReport) : ScanReport :=
  { r with lastBlock := none }

/-- The report of a scan that ends before a block. -/
def before (r : ScanReport) (number : UInt64) : ScanReport :=
  { r with lastBlock := if r.range.first < number then some (number - 1) else none }

/-- The report of a scan that has come to the end of its range. -/
def finished (r : ScanReport) : ScanReport :=
  { r with lastBlock := some r.range.last, complete := true }

theorem unplaced_recorded (r : ScanReport) (outcome : Except StoreError UpsertOutcome) :
    (r.recorded outcome).unplaced = r.unplaced.recorded outcome := by
  rcases outcome with e | (_ | _) <;> rfl

theorem recorded_keeps (r : ScanReport) (outcome : Except StoreError UpsertOutcome) :
    (r.recorded outcome).range = r.range ∧ (r.recorded outcome).lastBlock = r.lastBlock := by
  rcases outcome with e | (_ | _) <;> exact ⟨rfl, rfl⟩

end ScanReport

namespace BlockScan

section Walk

variable (retry : RetryPolicy) (stopAtFailure : Bool)

/-- Scans `count` blocks of a range from block `number` on, without a cursor. -/
def walk : Nat → UInt64 → ScanReport → Watch.Act (Except WatchError ScanReport)
  | 0, _, report => return .ok report.finished
  | count + 1, number, report => do
    if ← Watch.isCancelled then return .error .cancelled
    match ← retry.execute (Watch.block number) with
    | .ok found =>
      let report ← report.recordAll (found.getD [])
      walk count (number + 1) report.processed
    | .error .cancelled => return .error .cancelled
    | .error e =>
      if stopAtFailure ∧ e.isTransient then return .ok (report.skipped.before number)
      else walk count (number + 1) report.skipped

end Walk

/-! ## Pages only move the cursor -/

open Frontier (Follows)
open Watch (isMove)

variable {retry : RetryPolicy} {options : ScanOptions} {range : BlockRange} {r : ScanReport}

/-- Two reports differ at most in their last block, and the first one is that of a scan of the range
with this last block. -/
def Placed (range : BlockRange) (last : Option UInt64) (r r' : ScanReport) : Prop :=
  r' = r.unplaced ∧ r.range = range ∧ r.lastBlock = last

theorem recordAll_extends {last : Option UInt64} {r' : ScanReport} (h : Placed range last r r')
    (cs : List Candidate) :
    (r.recordAll cs).Extends isMove (Placed range last) (r'.recordAll cs) := by
  induction cs generalizing r r' with
  | nil => exact .done h
  | cons c rest ih =>
    obtain ⟨rfl, hrange, hlast⟩ := h
    refine .ask rfl fun outcome => ih ⟨(r.unplaced_recorded outcome).symm, ?_, ?_⟩
    · exact (r.recorded_keeps outcome).1.trans hrange
    · exact (r.recorded_keeps outcome).2.trans hlast

theorem isCancelled_extends : Watch.isCancelled.Extends isMove (· = ·) Watch.isCancelled :=
  .ask rfl fun _ => .done rfl

theorem execute_extends (retry : RetryPolicy) (number : UInt64) :
    (retry.execute (Watch.block number)).Extends isMove (· = ·)
      (retry.execute (Watch.block number)) := by
  have hask : ∀ log, True → (Watch.block number).Respects (fun _ q => isMove q = false)
      (fun _ _ => True) log := fun _ _ => ⟨rfl, fun _ => trivial⟩
  have hexecute : (retry.execute (Watch.block number)).Respects (fun _ q => isMove q = false)
      (fun _ _ => True) [] :=
    Watch.attempt_respects hask (fun _ _ _ => ⟨rfl, trivial, trivial⟩) retry.retries trivial
  exact .of_respects hexecute

/-- The scan of a page that stops before a block has come to what a walk reports then. -/
theorem stopBefore_extends {last : Option UInt64} {r' : ScanReport} (h : Placed range last r r')
    (page : BlockRange) {number : UInt64} (hlast : range.first < number ∨ last = none) :
    (stopBefore options page number r).Extends isMove (· = ·) (pure (r'.before number)) := by
  obtain ⟨rfl, rfl, rfl⟩ := h
  unfold stopBefore
  simp only [BlockRange.le_sub_one_iff]
  split_ifs with hbefore hmove
  · refine .aside rfl fun _ => .done ?_
    simp [ScanReport.before, ScanReport.unplaced, hbefore]
  · refine .done ?_
    simp [ScanReport.before, ScanReport.unplaced, hbefore]
  · have hnone := hlast.resolve_left hbefore
    refine .done ?_
    simp [ScanReport.before, ScanReport.unplaced, hbefore, ← hnone]

/-- After a block that could not be had a scan stops if a walk does. -/
theorem failed_extends {last : Option UInt64} {r' : ScanReport} (h : Placed range last r r')
    (page : BlockRange) {number : UInt64} (hlast : range.first < number ∨ last = none)
    {k : Progress → Watch.Act (Except WatchError ScanReport)}
    (hstopped : ∀ r, k (.stopped r) = pure (.ok r)) (e : FetchError)
    {rest : Watch.Act Progress} {rest' : Watch.Act (Except WatchError ScanReport)}
    (hrest : (rest >>= k).Extends isMove (· = ·) rest') :
    ((if options.stopAtFailure = true ∧ e.isTransient = true then
        stopBefore options page number r >>= fun r => pure (Progress.stopped r)
      else rest) >>= k).Extends isMove (· = ·)
      (if options.stopAtFailure = true ∧ e.isTransient = true then
        pure (Except.ok (r'.before number))
      else rest') := by
  split_ifs
  · have hreport : ∀ a b : ScanReport, a = b →
        (pure (Progress.stopped a) >>= k).Extends isMove (· = ·) (pure (Except.ok b)) := by
      rintro a _ rfl
      rw [Plan.pure_eq, Plan.done_bind, hstopped]
      exact .done rfl
    rw [Plan.bind_assoc]
    exact (stopBefore_extends h page hlast).bind hreport
  · exact hrest

/-- If what follows a page goes on like a walk when the page is done, the scan of the page goes on
like one. -/
theorem scanBlocks_extends {last : Option UInt64} {r' : ScanReport} (h : Placed range last r r')
    (page : BlockRange) {number : UInt64} {count : Nat} (rest : Nat)
    (hbound : number.toNat + count ≤ 2 ^ 64)
    (hlast : 0 < count → range.first < number ∨ range.first = number ∧ last = none)
    {k : Progress → Watch.Act (Except WatchError ScanReport)}
    (hstopped : ∀ r, k (.stopped r) = pure (.ok r))
    (hcancelled : k .cancelled = pure (.error .cancelled))
    (hdone : ∀ r r', Placed range last r r' → (k (.done r)).Extends isMove (· = ·)
      (walk retry options.stopAtFailure rest (number + UInt64.ofNat count) r')) :
    (scanBlocks retry options page count number r >>= k).Extends isMove (· = ·)
      (walk retry options.stopAtFailure (count + rest) number r') := by
  induction count generalizing number r r' with
  | zero =>
    have hgoes := hdone r r' h
    rw [show number + UInt64.ofNat 0 = number from UInt64.add_zero number] at hgoes
    rwa [Nat.zero_add]
  | succ count ih =>
    have hlast := hlast (Nat.succ_pos count)
    -- the rest of the page, whatever was done with this block
    have hgoes : ∀ {r r'}, Placed range last r r' →
        (scanBlocks retry options page count (number + 1) r >>= k).Extends isMove (· = ·)
          (walk retry options.stopAtFailure (count + rest) (number + 1) r') := by
      intro r r' h
      have hnext : 0 < count → (number + 1).toNat = number.toNat + 1 := fun hpos =>
        BlockRange.toNat_add_one (by omega)
      refine ih h ?_ (fun hpos => Or.inl ?_) fun r r' h => ?_
      · rcases Nat.eq_zero_or_pos count with rfl | hpos
        · exact (number + 1).toNat_lt.le
        · rw [hnext hpos]
          omega
      · have hle : range.first.toNat ≤ number.toNat := by
          rcases hlast with hlt | ⟨heq, -⟩
          · exact (UInt64.lt_iff_toNat_lt.mp hlt).le
          · rw [heq]
        rw [UInt64.lt_iff_toNat_lt, hnext hpos]
        omega
      · rw [BlockRange.add_one_add_ofNat]
        exact hdone r r' h
    rw [Nat.add_right_comm, scanBlocks, walk, Plan.bind_assoc]
    refine isCancelled_extends.bind ?_
    rintro (_ | _) _ rfl
    · simp only [Bool.false_eq_true, if_false, Plan.bind_assoc]
      refine (execute_extends retry number).bind ?_
      rintro (e | found) _ rfl
      · have hskipped : Placed range last r.skipped r'.skipped := by
          obtain ⟨rfl, hrange, hplaced⟩ := h
          exact ⟨rfl, hrange, hplaced⟩
        cases e with
        | cancelled =>
          simp only [Plan.pure_eq, Plan.done_bind, hcancelled]
          exact .done rfl
        | throttled reason | remote reason | decode reason =>
          exact failed_extends hskipped page (hlast.imp_right And.right) hstopped _ (hgoes hskipped)
      · simp only [Plan.bind_assoc]
        refine (recordAll_extends h _).bind fun a b hab => hgoes ?_
        obtain ⟨rfl, hrange, hplaced⟩ := hab
        exact ⟨rfl, hrange, hplaced⟩
    · simp only [if_true, Plan.pure_eq, Plan.done_bind, hcancelled]
      exact .done rfl

/-- The last block up to which everything is done after the first `k` pages. -/
def lastAfter (range : BlockRange) (size : UInt64) (k : Nat) : Option UInt64 :=
  if k = 0 then none else some (range.nthPage (BlockRange.pageSize size) (UInt64.ofNat (k - 1))).last

theorem lastAfter_pageCount {size : UInt64} (h : range.HasPages size) :
    lastAfter range size (range.pageCount size) = some range.last := by
  have hpos := h.pageCount_pos
  have hindex : (UInt64.ofNat (range.pageCount size - 1)).toNat = range.pageCount size - 1 :=
    BlockRange.toNat_index (Nat.sub_le _ _)
  have hlast : (range.nthPage (BlockRange.pageSize size)
      (UInt64.ofNat (range.pageCount size - 1))).last = range.last :=
    BlockRange.last_page_eq_last (by omega)
  rw [lastAfter, if_neg hpos.ne', hlast]

/-- The next page follows the pages so far. -/
theorem follows_lastAfter {size : UInt64} {k : Nat} (h : k ≤ range.pageCount size)
    (hle : range.first ≤ range.last) :
    Follows range (lastAfter range size k) (range.afterPages size k) := by
  cases k with
  | zero => exact Or.inl ⟨rfl, BlockRange.afterPages_zero hle⟩
  | succ k =>
    have hpage := BlockRange.pageAt h
    exact Or.inr ⟨_, rfl, UInt64.le_trans hpage.first_le hpage.first_le_last,
      hpage.toNat_last.symm⟩

/-- From any page on, a scan goes on like a walk. -/
theorem scanPages_extends (h : range.HasPages options.pageSize) (count k : Nat)
    (hcount : k + count = range.pageCount options.pageSize) {number : UInt64} {r' : ScanReport}
    (hnumber : 0 < count → number.toNat = range.afterPages options.pageSize k)
    (hr : Placed range (lastAfter range options.pageSize k) r r') :
    (scanPages retry options count (UInt64.ofNat k) r).Extends isMove (· = ·)
      (walk retry options.stopAtFailure
        (range.last.toNat + 1 - range.afterPages options.pageSize k) number r') := by
  induction count generalizing k number r r' with
  | zero =>
    obtain ⟨rfl, rfl, hlast⟩ := hr
    obtain rfl : k = r.range.pageCount options.pageSize := hcount
    rw [BlockRange.afterPages_pageCount h.pageCount_pos, Nat.sub_self]
    rw [lastAfter_pageCount h] at hlast
    refine .done ?_
    simp [ScanReport.finished, ScanReport.unplaced, ← hlast]
  | succ count ih =>
    have hk : k < range.pageCount options.pageSize := by omega
    have hsucc : UInt64.ofNat k + 1 = UInt64.ofNat (k + 1) := (UInt64.ofNat_add k 1).symm
    have hnext : lastAfter range options.pageSize (k + 1) =
        some (range.nthPage (BlockRange.pageSize options.pageSize) (UInt64.ofNat k)).last := rfl
    have hpage := BlockRange.pageAt hk
    unfold scanPages
    rw [hr.2.1, BlockRange.page_eq_ok (by rwa [BlockRange.toNat_index hk.le])]
    generalize range.nthPage (BlockRange.pageSize options.pageSize) (UInt64.ofNat k) = page at *
    obtain ⟨hfirst, hlast, hblocks, -, -⟩ := hpage
    obtain rfl : number = page.first :=
      UInt64.toNat_inj.mp ((hnumber (Nat.succ_pos count)).trans hfirst.symm)
    have hstart : range.first < page.first ∨
        range.first = page.first ∧ lastAfter range options.pageSize k = none := by
      rcases follows_lastAfter hk.le h.first_le_last with ⟨hnone, hafter⟩ | ⟨b, -, hle, hafter⟩
      · exact Or.inr ⟨UInt64.toNat_inj.mp (hafter.symm.trans hfirst.symm), hnone⟩
      · rw [UInt64.le_iff_toNat_le] at hle
        exact Or.inl (UInt64.lt_iff_toNat_lt.mpr (by omega))
    have hbound := page.last.toNat_lt
    have hend : range.afterPages options.pageSize (k + 1) ≤ range.last.toNat + 1 :=
      Nat.min_le_right _ _
    have hrest : range.last.toNat + 1 - range.afterPages options.pageSize k =
        page.blockCount + (range.last.toNat + 1 - range.afterPages options.pageSize (k + 1)) := by
      omega
    rw [hrest]
    refine scanBlocks_extends hr page _ (by omega) (fun _ => hstart) (fun _ => rfl) rfl ?_
    rintro r r' ⟨rfl, hrange, -⟩
    have hgoes : (scanPages retry options count (UInt64.ofNat k + 1)
        { r with lastBlock := some page.last }).Extends isMove (· = ·)
        (walk retry options.stopAtFailure
          (range.last.toNat + 1 - range.afterPages options.pageSize (k + 1))
          (page.first + UInt64.ofNat page.blockCount) r.unplaced) := by
      rw [hsucc]
      refine ih (k + 1) (by omega) (fun hpos => ?_) ⟨rfl, hrange, hnext.symm⟩
      have hlt : k + 1 < range.pageCount options.pageSize := by omega
      have hmore := BlockRange.mul_pageSize_le hlt
      have hbefore : range.afterPages options.pageSize (k + 1) ≤ range.last.toNat :=
        (Nat.min_le_left _ _).trans hmore
      have hlimit := range.last.toNat_lt
      rw [UInt64.toNat_add, UInt64.toNat_ofNat_of_lt' (by unfold UInt64.size; omega), hblocks,
        Nat.mod_eq_of_lt (by omega), hlast]
    dsimp only
    split_ifs
    · exact .aside rfl fun _ => hgoes
    · exact hgoes

/-- A scan by pages walks along its range, and only moves its cursor on the side. -/
theorem scan_extends (h : range.HasPages options.pageSize) :
    (scan retry options range).Extends isMove (· = ·)
      (walk retry options.stopAtFailure range.blockCount range.first (.start range)) := by
  have hzero : range.afterPages options.pageSize 0 = range.first.toNat :=
    BlockRange.afterPages_zero h.first_le_last
  have hcount : range.blockCount = range.last.toNat + 1 - range.afterPages options.pageSize 0 := by
    have hle := UInt64.le_iff_toNat_le.mp h.first_le_last
    rw [hzero, BlockRange.blockCount_eq h.first_le_last]
    omega
  rw [hcount, scan_eq retry h.pageCount_pos]
  exact scanPages_extends h _ 0 (Nat.zero_add _) (fun _ => hzero.symm) ⟨rfl, rfl, rfl⟩

end BlockScan

end RedemptionWatch
