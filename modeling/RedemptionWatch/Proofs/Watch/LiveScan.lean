import RedemptionWatch.Proofs.Pagination
import RedemptionWatch.Proofs.Watch.Frontier
import RedemptionWatch.Watch.Watcher

/-!
# The live loop keeps to its frontier

Whatever a live loop by blocks is answered, it never does what its frontier refuses
(`Watcher.live_obeys`), so the frontier accepts every log of it (`Watcher.live_accepted`).

Within the scan of a range a block comes after all blocks before it are done (`Frontier.At`); when a
block could not be had it comes again. A scan ends with a last block from which the live loop may go
on (`Frontier.Reached`): the end of the range, or the block before the one that failed.
-/

namespace RedemptionWatch

/-- A range that has pages is scanned from the first one on. -/
theorem BlockScan.scan_eq (retry : RetryPolicy) {options : ScanOptions} {range : BlockRange}
    (h : 0 < range.pageCount options.pageSize) :
    scan retry options range =
      scanPages retry options (range.pageCount options.pageSize) 0 (.start range) := by
  obtain ⟨count, hcount⟩ := BlockRange.countPages_of_lt h
  rw [scan, hcount, BlockRange.pageCount_eq_toNat hcount]

/-- The pages of a range are scanned from the first one on, or the scan breaks off at once. -/
theorem BlockScan.scan_cases (retry : RetryPolicy) (options : ScanOptions) (range : BlockRange) :
    scan retry options range =
        scanPages retry options (range.pageCount options.pageSize) 0 (.start range) ∨
      ∃ reason, scan retry options range = .done (.error (.broken reason)) := by
  cases hcount : range.countPages options.pageSize with
  | error reason =>
    refine Or.inr ⟨reason, ?_⟩
    rw [scan, hcount]
    rfl
  | ok count =>
    left
    rw [scan, hcount, BlockRange.pageCount_eq_toNat hcount]

namespace Frontier

/-! ## The blocks of a range -/

/-- A live loop may go on from this block. -/
structure Ready (block : UInt64) (f : Frontier) : Prop where
  pending : f.pending = []
  cursor_le : f.cursor ≤ block
  borders : f.Borders block

/-- A scan of the range stands at block `number`, and its cursor is at `lastBlock`. -/
structure At (range : BlockRange) (lastBlock : Option UInt64) (number : Nat) (f : Frontier) :
    Prop where
  pending : f.pending = []
  head : f.head = some range.last
  cursor_le : f.cursor ≤ lastBlock.getD range.first
  place : number = range.first.toNat ∧ f.Borders range.first ∨
    range.first.toNat < number ∧ number = f.next ∧ f.torn = false

/-- After a page the scan goes on right after its last block. -/
def Follows (range : BlockRange) (lastBlock : Option UInt64) (number : Nat) : Prop :=
  lastBlock = none ∧ number = range.first.toNat ∨
    ∃ b, lastBlock = some b ∧ range.first ≤ b ∧ number = b.toNat + 1

/-- A scan of the range may end with this last block. -/
structure Reached (range : BlockRange) (lastBlock : Option UInt64) (f : Frontier) : Prop where
  first_le : range.first ≤ lastBlock.getD range.first
  ready : f.Ready (lastBlock.getD range.first)

/-- What the last answer for block `number` leaves. -/
def Answered (range : BlockRange) (lastBlock : Option UInt64) (number : Nat) :
    Except FetchError (Option (List Candidate)) → Frontier → Prop
  | .ok found, f =>
    f.pending = found.getD [] ∧ At range lastBlock (number + 1) { f with pending := [] }
  | .error (.decode _), f => At range lastBlock (number + 1) f
  | .error _, f => At range lastBlock number f

variable {f : Frontier} {range : BlockRange} {lastBlock : Option UInt64} {number : UInt64} {n : Nat}

theorem At.first_le (h : f.At range lastBlock n) : range.first.toNat ≤ n := by
  rcases h.place with ⟨rfl, -⟩ | ⟨hlt, -⟩
  · exact le_rfl
  · exact hlt.le

/-- After the first block of the range all blocks before this one are done. -/
theorem At.next_of_lt (h : f.At range lastBlock n) (hlt : range.first.toNat < n) :
    n = f.next ∧ f.torn = false := by
  rcases h.place with ⟨heq, -⟩ | ⟨-, hdone⟩
  · omega
  · exact hdone

theorem At.borders (h : f.At range lastBlock number.toNat) : f.Borders number := by
  rcases h.place with ⟨hfirst, hborders⟩ | ⟨-, hnext, htorn⟩
  · rw [UInt64.toNat_inj.mp hfirst]
    exact hborders
  · exact Or.inl ⟨hnext, htorn⟩

theorem At.answered (h : f.At range lastBlock number.toNat)
    (a : Except FetchError (Option (List Candidate))) :
    Answered range lastBlock number.toNat a (f.fetched number a) := by
  have hdone : range.first.toNat < number.toNat + 1 := Nat.lt_succ_of_le h.first_le
  have hfailed : f.At range lastBlock number.toNat →
      At range lastBlock number.toNat
        { f with torn := decide (number.toNat + 1 = f.next) } := by
    rintro ⟨hp, hhead, hcursor, ⟨hfirst, ⟨hnext, -⟩ | hnext⟩ | ⟨hlt, hnext, -⟩⟩
    · exact ⟨hp, hhead, hcursor, Or.inl ⟨hfirst, Or.inl ⟨hnext, by simp; omega⟩⟩⟩
    · exact ⟨hp, hhead, hcursor, Or.inl ⟨hfirst, Or.inr hnext⟩⟩
    · exact ⟨hp, hhead, hcursor, Or.inr ⟨hlt, hnext, by simp; omega⟩⟩
  cases a with
  | ok found => exact ⟨rfl, rfl, h.head, h.cursor_le, Or.inr ⟨hdone, rfl, rfl⟩⟩
  | error e =>
    cases e with
    | decode reason => exact ⟨h.pending, h.head, h.cursor_le, Or.inr ⟨hdone, rfl, rfl⟩⟩
    | throttled reason => exact hfailed h
    | remote reason => exact hfailed h
    | cancelled => exact hfailed h

/-- Between two pages the scan may end. -/
theorem At.reached (h : f.At range lastBlock n) (hn : Follows range lastBlock n) :
    f.Reached range lastBlock := by
  rcases hn with ⟨rfl, rfl⟩ | ⟨b, rfl, hfirst, rfl⟩
  · refine ⟨UInt64.le_refl _, h.pending, h.cursor_le, ?_⟩
    rcases h.place with ⟨-, hborders⟩ | ⟨hlt, -⟩
    · exact hborders
    · exact absurd hlt (lt_irrefl _)
  · have hlt := Nat.lt_succ_of_le (UInt64.le_iff_toNat_le.mp hfirst)
    exact ⟨hfirst, h.pending, h.cursor_le, Or.inr (h.next_of_lt hlt).1⟩

theorem Follows.getD_le (h : Follows range lastBlock number.toNat) :
    lastBlock.getD range.first ≤ number := by
  rw [UInt64.le_iff_toNat_le]
  rcases h with ⟨rfl, hnumber⟩ | ⟨b, rfl, -, hnumber⟩
  · exact hnumber.ge
  · rw [Option.getD_some]
    omega

theorem execute_block_obeys (retry : RetryPolicy) (hle : lastBlock.getD range.first ≤ number)
    (h : f.At range lastBlock number.toNat) :
    (retry.execute (Watch.block number)).Obeys step (Answered range lastBlock number.toNat) f :=
  Watch.attempt_obeys (fun _ hf => idles hf.pending)
    (fun _ hf => (block_obeys hf.pending (UInt64.le_trans hf.cursor_le hle) hf.borders).mono
      fun a _ hg => hg ▸ hf.answered a)
    (fun _ _ hf => hf) (fun _ hf => hf) retry.delay retry.retries h

/-- Recording all pending candidates leaves none, and keeps where the report stands. -/
theorem pending_obeys (report : ScanReport) (candidates : List Candidate)
    (h : f.pending = candidates) :
    (report.recordAll candidates).Obeys step (fun report' g => g = { f with pending := [] } ∧
      report'.range = report.range ∧ report'.lastBlock = report.lastBlock) f := by
  have hrecord : ∀ c rest g, g = { f with pending := c :: rest } →
      (Watch.record c).Obeys step (fun _ g => g = { f with pending := rest }) g := by
    rintro c rest _ rfl
    exact record_obeys rfl
  have hpending : f = { f with pending := candidates } := by rw [← h]
  exact ScanReport.recordAll_obeys (fun rest g => g = { f with pending := rest }) hrecord report
    candidates hpending

/-! ## Scans -/

variable {retry : RetryPolicy} {options : ScanOptions} {page : BlockRange} {report : ScanReport}

/-- The scan ends before a block that could not be had, with everything before it done. -/
theorem stopBefore_obeys (hrange : report.range = range)
    (hpage : Follows range report.lastBlock page.first.toNat)
    (hle : page.first.toNat ≤ number.toNat) (hlast : number ≤ range.last)
    (h : f.At range report.lastBlock number.toNat) :
    (BlockScan.stopBefore options page number report).Obeys step
      (fun report' g => g.Reached range report'.lastBlock) f := by
  have hfirst := h.first_le
  unfold BlockScan.stopBefore
  rw [hrange]
  by_cases hsome : 0 < number ∧ range.first ≤ number - 1
  · rw [if_pos hsome]
    obtain ⟨hpos, hbefore⟩ := hsome
    have hnat := UInt64.le_iff_toNat_le.mp hbefore
    rw [BlockRange.toNat_sub_one hpos] at hnat
    have hposNat : 0 < number.toNat := UInt64.lt_iff_toNat_lt.mp hpos
    obtain ⟨hnumber, htorn⟩ := h.next_of_lt (by omega)
    have hnext : (number - 1).toNat + 1 = f.next := by
      rw [BlockRange.toNat_sub_one hpos]
      omega
    have hcursor : f.cursor ≤ number - 1 := by
      refine UInt64.le_trans h.cursor_le ?_
      rcases hpage with ⟨hnone, -⟩ | ⟨b, hsome, -, hb⟩
      · rw [hnone]
        exact hbefore
      · rw [hsome, UInt64.le_iff_toNat_le, Option.getD_some, BlockRange.toNat_sub_one hpos]
        omega
    have hready : f.Ready (number - 1) := ⟨h.pending, hcursor, Or.inr hnext⟩
    split_ifs
    · have hhead : ∃ head ∈ f.head, number - 1 ≤ head := by
        refine ⟨range.last, h.head, ?_⟩
        have hle := UInt64.le_iff_toNat_le.mp hlast
        rw [UInt64.le_iff_toNat_le, BlockRange.toNat_sub_one hpos]
        omega
      refine (moveCursor_obeys h.pending ⟨htorn, hnext, hcursor, hhead⟩).bind ?_
      rintro _ _ rfl
      exact ⟨hbefore, h.pending, UInt64.le_refl _, Or.inr hnext⟩
    · exact ⟨hbefore, hready⟩
  · rw [if_neg hsome]
    -- the block is the first of the range, and no page was done before
    have heq : number.toNat = range.first.toNat := by
      by_cases hpos : 0 < number
      · have hnot : ¬range.first.toNat ≤ (number - 1).toNat := fun hle =>
          hsome ⟨hpos, UInt64.le_iff_toNat_le.mpr hle⟩
        rw [BlockRange.toNat_sub_one hpos] at hnot
        omega
      · have hzero := Nat.not_lt.mp fun hlt => hpos (UInt64.lt_iff_toNat_lt.mpr hlt)
        have : UInt64.toNat 0 = 0 := rfl
        omega
    refine h.reached ?_
    rcases hpage with ⟨hnone, -⟩ | ⟨b, -, hb, hnumber⟩
    · exact Or.inl ⟨hnone, heq⟩
    · have := UInt64.le_iff_toNat_le.mp hb
      omega

/-- What the scan of a page that ends with block `last` leaves. -/
def AfterPage (range : BlockRange) (lastBlock : Option UInt64) (last : Nat) :
    BlockScan.Progress → Frontier → Prop
  | .done report, f =>
    report.range = range ∧ report.lastBlock = lastBlock ∧ f.At range lastBlock (last + 1)
  | .stopped report, f => f.Reached range report.lastBlock
  | .cancelled, f => f.pending = []

/-- The blocks of a page are done one after the other. -/
theorem scanBlocks_obeys (hstop : options.stopAtFailure = true)
    (hpage : Follows range lastBlock page.first.toNat) (hlast : page.last ≤ range.last)
    (count : Nat) (hcount : n + count = page.last.toNat + 1)
    (hnumber : 0 < count → number.toNat = n) (hle : page.first.toNat ≤ n)
    (hrange : report.range = range) (hreport : report.lastBlock = lastBlock)
    (h : f.At range lastBlock n) :
    (BlockScan.scanBlocks retry options page count number report).Obeys step
      (AfterPage range lastBlock page.last.toNat) f := by
  induction count generalizing n number report f with
  | zero =>
    refine ⟨hrange, hreport, ?_⟩
    rw [← hcount]
    exact h
  | succ count ih =>
    obtain rfl := hnumber (Nat.succ_pos count)
    have hnext : 0 < count → (number + 1).toNat = number.toNat + 1 := fun hpos => by
      have := page.last.toNat_lt
      exact BlockRange.toNat_add_one (by omega)
    have hdone : ∀ {report' : ScanReport} {g : Frontier}, report'.range = range →
        report'.lastBlock = lastBlock → g.At range lastBlock (number.toNat + 1) →
        (BlockScan.scanBlocks retry options page count (number + 1) report').Obeys step
          (AfterPage range lastBlock page.last.toNat) g :=
      fun hrange hreport hg => ih (by omega) hnext (by omega) hrange hreport hg
    have hfailed : ∀ {g : Frontier}, g.At range lastBlock number.toNat →
        (BlockScan.stopBefore options page number report.skipped >>= fun report' =>
          pure (BlockScan.Progress.stopped report')).Obeys step
          (AfterPage range lastBlock page.last.toNat) g := by
      intro g hg
      have hbound : number ≤ range.last := by
        rw [UInt64.le_iff_toNat_le] at hlast ⊢
        omega
      have hskipped : report.skipped.lastBlock = lastBlock := hreport
      rw [← hskipped] at hpage hg
      have hrange' : report.skipped.range = range := hrange
      refine (stopBefore_obeys hrange' hpage hle hbound hg).bind ?_
      intro report' g hg
      exact hg
    unfold BlockScan.scanBlocks
    refine (idles h.pending).isCancelled_obeys.bind ?_
    rintro (_ | _) _ rfl
    · have hbegin : lastBlock.getD range.first ≤ number :=
        UInt64.le_trans hpage.getD_le (UInt64.le_iff_toNat_le.mpr hle)
      refine (execute_block_obeys retry hbegin h).bind ?_
      rintro (e | found) g hg
      · cases e with
        | decode reason =>
          simp only [FetchError.isTransient, Bool.false_eq_true, and_false, if_false]
          exact hdone hrange hreport hg
        | throttled reason =>
          simp only [FetchError.isTransient, hstop, and_self, if_true]
          exact hfailed hg
        | remote reason =>
          simp only [FetchError.isTransient, hstop, and_self, if_true]
          exact hfailed hg
        | cancelled => exact hg.pending
      · refine (pending_obeys report (found.getD []) hg.1).bind ?_
        rintro report' _ ⟨rfl, hrange', hreport'⟩
        exact hdone (hrange'.trans hrange) (hreport'.trans hreport) hg.2
    · exact h.pending

/-- What a scan of the range leaves. -/
def AfterScan (range : BlockRange) : Except WatchError ScanReport → Frontier → Prop
  | .ok report, f => f.Reached range report.lastBlock
  | .error _, f => f.pending = []

/-- The pages of a range are done one after the other, and the cursor moves to the end of each. -/
theorem scanPages_obeys (hstop : options.stopAtFailure = true) (count : Nat) {index : UInt64}
    (hcount : index.toNat + count = range.pageCount options.pageSize)
    (hfirst : 0 < count →
      n = (range.nthPage (BlockRange.pageSize options.pageSize) index).first.toNat)
    (hrange : report.range = range) (hn : Follows range report.lastBlock n)
    (h : f.At range report.lastBlock n) :
    (BlockScan.scanPages retry options count index report).Obeys step (AfterScan range) f := by
  induction count generalizing n index report f with
  | zero => exact h.reached hn
  | succ count ih =>
    have hindex : index.toNat < range.pageCount options.pageSize := by omega
    have hlast := BlockRange.last_page_le_last range options.pageSize index
    have hblocks := BlockRange.blockCount_page hindex
    have hle := BlockRange.first_page_le_last_page hindex
    have hbegin := BlockRange.first_le_first_page hindex
    have hsucc : 0 < count →
        (range.nthPage (BlockRange.pageSize options.pageSize) index).last.toNat + 1 =
          (range.nthPage (BlockRange.pageSize options.pageSize) (index + 1)).first.toNat :=
      fun hpos => (BlockRange.first_page_succ (by omega)).symm
    have hnext : (index + 1).toNat = index.toNat + 1 := by
      have := BlockRange.pageCount_lt range options.pageSize
      exact BlockRange.toNat_add_one (by omega)
    obtain rfl := hfirst (Nat.succ_pos count)
    unfold BlockScan.scanPages
    rw [hrange, BlockRange.page_eq_ok hindex]
    generalize range.nthPage (BlockRange.pageSize options.pageSize) index = page at *
    refine (scanBlocks_obeys hstop hn hlast page.blockCount hblocks (fun _ => rfl) le_rfl hrange
      rfl h).bind ?_
    rintro (report' | report' | _) g hg
    · obtain ⟨hrange', -, hat⟩ := hg
      have hrange_le := UInt64.le_trans hbegin hle
      have hlt := Nat.lt_succ_of_le (UInt64.le_iff_toNat_le.mp hrange_le)
      have hfollows : Follows range (some page.last) (page.last.toNat + 1) :=
        Or.inr ⟨page.last, rfl, hrange_le, rfl⟩
      have hdone : page.last.toNat + 1 = g.next ∧ g.torn = false := hat.next_of_lt hlt
      have hcursor : g.cursor ≤ page.last :=
        UInt64.le_trans hat.cursor_le (UInt64.le_trans hn.getD_le hle)
      have hrest : ∀ cursor, cursor ≤ page.last →
          (BlockScan.scanPages retry options count (index + 1)
            { report' with lastBlock := some page.last }).Obeys step (AfterScan range)
            { g with cursor := cursor } := fun cursor hle' =>
        ih (by omega) hsucc hrange' hfollows
          ⟨hat.pending, hat.head, hle', Or.inr ⟨hlt, hdone⟩⟩
      split_ifs
      · refine (moveCursor_obeys hat.pending
          ⟨hdone.2, hdone.1, hcursor, range.last, hat.head, hlast⟩).bind ?_
        rintro _ _ rfl
        exact hrest page.last (UInt64.le_refl _)
      · exact hrest g.cursor hcursor
    · exact hg
    · exact hg

/-- A scan goes through the range from its first block on. -/
theorem scan_obeys (hstop : options.stopAtFailure = true) (hready : f.Ready range.first)
    (hhead : f.head = some range.last) :
    (BlockScan.scan retry options range).Obeys step (AfterScan range) f := by
  rcases BlockScan.scan_cases retry options range with hscan | ⟨reason, hscan⟩
  · rw [hscan]
    exact scanPages_obeys hstop _ (Nat.zero_add _) (fun _ => by rw [BlockRange.first_page_zero])
      rfl (Or.inl ⟨rfl, rfl⟩)
      ⟨hready.pending, hhead, hready.cursor_le, Or.inl ⟨rfl, hready.borders⟩⟩
  · rw [hscan]
    exact hready.pending

/-! ## The live loop -/

/-- What holds between two rounds of a live loop. -/
def Keeps : Watcher.Stage → Frontier → Prop
  | .start, _ => False
  | .poll position, f => f.Ready position
  | .scan position listing, f =>
    f.Ready position ∧ listing.report.range.first = position ∧
      f.head = some listing.report.range.last
  | .broken _, f => f.pending = []

/-- What a round of a live loop leaves. -/
abbrev AfterRound (turn : Watcher.Turn) (f : Frontier) : Prop :=
  turn.elim (Keeps · f) fun _ => f.pending = []

end Frontier

namespace Watcher

open Frontier

variable (w : Watcher) {f : Frontier} {position : UInt64}

theorem pollStage_obeys (h : f.Ready position) : (w.poll position).Obeys step AfterRound f := by
  refine poll_obeys (Ready position) (fun _ hf => idles hf.pending)
    (fun _ hf _ => hf.pending) (fun _ hf => hf) (fun f hf e => ?_) (fun f hf head => ?_) h
  · exact ⟨f, if_pos hf.pending, hf⟩
  · have hready : (f.sighted (.ok head)).Ready position := ⟨hf.pending, hf.cursor_le, hf.borders⟩
    exact ⟨f.sighted (.ok head), if_pos hf.pending, hready, fun _ => ⟨hready, rfl, rfl⟩⟩

theorem afterBlocks_obeys {range : BlockRange} (result : Except WatchError ScanReport)
    (h : AfterScan range result f) : (w.afterScan range.first result).Obeys step AfterRound f := by
  have hp : f.pending = [] := by
    cases result with
    | error e => exact h
    | ok report => exact h.ready.pending
  refine afterScan_obeys result (idles hp) (fun _ => hp) (fun _ => hp) ?_
  rintro report rfl
  have hmax : max range.first (report.lastBlock.getD range.first) =
      report.lastBlock.getD range.first := if_pos h.first_le
  rw [hmax]
  exact h.ready

/-- The live loop never does what its frontier refuses. -/
theorem live_obeys (hmode : w.mode = .blocks) (stage : Stage) (f : Frontier) (h : Keeps stage f) :
    (w.live stage).Obeys step AfterRound f := by
  cases stage with
  | start => exact h.elim
  | poll position => exact pollStage_obeys w h
  | scan position listing =>
    obtain ⟨hready, rfl, hhead⟩ := h
    have hscan : w.live (.scan listing.report.range.first listing) =
        BlockScan.scan w.retry w.liveOptions listing.report.range >>=
          w.afterScan listing.report.range.first := by
      unfold Watcher.live ScanMode.scan
      simp only [hmode]
      exact Plan.bind_assoc _ _ _
    rw [hscan]
    exact (scan_obeys rfl hready hhead).bind fun result g hg => afterBlocks_obeys w result hg
  | broken reason => exact h

/-- Every log of the live loop starts with the cursor, and its frontier accepts what follows. -/
theorem live_accepted (hmode : w.mode = .blocks) {log : Log Watch.interface} {p : Watch.Act Turn}
    (h : Loop.Logs w.live (.done (.inl .start)) log p) :
    log = [] ∨
    (∃ reason rest, log = ⟨.cursor w.initialBlock, .error reason⟩ :: rest ∧
      ∀ e ∈ rest, e.request = .publish .closed) ∨
    ∃ start rest f, log = ⟨.cursor w.initialBlock, .ok start⟩ :: rest ∧
      rest.foldlM step (Frontier.start start) = some f ∧ p.Obeys step AfterRound f := by
  rcases logs_start h with rfl | ⟨reason, rest, rfl, hrest⟩ | ⟨start, rest, rfl, hlogs⟩
  · exact Or.inl rfl
  · exact Or.inr (Or.inl ⟨reason, rest, rfl, hrest⟩)
  · obtain ⟨f, hf, hp⟩ := Loop.Logs.obeys (live_obeys w hmode) hlogs
      (show Frontier.AfterRound (.inl (.poll start)) (Frontier.start start) from
        ⟨rfl, UInt64.le_refl start, Or.inl ⟨rfl, rfl⟩⟩)
    exact Or.inr (Or.inr ⟨start, rest, f, rfl, hf, hp⟩)

end Watcher

end RedemptionWatch
