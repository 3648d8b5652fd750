import RedemptionWatch.Proofs.Watch.Backfill
import RedemptionWatch.Proofs.Watch.Scans

/-!
# Backfills sweep their ranges

A backfill by blocks does not stop at failures. It goes through its range once and in order, and
when it moves the cursor to a block, it has been to every block of the range up to that one
(`Watcher.backfill_sweeps`). Each of them is settled, or it was passed over for a failure that may
pass (`Visited`), which a live scan would have stopped at.
-/

namespace RedemptionWatch

/-- When it was last asked for, the block was not had for a failure that may pass. -/
def PassedOver (log : Log Watch.interface) (block : UInt64) : Prop :=
  ∃ (before after : Log Watch.interface) (e : FetchError),
    log = before ++ ⟨.block block, .error e⟩ :: after ∧ .block block ∉ Watch.requests after ∧
    e.isTransient = true

/-- The block is settled or passed over. -/
def Visited (log : Log Watch.interface) (block : UInt64) : Prop :=
  Settled log block ∨ PassedOver log block

/-- All blocks from `first` on and before `next` have been visited. -/
def Swept (first : UInt64) (next : Nat) (log : Log Watch.interface) : Prop :=
  ∀ b : UInt64, first ≤ b → b.toNat < next → Visited log b

variable {log : Log Watch.interface} {b first : UInt64} {n : Nat}

theorem PassedOver.snoc (h : PassedOver log b) (q : Watch.Request) (hq : q ≠ .block b)
    (a : q.Answer) : PassedOver (log ++ [⟨q, a⟩]) b := by
  obtain ⟨before, after, e, rfl, hafter, he⟩ := h
  refine ⟨before, after ++ [⟨q, a⟩], e, by simp, ?_, he⟩
  rw [Watch.requests_append, List.mem_append]
  rintro (hmem | hmem)
  · exact hafter hmem
  · exact hq (List.mem_singleton.mp hmem).symm

theorem Visited.snoc (h : Visited log b) (q : Watch.Request) (hq : q ≠ .block b) (a : q.Answer) :
    Visited (log ++ [⟨q, a⟩]) b :=
  h.imp (·.snoc q hq a) (·.snoc q hq a)

namespace Swept

theorem start (first : UInt64) (log : Log Watch.interface) : Swept first first.toNat log :=
  fun _ hle hlt => absurd (UInt64.le_iff_toNat_le.mp hle) (Nat.not_le.mpr hlt)

/-- Blocks that were visited stay so when later ones are asked for. -/
theorem snoc (h : Swept first n log) (q : Watch.Request) (hq : ∀ b, q = .block b → n ≤ b.toNat)
    (a : q.Answer) : Swept first n (log ++ [⟨q, a⟩]) := by
  intro b hle hlt
  refine (h b hle hlt).snoc q ?_ a
  rintro rfl
  exact absurd (hq b rfl) (Nat.not_le.mpr hlt)

/-- One more block is visited. -/
theorem succ (h : Swept first b.toNat log) (hb : Visited log b) :
    Swept first (b.toNat + 1) log := by
  intro c hle hlt
  by_cases hc : c.toNat < b.toNat
  · exact h c hle hc
  · rwa [UInt64.toNat_inj.mp (show c.toNat = b.toNat by omega)]

end Swept

/-! ## One block -/

/-- The cursor moves to blocks of the range only, and not before the range is swept up to them. -/
def CommitsSwept (range : BlockRange) (log : Log Watch.interface) (q : Watch.interface.Request) :
    Prop :=
  ∀ b, q = Watch.Request.moveCursor b →
    range.first ≤ b ∧ b ≤ range.last ∧ Swept range.first (b.toNat + 1) log

/-- What the answer for a block leaves, before its candidates are recorded. -/
def SweptTo (first number : UInt64) (a : Except FetchError (Option (List Candidate)))
    (log : Log Watch.interface) : Prop :=
  Swept first number.toNat log ∧ match a with
    | .ok found => Settling log number (found.getD [])
    | .error .cancelled => True
    | .error _ => Visited log number

variable {range page : BlockRange} {number : UInt64} {retry : RetryPolicy} {options : ScanOptions}
  {report : ScanReport}

theorem block_sweeps (h : Swept first number.toNat log) :
    (Watch.block number).Respects (CommitsSwept range) (SweptTo first number) log := by
  refine ⟨nofun, fun a => ⟨h.snoc (.block number) ?_ a, ?_⟩⟩
  · rintro _ ⟨⟩
    exact le_rfl
  · rcases a with (reason | reason | reason | _) | found
    · exact Or.inr ⟨log, [], .throttled reason, rfl, List.not_mem_nil, rfl⟩
    · exact Or.inr ⟨log, [], .remote reason, rfl, List.not_mem_nil, rfl⟩
    · exact Or.inl (.of_decode log reason)
    · trivial
    · exact .of_ok log found

theorem execute_block_sweeps (h : Swept first number.toNat log) :
    (retry.execute (Watch.block number)).Respects (CommitsSwept range) (SweptTo first number)
      log := by
  refine Watch.attempt_respects (fun _ (h : Swept first number.toNat _) => block_sweeps h) ?_
    retry.retries h
  rintro reason log' ⟨hswept, -⟩
  exact ⟨nofun, hswept.snoc (.pause _) nofun _, hswept.snoc (.pause _) nofun _, trivial⟩

/-- When all candidates of a block are recorded, the block is settled. -/
theorem recordAll_sweeps {cs : List Candidate} (hrange : report.range = range)
    (h : Swept first number.toNat log) (hsettling : Settling log number cs) :
    (report.recordAll cs).Respects (CommitsSwept range)
      (fun r log' => r.range = range ∧ Swept first (number.toNat + 1) log') log := by
  refine (ScanReport.recordAll_respects (fun r cs log => r.range = range ∧
    Swept first number.toNat log ∧ Settling log number cs) ?_ ⟨hrange, h, hsettling⟩).mono ?_
  · rintro r c rest log ⟨hrange, hswept, hsettling⟩
    exact ⟨nofun, fun outcome => ⟨(r.range_recorded outcome).trans hrange,
      hswept.snoc (.record c) nofun _, hsettling.record outcome⟩⟩
  · rintro r log' ⟨hrange, hswept, hsettling⟩
    exact ⟨hrange, hswept.succ (Or.inl hsettling.settled)⟩

/-! ## Pages and ranges -/

/-- What the scan of blocks up to `next` leaves. -/
def SweptBlocks (range : BlockRange) (next : Nat) :
    BlockScan.Progress → Log Watch.interface → Prop
  | .done report, log => report.range = range ∧ Swept range.first next log
  | .stopped _, _ => True
  | .cancelled, _ => True

theorem scanBlocks_sweeps (hstop : options.stopAtFailure = false) (hrange : report.range = range)
    (count : Nat) (hnumber : 0 < count → number.toNat = n) (hbound : n + count ≤ 2 ^ 64)
    (h : Swept range.first n log) :
    (BlockScan.scanBlocks retry options page count number report).Respects (CommitsSwept range)
      (SweptBlocks range (n + count)) log := by
  induction count generalizing n number report log with
  | zero => exact ⟨hrange, h⟩
  | succ count ih =>
    obtain rfl := hnumber (Nat.succ_pos count)
    have hnext : 0 < count → (number + 1).toNat = number.toNat + 1 := fun hpos =>
      BlockRange.toNat_add_one (by omega)
    have hrest : ∀ {report' : ScanReport} {log' : Log Watch.interface}, report'.range = range →
        Swept range.first (number.toNat + 1) log' →
        (BlockScan.scanBlocks retry options page count (number + 1) report').Respects
          (CommitsSwept range) (SweptBlocks range (number.toNat + (count + 1))) log' := by
      intro report' log' hrange h
      rw [Nat.add_comm count 1, ← Nat.add_assoc]
      exact ih hrange hnext (by omega) h
    refine ⟨nofun, ?_⟩
    rintro (_ | _)
    · refine (execute_block_sweeps (h.snoc .isCancelled nofun _)).bind ?_
      rintro (e | found) log' ⟨hswept, hanswer⟩
      · cases e with
        | cancelled => trivial
        | throttled reason | remote reason | decode reason =>
          simp only [hstop, Bool.false_eq_true, false_and, if_false]
          exact hrest hrange (hswept.succ hanswer)
      · refine (recordAll_sweeps hrange hswept hanswer).bind ?_
        rintro report' log'' ⟨hrange', hswept'⟩
        have hprocessed : report'.processed.range = range := hrange'
        exact hrest hprocessed hswept'
    · trivial

theorem scanPages_sweeps (hstop : options.stopAtFailure = false) (count : Nat) {index : UInt64}
    (hcount : index.toNat + count = range.pageCount options.pageSize)
    (hfirst : 0 < count →
      (range.nthPage (BlockRange.pageSize options.pageSize) index).first.toNat = n)
    (hrange : report.range = range) (h : Swept range.first n log) :
    (BlockScan.scanPages retry options count index report).Respects (CommitsSwept range)
      (fun _ _ => True) log := by
  induction count generalizing n index report log with
  | zero => trivial
  | succ count ih =>
    have hindex : index.toNat < range.pageCount options.pageSize := by omega
    have hlast := BlockRange.last_page_le_last range options.pageSize index
    have hblocks := BlockRange.blockCount_page hindex
    have hle := UInt64.le_trans (BlockRange.first_le_first_page hindex)
      (BlockRange.first_page_le_last_page hindex)
    have hsucc : 0 < count →
        (range.nthPage (BlockRange.pageSize options.pageSize) (index + 1)).first.toNat =
          (range.nthPage (BlockRange.pageSize options.pageSize) index).last.toNat + 1 :=
      fun hpos => BlockRange.first_page_succ (by omega)
    have hnext : (index + 1).toNat = index.toNat + 1 := by
      have := BlockRange.pageCount_lt range options.pageSize
      exact BlockRange.toNat_add_one (by omega)
    obtain rfl := hfirst (Nat.succ_pos count)
    unfold BlockScan.scanPages
    rw [hrange, BlockRange.page_eq_ok hindex]
    generalize range.nthPage (BlockRange.pageSize options.pageSize) index = page at *
    have hbound := page.last.toNat_lt
    refine (scanBlocks_sweeps hstop hrange page.blockCount (fun _ => rfl) (by omega) h).bind ?_
    rintro (report' | report' | _) log' hprogress
    · obtain ⟨hrange', hswept⟩ := hprogress
      rw [hblocks] at hswept
      have hrest : ∀ log, Swept range.first (page.last.toNat + 1) log →
          (BlockScan.scanPages retry options count (index + 1)
            { report' with lastBlock := some page.last }).Respects (CommitsSwept range)
            (fun _ _ => True) log :=
        fun log h => ih (by omega) hsucc hrange' h
      dsimp only
      split_ifs
      · have hmove : ∀ block, Watch.Request.moveCursor page.last = .block block →
            page.last.toNat + 1 ≤ block.toNat := by
          rintro block ⟨⟩
        refine ⟨?_, fun a => hrest _ (hswept.snoc (.moveCursor page.last) hmove a)⟩
        rintro _ ⟨⟩
        exact ⟨hle, hlast, hswept⟩
      · exact hrest log' hswept
    · trivial
    · trivial

theorem scan_sweeps (hstop : options.stopAtFailure = false) :
    (BlockScan.scan retry options range).Respects (CommitsSwept range) (fun _ _ => True) [] := by
  rcases BlockScan.scan_cases retry options range with hscan | ⟨reason, hscan⟩
  · rw [hscan]
    exact scanPages_sweeps hstop _ (Nat.zero_add _)
      (fun _ => congrArg UInt64.toNat (BlockRange.first_page_zero _ _)) rfl (.start range.first [])
  · rw [hscan]
    trivial

namespace Watcher

/-- Whatever a backfill by blocks is answered, when it moves the cursor to a block, that is one of
its range, and it has visited all blocks of the range up to it. -/
theorem backfill_sweeps {w : Watcher} (hmode : w.mode = .blocks) {r : BackfillRequest}
    {p : Watch.Act (Listing ⊕ Except WatchError ScanReport)}
    (h : Loop.Logs (w.backfill r) (.done (.inl (.start r.range))) log p) :
    Log.Keeps (CommitsSwept r.range) [] log := by
  refine (h.respects (fun l log => l = .start r.range ∧ log = []) (fun _ _ => True) ?_
    ⟨rfl, rfl⟩).1
  rintro _ _ - ⟨rfl, rfl⟩
  unfold backfill ScanMode.scan
  rw [hmode]
  cases r.validate with
  | error e => trivial
  | ok =>
    have hscan : (BlockScan.scan w.retry (w.backfillOptions r) r.range).Respects
        (CommitsSwept r.range) (fun _ _ => True) [] := scan_sweeps rfl
    exact hscan.bind fun _ _ _ => trivial

end Watcher

end RedemptionWatch
