import RedemptionWatch.Proofs.Pagination.Cover
import RedemptionWatch.Proofs.Plan.Ends
import RedemptionWatch.Proofs.Watch.Restart
import RedemptionWatch.Proofs.Watch.Scans
import RedemptionWatch.Proofs.Watch.Shared

/-!
# Backfills in any order

Backfills that run one after the other over a chain whose blocks each come to something fixed leave
the statuses of one pass over the blocks of all their ranges, each block once and in ascending order
(`Watcher.backfills_converge`). Neither their order nor their overlaps, page sizes and cursors make
a difference.

One backfill writes the candidates of the blocks of its range, page by page
(`Ledger.Tells.scan_ends`): the pages follow each other without gaps up to the end of the range, and
a block that cannot be read is passed over. Of what is written in all, the statuses depend on the
candidates alone, and these are the candidates of the union of the ranges
(`Ledger.mem_flatMap_union`).
-/

namespace RedemptionWatch

open Watch (Surroundings Shared)

/-! ## Blocks of ledgers and of ranges -/

namespace Ledger

variable {l : Ledger} {a b : Nat} {c : Candidate}

theorem between_cons (l : Ledger) (n count : Nat) :
    l.between n (n + (count + 1)) =
      l.candidates (UInt64.ofNat n) ++ l.between (n + 1) (n + 1 + count) := by
  simp [between, List.range'_succ]

/-- Below `2 ^ 64` the candidates are those of blocks. -/
theorem mem_between_iff (hb : b ≤ 2 ^ 64) :
    c ∈ l.between a b ↔
      ∃ block : UInt64, (a ≤ block.toNat ∧ block.toNat < b) ∧ c ∈ l.candidates block := by
  unfold between
  rw [List.mem_flatMap]
  constructor
  · rintro ⟨n, hn, hc⟩
    have hmem := List.mem_range'_1.mp hn
    have htoNat : (UInt64.ofNat n).toNat = n :=
      UInt64.toNat_ofNat_of_lt' (by unfold UInt64.size; omega)
    refine ⟨UInt64.ofNat n, ?_, hc⟩
    omega
  · rintro ⟨block, hblock, hc⟩
    refine ⟨block.toNat, List.mem_range'_1.mpr (by omega), ?_⟩
    rwa [UInt64.ofNat_toNat]

end Ledger

namespace BlockRange

/-- The blocks of some ranges, each of them once, in ascending order. -/
def union (ranges : List BlockRange) : List UInt64 :=
  ((List.range (2 ^ 64)).map UInt64.ofNat).filter fun block =>
    ranges.any fun r => r.first ≤ block ∧ block ≤ r.last

theorem mem_union {ranges : List BlockRange} {block : UInt64} :
    block ∈ union ranges ↔ ∃ r ∈ ranges, r.first ≤ block ∧ block ≤ r.last := by
  have hblock : block ∈ (List.range (2 ^ 64)).map UInt64.ofNat :=
    List.mem_map.mpr ⟨block.toNat, List.mem_range.mpr block.toNat_lt, UInt64.ofNat_toNat⟩
  rw [union, List.mem_filter, and_iff_right hblock]
  simp

theorem pairwise_union (ranges : List BlockRange) : (union ranges).Pairwise (· < ·) := by
  refine List.Pairwise.filter _ (List.pairwise_map.mpr ?_)
  refine List.Pairwise.imp_of_mem ?_ List.pairwise_lt_range
  intro m n hm hn hlt
  have hm' := List.mem_range.mp hm
  have hn' := List.mem_range.mp hn
  rw [UInt64.lt_iff_toNat_lt, UInt64.toNat_ofNat_of_lt' hm', UInt64.toNat_ofNat_of_lt' hn']
  exact hlt

/-- No other list of blocks in ascending order has the blocks of the ranges. -/
theorem union_eq {ranges : List BlockRange} {blocks : List UInt64}
    (hsorted : blocks.Pairwise (· < ·))
    (hmem : ∀ b, b ∈ blocks ↔ ∃ r ∈ ranges, r.first ≤ b ∧ b ≤ r.last) : union ranges = blocks := by
  have hnodup : ∀ l : List UInt64, l.Pairwise (· < ·) → l.Nodup := fun l h =>
    h.imp fun hlt heq => absurd (heq ▸ hlt) (UInt64.lt_irrefl _)
  have hperm : (union ranges).Perm blocks :=
    (List.perm_ext_iff_of_nodup (hnodup _ (pairwise_union ranges)) (hnodup _ hsorted)).mpr
      fun b => mem_union.trans (hmem b).symm
  exact hperm.eq_of_pairwise
    (fun a b _ _ hab hba => absurd (UInt64.lt_trans hab hba) (UInt64.lt_irrefl a))
    (pairwise_union ranges) hsorted

end BlockRange

namespace Ledger

/-- The candidates of the blocks of a range, in order. -/
def within (l : Ledger) (r : BlockRange) : List Candidate :=
  l.between r.first.toNat (r.last.toNat + 1)

theorem mem_within {l : Ledger} {r : BlockRange} {c : Candidate} :
    c ∈ l.within r ↔ ∃ block, (r.first ≤ block ∧ block ≤ r.last) ∧ c ∈ l.candidates block := by
  have hlast := r.last.toNat_lt
  unfold within
  rw [mem_between_iff (by omega)]
  simp only [UInt64.le_iff_toNat_le, Nat.lt_succ_iff]

/-- The blocks of the union have the candidates of the ranges. -/
theorem mem_flatMap_union {l : Ledger} {ranges : List BlockRange} {c : Candidate} :
    c ∈ (BlockRange.union ranges).flatMap l.candidates ↔ c ∈ ranges.flatMap l.within := by
  rw [List.mem_flatMap, List.mem_flatMap]
  constructor
  · rintro ⟨block, hblock, hc⟩
    obtain ⟨r, hr, hrange⟩ := BlockRange.mem_union.mp hblock
    exact ⟨r, hr, mem_within.mpr ⟨block, hrange, hc⟩⟩
  · rintro ⟨r, hr, hc⟩
    obtain ⟨block, hrange, hc⟩ := mem_within.mp hc
    exact ⟨block, BlockRange.mem_union.mpr ⟨r, hr, hrange⟩, hc⟩

end Ledger

/-! ## One backfill -/

/-- The surroundings answer for every block what it comes to, at once, and do not cancel. -/
structure Ledger.Tells {E : Type} (l : Ledger) (source : Surroundings E) : Prop where
  block : ∀ n e, ((source (.block n)).run e).1 = (l n).mapError .decode
  isCancelled : ∀ e, ((source .isCancelled).run e).1 = false

section Scan

variable {E : Type} {l : Ledger} {chain : String} {clock : Nat → Timestamp}
  {source : Surroundings E} {retry : RetryPolicy} {options : ScanOptions} {s : Shared E}

theorem ScanReport.range_recorded (r : ScanReport) (outcome : Except StoreError UpsertOutcome) :
    (r.recorded outcome).range = r.range := by
  unfold recorded
  split <;> rfl

theorem ScanReport.recordAll_ends (r : ScanReport) (cs : List Candidate) (s : Shared E) :
    (r.recordAll cs).Ends (Shared.answer chain clock source) s fun r' s' =>
      r'.range = r.range ∧ s.store.Wrote cs s'.store := by
  induction cs generalizing r s with
  | nil => exact ⟨rfl, .refl _⟩
  | cons c rest ih =>
    refine Plan.ends_ask.mpr ((ih _ _).mono fun r' s' h => ?_)
    exact ⟨h.1.trans (r.range_recorded _), (Shared.wrote_answer (.record c) s).trans h.2⟩

/-- Moving the cursor, or not, writes no record. -/
theorem Watch.moveCursorIf_ends {α : Type} {rest : Watch.Act α} {post : α → Shared E → Prop}
    (persist : Bool) (block : UInt64) (s : Shared E)
    (hrest : ∀ s' : Shared E, s.store.Wrote [] s'.store →
      rest.Ends (Shared.answer chain clock source) s' post) :
    (if persist then Watch.moveCursor block >>= fun _ => rest else rest).Ends
      (Shared.answer chain clock source) s post := by
  cases persist with
  | false => exact hrest s (.refl _)
  | true => exact hrest _ (s.store.wrote_updateCursor chain block (clock s.writes))

namespace Ledger.Tells

theorem isCancelled_ends (hl : l.Tells source) (s : Shared E) :
    Watch.isCancelled.Ends (Shared.answer chain clock source) s fun b s' =>
      b = false ∧ s'.store = s.store :=
  ⟨hl.isCancelled s.own, rfl⟩

/-- The outcome of a block is taken as it is. -/
theorem execute_block_ends (hl : l.Tells source) (n : UInt64) (s : Shared E) :
    (retry.execute (Watch.block n)).Ends (Shared.answer chain clock source) s fun a s' =>
      a = (l n).mapError .decode ∧ s'.store = s.store := by
  have hask : (Watch.block n).Ends (Shared.answer chain clock source) s fun a s' =>
      a = (l n).mapError .decode ∧ s'.store = s.store := ⟨hl.block n s.own, rfl⟩
  unfold RetryPolicy.execute
  cases retry.retries with
  | zero => exact hask
  | succ retries =>
    refine Plan.ends_bind.mpr (hask.mono fun a s' h => ?_)
    obtain ⟨rfl, hstore⟩ := h
    cases l n with
    | ok found => exact ⟨rfl, hstore⟩
    | error reason => exact ⟨rfl, hstore⟩

/-- The scan of blocks in a row writes their candidates. -/
theorem scanBlocks_ends (hl : l.Tells source) (page : BlockRange) (count n : Nat)
    (report : ScanReport) (s : Shared E) :
    (BlockScan.scanBlocks retry options page count (UInt64.ofNat n) report).Ends
      (Shared.answer chain clock source) s fun progress s' =>
        ∃ report', progress = .done report' ∧ report'.range = report.range ∧
          s.store.Wrote (l.between n (n + count)) s'.store := by
  induction count generalizing n report s with
  | zero =>
    rw [Nat.add_zero, between_self]
    exact ⟨report, rfl, rfl, .refl _⟩
  | succ count ih =>
    have hnext : UInt64.ofNat n + 1 = UInt64.ofNat (n + 1) := (UInt64.ofNat_add n 1).symm
    rw [between_cons, BlockScan.scanBlocks, hnext]
    refine Plan.ends_bind.mpr ((hl.isCancelled_ends s).mono fun b s₁ h => ?_)
    obtain ⟨rfl, hs₁⟩ := h
    refine Plan.ends_bind.mpr ((hl.execute_block_ends _ s₁).mono fun a s₂ h => ?_)
    obtain ⟨rfl, hs₂⟩ := h
    rw [← hs₁, ← hs₂]
    cases hblock : l (UInt64.ofNat n) with
    | ok found =>
      have hfound : l.candidates (UInt64.ofNat n) = found.getD [] := by
        rw [candidates, hblock]
      rw [hfound]
      refine Plan.ends_bind.mpr ((report.recordAll_ends _ s₂).mono fun r s₃ h => ?_)
      refine (ih (n + 1) r.processed s₃).mono fun progress s₄ h' => ?_
      obtain ⟨report', rfl, hrange, hwrote⟩ := h'
      exact ⟨report', rfl, hrange.trans h.1, h.2.trans hwrote⟩
    | error reason =>
      have hnone : l.candidates (UInt64.ofNat n) = [] := by
        rw [candidates, hblock]
      have hskip : ¬(options.stopAtFailure = true ∧ (FetchError.decode reason).isTransient = true) :=
        fun h => nomatch h.2
      rw [hnone]
      simp only [Except.mapError, if_neg hskip]
      exact ih (n + 1) report.skipped s₂

/-- The scan of the pages from a block on writes the candidates of all blocks that are left. -/
theorem scanPages_ends (hl : l.Tells source) (r : BlockRange) (count n : Nat) (i : UInt64)
    (report : ScanReport) (hrange : report.range = r)
    (hcount : i.toNat + count = r.pageCount options.pageSize)
    (hfirst : 0 < count → (r.nthPage (BlockRange.pageSize options.pageSize) i).first.toNat = n)
    (hlast : count = 0 → n = r.last.toNat + 1) (s : Shared E) :
    (BlockScan.scanPages retry options count i report).Ends (Shared.answer chain clock source) s
      fun result s' => ∃ report', result = .ok report' ∧ report'.complete = true ∧
        s.store.Wrote (l.between n (r.last.toNat + 1)) s'.store := by
  induction count generalizing n i report s with
  | zero =>
    rw [hlast rfl, between_self]
    exact ⟨_, rfl, rfl, .refl _⟩
  | succ count ih =>
    obtain ⟨page, hpage⟩ : ∃ page, page = r.nthPage (BlockRange.pageSize options.pageSize) i :=
      ⟨_, rfl⟩
    have hlt : i.toNat < r.pageCount options.pageSize := by omega
    have hblocks := BlockRange.blockCount_page hlt
    have hbound := UInt64.le_iff_toNat_le.mp (BlockRange.last_page_le_last r options.pageSize i)
    have hnext : (i + 1).toNat = i.toNat + 1 := by
      have hlimit := BlockRange.pageCount_lt r options.pageSize
      exact BlockRange.toNat_add_one (by omega)
    rw [← hpage] at hblocks hbound hfirst
    have hn := hfirst (Nat.succ_pos count)
    have hofNat : page.first = UInt64.ofNat n := by
      rw [← hn, UInt64.ofNat_toNat]
    rw [BlockScan.scanPages, hrange, BlockRange.page_eq_ok hlt, ← hpage]
    dsimp only
    rw [hofNat, ← between_append
      (show n ≤ page.last.toNat + 1 by omega) (show page.last.toNat + 1 ≤ r.last.toNat + 1 by omega)]
    refine Plan.ends_bind.mpr ((hl.scanBlocks_ends page _ n report s).mono fun progress s₁ h => ?_)
    obtain ⟨r₁, rfl, hrange₁, hwrote⟩ := h
    rw [← hn, hblocks, hn] at hwrote
    refine Watch.moveCursorIf_ends _ page.last s₁ fun s₂ hcursor => ?_
    refine (ih (page.last.toNat + 1) (i + 1) { r₁ with lastBlock := some page.last }
      (hrange₁.trans hrange) (by omega) (fun hpos => ?_) (fun hzero => ?_) s₂).mono ?_
    · rw [hpage]
      exact BlockRange.first_page_succ (by omega)
    · rw [hpage, BlockRange.last_page_eq_last (by omega)]
    · rintro result s₃ ⟨report', rfl, hcomplete, hrest⟩
      exact ⟨report', rfl, hcomplete, hwrote.trans (hcursor.trans hrest)⟩

/-- The scan of a range writes the candidates of its blocks. -/
theorem scan_ends (hl : l.Tells source) {r : BlockRange} (hle : r.first ≤ r.last)
    (hcount : r.blockCount < 2 ^ 64) (s : Shared E) :
    (BlockScan.scan retry options r).Ends (Shared.answer chain clock source) s
      fun result s' => ∃ report, result = .ok report ∧ report.complete = true ∧
        s.store.Wrote (l.within r) s'.store := by
  have hpages : r.HasPages options.pageSize := .of_blockCount_lt hle hcount
  have hpos := hpages.pageCount_pos
  rw [BlockScan.scan_eq retry hpos]
  refine hl.scanPages_ends r _ r.first.toNat 0 (.start r) rfl (Nat.zero_add _) (fun _ => ?_)
    (fun hzero => absurd hzero hpos.ne') s
  rw [BlockRange.first_page_zero]

end Ledger.Tells

end Scan

/-! ## Backfills one after the other -/

theorem BackfillRequest.first_le_last {r : BackfillRequest} (h : r.validate = .ok ()) :
    r.range.first ≤ r.range.last := by
  unfold validate at h
  split_ifs at h with hlt
  exact UInt64.not_lt.mp hlt

namespace Watcher

variable {E : Type} {l : Ledger} {source : Surroundings E} (w : Watcher) (clock : Nat → Timestamp)

/-- Runs backfills one after the other, each for at most so many rounds. -/
def backfillAll (source : Surroundings E) (rounds : Nat) (requests : List BackfillRequest) :
    StateM (Shared E) (List (Option (Except WatchError ScanReport))) :=
  requests.mapM fun r =>
    Loop.run (w.backfill r) (Shared.answer w.chain clock source) rounds (.start r.range)

/-- A valid request is scanned completely, in one round. -/
theorem run_backfill (hl : l.Tells source) (hmode : w.mode = .blocks) {r : BackfillRequest}
    (hvalid : r.validate = .ok ()) (hcount : r.range.blockCount < 2 ^ 64) (rounds : Nat)
    (s : Shared E) :
    ∃ report s', (Loop.run (w.backfill r) (Shared.answer w.chain clock source) (rounds + 1)
        (.start r.range)).run s = (some (.ok report), s') ∧ report.complete = true ∧
      s.store.Wrote (l.within r.range) s'.store := by
  have hscan : (BlockScan.scan w.retry (w.backfillOptions r) r.range).Ends
      (Shared.answer w.chain clock source) s _ :=
    hl.scan_ends (r.first_le_last hvalid) hcount s
  have hround : w.backfill r (.start r.range) =
      Sum.inr <$> BlockScan.scan w.retry (w.backfillOptions r) r.range := by
    rw [w.backfill_eq_scan hvalid, hmode]
    rfl
  have hends : (w.backfill r (.start r.range)).Ends (Shared.answer w.chain clock source) s
      fun y s' => ∃ result, y = .inr result ∧ ∃ report, result = .ok report ∧
        report.complete = true ∧
        s.store.Wrote (l.within r.range) s'.store := by
    rw [hround]
    exact Plan.ends_bind.mpr (hscan.mono fun result s' h => ⟨result, rfl, h⟩)
  obtain ⟨_, s', hrun, report, rfl, hcomplete, hwrote⟩ := Loop.run_eq_of_ends hends rounds
  exact ⟨report, s', hrun, hcomplete, hwrote⟩

/-- Every request is scanned completely, and all candidates of the ranges are written. -/
theorem run_backfillAll (hl : l.Tells source) (hmode : w.mode = .blocks)
    {requests : List BackfillRequest}
    (hvalid : ∀ r ∈ requests, r.validate = .ok () ∧ r.range.blockCount < 2 ^ 64) (rounds : Nat)
    (s : Shared E) :
    (∀ result ∈ ((w.backfillAll clock source (rounds + 1) requests).run s).1,
      ∃ report, result = some (.ok report) ∧ report.complete = true) ∧
    s.store.Wrote ((requests.map (·.range)).flatMap l.within)
      ((w.backfillAll clock source (rounds + 1) requests).run s).2.store := by
  induction requests generalizing s with
  | nil => exact ⟨fun _ h => absurd h List.not_mem_nil, .refl _⟩
  | cons r rest ih =>
    obtain ⟨hr, hcount⟩ := hvalid r (List.mem_cons_self ..)
    obtain ⟨report, s', hrun, hcomplete, hwrote⟩ :=
      w.run_backfill clock hl hmode hr hcount rounds s
    obtain ⟨hresults, hrest⟩ := ih (fun r' h => hvalid r' (List.mem_cons_of_mem r h)) s'
    have hall : (w.backfillAll clock source (rounds + 1) (r :: rest)).run s =
        (some (.ok report) :: ((w.backfillAll clock source (rounds + 1) rest).run s').1,
          ((w.backfillAll clock source (rounds + 1) rest).run s').2) := by
      unfold backfillAll
      rw [List.mapM_cons, StateT.run_bind, hrun]
      rfl
    rw [hall, List.map_cons, List.flatMap_cons]
    refine ⟨fun result h => ?_, hwrote.trans hrest⟩
    rcases List.mem_cons.mp h with rfl | h
    · exact ⟨report, rfl, hcomplete⟩
    · exact hresults result h

/-- **Backfills come to the same in any order.** On a chain with a fixed outcome for every block,
run any valid backfills one after the other on any store, with or without moving the cursor, and
however their ranges overlap. All of them are complete, and the stored statuses are those of one
pass over the blocks of the ranges, each of them once, in ascending order. So other backfills of the
same blocks leave the same statuses. -/
theorem backfills_converge (hl : l.Tells source) (hmode : w.mode = .blocks)
    {requests : List BackfillRequest}
    (hvalid : ∀ r ∈ requests, r.validate = .ok () ∧ r.range.blockCount < 2 ^ 64) (rounds : Nat)
    (s : Shared E) :
    (∀ result ∈ ((w.backfillAll clock source (rounds + 1) requests).run s).1,
      ∃ report, result = some (.ok report) ∧ report.complete = true) ∧
    (∀ rs : List Record,
      rs.map (·.toCandidate) =
        (BlockRange.union (requests.map (·.range))).flatMap l.candidates →
      ∀ id, ((w.backfillAll clock source (rounds + 1) requests).run s).2.store.status? id =
        (s.store.upsertAll rs).status? id) ∧
    ∀ requests' : List BackfillRequest,
      (∀ r ∈ requests', r.validate = .ok () ∧ r.range.blockCount < 2 ^ 64) →
      (∀ block, block ∈ BlockRange.union (requests'.map (·.range)) ↔
        block ∈ BlockRange.union (requests.map (·.range))) →
      ∀ id, ((w.backfillAll clock source (rounds + 1) requests').run s).2.store.status? id =
        ((w.backfillAll clock source (rounds + 1) requests).run s).2.store.status? id := by
  obtain ⟨hresults, hwrote⟩ := w.run_backfillAll clock hl hmode hvalid rounds s
  refine ⟨hresults, fun rs hrs => ?_, fun requests' hvalid' hunion => ?_⟩
  · refine hwrote.status?_congr (s.store.wrote_upsertAll rs) fun c => ?_
    rw [hrs, Ledger.mem_flatMap_union]
  · refine (w.run_backfillAll clock hl hmode hvalid' rounds s).2.status?_congr hwrote fun c => ?_
    rw [← Ledger.mem_flatMap_union, ← Ledger.mem_flatMap_union, List.mem_flatMap, List.mem_flatMap]
    simp only [hunion]

/-- Blocks 8 and 9 in pages of one block, then blocks 7 and 8. -/
def sampleBackfills : List BackfillRequest :=
  [⟨⟨8, 9⟩, some 1, true⟩, ⟨⟨7, 8⟩, none, false⟩]

/-- Surroundings that tell what a ledger says. -/
def surroundingsOf (l : Ledger) : Surroundings Unit
  | .block n => pure ((l n).mapError .decode)
  | q => pure q.someAnswer

theorem union_sampleBackfills : BlockRange.union (sampleBackfills.map (·.range)) = [7, 8, 9] := by
  refine BlockRange.union_eq (by decide) fun b => ?_
  simp only [sampleBackfills, List.map_cons, List.map_nil, List.mem_cons, List.not_mem_nil,
    or_false, exists_eq_or_imp, exists_eq_left, ← UInt64.toNat_inj, UInt64.le_iff_toNat_le]
  simp only [UInt64.reduceToNat]
  omega

theorem backfills_converge_sampleBackfills :
    (∀ r ∈ sampleBackfills, r.validate = .ok () ∧ r.range.blockCount < 2 ^ 64) ∧
    (∀ result ∈ ((sampleLive.backfillAll (fun _ => default) (surroundingsOf sampleLedger) 1
      sampleBackfills).run ⟨.empty, 0, ()⟩).1,
      ∃ report, result = some (.ok report) ∧ report.complete = true) ∧
    ((sampleLive.backfillAll (fun _ => default) (surroundingsOf sampleLedger) 1
      sampleBackfills).run ⟨.empty, 0, ()⟩).2.store.status? sampleCandidate.messageId =
        some sampleCandidate.status := by
  have htells : sampleLedger.Tells (surroundingsOf sampleLedger) := ⟨fun _ _ => rfl, fun _ => rfl⟩
  have hvalid : ∀ r ∈ sampleBackfills, r.validate = .ok () ∧ r.range.blockCount < 2 ^ 64 := by
    decide
  obtain ⟨hresults, hstatus, -⟩ :=
    backfills_converge sampleLive (fun _ => default) htells rfl hvalid 0 ⟨.empty, 0, ()⟩
  rw [union_sampleBackfills, Nat.zero_add] at hstatus
  refine ⟨hvalid, hresults, ?_⟩
  rw [hstatus [sampleCandidate.at default] rfl, MemoryStore.status?_upsertAll]
  unfold MemoryStore.offered
  rw [MemoryStore.get?_empty]
  rfl

end Watcher

end RedemptionWatch
