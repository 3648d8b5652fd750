import RedemptionWatch.Proofs.Watch.Walk

/-!
# Where a scan by pages moves its cursor

A scan by pages that may move its cursor moves it to the end of each page that is done, and when it
stops at a block, to the block before it, unless the cursor is there already (`BlockScan.ends`,
`BlockScan.stopBefore_stands`). Here this is read along the scan, together with how often the scan
has looked whether it is cancelled: once for each block that it has begun (`Watch.Stands`).
-/

namespace RedemptionWatch

open Frontier (Follows)
open Watch (interface)

namespace Watch

/-- So far the cursor was moved to these blocks, and the watcher has looked `n` times. -/
structure Stands (blocks : List UInt64) (n : Nat) (log : Log interface) : Prop where
  moves_eq : moves log = blocks
  looks_eq : looks log = n

variable {blocks : List UInt64} {n : Nat} {log : Log interface}

theorem stands_nil : Stands [] 0 [] :=
  ⟨rfl, rfl⟩

/-- Other events change neither. -/
theorem Stands.snoc (h : Stands blocks n log) {e : Event interface}
    (hmove : isMove e.request = false) (hlook : isLook e.request = false) :
    Stands blocks n (log ++ [e]) := by
  have hnone : moves [e] = [] := moves_eq_nil (List.forall_mem_singleton.mpr hmove)
  refine ⟨?_, ?_⟩
  · rw [moves_append, h.moves_eq, hnone, List.append_nil]
  · rw [looks_append, h.looks_eq, looks_eq_zero (List.forall_mem_singleton.mpr hlook), add_zero]

theorem Stands.look (h : Stands blocks n log) (a : Bool) :
    Stands blocks (n + 1) (log ++ [⟨.isCancelled, a⟩]) := by
  refine ⟨?_, ?_⟩
  · rw [moves_append, h.moves_eq]
    exact List.append_nil blocks
  · rw [looks_append, h.looks_eq]
    rfl

theorem Stands.move (h : Stands blocks n log) (block : UInt64) (a : Except StoreError Unit) :
    Stands (blocks ++ [block]) n (log ++ [⟨.moveCursor block, a⟩]) := by
  refine ⟨?_, ?_⟩
  · rw [moves_append, h.moves_eq]
    rfl
  · rw [looks_append, h.looks_eq]
    rfl

/-- Asking for a block changes neither. -/
theorem Stands.execute_block (h : Stands blocks n log) (retry : RetryPolicy) (number : UInt64) :
    (retry.execute (block number)).Respects (fun _ _ => True) (fun _ log => Stands blocks n log)
      log := by
  have hask : ∀ log, Stands blocks n log → (Watch.block number).Respects (fun _ _ => True)
      (fun _ log => Stands blocks n log) log :=
    fun log h => ⟨trivial, fun a => h.snoc rfl rfl⟩
  exact attempt_respects hask (fun _ _ h => ⟨trivial, h.snoc rfl rfl, h.snoc rfl rfl⟩)
    retry.retries h

/-- Handing candidates to the store changes neither. -/
theorem Stands.recordAll (h : Stands blocks n log) (r : ScanReport) (cs : List Candidate) :
    (r.recordAll cs).Respects (fun _ _ => True) (fun r' log => Stands blocks n log ∧
      r'.range = r.range ∧ r'.lastBlock = r.lastBlock) log := by
  refine ScanReport.recordAll_respects (fun r' _ log => Stands blocks n log ∧
      r'.range = r.range ∧ r'.lastBlock = r.lastBlock) ?_ ⟨h, rfl, rfl⟩
  rintro r' c rest log ⟨h, hrange, hlast⟩
  refine ⟨trivial, fun outcome => ⟨h.snoc rfl rfl, ?_, ?_⟩⟩
  · exact (r'.recorded_keeps outcome).1.trans hrange
  · exact (r'.recorded_keeps outcome).2.trans hlast

end Watch

open Watch (Stands)

namespace BlockScan

/-! ## Ends of pages -/

variable {retry : RetryPolicy} {options : ScanOptions} {range page : BlockRange} {r : ScanReport}
  {blocks : List UInt64} {lastBlock : Option UInt64} {number size : UInt64} {count k n : Nat}
  {log : Log interface}

/-- Blocks of a range in ascending order, the last one of which is `lastBlock`. -/
structure Ascends (range : BlockRange) (blocks : List UInt64) (lastBlock : Option UInt64) :
    Prop where
  sorted : blocks.Pairwise (· < ·)
  within : ∀ b ∈ blocks, range.first ≤ b ∧ b ≤ range.last
  last : blocks.getLast? = lastBlock

theorem ascends_nil (range : BlockRange) : Ascends range [] none :=
  ⟨.nil, fun _ h => absurd h List.not_mem_nil, rfl⟩

/-- A higher block may come next. -/
theorem Ascends.snoc (h : Ascends range blocks lastBlock) (hlt : ∀ b ∈ lastBlock, b < number)
    (hfirst : range.first ≤ number) (hlast : number ≤ range.last) :
    Ascends range (blocks ++ [number]) (some number) := by
  refine ⟨?_, ?_, List.getLast?_concat⟩
  · refine List.pairwise_append.mpr ⟨h.sorted, List.pairwise_singleton _ _, fun b hb c hc => ?_⟩
    rw [List.mem_singleton.mp hc]
    -- the last one so far is below the new block, and the others are below the last one
    rcases List.eq_nil_or_concat' blocks with rfl | ⟨earlier, last, rfl⟩
    · exact absurd hb List.not_mem_nil
    · have hlastlt : last < number := hlt last (h.last.symm.trans List.getLast?_concat)
      rcases List.mem_append.mp hb with hb | hb
      · have hbelow := (List.pairwise_append.mp h.sorted).2.2 b hb last List.mem_cons_self
        exact UInt64.lt_trans hbelow hlastlt
      · rwa [List.mem_singleton.mp hb]
  · intro b hb
    rcases List.mem_append.mp hb with hb | hb
    · exact h.within b hb
    · rw [List.mem_singleton.mp hb]
      exact ⟨hfirst, hlast⟩

/-- The last blocks of the first `k` pages. -/
def ends (range : BlockRange) (size : UInt64) (k : Nat) : List UInt64 :=
  (range.takePages size k).map (·.last)

theorem ends_succ (h : k < range.pageCount size) : ends range size (k + 1) =
    ends range size k ++ [(range.nthPage (BlockRange.pageSize size) (UInt64.ofNat k)).last] := by
  rw [ends, BlockRange.takePages_succ h, List.map_append, List.map_singleton]
  rfl

/-- The ends of the first pages ascend. -/
theorem ascends_ends (h : k ≤ range.pageCount size) (hle : range.first ≤ range.last) :
    Ascends range (ends range size k) (lastAfter range size k) := by
  induction k with
  | zero =>
    have hnone : ends range size 0 = [] := by simp [ends, BlockRange.takePages]
    rw [hnone]
    exact ascends_nil range
  | succ k ih =>
    obtain ⟨hafter, -, -, hpage, hfirst⟩ := BlockRange.pageAt h
    have hend := BlockRange.last_page_le_last range size (UInt64.ofNat k)
    rw [ends_succ h]
    refine (ih (Nat.le_of_succ_le h)).snoc (fun b hb => ?_) (UInt64.le_trans hfirst hpage) hend
    rcases follows_lastAfter (Nat.le_of_succ_le h) hle with ⟨hnone, -⟩ | ⟨c, hc, -, hnext⟩
    · cases hnone.symm.trans hb
    · obtain rfl : c = b := Option.some_inj.mp (hc.symm.trans hb)
      rw [UInt64.le_iff_toNat_le] at hpage
      rw [UInt64.lt_iff_toNat_lt]
      omega

/-! ## The scan of a page -/

/-- A scan that may move its cursor has moved it to these blocks. -/
def kept (options : ScanOptions) (blocks : List UInt64) : List UInt64 :=
  if options.persist then blocks else []

/-- Where a scan that has ended has moved its cursor. -/
def Moved (options : ScanOptions) (range : BlockRange) (lastBlock : Option UInt64)
    (log : Log interface) : Prop :=
  ∃ blocks, Watch.moves log = kept options blocks ∧ Ascends range blocks lastBlock

/-- What the scan of a page leaves. -/
def AfterBlocks (options : ScanOptions) (range page : BlockRange) (blocks : List UInt64)
    (lastBlock : Option UInt64) : Progress → Log interface → Prop
  | .done r, log => r.range = range ∧ r.lastBlock = lastBlock ∧
      Stands (kept options blocks) (page.last.toNat + 1 - range.first.toNat) log
  | .stopped r, log => Moved options range r.lastBlock log
  | .cancelled, log => ∃ n, Stands (kept options blocks) (n + 1) log ∧
      page.first.toNat ≤ range.first.toNat + n ∧ range.first.toNat + n ≤ page.last.toNat

/-- When a scan stops before a block of a page, its cursor was moved up to that block, at the end of
the page before if there is no block in between. -/
theorem stopBefore_stands (h : Stands (kept options blocks) n log) (hrange : r.range = range)
    (hblocks : Ascends range blocks r.lastBlock)
    (hpage : Follows range r.lastBlock page.first.toNat) (hfirst : page.first ≤ number)
    (hlast : number ≤ range.last) :
    (stopBefore options page number r).Respects (fun _ _ => True)
      (fun r' log => Moved options range r'.lastBlock log) log := by
  subst hrange
  unfold stopBefore
  simp only [BlockRange.le_sub_one_iff]
  by_cases hstart : r.range.first < number
  · have hpos : 0 < number := (BlockRange.le_sub_one_iff.mpr hstart).1
    have hone := BlockRange.toNat_sub_one hpos
    rw [UInt64.lt_iff_toNat_lt] at hpos
    rw [UInt64.le_iff_toNat_le] at hfirst hlast
    rw [if_pos hstart]
    by_cases hmove : page.first ≤ number - 1
    · -- the block before is one of the page, and so beyond the blocks moved to so far
      have hnext : Ascends r.range (blocks ++ [number - 1]) (some (number - 1)) := by
        refine hblocks.snoc (fun b hb => ?_) (BlockRange.le_sub_one_iff.mpr hstart).2 ?_
        · rcases hpage with ⟨hnone, -⟩ | ⟨c, hc, -, hnext⟩
          · cases hnone.symm.trans hb
          · obtain rfl : c = b := Option.some_inj.mp (hc.symm.trans hb)
            rw [UInt64.le_iff_toNat_le] at hmove
            rw [UInt64.lt_iff_toNat_lt]
            omega
        · rw [UInt64.le_iff_toNat_le]
          omega
      by_cases hpersist : options.persist = true
      · rw [if_pos ⟨hpersist, hmove⟩]
        refine ⟨trivial, fun a => ⟨_, ?_, hnext⟩⟩
        rw [(h.move (number - 1) a).moves_eq, kept, kept, if_pos hpersist, if_pos hpersist]
      · rw [if_neg fun h => hpersist h.1]
        refine ⟨_, ?_, hnext⟩
        rw [h.moves_eq, kept, kept, if_neg hpersist, if_neg hpersist]
    · -- the page starts with the block, and the page before ends with the block before
      rw [if_neg fun h => hmove h.2]
      rw [UInt64.le_iff_toNat_le] at hmove
      rw [UInt64.lt_iff_toNat_lt] at hstart
      obtain ⟨c, hc, -, hnext⟩ := hpage.resolve_left fun h => by omega
      obtain rfl : c = number - 1 := UInt64.toNat_inj.mp (by omega)
      exact ⟨blocks, h.moves_eq, hc ▸ hblocks⟩
  · rw [if_neg hstart]
    exact ⟨blocks, h.moves_eq, hblocks⟩

theorem scanBlocks_stands (hrange : r.range = range) (hblocks : Ascends range blocks r.lastBlock)
    (hpage : Follows range r.lastBlock page.first.toNat) (hlast : page.last ≤ range.last)
    (hnumber : 0 < count → number.toNat = n) (hcount : n + count = page.last.toNat + 1)
    (hfirst : range.first ≤ page.first) (hn : page.first.toNat ≤ n)
    (h : Stands (kept options blocks) (n - range.first.toNat) log) :
    (scanBlocks retry options page count number r).Respects (fun _ _ => True)
      (AfterBlocks options range page blocks r.lastBlock) log := by
  induction count generalizing n number r log with
  | zero =>
    obtain rfl : n = page.last.toNat + 1 := hcount
    exact ⟨hrange, rfl, h⟩
  | succ count ih =>
    obtain rfl := hnumber (Nat.succ_pos count)
    have hlimit := page.last.toNat_lt
    rw [UInt64.le_iff_toNat_le] at hfirst
    have hnext : 0 < count → (number + 1).toNat = number.toNat + 1 := fun hpos =>
      BlockRange.toNat_add_one (by omega)
    have hlook : number.toNat - range.first.toNat + 1 = number.toNat + 1 - range.first.toNat := by
      omega
    -- the rest of the page, whatever was done with this block
    have hrest : ∀ {r' : ScanReport} {log' : Log interface}, r'.range = r.range →
        r'.lastBlock = r.lastBlock →
        Stands (kept options blocks) (number.toNat - range.first.toNat + 1) log' →
        (scanBlocks retry options page count (number + 1) r').Respects (fun _ _ => True)
          (AfterBlocks options range page blocks r.lastBlock) log' := by
      intro r' log' hrange' hlast' h
      rw [← hlast'] at hblocks hpage ⊢
      rw [hlook] at h
      exact ih (hrange'.trans hrange) hblocks hpage hnext (by omega) (by omega) h
    have hcancelled : ∀ {log' : Log interface},
        Stands (kept options blocks) (number.toNat - range.first.toNat + 1) log' →
        AfterBlocks options range page blocks r.lastBlock .cancelled log' :=
      fun h => ⟨_, h, by omega, by omega⟩
    refine ⟨trivial, ?_⟩
    rintro (_ | _)
    · refine ((h.look false).execute_block retry number).bind ?_
      rintro (e | found) log' h
      · have hfailed : (if options.stopAtFailure = true ∧ e.isTransient = true then
              stopBefore options page number r.skipped >>= fun r => pure (Progress.stopped r)
            else scanBlocks retry options page count (number + 1) r.skipped).Respects
            (fun _ _ => True) (AfterBlocks options range page blocks r.lastBlock) log' := by
          have hnumber : number ≤ range.last := by
            rw [UInt64.le_iff_toNat_le] at hlast ⊢
            omega
          have hfrom : page.first ≤ number := UInt64.le_iff_toNat_le.mpr hn
          split_ifs
          · have hstop : (stopBefore options page number r.skipped).Respects (fun _ _ => True)
                (fun r' log => Moved options range r'.lastBlock log) log' :=
              stopBefore_stands h hrange hblocks hpage hfrom hnumber
            exact hstop.bind fun _ _ h => h
          · exact hrest rfl rfl h
        cases e with
        | cancelled => exact hcancelled h
        | throttled reason | remote reason | decode reason => exact hfailed
      · refine (h.recordAll r _).bind ?_
        rintro r' log'' ⟨h, hrange', hlast'⟩
        have hprocessed : r'.processed.range = r.range ∧ r'.processed.lastBlock = r.lastBlock :=
          ⟨hrange', hlast'⟩
        exact hrest hprocessed.1 hprocessed.2 h
    · exact hcancelled (h.look true)

/-! ## The scan of a range -/

/-- What the scan of a range leaves. If it is cancelled, it is in the middle of a page. -/
def AfterPages (options : ScanOptions) (range : BlockRange) :
    Except WatchError ScanReport → Log interface → Prop
  | .ok r, log => Moved options range r.lastBlock log
  | .error _, log => ∃ k < range.pageCount options.pageSize, ∃ n,
      Stands (kept options (ends range options.pageSize k)) (n + 1) log ∧
      range.afterPages options.pageSize k ≤ range.first.toNat + n ∧
      range.first.toNat + n < range.afterPages options.pageSize (k + 1)

theorem scanPages_stands (hle : range.first ≤ range.last)
    (hcount : k + count = range.pageCount options.pageSize)
    (hrange : r.range = range) (hlast : r.lastBlock = lastAfter range options.pageSize k)
    (h : Stands (kept options (ends range options.pageSize k))
      (range.afterPages options.pageSize k - range.first.toNat) log) :
    (scanPages retry options count (UInt64.ofNat k) r).Respects (fun _ _ => True)
      (AfterPages options range) log := by
  induction count generalizing k r log with
  | zero => exact ⟨_, h.moves_eq, hlast ▸ ascends_ends hcount.le hle⟩
  | succ count ih =>
    have hk : k < range.pageCount options.pageSize := by omega
    have hsucc : UInt64.ofNat k + 1 = UInt64.ofNat (k + 1) := (UInt64.ofNat_add k 1).symm
    have hends := ends_succ hk
    have hreached : lastAfter range options.pageSize (k + 1) =
        some (range.nthPage (BlockRange.pageSize options.pageSize) (UInt64.ofNat k)).last := rfl
    have hblocks := ascends_ends hk.le hle
    have hfollows := follows_lastAfter hk.le hle
    have hpage := BlockRange.pageAt hk
    unfold scanPages
    have hend := BlockRange.last_page_le_last range options.pageSize (UInt64.ofNat k)
    rw [hrange, BlockRange.page_eq_ok (by rwa [BlockRange.toNat_index hk.le])]
    generalize range.nthPage (BlockRange.pageSize options.pageSize) (UInt64.ofNat k) = page at *
    obtain ⟨hfirst, hafter, hcountPage, -, hstart⟩ := hpage
    rw [← hfirst] at hfollows h
    rw [← hlast] at hblocks hfollows
    refine (scanBlocks_stands hrange hblocks hfollows hend (fun _ => rfl) hcountPage hstart le_rfl
      h).bind ?_
    rintro (r' | r' | _) log' hafterBlocks
    · obtain ⟨hrange', -, h⟩ := hafterBlocks
      rw [hafter] at h
      have hrest : ∀ {log}, Stands (kept options (ends range options.pageSize (k + 1)))
          (range.afterPages options.pageSize (k + 1) - range.first.toNat) log →
          (scanPages retry options count (UInt64.ofNat k + 1)
            { r' with lastBlock := some page.last }).Respects (fun _ _ => True)
            (AfterPages options range) log := by
        intro log h
        rw [hsucc]
        exact ih (by omega) hrange' hreached.symm h
      rw [hends] at hrest
      dsimp only
      split_ifs with hpersist
      · refine ⟨trivial, fun a => hrest ?_⟩
        have hmoved := h.move page.last a
        unfold kept at hmoved ⊢
        rw [if_pos hpersist] at hmoved ⊢
        exact hmoved
      · refine hrest ?_
        unfold kept at h ⊢
        rw [if_neg hpersist] at h ⊢
        exact h
    · exact hafterBlocks
    · obtain ⟨n, h, hge, hlt⟩ := hafterBlocks
      exact ⟨k, hk, n, h, by omega, by omega⟩

/-- What a scan leaves when it has ended. -/
theorem scan_stands (hpages : range.HasPages options.pageSize)
    {result : Except WatchError ScanReport}
    (h : (scan retry options range).Logs log (.done result)) :
    AfterPages options range result log := by
  have hle := hpages.first_le_last
  have hends : ends range options.pageSize 0 = [] := by simp [ends, BlockRange.takePages]
  have hstart : Stands (kept options (ends range options.pageSize 0))
      (range.afterPages options.pageSize 0 - range.first.toNat) [] := by
    rw [BlockRange.afterPages_zero hle, Nat.sub_self, hends, kept, ite_self]
    exact Watch.stands_nil
  rw [scan_eq retry hpages.pageCount_pos] at h
  exact (h.respects (scanPages_stands hle (Nat.zero_add _) rfl rfl hstart)).2

end BlockScan

end RedemptionWatch
