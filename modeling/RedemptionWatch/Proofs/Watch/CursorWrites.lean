import RedemptionWatch.Proofs.Watch.PageMoves
import RedemptionWatch.Proofs.Watch.PersistedCursor
import RedemptionWatch.Proofs.Watch.Traversal

/-!
# The cursor writes of a scan by blocks

A scan by blocks that may move its cursor leaves it at the last block of its report, whatever the
size of its pages, or at the end of the last page that was done if it is cancelled
(`BlockScan.scan_moves`). Which pages are done is told by how often the scan has looked whether it
is cancelled, once for each visit (`BlockScan.donePages_eq`). Two scans with pages of different size
that are answered alike extend the same walk; on a store each of them leaves the records that the
walk leaves (`Watch.Stores.replays_without`, `Watch.Stores.replays_of_without`).
-/

namespace RedemptionWatch

open Watch (interface Cancelled isMove isLook looks moves)

/-! ## The store after a scan -/

/-- What a write answers and leaves goes by the records alone. -/
theorem MemoryStore.upsert_congr {s u : MemoryStore} (h : u.records = s.records) (r : Record) :
    (u.upsert r).1 = (s.upsert r).1 ∧ (u.upsert r).2.records = (s.upsert r).2.records := by
  have hstatus : u.status? r.messageId = s.status? r.messageId := by
    rw [status?, status?, get?, get?, h]
  rw [fst_upsert, fst_upsert, snd_upsert, snd_upsert, hstatus, h]
  refine ⟨rfl, ?_⟩
  split_ifs
  · rfl
  · exact h

namespace Watch.Stores

variable {chain : String} {s s' t u : MemoryStore} {e : Event interface} {log : Log interface}

/-- The cursor stands where it was last moved to. -/
theorem cursorBlock_replays (h : Replays (Stores chain) s log t) :
    t.cursorBlock chain = (moves log).getLast?.or (s.cursorBlock chain) := by
  induction h with
  | nil s => rfl
  | @cons s s' t e log first rest ih =>
    rcases first.cursorBlock_eq with ⟨hstays, hrequest⟩ | ⟨block, rfl, hmoved⟩
    · have hmoves : moves (e :: log) = moves log := by
        obtain ⟨q, a⟩ := e
        cases q with
        | moveCursor block => exact absurd rfl (hrequest block)
        | _ => rfl
      rw [hmoves, ih, hstays]
    · have hmoves : moves (⟨.moveCursor block, .ok ()⟩ :: log) = block :: moves log := rfl
      rw [hmoves, ih, hmoved, List.getLast?_cons]
      cases (moves log).getLast? <;> rfl

/-- Moves of the cursor leave the records. -/
theorem records_eq (h : Stores chain s e s') (hmove : isMove e.request = true) :
    s'.records = s.records := by
  cases h with
  | cursor | other => rfl
  | record => exact nomatch hmove
  | moveCursor => rfl

/-- All else that a scan asks goes by the records alone. -/
theorem of_records (h : Stores chain s e s') (hscan : Request.isScan e.request = true)
    (hmove : isMove e.request = false) (hrecords : u.records = s.records) :
    ∃ u', Stores chain u e u' ∧ u'.records = s'.records := by
  cases h with
  | cursor => exact nomatch hscan
  | record c now =>
    obtain ⟨houtcome, hleft⟩ := MemoryStore.upsert_congr hrecords (c.at now)
    rw [← houtcome]
    exact ⟨_, .record u c now, hleft⟩
  | moveCursor => exact nomatch hmove
  | other _ hother => exact ⟨u, .other u e hother, hrecords⟩

/-- Without the moves of its cursor, a scan leaves the same records. -/
theorem replays_without (h : Replays (Stores chain) s log t)
    (hscan : ∀ e ∈ log, Request.isScan e.request = true) (hrecords : u.records = s.records) :
    ∃ u', Replays (Stores chain) u (log.without isMove) u' ∧ u'.records = t.records := by
  induction h generalizing u with
  | nil s => exact ⟨u, .nil u, hrecords⟩
  | @cons s s' t e log first rest ih =>
    obtain ⟨hscan, hrest⟩ := List.forall_mem_cons.mp hscan
    cases hmove : isMove e.request with
    | true =>
      rw [Log.without_cons_of_aside hmove]
      exact ih hrest (hrecords.trans (first.records_eq hmove).symm)
    | false =>
      obtain ⟨u', hfirst, hrecords⟩ := first.of_records hscan hmove hrecords
      obtain ⟨v, hlog, hleft⟩ := ih hrest hrecords
      rw [Log.without_cons_of_not_aside hmove]
      exact ⟨v, .cons hfirst hlog, hleft⟩

/-- And so it does with any moves that succeed. -/
theorem replays_of_without (h : Replays (Stores chain) s (log.without isMove) t)
    (hscan : ∀ e ∈ log, Request.isScan e.request = true)
    (hmoves : ∀ e ∈ log, isMove e.request = true → e.answer = Request.someAnswer e.request)
    (hrecords : u.records = s.records) :
    ∃ u', Replays (Stores chain) u log u' ∧ u'.records = t.records := by
  induction log generalizing s u with
  | nil =>
    cases h
    exact ⟨u, .nil u, hrecords⟩
  | cons e log ih =>
    obtain ⟨hscan, hrest⟩ := List.forall_mem_cons.mp hscan
    obtain ⟨hanswer, hanswers⟩ := List.forall_mem_cons.mp hmoves
    cases hmove : isMove e.request with
    | true =>
      rw [Log.without_cons_of_aside hmove] at h
      obtain ⟨q, a⟩ := e
      cases q with
      | moveCursor block =>
        obtain rfl : a = .ok () := hanswer hmove
        have hleaves : (u.updateCursor chain block default).records = s.records := hrecords
        obtain ⟨v, hlog, hleft⟩ := ih h hrest hanswers hleaves
        exact ⟨v, .cons (.moveCursor u block default) hlog, hleft⟩
      | _ => exact nomatch hmove
    | false =>
      rw [Log.without_cons_of_not_aside hmove] at h
      cases h with
      | cons first rest =>
        obtain ⟨u', hfirst, hrecords⟩ := first.of_records hscan hmove hrecords
        obtain ⟨v, hlog, hleft⟩ := ih rest hrest hanswers hrecords
        exact ⟨v, .cons hfirst hlog, hleft⟩

end Watch.Stores

namespace BlockScan

/-! ## Pages that are done -/

variable {retry : RetryPolicy} {options : ScanOptions} {range : BlockRange} {r : ScanReport}
  {v : Visit} {visits : List Visit} {number size : UInt64} {k : Nat} {log : Log interface}
  {result : Except WatchError ScanReport}

/-- The pages all whose blocks are visited. -/
def donePages (pages : List BlockRange) (visits : List Visit) : List BlockRange :=
  pages.filter fun page => page.blocks.all (visits.map (·.number)).contains

/-- A page is done when the visits have come to its end. -/
theorem page_done_iff (hvisits : Visits retry range.first visits)
    (hbound : range.first.toNat + visits.length ≤ 2 ^ 64) (hk : k < range.pageCount size) :
    (range.nthPage (BlockRange.pageSize size) (UInt64.ofNat k)).blocks.all
        (visits.map (·.number)).contains = true ↔
      range.afterPages size (k + 1) ≤ range.first.toNat + visits.length := by
  obtain ⟨-, hlast, -, hle, hfirst⟩ := BlockRange.pageAt hk
  generalize range.nthPage (BlockRange.pageSize size) (UInt64.ofNat k) = page at *
  simp only [List.all_eq_true, List.contains_iff_mem, hvisits.mem_numbers hbound,
    BlockRange.mem_blocks hle, UInt64.le_iff_toNat_le]
  rw [UInt64.le_iff_toNat_le] at hle hfirst
  constructor
  · intro h
    have hvisited := h page.last ⟨hle, le_rfl⟩
    omega
  · intro h b hb
    omega

/-- If the block that comes after the visits is one of a page, the pages before it are done, and no
other one is. -/
theorem donePages_eq (hvisits : Visits retry range.first visits) (hk : k < range.pageCount size)
    (hge : range.afterPages size k ≤ range.first.toNat + visits.length)
    (hlt : range.first.toNat + visits.length < range.afterPages size (k + 1)) :
    donePages (range.allPages size) visits = range.takePages size k := by
  have hbound : range.first.toNat + visits.length ≤ 2 ^ 64 := by
    have hend : range.afterPages size (k + 1) ≤ range.last.toNat + 1 := Nat.min_le_right _ _
    have hlimit := range.last.toNat_lt
    omega
  have hbefore : ∀ page ∈ (range.allPages size).take k,
      page.blocks.all (visits.map (·.number)).contains = true := by
    intro page hpage
    obtain ⟨i, hi, rfl⟩ := List.mem_iff_getElem.mp hpage
    rw [List.length_take, BlockRange.length_allPages] at hi
    rw [List.getElem_take, BlockRange.getElem_allPages, page_done_iff hvisits hbound (by omega)]
    have hmono := range.afterPages_mono size (show i + 1 ≤ k by omega)
    omega
  have hafter : ∀ page ∈ (range.allPages size).drop k,
      ¬page.blocks.all (visits.map (·.number)).contains = true := by
    intro page hpage
    obtain ⟨i, hi, rfl⟩ := List.mem_iff_getElem.mp hpage
    rw [List.length_drop, BlockRange.length_allPages] at hi
    rw [List.getElem_drop, BlockRange.getElem_allPages, page_done_iff hvisits hbound (by omega)]
    have hmono := range.afterPages_mono size (show k + 1 ≤ k + i + 1 by omega)
    omega
  rw [donePages, ← List.take_append_drop k (range.allPages size), List.filter_append,
    List.filter_eq_self.mpr hbefore, List.filter_eq_nil_iff.mpr hafter, List.append_nil,
    BlockRange.takePages_eq_take]

/-- Each visit looks once. -/
theorem Visit.Made.looks_log (h : v.Made retry) : looks v.log = 1 := by
  have hasked : looks v.asked = 0 :=
    Watch.looks_eq_zero <| Watch.forall_of_tries (p := fun q => isLook q = false)
      (Watch.execute_block_logs h.asks).1 rfl fun _ => rfl
  have hrecording : looks (ScanReport.recording v.candidates v.stored) = 0 :=
    Watch.looks_eq_zero <| ScanReport.forall_recording (p := fun e => isLook e.request = false)
      fun _ _ => rfl
  rw [Visit.log, ← List.singleton_append, Watch.looks_append, Watch.looks_append, hasked,
    hrecording]
  rfl

theorem Interrupted.looks_eq (h : Interrupted retry number log) : looks log = 1 := by
  cases h with
  | before => rfl
  | @asking asked h =>
    have hasked : looks asked = 0 :=
      Watch.looks_eq_zero <| Watch.forall_of_tries (p := fun q => isLook q = false)
        (Watch.execute_block_logs h).1 rfl fun _ => rfl
    rw [← List.singleton_append, Watch.looks_append, hasked]
    rfl

theorem looks_flatMap_log (h : ∀ v ∈ visits, v.Made retry) :
    looks (visits.flatMap Visit.log) = visits.length := by
  induction visits with
  | nil => rfl
  | cons v visits ih =>
    obtain ⟨hv, hrest⟩ := List.forall_mem_cons.mp h
    rw [List.flatMap_cons, Watch.looks_append, hv.looks_log, ih hrest, List.length_cons,
      Nat.add_comm]

/-! ## The scan of a range -/

/-- A scan that is cancelled has visited some blocks before. If it may move its cursor, it has moved
it to the end of each page that was done then. -/
theorem scan_interrupted (h : range.HasPages options.pageSize)
    (hlog : (scan retry options range).Logs log (.done result)) (hcancelled : Cancelled log) :
    result = .error .cancelled ∧ ∃ visits tail, Visits retry range.first visits ∧
      log.without isMove = visits.flatMap Visit.log ++ tail ∧
      Interrupted retry (range.first + UInt64.ofNat visits.length) tail ∧
      moves log =
        kept options ((donePages (range.allPages options.pageSize) visits).map (·.last)) := by
  obtain ⟨visits, hvisits, hends⟩ := scan_logs h hlog
  have hafter := scan_stands h hlog
  have hlooks := Watch.looks_without log
  rw [← Watch.cancelled_without] at hcancelled
  generalize log.without isMove = walked at hends hlooks hcancelled
  cases hends with
  | finished | stopped => exact absurd hcancelled hvisits.not_cancelled
  | @cancelled tail _ _ htail =>
    refine ⟨rfl, visits, tail, hvisits, rfl, htail, ?_⟩
    obtain ⟨k, hk, n, hstands, hge, hlt⟩ := hafter
    rw [hstands.looks_eq, Watch.looks_append, looks_flatMap_log hvisits.made, htail.looks_eq]
      at hlooks
    obtain rfl : n = visits.length := (Nat.succ.inj hlooks).symm
    rw [hstands.moves_eq, donePages_eq hvisits hk hge hlt]
    rfl

/-- A scan that is not cancelled ends with a report, which says where its cursor was moved last. -/
theorem scan_reached (h : range.HasPages options.pageSize)
    (hlog : (scan retry options range).Logs log (.done result)) (hgoes : ¬Cancelled log) :
    ∃ report, result = .ok report ∧ Moved options range report.lastBlock log := by
  obtain ⟨visits, report, rfl, -⟩ := scan_visits h hlog hgoes
  exact ⟨report, rfl, scan_stands h hlog⟩

theorem Moved.getLast?_eq {lastBlock : Option UInt64} (h : Moved options range lastBlock log) :
    (moves log).getLast? = if options.persist then lastBlock else none := by
  obtain ⟨blocks, hmoves, hblocks⟩ := h
  rw [hmoves, kept]
  split_ifs
  · exact hblocks.last
  · rfl

/-- With pages of another size, a scan that is answered alike ends alike. -/
theorem scan_ends_alike {report : ScanReport} {log' : Log interface}
    {result' : Except WatchError ScanReport}
    (h : range.HasPages options.pageSize) (hsize : range.HasPages size)
    (hlog : (scan retry options range).Logs log (.done (.ok report))) (hgoes : ¬Cancelled log)
    (hlog' : (scan retry { options with pageSize := size } range).Logs log' (.done result'))
    (heq : log'.without isMove = log.without isMove) :
    result' = .ok report ∧ (moves log').getLast? = (moves log).getLast? := by
  have hextends : (scan retry { options with pageSize := size } range).Extends isMove (· = ·)
      (walk retry options.stopAtFailure range.blockCount range.first (.start range)) :=
    scan_extends hsize
  obtain ⟨_, rfl, hwalk⟩ := (scan_extends h).logs hlog
  obtain ⟨_, rfl, hwalk'⟩ := hextends.logs hlog'
  rw [heq] at hwalk'
  obtain rfl : result' = .ok report := Plan.done.inj (hwalk'.unique hwalk)
  have hgoes' : ¬Cancelled log' := by rwa [← Watch.cancelled_without, heq, Watch.cancelled_without]
  obtain ⟨_, ⟨⟩, hmoved⟩ := scan_reached h hlog hgoes
  obtain ⟨_, ⟨⟩, hmoved'⟩ := scan_reached hsize hlog' hgoes'
  exact ⟨rfl, hmoved'.getLast?_eq.trans hmoved.getLast?_eq.symm⟩

theorem isScan_of_logs (hlog : (scan retry options range).Logs log (.done result)) :
    ∀ e ∈ log, Watch.Request.isScan e.request = true :=
  (hlog.respects (scan_respects range)).1.forall_mem

/-- With pages of another size, a scan can run alike on the same store. -/
theorem exists_scan_alike {report : ScanReport} {chain : String} {s t : MemoryStore}
    (h : range.HasPages options.pageSize) (hsize : range.HasPages size)
    (hlog : (scan retry options range).Logs log (.done (.ok report))) (hgoes : ¬Cancelled log)
    (hreplays : Replays (Watch.Stores chain) s log t) :
    ∃ log' t', (scan retry { options with pageSize := size } range).Logs log' (.done (.ok report)) ∧
      log'.without isMove = log.without isMove ∧ Replays (Watch.Stores chain) s log' t' ∧
      t'.records = t.records ∧ t'.cursorBlock chain = t.cursorBlock chain := by
  have hextends : (scan retry { options with pageSize := size } range).Extends isMove (· = ·)
      (walk retry options.stopAtFailure range.blockCount range.first (.start range)) :=
    scan_extends hsize
  obtain ⟨_, rfl, hwalk⟩ := (scan_extends h).logs hlog
  obtain ⟨log', _, rfl, hlog', heq, hanswers⟩ := hextends.exists_logs Watch.Request.someAnswer hwalk
  obtain ⟨u, hu, hrecords⟩ := Watch.Stores.replays_without hreplays (isScan_of_logs hlog) rfl
  rw [← heq] at hu
  obtain ⟨t', ht', hrecords'⟩ :=
    Watch.Stores.replays_of_without hu (isScan_of_logs hlog') hanswers rfl
  refine ⟨log', t', hlog', heq, ht', hrecords'.trans hrecords, ?_⟩
  rw [Watch.Stores.cursorBlock_replays ht', Watch.Stores.cursorBlock_replays hreplays,
    (scan_ends_alike h hsize hlog hgoes hlog' heq).2]

/-- **The cursor writes of a scan by blocks.** A scan that may not move its cursor does not. One
that may, and is not cancelled, moves it to ascending blocks of its range, the last one of which is
the last block of its report; it does not move it exactly if there is none. So the size of its pages
does not matter: with any other size, a scan that is answered alike ends with the same report and
leaves the cursor at the same block, and there is one that does, on any store, and leaves the same
records. A scan that is cancelled says so, and if it may move its cursor, it has moved it to the
ends of the pages all whose blocks were visited before. -/
theorem scan_moves (h : range.HasPages options.pageSize)
    (hlog : (scan retry options range).Logs log (.done result)) :
    (options.persist = false → moves log = []) ∧
    (¬Cancelled log → ∃ report, result = .ok report ∧
      (options.persist = true →
        (moves log).Pairwise (· < ·) ∧ (∀ b ∈ moves log, range.first ≤ b ∧ b ≤ range.last) ∧
        (moves log).getLast? = report.lastBlock ∧
        (moves log = [] ↔ report.lastBlock = none)) ∧
      ∀ size, range.HasPages size →
        (∀ log' result', (scan retry { options with pageSize := size } range).Logs log'
            (.done result') → log'.without isMove = log.without isMove →
          result' = .ok report ∧ (moves log').getLast? = (moves log).getLast?) ∧
        ∀ chain s t, Replays (Watch.Stores chain) s log t →
          ∃ log' t', (scan retry { options with pageSize := size } range).Logs log'
              (.done (.ok report)) ∧
            log'.without isMove = log.without isMove ∧ Replays (Watch.Stores chain) s log' t' ∧
            t'.records = t.records ∧ t'.cursorBlock chain = t.cursorBlock chain) ∧
    (Cancelled log → result = .error .cancelled ∧ (options.persist = true →
      ∃ pages visits tail, range.pages options.pageSize = .ok pages ∧
        Visits retry range.first visits ∧ log.without isMove = visits.flatMap Visit.log ++ tail ∧
        Interrupted retry (range.first + UInt64.ofNat visits.length) tail ∧
        moves log = (donePages pages visits).map (·.last))) := by
  refine ⟨fun hpersist => ?_, fun hgoes => ?_, fun hcancelled => ?_⟩
  · have hafter := scan_stands h hlog
    cases result with
    | ok report =>
      obtain ⟨blocks, hmoves, -⟩ := hafter
      rw [hmoves, kept, hpersist]
      rfl
    | error e =>
      obtain ⟨k, -, n, hstands, -⟩ := hafter
      rw [hstands.moves_eq, kept, hpersist]
      rfl
  · obtain ⟨report, rfl, hmoved⟩ := scan_reached h hlog hgoes
    refine ⟨report, rfl, fun hpersist => ?_, fun size hsize => ?_⟩
    · have hlast := hmoved.getLast?_eq
      obtain ⟨blocks, hmoves, hblocks⟩ := hmoved
      rw [if_pos hpersist] at hlast
      refine ⟨?_, ?_, hlast, by rw [← hlast, List.getLast?_eq_none_iff]⟩
      · rw [hmoves, kept, if_pos hpersist]
        exact hblocks.sorted
      · rw [hmoves, kept, if_pos hpersist]
        exact hblocks.within
    · exact ⟨fun log' result' hlog' heq => scan_ends_alike h hsize hlog hgoes hlog' heq,
        fun chain s t hreplays => exists_scan_alike h hsize hlog hgoes hreplays⟩
  · obtain ⟨hresult, visits, tail, hvisits, hwithout, htail, hmoves⟩ :=
      scan_interrupted h hlog hcancelled
    refine ⟨hresult, fun hpersist => ⟨_, visits, tail, h.pages_eq_ok, hvisits, hwithout,
      htail, ?_⟩⟩
    rw [hmoves, kept, if_pos hpersist]

/-- A scan of blocks 7 to 10 in pages of two that is cancelled before block 10. -/
def sampleBreak : Log interface :=
  [⟨.isCancelled, false⟩, ⟨.block 7, .ok none⟩, ⟨.isCancelled, false⟩, ⟨.block 8, .ok none⟩,
    ⟨.moveCursor 8, .ok ()⟩, ⟨.isCancelled, false⟩, ⟨.block 9, .ok none⟩, ⟨.isCancelled, true⟩]

/-- The scan that stops at block 9 moves its cursor to block 8, with pages of three as well, and the
one that is cancelled before block 10 has moved it to the end of the first page. -/
theorem scan_moves_samples :
    (∃ report s t, BlockRange.HasPages ⟨7, 10⟩ 2 ∧ BlockRange.HasPages ⟨7, 10⟩ 3 ∧
      (scan ⟨1, 0⟩ ⟨2, true, true⟩ ⟨7, 10⟩).Logs sampleStop (.done (.ok report)) ∧
      ¬Cancelled sampleStop ∧ (moves sampleStop).getLast? = report.lastBlock ∧
      Replays (Watch.Stores "sample") s sampleStop t ∧
      ∃ log t', (scan ⟨1, 0⟩ ⟨3, true, true⟩ ⟨7, 10⟩).Logs log (.done (.ok report)) ∧
        Replays (Watch.Stores "sample") s log t' ∧
        t'.cursorBlock "sample" = t.cursorBlock "sample") ∧
    (scan ⟨1, 0⟩ ⟨2, true, true⟩ ⟨7, 10⟩).Logs sampleBreak (.done (.error .cancelled)) ∧
      Cancelled sampleBreak ∧
      ∃ pages visits, BlockRange.pages ⟨7, 10⟩ 2 = .ok pages ∧
        moves sampleBreak = (donePages pages visits).map (·.last) := by
  have hpages : ∀ size, BlockRange.HasPages ⟨7, 10⟩ size := fun size =>
    .of_blockCount_lt (by decide) (by decide)
  have hstop : (scan ⟨1, 0⟩ ⟨2, true, true⟩ ⟨7, 10⟩).Logs sampleStop (.done (.ok _)) :=
    .ask <| .ask <| .ask <| .ask <| .ask <| .ask <| .ask <| .ask <| .nil _
  have hrecord : Watch.Stores "sample" .empty ⟨.record default, .ok .written⟩
      (MemoryStore.empty.upsert ((default : Candidate).at default)).2 := .record _ default default
  have hreplays : Replays (Watch.Stores "sample") .empty sampleStop _ :=
    .cons (.other _ _ rfl) <| .cons (.other _ _ rfl) <| .cons hrecord <| .cons (.other _ _ rfl) <|
      .cons (.other _ _ rfl) <| .cons (.moveCursor _ 8 default) <| .cons (.other _ _ rfl) <|
      .cons (.other _ _ rfl) <| .nil _
  have hbreak : (scan ⟨1, 0⟩ ⟨2, true, true⟩ ⟨7, 10⟩).Logs sampleBreak
      (.done (.error .cancelled)) :=
    .ask <| .ask <| .ask <| .ask <| .ask <| .ask <| .ask <| .ask <| .nil _
  have hcancelled : Cancelled sampleBreak :=
    ⟨⟨.isCancelled, true⟩, by simp [sampleBreak], Or.inl rfl⟩
  obtain ⟨report, hreport, hmoves, hsizes⟩ :=
    (scan_moves (hpages 2) hstop).2.1 not_cancelled_sampleStop
  obtain rfl := Except.ok.inj hreport
  obtain ⟨log, t', hlog, -, ht', -, hcursor⟩ := (hsizes 3 (hpages 3)).2 "sample" _ _ hreplays
  obtain ⟨pages, visits, -, heq, -, -, -, hends⟩ :=
    ((scan_moves (hpages 2) hbreak).2.2 hcancelled).2 rfl
  exact ⟨⟨_, _, _, hpages 2, hpages 3, hstop, not_cancelled_sampleStop, (hmoves rfl).2.2.1,
    hreplays, log, t', hlog, ht', hcursor⟩, hbreak, hcancelled, pages, visits, heq, hends⟩

end BlockScan

end RedemptionWatch
