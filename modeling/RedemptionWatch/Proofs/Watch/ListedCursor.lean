import RedemptionWatch.Proofs.Watch.LiveListing
import RedemptionWatch.Proofs.Watch.ScanLogs

/-!
# Where listings move the cursor

A listing moves the cursor to the highest block that it listed, or to the end of its range if it
listed none (`CommittedBy`). Nobody checks that the listed blocks lie in the range. So the cursor
leaves the range, and even goes back, when an endpoint lists other blocks (`cursor_leaves_range`),
and it stays in the range when the endpoint lists blocks of the range only. In a live loop the range
starts no earlier than at any block the cursor was at, and ends at the head that was answered
(`Watcher.listed_cursor`).

`Survey.Sound` is what a survey stands for in the log it has accepted. One event keeps it
(`Survey.Sound.snoc`), so it holds of every log (`Survey.sound_of_foldlM`).
-/

namespace RedemptionWatch

open ActivityPage

/-! ## What a survey stands for -/

/-- The events are those of a listing of the range that has come to these pages: no other range is
listed, these are all pages that were answered, and no head was answered meanwhile. -/
structure Lists (range : BlockRange) (pages : List ActivityPage) (scan : Log Watch.interface) :
    Prop where
  asks : ∀ range' token, .activity range' token ∈ Watch.requests scan → range' = range
  listed : Watch.listed scan = pages
  heads : ∀ head, ⟨.latestBlock, .ok head⟩ ∉ scan

theorem lists_nil (range : BlockRange) : Lists range [] [] :=
  ⟨fun _ _ h => absurd h List.not_mem_nil, rfl, fun _ => List.not_mem_nil⟩

theorem Lists.snoc {range : BlockRange} {pages : List ActivityPage} {scan : Log Watch.interface}
    (h : Lists range pages scan) {e : Event Watch.interface}
    (hasks : ∀ range' token, e.request = .activity range' token → range' = range)
    (hhead : ∀ head, e ≠ ⟨.latestBlock, .ok head⟩) :
    Lists range (pages ++ Watch.listed [e]) (scan ++ [e]) where
  asks range' token hmem := by
    rw [Watch.requests_append, List.mem_append] at hmem
    exact hmem.elim (h.asks range' token) fun hlast =>
      hasks range' token (List.mem_singleton.mp hlast).symm
  listed := by rw [Watch.listed_append, h.listed]
  heads head hmem := by
    rcases List.mem_append.mp hmem with hmem | hmem
    · exact h.heads head hmem
    · exact hhead head (List.mem_singleton.mp hmem).symm

namespace Survey

/-- How the listing of a range begins: the range is the one of the scan, or it ends at the head that
was answered just now. -/
inductive Opens (origin : Survey) (range : BlockRange) : Log Watch.interface → Prop where
  | given (h : range ∈ origin.range) : Opens origin range []
  | sighted (before : Log Watch.interface) (hlive : origin.live = true)
      (hlt : range.first < range.last) :
      Opens origin range (before ++ [⟨.latestBlock, .ok range.last⟩])

/-- What a survey stands for in a log that it has accepted from `origin` on. -/
structure Sound (origin : Survey) (log : Log Watch.interface) (s : Survey) : Prop where
  live : s.live = origin.live
  origin_le : origin.position ≤ s.position
  moves : ∀ block, .moveCursor block ∈ Watch.requests log → block ≤ s.position
  scan : ∀ range ∈ s.range, range.first = s.position ∧ ∃ earlier scan, log = earlier ++ scan ∧
    Opens origin range earlier ∧ Lists range s.pages scan
  ended : s.ended = true → s.pages ≠ []

variable {origin s t : Survey} {e : Event Watch.interface} {log : Log Watch.interface}

theorem sound_start (live : Bool) (start : UInt64) :
    Sound (Survey.start live start) [] (Survey.start live start) where
  live := rfl
  origin_le := UInt64.le_refl start
  moves _ h := absurd h List.not_mem_nil
  scan _ h := nomatch h
  ended h := nomatch h

theorem sound_begin (live : Bool) (range : BlockRange) :
    Sound (begin live range) [] (begin live range) where
  live := rfl
  origin_le := UInt64.le_refl range.first
  moves _ h := absurd h List.not_mem_nil
  scan range' h := by
    obtain rfl : range = range' := Option.some_inj.mp h
    exact ⟨rfl, [], [], rfl, .given rfl, lists_nil range⟩
  ended h := nomatch h

namespace Sound

/-- An event that moves no cursor leaves the moves as they are. -/
theorem moves_snoc (h : Sound origin log s) (he : ∀ block, e.request ≠ .moveCursor block)
    (block : UInt64) (hmem : .moveCursor block ∈ Watch.requests (log ++ [e])) :
    block ≤ s.position := by
  rw [Watch.requests_append, List.mem_append] at hmem
  rcases hmem with hmem | hmem
  · exact h.moves block hmem
  · exact absurd (List.mem_singleton.mp hmem).symm (he block)

/-- The listing under way goes on with an event that may bring one more page. -/
theorem scan_snoc (h : Sound origin log s)
    (hasks : ∀ range token, e.request = .activity range token → range ∈ s.range)
    (hhead : ∀ head, e ≠ ⟨.latestBlock, .ok head⟩) (range : BlockRange) (hrange : range ∈ s.range) :
    range.first = s.position ∧ ∃ earlier scan, log ++ [e] = earlier ++ scan ∧
      Opens origin range earlier ∧ Lists range (s.pages ++ Watch.listed [e]) scan := by
  obtain ⟨hfirst, earlier, scan, rfl, hopens, hlists⟩ := h.scan range hrange
  refine ⟨hfirst, earlier, scan ++ [e], List.append_assoc .., hopens,
    hlists.snoc (fun range' token heq => ?_) hhead⟩
  exact Option.some_inj.mp ((hasks range' token heq).symm.trans hrange)

/-- An event that changes nothing but what is pending. -/
theorem snoc_of_pending (h : Sound origin log s) (he : ∀ block, e.request ≠ .moveCursor block)
    (hasks : ∀ range token, e.request = .activity range token → range ∈ s.range)
    (hhead : ∀ head, e ≠ ⟨.latestBlock, .ok head⟩) (hlisted : Watch.listed [e] = [])
    (pending : List Candidate) : Sound origin (log ++ [e]) { s with pending := pending } := by
  have hscan := h.scan_snoc hasks hhead
  rw [hlisted, List.append_nil] at hscan
  exact ⟨h.live, h.origin_le, h.moves_snoc he, hscan, h.ended⟩

/-- One more event keeps what the survey stands for. -/
theorem snoc (h : Sound origin log s) (hm : s.Moves e t) : Sound origin (log ++ [e]) t := by
  cases hm with
  | activity range token answer _ hasks =>
    have hrange : ∀ range' token',
        Watch.Request.activity range token = .activity range' token' → range' ∈ s.range := by
      rintro _ _ ⟨⟩
      exact hasks.1
    cases answer with
    | error reason => exact h.snoc_of_pending (by nofun) hrange (by nofun) rfl s.pending
    | ok page =>
      exact ⟨h.live, h.origin_le, h.moves_snoc (by nofun), h.scan_snoc hrange (by nofun),
        fun _ => List.append_ne_nil_of_right_ne_nil _ (List.cons_ne_nil _ _)⟩
  | record c rest outcome _ => exact h.snoc_of_pending (by nofun) (by nofun) (by nofun) rfl rest
  | moveCursor block result _ _ =>
    refine ⟨h.live, UInt64.le_trans h.origin_le (BlockRange.le_max_left _ _),
      fun earlier hmem => ?_, nofun, nofun⟩
    rw [Watch.requests_append, List.mem_append] at hmem
    rcases hmem with hmem | hmem
    · exact UInt64.le_trans (h.moves earlier hmem) (BlockRange.le_max_left _ _)
    · cases List.mem_singleton.mp hmem
      exact BlockRange.le_max_right _ _
  | latestBlock answer _ hlive =>
    cases answer with
    | error reason => exact h.snoc_of_pending (by nofun) (by nofun) (by nofun) rfl s.pending
    | ok head =>
      by_cases hlt : s.position < head
      · have hsighted : s.sighted (.ok head) = begin s.live ⟨s.position, head⟩ := if_pos hlt
        rw [hsighted]
        refine ⟨h.live, h.origin_le, h.moves_snoc (by nofun), fun range hmem => ?_, nofun⟩
        cases hmem
        exact ⟨rfl, log ++ [⟨.latestBlock, .ok head⟩], [], (List.append_nil _).symm,
          .sighted log (h.live.symm.trans hlive) hlt, lists_nil _⟩
      · have hsighted : s.sighted (.ok head) = Survey.start s.live s.position := if_neg hlt
        rw [hsighted]
        exact ⟨h.live, h.origin_le, h.moves_snoc (by nofun), nofun, nofun⟩
  | pause millis pauseEnd => exact h.snoc_of_pending (by nofun) (by nofun) (by nofun) rfl s.pending
  | isCancelled answer => exact h.snoc_of_pending (by nofun) (by nofun) (by nofun) rfl s.pending
  | publish state => exact h.snoc_of_pending (by nofun) (by nofun) (by nofun) rfl s.pending

end Sound

theorem sound_of_foldlM (horigin : Sound origin [] origin) (h : log.foldlM step origin = some s) :
    Sound origin log s := by
  induction log using List.reverseRecOn generalizing s with
  | nil =>
    cases h
    exact horigin
  | append_singleton log e ih =>
    obtain ⟨m, hm, he⟩ := Log.foldlM_snoc.mp h
    exact (ih hm).snoc (moves_of_step he)

end Survey

/-! ## Moves of the cursor -/

/-- These events of a scan of the range come to a move of the cursor to the block. The scan lists no
other range, it has been answered pages, and of all of them the block is the highest one listed, or
the end of the range if they list none. -/
structure CommittedBy (scan : Log Watch.interface) (range : BlockRange) (block : UInt64) :
    Prop where
  asks : ∀ range' token, .activity range' token ∈ Watch.requests scan → range' = range
  answered : Watch.listed scan ≠ []
  highest : IsHighest (Watch.listed scan) range.last block

/-- Every page that is answered lists blocks of the range only. -/
def ListsWithin (scan : Log Watch.interface) (range : BlockRange) : Prop :=
  ∀ page ∈ Watch.listed scan, ∀ block ∈ page.highest, range.first ≤ block ∧ block ≤ range.last

section Committed

variable {scan : Log Watch.interface} {range : BlockRange} {block : UInt64}

/-- By pages of the range only, the cursor stays in the range. -/
theorem CommittedBy.mem_range (h : CommittedBy scan range block) (hrange : range.first ≤ range.last)
    (hwithin : ListsWithin scan range) : range.first ≤ block ∧ block ≤ range.last := by
  rcases h.highest with ⟨⟨page, hmem, hblock⟩, -⟩ | ⟨-, rfl⟩
  · exact hwithin page hmem block hblock
  · exact ⟨hrange, UInt64.le_refl _⟩

/-- What a survey allows, the pages of the listing under way account for. -/
theorem Survey.Sound.committedBy {origin s : Survey} {log : Log Watch.interface}
    (h : Survey.Sound origin log s) (hcommits : s.Commits block) :
    ∃ range ∈ s.range, ∃ earlier scan, log = earlier ++ scan ∧ Survey.Opens origin range earlier ∧
      (∀ head, ⟨.latestBlock, .ok head⟩ ∉ scan) ∧ CommittedBy scan range block := by
  obtain ⟨hended, range, hrange, rfl⟩ := hcommits
  obtain ⟨-, earlier, scan, rfl, hopens, hlists⟩ := h.scan range hrange
  refine ⟨range, hrange, earlier, scan, rfl, hopens, hlists.heads, hlists.asks, ?_, ?_⟩
  · rw [hlists.listed]
    exact h.ended hended
  · rw [hlists.listed]
    exact isHighest_highestOf s.pages range.last

end Committed

/-- A live loop by listings from block 100 on. -/
def sampleLister : Watcher where
  chain := "sample"
  chainId := default
  family := "evm"
  mode := .activity
  pageSize := 10
  wait := 1000
  initialBlock := 100
  retry := ⟨1, 0⟩

/-- A listing of the blocks 100 to 200 of which this is the first page. -/
def samplePage (page : ActivityPage) : Log Watch.interface :=
  [⟨.isCancelled, false⟩, ⟨.activity ⟨100, 200⟩ none, .ok page⟩]

/-- The live loop comes to this listing when block 200 is the latest one. -/
def sampleListing (page : ActivityPage) : Log Watch.interface :=
  [⟨.cursor 100, .ok 100⟩, ⟨.isCancelled, false⟩, ⟨.publish .polling, ()⟩,
    ⟨.latestBlock, .ok 200⟩] ++ samplePage page

/-- If the page is the last one, the cursor moves to its highest block. -/
theorem logs_samplePage (highest : UInt64) :
    ∃ p, Loop.Logs (Listing.next sampleLister.retry sampleLister.liveOptions)
      (.done (.inl (.start ⟨100, 200⟩)))
      (samplePage ⟨[], some highest, none⟩ ++ [⟨.moveCursor highest, .ok ()⟩]) p :=
  ⟨_, .round <| .ask <| .ask <| .ask <| .nil _⟩

theorem logs_sampleListing (highest : UInt64) :
    ∃ p, Loop.Logs sampleLister.live (.done (.inl .start))
      (sampleListing ⟨[], some highest, none⟩ ++ [⟨.moveCursor highest, .ok ()⟩]) p :=
  ⟨_, .round <| .ask <| .round <| .ask <| .ask <| .ask <| .round <| .ask <| .ask <| .ask <| .nil _⟩

/-- The cursor leaves the blocks 100 to 200 of a listing, and with them the head of the chain, when
a page lists block 250, and it goes back to block 50 when that is the highest one listed. -/
theorem cursor_leaves_range :
    (∃ p, Loop.Logs (Listing.next sampleLister.retry sampleLister.liveOptions)
      (.done (.inl (.start ⟨100, 200⟩)))
      (samplePage ⟨[], some 250, none⟩ ++ [⟨.moveCursor 250, .ok ()⟩]) p) ∧
    (∃ p, Loop.Logs sampleLister.live (.done (.inl .start))
      (sampleListing ⟨[], some 250, none⟩ ++ [⟨.moveCursor 250, .ok ()⟩]) p) ∧
    ¬(250 : UInt64) ≤ 200 ∧
    (∃ p, Loop.Logs sampleLister.live (.done (.inl .start))
      (sampleListing ⟨[], some 50, none⟩ ++ [⟨.moveCursor 50, .ok ()⟩]) p) ∧
    ¬(100 : UInt64) ≤ 50 :=
  ⟨logs_samplePage 250, logs_sampleListing 250, by decide, logs_sampleListing 50, by decide⟩

namespace Watcher

/-- **Where listings move the cursor.** A listing moves the cursor to the highest block that all its
pages list, or to the end of its range if they list none. So the cursor stays in the range if they
list blocks of the range only. The range of a live loop is the last one that it has begun to list.
It starts no earlier than at the first cursor and at every block that the cursor has moved to, and
ends at the head that was answered last; so by such pages the cursor never goes back, and never past
the head. -/
theorem listed_cursor (w : Watcher) {log before after : Log Watch.interface} {block : UInt64}
    {result : Except StoreError Unit}
    (hlog : log = before ++ ⟨.moveCursor block, result⟩ :: after) :
    (∀ options range p, range.first ≤ range.last →
      Loop.Logs (Listing.next w.retry options) (.done (.inl (.start range))) log p →
      CommittedBy before range block ∧
      (ListsWithin before range → range.first ≤ block ∧ block ≤ range.last)) ∧
    (∀ p, w.mode = .activity → Loop.Logs w.live (.done (.inl .start)) log p →
      ∃ start rest range scan, before = ⟨.cursor w.initialBlock, .ok start⟩ ::
          (rest ++ ⟨.latestBlock, .ok range.last⟩ :: scan) ∧
        (∀ head, ⟨.latestBlock, .ok head⟩ ∉ scan) ∧
        start ≤ range.first ∧
        (∀ earlier, .moveCursor earlier ∈ Watch.requests before → earlier ≤ range.first) ∧
        range.first < range.last ∧ CommittedBy scan range block ∧
        (ListsWithin scan range → start ≤ block ∧ block ≤ range.last ∧
          ∀ earlier, .moveCursor earlier ∈ Watch.requests before → earlier ≤ block)) := by
  constructor
  · intro options range p hrange h
    obtain ⟨s, hs⟩ := Listing.logs_accepted h
    rw [hlog] at hs
    obtain ⟨m, n, hm, hstep⟩ := Log.exists_of_foldlM hs
    have hsound := Survey.sound_of_foldlM (Survey.sound_begin false range) hm
    cases Survey.moves_of_step hstep with
    | moveCursor _ _ _ hcommits =>
      obtain ⟨range', -, _, scan, rfl, hopens, -, hcommitted⟩ := hsound.committedBy hcommits
      cases hopens with
      | given horigin =>
        obtain rfl := Option.some_inj.mp horigin
        exact ⟨hcommitted, hcommitted.mem_range hrange⟩
      | sighted _ hlive => exact nomatch hlive
  · intro p hmode h
    obtain ⟨start, rest, rfl, hrest⟩ := exists_rest_of_moveCursor h hlog
    obtain ⟨s, hs⟩ := listings_accepted w hmode hrest
    obtain ⟨m, n, hm, hstep⟩ := Log.exists_of_foldlM hs
    have hsound := Survey.sound_of_foldlM (Survey.sound_start true start) hm
    cases Survey.moves_of_step hstep with
    | moveCursor _ _ _ hcommits =>
      obtain ⟨range, hrange, _, scan, rfl, hopens, hheads, hcommitted⟩ :=
        hsound.committedBy hcommits
      have hfirst := (hsound.scan range hrange).1
      cases hopens with
      | given horigin => exact nomatch horigin
      | sighted earlier _ hlt =>
        have hstart : start ≤ range.first := by
          rw [hfirst]
          exact hsound.origin_le
        have hmoves : ∀ block', .moveCursor block' ∈ Watch.requests
            (⟨.cursor w.initialBlock, .ok start⟩ ::
              (earlier ++ [⟨.latestBlock, .ok range.last⟩] ++ scan)) → block' ≤ range.first := by
          intro block' hmem
          rw [hfirst]
          exact hsound.moves block' ((List.mem_cons.mp hmem).resolve_left nofun)
        refine ⟨start, earlier, range, scan, by simp, hheads, hstart, hmoves, hlt, hcommitted,
          fun hwithin => ?_⟩
        obtain ⟨hle, hlast⟩ := hcommitted.mem_range (UInt64.le_of_lt hlt) hwithin
        exact ⟨UInt64.le_trans hstart hle, hlast, fun block' hmem =>
          UInt64.le_trans (hmoves block' hmem) hle⟩

/-- A scan of the blocks 100 to 200 whose first page lists block 150, and the second one block
120. -/
def sampleTwoPages : Log Watch.interface :=
  samplePage ⟨[], some 150, some "more"⟩ ++
    [⟨.isCancelled, false⟩, ⟨.activity ⟨100, 200⟩ (some "more"), .ok ⟨[], some 120, none⟩⟩]

/-- The live loop that makes this scan. -/
def sampleTwoPagesLive : Log Watch.interface :=
  sampleListing ⟨[], some 150, some "more"⟩ ++
    [⟨.isCancelled, false⟩, ⟨.activity ⟨100, 200⟩ (some "more"), .ok ⟨[], some 120, none⟩⟩]

/-- In the scan as in the live loop, the cursor moves to block 150, and the pages account for no
other block. -/
theorem listed_cursor_sampleTwoPages :
    (∃ p, Loop.Logs (Listing.next sampleLister.retry sampleLister.liveOptions)
      (.done (.inl (.start ⟨100, 200⟩))) (sampleTwoPages ++ [⟨.moveCursor 150, .ok ()⟩]) p) ∧
    CommittedBy sampleTwoPages ⟨100, 200⟩ 150 ∧
    (∀ block, CommittedBy sampleTwoPages ⟨100, 200⟩ block → block = 150) ∧
    sampleLister.mode = .activity ∧
    ∃ p, Loop.Logs sampleLister.live (.done (.inl .start))
        (sampleTwoPagesLive ++ [⟨.moveCursor 150, .ok ()⟩]) p ∧
      ∃ range scan, 100 ≤ range.first ∧ ⟨.latestBlock, .ok range.last⟩ ∈ sampleTwoPagesLive ∧
        CommittedBy scan range 150 := by
  have hscan : Loop.Logs (Listing.next sampleLister.retry sampleLister.liveOptions)
      (.done (.inl (.start ⟨100, 200⟩))) (sampleTwoPages ++ [⟨.moveCursor 150, .ok ()⟩]) _ :=
    .round <| .ask <| .ask <| .round <| .ask <| .ask <| .ask <| .nil _
  have hlive : Loop.Logs sampleLister.live (.done (.inl .start))
      (sampleTwoPagesLive ++ [⟨.moveCursor 150, .ok ()⟩]) _ :=
    .round <| .ask <| .round <| .ask <| .ask <| .ask <| .round <| .ask <| .ask <| .round <| .ask <|
      .ask <| .ask <| .nil _
  obtain ⟨hcommitted, -⟩ := (listed_cursor sampleLister rfl).1 sampleLister.liveOptions ⟨100, 200⟩ _
    (by decide) hscan
  obtain ⟨start, rest, range, scan, hbefore, -, hstart, -, -, hcommitted', -⟩ :=
    (listed_cursor sampleLister rfl).2 _ rfl hlive
  refine ⟨⟨_, hscan⟩, hcommitted, fun block h => h.highest.unique hcommitted.highest, rfl, _, hlive,
    range, scan, ?_, ?_, hcommitted'⟩
  · obtain ⟨hcursor, -⟩ := List.cons.inj hbefore
    cases hcursor
    exact hstart
  · rw [hbefore]
    simp

end Watcher

end RedemptionWatch
