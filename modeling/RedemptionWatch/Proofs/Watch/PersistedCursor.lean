import RedemptionWatch.Proofs.Watch.Interference
import RedemptionWatch.Proofs.Watch.Sweep

/-!
# A cursor that backfills move too

The live loop of a chain and backfills of the chain that may move its cursor take turns on one
store (`Watcher.Interleaves`). Each write replaces the cursor, so it stands for what the last writer
has done (`Watcher.persisted_cursor`). If that was the live loop, every block from the one it began
at up to the cursor is settled. If it was a backfill, the cursor stands for the range of the
backfill alone, from its first block on, and the backfill may have passed over blocks there whose
failures may pass.
-/

namespace RedemptionWatch

/-- A block that is settled was fetched, or could not be read. -/
theorem Settled.mem_processed {log : Log Watch.interface} {block : UInt64} (h : Settled log block) :
    block ∈ Watch.processed log := by
  obtain ⟨before, after, answer, rfl, -, hanswer⟩ := h
  rw [Watch.processed_append]
  refine List.mem_append_right _ ?_
  rcases answer with e | found
  · obtain ⟨reason, rfl⟩ := hanswer
    exact List.mem_cons_self
  · exact List.mem_cons_self

/-- What tasks ask and are answered, in the order in which it takes place. -/
abbrev Joint (ι : Type) :=
  List (ι × Event Watch.interface)

namespace Joint

variable {ι : Type} [DecidableEq ι]

/-- What one of the tasks asks and is answered. -/
def of (log : Joint ι) (i : ι) : Log Watch.interface :=
  (log.filter (·.1 = i)).map (·.2)

/-- At some time the block is settled for one of the tasks. -/
def Processed (log : Joint ι) (block : UInt64) : Prop :=
  ∃ i before, before <+: log.of i ∧ Settled before block

theorem of_append_cons (before after : Joint ι) (i : ι) (e : Event Watch.interface) :
    Joint.of (before ++ (i, e) :: after) i =
      Joint.of before i ++ e :: Joint.of after i := by
  simp [of]

theorem processed_of_settled {log : Joint ι} {i : ι} {block : UInt64}
    (h : Settled (log.of i) block) : log.Processed block :=
  ⟨i, _, List.prefix_refl _, h⟩

theorem Processed.exists_mem {log : Joint ι} {block : UInt64} (h : log.Processed block) :
    ∃ i, block ∈ Watch.processed (log.of i) := by
  obtain ⟨i, before, ⟨after, heq⟩, hsettled⟩ := h
  refine ⟨i, ?_⟩
  rw [← heq, Watch.processed_append]
  exact List.mem_append_left _ hsettled.mem_processed

/-- No task moves the cursor. -/
def Leaves (log : Joint ι) : Prop :=
  ∀ e ∈ log, ∀ block, e.2.request ≠ Watch.Request.moveCursor block

end Joint

/-! ## The store -/

/-- A store in memory answers what concerns the store of a chain, and its writes succeed. All else
may be answered in any way. -/
inductive Watch.Stores (chain : String) :
    MemoryStore → Event Watch.interface → MemoryStore → Prop where
  | cursor (s : MemoryStore) (fallback : UInt64) :
      Stores chain s ⟨.cursor fallback, .ok (s.currentBlock chain fallback)⟩ s
  | record (s : MemoryStore) (c : Candidate) (now : Timestamp) :
      Stores chain s ⟨.record c, .ok (s.upsert (c.at now)).1⟩ (s.upsert (c.at now)).2
  | moveCursor (s : MemoryStore) (block : UInt64) (now : Timestamp) :
      Stores chain s ⟨.moveCursor block, .ok ()⟩ (s.updateCursor chain block now)
  | other (s : MemoryStore) (e : Event Watch.interface)
      (h : Watch.Request.isStored e.request = false) : Stores chain s e s

/-- The block at which the cursor of a chain stands, if it was ever written. -/
def MemoryStore.cursorBlock (s : MemoryStore) (chain : String) : Option UInt64 :=
  (s.cursor? chain).map (·.block)

theorem MemoryStore.cursorBlock_updateCursor (s : MemoryStore) (chain : String) (block : UInt64)
    (now : Timestamp) : (s.updateCursor chain block now).cursorBlock chain = some block := by
  unfold cursorBlock
  rw [cursor?_updateCursor_self]
  rfl

namespace Watch.Stores

variable {chain : String} {s s' : MemoryStore} {e : Event Watch.interface}

/-- After an event the cursor stands where it stood, unless the event moves it. -/
theorem cursorBlock_eq (h : Stores chain s e s') :
    (s'.cursorBlock chain = s.cursorBlock chain ∧
      ∀ block, e.request ≠ Watch.Request.moveCursor block) ∨
    ∃ block, e = ⟨.moveCursor block, .ok ()⟩ ∧ s'.cursorBlock chain = some block := by
  cases h with
  | cursor => exact Or.inl ⟨rfl, nofun⟩
  | record c now =>
    refine Or.inl ⟨?_, nofun⟩
    unfold MemoryStore.cursorBlock
    rw [MemoryStore.cursor?_upsert]
  | moveCursor block now => exact Or.inr ⟨block, rfl, s.cursorBlock_updateCursor chain block now⟩
  | other _ hother =>
    refine Or.inl ⟨rfl, fun block heq => ?_⟩
    rw [heq] at hother
    exact nomatch hother

/-- The cursor stands where it was last moved to, or where it stood at first if it was not. -/
theorem exists_last_move {ι : Type} {log : Joint ι} {c : UInt64}
    (h : Replays (Stores chain) s (log.map (·.2)) s') (hcursor : s'.cursorBlock chain = some c) :
    (log.Leaves ∧ s.cursorBlock chain = some c) ∨
    ∃ before i after, log = before ++ (i, ⟨.moveCursor c, .ok ()⟩) :: after ∧
      Joint.Leaves after := by
  induction log using List.reverseRecOn generalizing s' with
  | nil =>
    cases h
    exact Or.inl ⟨fun _ he => absurd he List.not_mem_nil, hcursor⟩
  | append_singleton log e ih =>
    rw [List.map_append, List.map_singleton] at h
    obtain ⟨t, hlog, hlast⟩ := h.of_snoc
    rcases hlast.cursorBlock_eq with ⟨hstays, hrequest⟩ | ⟨block, hmove, hmoved⟩
    · have hsnoc : ∀ {rest : Joint ι}, rest.Leaves → Joint.Leaves (rest ++ [e]) := by
        intro rest hrest e' he'
        rcases List.mem_append.mp he' with he' | he'
        · exact hrest e' he'
        · rw [List.mem_singleton.mp he']
          exact hrequest
      rcases ih hlog (hstays ▸ hcursor) with ⟨hleaves, hstart⟩ | ⟨before, i, after, rfl, hleaves⟩
      · exact Or.inl ⟨hsnoc hleaves, hstart⟩
      · exact Or.inr ⟨before, i, after ++ [e], by simp, hsnoc hleaves⟩
    · obtain rfl : block = c := Option.some_inj.mp (hmoved.symm.trans hcursor)
      refine Or.inr ⟨log, e.1, [], ?_, fun _ he => absurd he List.not_mem_nil⟩
      rw [← hmove]

/-- While no task moves the cursor, it is read where it stood at first. -/
theorem start_of_leaves {ι : Type} {log : Joint ι} {c fallback start : UInt64} {i : ι}
    (h : Replays (Stores chain) s (log.map (·.2)) s') (hleaves : log.Leaves)
    (hcursor : s.cursorBlock chain = some c) (hread : (i, ⟨.cursor fallback, .ok start⟩) ∈ log) :
    start = c := by
  induction log generalizing s with
  | nil => exact absurd hread List.not_mem_nil
  | cons e log ih =>
    cases h with
    | cons first rest =>
      rcases List.mem_cons.mp hread with rfl | hread
      · cases first with
        | cursor => exact congrArg (·.getD fallback) hcursor
        | other _ hother => exact nomatch hother
      · rcases first.cursorBlock_eq with ⟨hstays, -⟩ | ⟨block, hmove, -⟩
        · exact ih rest (fun e he => hleaves e (List.mem_cons_of_mem _ he))
            (hstays.trans hcursor) hread
        · exact absurd (congrArg Event.request hmove) (hleaves e List.mem_cons_self block)

end Watch.Stores

namespace Watcher

/-! ## What the last writer has done -/

/-- When a live loop by blocks moves its cursor, every block from the one it began at up to that one
is settled. -/
theorem live_settles {w : Watcher} (hmode : w.mode = .blocks)
    {log before after : Log Watch.interface} {p : Watch.Act Turn} {block : UInt64}
    {result : Except StoreError Unit}
    (h : Loop.Logs w.live (.done (.inl .start)) log p)
    (hlog : log = before ++ ⟨.moveCursor block, result⟩ :: after) :
    ∃ start rest, before = ⟨.cursor w.initialBlock, .ok start⟩ :: rest ∧ start ≤ block ∧
      ∀ b, start ≤ b → b ≤ block → Settled before b := by
  obtain ⟨start, rest, rfl, -⟩ := exists_rest_of_moveCursor h hlog
  rw [List.cons_append] at hlog
  rcases live_accepted w hmode h with rfl | ⟨reason, rest', rfl, -⟩ | ⟨start', rest', f, rfl, hf, -⟩
  · exact nomatch hlog
  · exact nomatch hlog
  · cases hlog
    obtain ⟨m, n, hm, hmoves⟩ := Frontier.moves_of_foldlM hf
    have hsound := Frontier.sound_of_foldlM hm
    cases hmoves with
    | moveCursor _ _ hp hcommits =>
      obtain ⟨htorn, hnext, hcursor, -⟩ := hcommits
      refine ⟨start, rest, rfl, UInt64.le_trans hsound.start_le hcursor, fun b hb hle => ?_⟩
      have hlt := UInt64.le_iff_toNat_le.mp hle
      exact (hsound.settled b hb (by omega) fun _ => ⟨htorn, hp⟩).cons _

variable (w : Watcher) (fills : List BackfillRequest)

/-- The tasks of a chain: its live loop, and backfills. -/
def task : Option (Fin fills.length) → Task
  | none => .live w
  | some k => .backfill w (fills.get k)

/-- The tasks take turns, and the store is the same for all of them. -/
structure Interleaves (s : MemoryStore) (log : Joint (Option (Fin fills.length)))
    (s' : MemoryStore) : Prop where
  logs : ∀ i, ∃ p,
    Loop.Logs (w.task fills i).loop (.done (.inl (w.task fills i).begin)) (log.of i) p
  replays : Replays (Watch.Stores w.chain) s (log.map (·.2)) s'

/-- What a cursor stands for when the task moves it to a block, after what has taken place so far.
If the task is the live loop: every block from the one it began at up to the cursor was processed.
If it is a backfill: the cursor lies in its range, and every block of the range up to it was
processed, or passed over by this backfill. -/
def CursorCovers (before : Joint (Option (Fin fills.length))) (block : UInt64) :
    Option (Fin fills.length) → Prop
  | none => ∃ start rest, before.of none = ⟨.cursor w.initialBlock, .ok start⟩ :: rest ∧
      start ≤ block ∧ ∀ b, start ≤ b → b ≤ block → before.Processed b
  | some k => (fills.get k).range.first ≤ block ∧ block ≤ (fills.get k).range.last ∧
      ∀ b, (fills.get k).range.first ≤ b → b ≤ block →
        before.Processed b ∨ PassedOver (before.of (some k)) b

variable {w fills} {s s' : MemoryStore} {log : Joint (Option (Fin fills.length))}

theorem Interleaves.cursorCovers (h : w.Interleaves fills s log s') (hmode : w.mode = .blocks)
    {before after : Joint (Option (Fin fills.length))} {i : Option (Fin fills.length)}
    {block : UInt64} {result : Except StoreError Unit}
    (hlog : log = before ++ (i, ⟨.moveCursor block, result⟩) :: after) :
    w.CursorCovers fills before block i := by
  obtain ⟨p, hp⟩ := h.logs i
  rw [hlog, Joint.of_append_cons] at hp
  cases i with
  | none =>
    obtain ⟨start, rest, hbefore, hle, hsettled⟩ := live_settles hmode hp rfl
    exact ⟨start, rest, hbefore, hle, fun b hb hb' =>
      Joint.processed_of_settled (hsettled b hb hb')⟩
  | some k =>
    obtain ⟨hfirst, hlast, hswept⟩ := backfill_sweeps hmode hp _ _ _ rfl block rfl
    refine ⟨hfirst, hlast, fun b hb hb' => ?_⟩
    have hlt := Nat.lt_succ_of_le (UInt64.le_iff_toNat_le.mp hb')
    exact (hswept b hb hlt).imp_left Joint.processed_of_settled

/-- **What a persisted cursor means.** Let the live loop of a chain that is scanned by blocks and
any backfills of the chain take turns on one store whose writes succeed, whatever their blocks come
to, and let the cursor stand at a block. If no task has moved it, the live loop began there.
Otherwise, of the task that moved it last:
* if it is the live loop, every block from the one it began at up to the cursor was processed;
* if it is a backfill, every block from the first one of its range up to the cursor was processed,
  or passed over by this backfill for a failure that may pass. -/
theorem persisted_cursor (w : Watcher) (hmode : w.mode = .blocks) (fills : List BackfillRequest)
    {s s' : MemoryStore} {log : Joint (Option (Fin fills.length))}
    (h : w.Interleaves fills s log s') {c : UInt64} (hcursor : s'.cursorBlock w.chain = some c) :
    (log.Leaves ∧ ∀ start, ⟨.cursor w.initialBlock, .ok start⟩ ∈ log.of none → start = c) ∨
    ∃ before i after, log = before ++ (i, ⟨.moveCursor c, .ok ()⟩) :: after ∧
      Joint.Leaves after ∧ w.CursorCovers fills before c i := by
  rcases Watch.Stores.exists_last_move h.replays hcursor with
    ⟨hleaves, hstart⟩ | ⟨before, i, after, hlog, hafter⟩
  · refine Or.inl ⟨hleaves, fun start hread => ?_⟩
    obtain ⟨⟨i, e⟩, hmem, rfl⟩ := List.mem_map.mp hread
    exact Watch.Stores.start_of_leaves h.replays hleaves hstart (List.mem_of_mem_filter hmem)
  · exact Or.inr ⟨before, i, after, hlog, hafter, h.cursorCovers hmode hlog⟩

/-- A backfill of block 20 moves the cursor to it before the live loop begins its first scan. -/
def sampleJump : Joint (Option (Fin 1)) :=
  [(none, ⟨.cursor 7, .ok 7⟩), (some 0, ⟨.isCancelled, false⟩), (some 0, ⟨.block 20, .ok none⟩),
    (some 0, ⟨.moveCursor 20, .ok ()⟩)]

/-- Then the live loop scans blocks 7 and 8. -/
def sampleReturn : Joint (Option (Fin 1)) :=
  sampleJump ++ [(none, ⟨.isCancelled, false⟩), (none, ⟨.publish .polling, ()⟩),
    (none, ⟨.latestBlock, .ok 8⟩), (none, ⟨.isCancelled, false⟩), (none, ⟨.block 7, .ok none⟩),
    (none, ⟨.isCancelled, false⟩), (none, ⟨.block 8, .ok none⟩), (none, ⟨.moveCursor 8, .ok ()⟩)]

/-- A backfill of blocks 7 to 9 passes over block 8. -/
def sampleGap : Joint (Option (Fin 1)) :=
  [(none, ⟨.cursor 7, .ok 7⟩), (some 0, ⟨.isCancelled, false⟩), (some 0, ⟨.block 7, .ok none⟩),
    (some 0, ⟨.isCancelled, false⟩), (some 0, ⟨.block 8, .error (.remote "gone")⟩),
    (some 0, ⟨.moveCursor 8, .ok ()⟩), (some 0, ⟨.isCancelled, false⟩),
    (some 0, ⟨.block 9, .ok none⟩), (some 0, ⟨.moveCursor 9, .ok ()⟩)]

/-- Samples are interleavings if they are so after the cursor was read from an empty store. -/
theorem interleaves_of_samples {fill : BackfillRequest} {log : Joint (Option (Fin 1))}
    {p : Watch.Act Turn} {q : Watch.Act (Listing ⊕ Except WatchError ScanReport)} {s' : MemoryStore}
    (hlive : Loop.Logs sampleLive.live (.done (.inl .start))
      (⟨.cursor 7, .ok 7⟩ :: log.of none) p)
    (hfill : Loop.Logs (sampleLive.backfill fill) (.done (.inl (.start fill.range)))
      (log.of (some 0)) q)
    (hreplays : Replays (Watch.Stores "sample") .empty (log.map (·.2)) s') :
    sampleLive.Interleaves [fill] .empty ((none, ⟨.cursor 7, .ok 7⟩) :: log) s' := by
  have hread : Watch.Stores "sample" .empty
      ⟨.cursor 7, .ok (MemoryStore.empty.currentBlock "sample" 7)⟩ .empty := .cursor _ 7
  rw [(Chronicle.nil sampleLedger "sample" 7).cursor] at hread
  refine ⟨?_, .cons hread hreplays⟩
  rintro (_ | ⟨k, hk⟩)
  · exact ⟨p, hlive⟩
  · obtain rfl : k = 0 := Nat.lt_one_iff.mp hk
    exact ⟨q, hfill⟩

/-- The live loop has moved the cursor back to block 8, for what it has done itself. -/
theorem persisted_cursor_sampleReturn :
    ∃ s', sampleLive.mode = .blocks ∧
      sampleLive.Interleaves [⟨⟨20, 20⟩, none, true⟩] .empty sampleReturn s' ∧
      s'.cursorBlock sampleLive.chain = some 8 ∧
      ∃ before after, sampleReturn = before ++ (none, ⟨.moveCursor 8, .ok ()⟩) :: after ∧
        sampleLive.CursorCovers [⟨⟨20, 20⟩, none, true⟩] before 8 none := by
  have hreturn : sampleLive.Interleaves [⟨⟨20, 20⟩, none, true⟩] .empty sampleReturn _ :=
    interleaves_of_samples
      (.round <| .ask <| .round <| .ask <| .ask <| .ask <| .round <| .ask <| .ask <| .ask <|
        .ask <| .ask <| .nil _)
      (.round <| .ask <| .ask <| .ask <| .nil _)
      (.cons (.other _ _ rfl) <| .cons (.other _ _ rfl) <| .cons (.moveCursor _ 20 default) <|
        .cons (.other _ _ rfl) <| .cons (.other _ _ rfl) <| .cons (.other _ _ rfl) <|
        .cons (.other _ _ rfl) <| .cons (.other _ _ rfl) <| .cons (.other _ _ rfl) <|
        .cons (.other _ _ rfl) <| .cons (.moveCursor _ 8 default) <| .nil _)
  have hcursor := MemoryStore.cursorBlock_updateCursor (.updateCursor .empty "sample" 20 default)
    "sample" 8 default
  refine ⟨_, rfl, hreturn, hcursor, ?_⟩
  rcases persisted_cursor sampleLive rfl _ hreturn hcursor with
    ⟨hleaves, -⟩ | ⟨before, i, after, hlog, -, hcovers⟩
  · exact absurd rfl (hleaves (none, ⟨.moveCursor 8, .ok ()⟩) (by simp [sampleReturn]) 8)
  · have hmem : (i, Watch.Request.moveCursor 8) ∈
        sampleReturn.map fun e => (e.1, e.2.request) := by
      rw [hlog]
      simp
    obtain _ | ⟨k, hk⟩ := i
    · exact ⟨before, after, hlog, hcovers⟩
    · obtain rfl : k = 0 := Nat.lt_one_iff.mp hk
      exact absurd hmem (show (some (0 : Fin 1), Watch.Request.moveCursor 8) ∉
        sampleReturn.map fun e => (e.1, e.2.request) by decide)

/-- After these the cursor stands at block 20 and at block 9, and block 8 was never processed,
though the live loop began at block 7. -/
theorem persisted_cursor_leaves_block :
    (∃ s', sampleLive.Interleaves [⟨⟨20, 20⟩, none, true⟩] .empty sampleJump s' ∧
      s'.cursorBlock sampleLive.chain = some 20 ∧
      sampleJump.of none = [⟨.cursor sampleLive.initialBlock, .ok 7⟩] ∧
      ¬sampleJump.Processed 8) ∧
    ∃ s', sampleLive.Interleaves [⟨⟨7, 9⟩, none, true⟩] .empty sampleGap s' ∧
      s'.cursorBlock sampleLive.chain = some 9 ∧
      sampleGap.of none = [⟨.cursor sampleLive.initialBlock, .ok 7⟩] ∧
      ¬sampleGap.Processed 8 := by
  have hjump : sampleLive.Interleaves [⟨⟨20, 20⟩, none, true⟩] .empty sampleJump _ :=
    interleaves_of_samples (.round <| .ask <| .nil _) (.round <| .ask <| .ask <| .ask <| .nil _)
      (.cons (.other _ _ rfl) <| .cons (.other _ _ rfl) <| .cons (.moveCursor _ 20 default) <|
        .nil _)
  have hgap : sampleLive.Interleaves [⟨⟨7, 9⟩, none, true⟩] .empty sampleGap _ :=
    interleaves_of_samples (.round <| .ask <| .nil _)
      (.round <| .ask <| .ask <| .ask <| .ask <| .ask <| .ask <| .ask <| .ask <| .nil _)
      (.cons (.other _ _ rfl) <| .cons (.other _ _ rfl) <| .cons (.other _ _ rfl) <|
        .cons (.other _ _ rfl) <| .cons (.moveCursor _ 8 default) <| .cons (.other _ _ rfl) <|
        .cons (.other _ _ rfl) <| .cons (.moveCursor _ 9 default) <| .nil _)
  refine ⟨⟨_, hjump, MemoryStore.cursorBlock_updateCursor .., rfl, fun h => ?_⟩,
    ⟨_, hgap, MemoryStore.cursorBlock_updateCursor .., rfl, fun h => ?_⟩⟩
  · obtain ⟨_ | ⟨k, hk⟩, hmem⟩ := h.exists_mem
    · exact absurd hmem (show (8 : UInt64) ∉ [] by decide)
    · obtain rfl : k = 0 := Nat.lt_one_iff.mp hk
      exact absurd hmem (show (8 : UInt64) ∉ [20] by decide)
  · obtain ⟨_ | ⟨k, hk⟩, hmem⟩ := h.exists_mem
    · exact absurd hmem (show (8 : UInt64) ∉ [] by decide)
    · obtain rfl : k = 0 := Nat.lt_one_iff.mp hk
      exact absurd hmem (show (8 : UInt64) ∉ [7, 9] by decide)

end Watcher

end RedemptionWatch
