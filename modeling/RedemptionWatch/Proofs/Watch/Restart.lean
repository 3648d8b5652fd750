import RedemptionWatch.Proofs.Watch.CursorSafety
import RedemptionWatch.Proofs.Watch.Ledger

/-!
# Live loops that are started again

A live loop that is started again goes on from its cursor, and so it hands candidates to the store
that the store has already. On a chain with a fixed outcome for every block this changes nothing in
the end (`Watcher.restarts_converge`): however often a live loop was stopped, the stored statuses
are those of one pass over the blocks so far, and once the last run has come as far as the earlier
ones, so are the stored records but for the times at which they were written.

A `Chronicle` says how what was written so far relates to the blocks that were processed and to the
frontier of the last run. An event keeps it (`Chronicle.snoc`), hence a run (`Chronicle.run`), and
so does a new start (`Chronicle.restart`).
-/

namespace RedemptionWatch

/-- The blocks whose candidates were answered, or that there is no such block. -/
def Watch.fetched (log : Log Watch.interface) : List UInt64 :=
  log.filterMap fun
    | ⟨.block number, .ok _⟩ => some number
    | _ => none

/-- The blocks that were fetched, and those that could not be read. -/
def Watch.processed (log : Log Watch.interface) : List UInt64 :=
  log.filterMap fun
    | ⟨.block number, .ok _⟩ => some number
    | ⟨.block number, .error (.decode _)⟩ => some number
    | _ => none

theorem Watch.processed_append (log log' : Log Watch.interface) :
    Watch.processed (log ++ log') = Watch.processed log ++ Watch.processed log' :=
  List.filterMap_append

theorem Watch.fetched_append (log log' : Log Watch.interface) :
    Watch.fetched (log ++ log') = Watch.fetched log ++ Watch.fetched log' :=
  List.filterMap_append

/-- What a live loop asks of its surroundings is answered by the chain of the ledger and by a store
in memory whose writes succeed. Blocks may fail for a while, and the head of the chain may be
anything. -/
inductive Serves (l : Ledger) (chain : String) :
    MemoryStore → Event Watch.interface → MemoryStore → Prop where
  | cursor (s : MemoryStore) (fallback : UInt64) :
      Serves l chain s ⟨.cursor fallback, .ok (s.currentBlock chain fallback)⟩ s
  | latestBlock (s : MemoryStore) (answer : Except FetchError UInt64) :
      Serves l chain s ⟨.latestBlock, answer⟩ s
  | block (s : MemoryStore) (number : UInt64)
      (answer : Except FetchError (Option (List Candidate))) (h : l.Answers number answer) :
      Serves l chain s ⟨.block number, answer⟩ s
  | record (s : MemoryStore) (c : Candidate) (now : Timestamp) :
      Serves l chain s ⟨.record c, .ok (s.upsert (c.at now)).1⟩ (s.upsert (c.at now)).2
  | moveCursor (s : MemoryStore) (block : UInt64) (now : Timestamp) :
      Serves l chain s ⟨.moveCursor block, .ok ()⟩ (s.updateCursor chain block now)
  | pause (s : MemoryStore) (millis : Nat) (pauseEnd : PauseEnd) :
      Serves l chain s ⟨.pause millis, pauseEnd⟩ s
  | isCancelled (s : MemoryStore) (answer : Bool) : Serves l chain s ⟨.isCancelled, answer⟩ s
  | publish (s : MemoryStore) (state : WatchState) : Serves l chain s ⟨.publish state, ()⟩ s

/-- Every request may be answered. -/
def Watch.Request.someAnswer : (q : Watch.Request) → q.Answer
  | .cursor fallback => .ok fallback
  | .latestBlock => .error .cancelled
  | .block _ => .error .cancelled
  | .activity _ _ => .error .cancelled
  | .record _ => .ok .written
  | .moveCursor _ => .ok ()
  | .pause _ => .elapsed
  | .isCancelled => false
  | .publish _ => ()

/-- No candidate of a block is left to be recorded next. -/
def Plan.AtRest {α : Type} (p : Watch.Act α) : Prop :=
  ∀ c next, p ≠ .ask (P := Watch.interface) (.record c) next

/-- Runs of a live loop one after the other, from stores that are empty: all that was asked and
answered, and the store at the end. Each run may stop at any time between the records of two
blocks. -/
inductive Watcher.Runs (w : Watcher) (l : Ledger) : Log Watch.interface → MemoryStore → Prop where
  | nil : Runs w l [] .empty
  | snoc {past log : Log Watch.interface} {s s' : MemoryStore} {p : Watch.Act Turn}
      (earlier : Runs w l past s) (h : Loop.Logs w.live (.done (.inl .start)) log p)
      (hrest : p.AtRest) (hserves : Replays (Serves l w.chain) s log s') :
      Runs w l (past ++ log) s'

/-! ## Chronicles -/

theorem MemoryStore.currentBlock_upsert (s : MemoryStore) (r : Record) (chain : String)
    (fallback : UInt64) :
    (s.upsert r).2.currentBlock chain fallback = s.currentBlock chain fallback := by
  rw [snd_upsert]
  split_ifs <;> rfl

theorem MemoryStore.currentBlock_updateCursor (s : MemoryStore) (chain : String)
    (block fallback : UInt64) (now : Timestamp) :
    (s.updateCursor chain block now).currentBlock chain fallback = block := by
  simp [updateCursor, currentBlock, cursor?]

/-- How what was written relates to the blocks that earlier runs and this one have processed: these
are the blocks from `start` on and before `bound`, of which this run has come to its frontier. -/
structure Chronicle (l : Ledger) (chain : String) (start : UInt64)
    (past log : Log Watch.interface) (written : List Candidate) (bound : Nat) (s : MemoryStore)
    (f : Frontier) : Prop where
  covered : l.Covered start.toNat f.next bound (written ++ f.pending)
  holds : s.Holds written
  cursor : s.currentBlock chain start = f.cursor
  start_le : start ≤ f.cursor
  cursor_le : f.cursor.toNat ≤ f.next
  bound_le : bound ≤ 2 ^ 64
  mem_processed : ∀ b, b ∈ Watch.processed (past ++ log) ↔ start ≤ b ∧ b.toNat < bound
  fetched_or : ∀ b ∈ Watch.processed (past ++ log),
    b ∈ Watch.fetched (past ++ log) ∨ l.candidates b = []
  latest : ∀ b ∈ Watch.processed log, b.toNat < f.next

namespace Chronicle

variable {l : Ledger} {chain : String} {start : UInt64} {past log rest : Log Watch.interface}
variable {written : List Candidate} {bound : Nat} {s s' : MemoryStore} {f g : Frontier}
variable {e : Event Watch.interface}

theorem nil (l : Ledger) (chain : String) (start : UInt64) :
    Chronicle l chain start [] [] [] start.toNat .empty (Frontier.start start) where
  covered := .nil l start.toNat
  holds := .empty
  cursor := by
    simp [MemoryStore.currentBlock, MemoryStore.cursor?, MemoryStore.empty, Frontier.start]
  start_le := UInt64.le_refl start
  cursor_le := le_rfl
  bound_le := start.toNat_lt.le
  mem_processed b := by
    constructor
    · intro hb
      exact absurd hb List.not_mem_nil
    · rintro ⟨hle, hlt⟩
      exact absurd (UInt64.le_iff_toNat_le.mp hle) (Nat.not_le.mpr hlt)
  fetched_or _ hb := absurd hb List.not_mem_nil
  latest _ hb := absurd hb List.not_mem_nil

/-- An event that ends no block leaves the chronicle. -/
theorem idle (h : Chronicle l chain start past log written bound s f)
    (hprocessed : Watch.processed [e] = []) (hfetched : Watch.fetched [e] = []) :
    Chronicle l chain start past (log ++ [e]) written bound s f := by
  have hp : Watch.processed (past ++ (log ++ [e])) = Watch.processed (past ++ log) := by
    rw [← List.append_assoc, Watch.processed_append, hprocessed, List.append_nil]
  have hf : Watch.fetched (past ++ (log ++ [e])) = Watch.fetched (past ++ log) := by
    rw [← List.append_assoc, Watch.fetched_append, hfetched, List.append_nil]
  refine { h with mem_processed := ?_, fetched_or := ?_, latest := ?_ }
  · rw [hp]
    exact h.mem_processed
  · rw [hp, hf]
    exact h.fetched_or
  · rw [Watch.processed_append, hprocessed, List.append_nil]
    exact h.latest

theorem of_eq (h : Chronicle l chain start past log written bound s f) (hnext : g.next = f.next)
    (hpending : g.pending = f.pending) (hcursor : g.cursor = f.cursor) :
    Chronicle l chain start past log written bound s g where
  covered := by
    rw [hnext, hpending]
    exact h.covered
  holds := h.holds
  cursor := h.cursor.trans hcursor.symm
  start_le := hcursor ▸ h.start_le
  cursor_le := by
    rw [hcursor, hnext]
    exact h.cursor_le
  bound_le := h.bound_le
  mem_processed := h.mem_processed
  fetched_or := h.fetched_or
  latest := hnext ▸ h.latest

/-- A block that is fetched, or cannot be read, leaves its candidates to be written. -/
theorem done (h : Chronicle l chain start past log written bound s f) (hp : f.pending = [])
    {number : UInt64} (hcursor : f.cursor ≤ number) (hborders : f.Borders number)
    (hprocessed : Watch.processed [e] = [number])
    (hfetched : Watch.fetched [e] = [number] ∨ l.candidates number = [])
    (hnext : g.next = number.toNat + 1) (hpending : g.pending = l.candidates number)
    (hgcursor : g.cursor = f.cursor) :
    Chronicle l chain start past (log ++ [e]) written (max bound (number.toNat + 1)) s g := by
  have hstart := UInt64.le_iff_toNat_le.mp (UInt64.le_trans h.start_le hcursor)
  have hbound := h.covered.next_le
  have hnumber : number.toNat ≤ f.next := by
    rcases hborders with ⟨heq, -⟩ | heq <;> omega
  have hcovered := h.covered.done hstart hnumber
  rw [hp, List.append_nil] at hcovered
  have hmem : Watch.processed (past ++ (log ++ [e])) =
      Watch.processed (past ++ log) ++ [number] := by
    rw [← List.append_assoc, Watch.processed_append, hprocessed]
  refine ⟨by rwa [hnext, hpending], h.holds, h.cursor.trans hgcursor.symm, hgcursor ▸ h.start_le,
    ?_, max_le h.bound_le number.toNat_lt, fun b => ?_, fun b hb => ?_, fun b hb => ?_⟩
  · rw [hgcursor, hnext]
    exact Nat.le_succ_of_le (UInt64.le_iff_toNat_le.mp hcursor)
  · rw [hmem, List.mem_append, List.mem_singleton, h.mem_processed, UInt64.le_iff_toNat_le]
    constructor
    · rintro (⟨hle, hlt⟩ | rfl)
      · exact ⟨hle, by omega⟩
      · exact ⟨hstart, by omega⟩
    · rintro ⟨hle, hlt⟩
      by_cases hb : b.toNat < bound
      · exact Or.inl ⟨hle, hb⟩
      · exact Or.inr (UInt64.toNat_inj.mp (by omega))
  · rw [← List.append_assoc, Watch.fetched_append, List.mem_append]
    rw [hmem, List.mem_append, List.mem_singleton] at hb
    rcases hb with hb | rfl
    · exact (h.fetched_or b hb).imp_left Or.inl
    · refine hfetched.imp_left fun hfetched => Or.inr ?_
      rw [hfetched]
      exact List.mem_singleton_self b
  · rw [Watch.processed_append, hprocessed, List.mem_append, List.mem_singleton] at hb
    rw [hnext]
    rcases hb with hb | rfl
    · have := h.latest b hb
      rcases hborders with ⟨heq, -⟩ | heq <;> omega
    · exact Nat.lt_succ_self _

/-- An event keeps the chronicle. -/
theorem snoc (h : Chronicle l chain start past log written bound s f) (hm : f.Moves e g)
    (hserves : Serves l chain s e s') :
    ∃ written' bound', Chronicle l chain start past (log ++ [e]) written' bound' s' g := by
  cases hm with
  | block number answer hp hcursor hborders =>
    cases hserves with
    | block _ _ hanswer =>
      cases answer with
      | ok found =>
        have hcandidates := Ledger.candidates_of_ok hanswer
        exact ⟨_, _, h.done hp hcursor hborders rfl (Or.inl rfl) rfl hcandidates.symm rfl⟩
      | error reason =>
        cases reason with
        | decode reason =>
          have hcandidates := Ledger.candidates_of_decode hanswer
          exact ⟨_, _, h.done hp hcursor hborders rfl (Or.inr hcandidates) rfl
            (hp.trans hcandidates.symm) rfl⟩
        | throttled reason => exact ⟨_, _, (h.idle rfl rfl).of_eq rfl rfl rfl⟩
        | remote reason => exact ⟨_, _, (h.idle rfl rfl).of_eq rfl rfl rfl⟩
        | cancelled => exact ⟨_, _, (h.idle rfl rfl).of_eq rfl rfl rfl⟩
  | record c rest outcome hpending =>
    cases hserves with
    | record _ now =>
      have h := h.idle (e := ⟨.record c, .ok (s.upsert (c.at now)).1⟩) rfl rfl
      have hcovered := h.covered
      rw [hpending, List.append_cons] at hcovered
      exact ⟨_, _, hcovered, h.holds.upsert c now, (s.currentBlock_upsert _ _ _).trans h.cursor,
        h.start_le, h.cursor_le, h.bound_le, h.mem_processed, h.fetched_or, h.latest⟩
  | moveCursor block result hp hcommits =>
    cases hserves with
    | moveCursor _ now =>
      have h := h.idle (e := ⟨.moveCursor block, .ok ()⟩) rfl rfl
      obtain ⟨-, hnext, hcursor, -⟩ := hcommits
      exact ⟨_, _, h.covered, h.holds.updateCursor chain block now, s.currentBlock_updateCursor ..,
        UInt64.le_trans h.start_le hcursor, (Nat.le_succ _).trans hnext.le, h.bound_le,
        h.mem_processed, h.fetched_or, h.latest⟩
  | latestBlock answer hp =>
    cases hserves
    cases answer with
    | ok head => exact ⟨_, _, (h.idle rfl rfl).of_eq rfl rfl rfl⟩
    | error reason => exact ⟨_, _, h.idle rfl rfl⟩
  | pause millis pauseEnd hp =>
    cases hserves
    exact ⟨_, _, h.idle rfl rfl⟩
  | isCancelled answer hp =>
    cases hserves
    exact ⟨_, _, h.idle rfl rfl⟩
  | publish state hp =>
    cases hserves
    exact ⟨_, _, h.idle rfl rfl⟩

/-- A run keeps the chronicle. -/
theorem run (h : Chronicle l chain start past log written bound s f)
    (hf : rest.foldlM Frontier.step f = some g) (hserves : Replays (Serves l chain) s rest s') :
    ∃ written' bound', Chronicle l chain start past (log ++ rest) written' bound' s' g := by
  induction hserves generalizing log written bound f with
  | nil =>
    cases hf
    rw [List.append_nil]
    exact ⟨written, bound, h⟩
  | @cons s m s' e rest first _ ih =>
    rw [List.foldlM_cons] at hf
    obtain ⟨n, hn, hf⟩ := Option.bind_eq_some_iff.mp hf
    obtain ⟨written', bound', h'⟩ := h.snoc (Frontier.moves_of_step hn) first
    rw [← List.singleton_append, ← List.append_assoc]
    exact ih h' hf

/-- A new start keeps the chronicle. -/
theorem restart (h : Chronicle l chain start past log written bound s f) (hp : f.pending = []) :
    Chronicle l chain start (past ++ log) [] written bound s (Frontier.start f.cursor) where
  covered := by
    have hcovered := h.covered.back h.cursor_le
    rw [hp] at hcovered
    exact hcovered
  holds := h.holds
  cursor := h.cursor
  start_le := h.start_le
  cursor_le := le_rfl
  bound_le := h.bound_le
  mem_processed := by
    rw [List.append_nil]
    exact h.mem_processed
  fetched_or := by
    rw [List.append_nil]
    exact h.fetched_or
  latest _ hb := absurd hb List.not_mem_nil

end Chronicle

/-! ## Runs -/

namespace Watcher

variable {w : Watcher} {l : Ledger} {past log : Log Watch.interface} {s s' : MemoryStore}
variable {p : Watch.Act Turn}

/-- At rest no candidate of the frontier is pending. -/
theorem pending_of_atRest {f : Frontier} (h : p.Obeys Frontier.step Frontier.AfterRound f)
    (hrest : p.AtRest) : f.pending = [] := by
  cases p with
  | done turn =>
    rcases turn with (_ | position | ⟨position, listing⟩ | reason) | result
    · exact h.elim
    · exact h.pending
    · exact h.1.pending
    · exact h
    · exact h
  | ask q next =>
    obtain ⟨g, hg, -⟩ := h (Watch.Request.someAnswer q)
    refine (Frontier.moves_of_step hg).pending_eq_nil fun c hc => ?_
    cases hc
    exact hrest c next rfl

/-- One more run keeps the chronicle. -/
theorem chronicle_of_logs (hmode : w.mode = .blocks) {written : List Candidate} {bound : Nat}
    {start : UInt64}
    (h : Chronicle l w.chain w.initialBlock past [] written bound s (Frontier.start start))
    (hlog : Loop.Logs w.live (.done (.inl .start)) log p) (hrest : p.AtRest)
    (hserves : Replays (Serves l w.chain) s log s') :
    ∃ written' bound' f, f.pending = [] ∧
      Chronicle l w.chain w.initialBlock past log written' bound' s' f := by
  rcases live_accepted w hmode hlog with
    rfl | ⟨reason, rest, rfl, -⟩ | ⟨start', rest, f, rfl, hf, hp⟩
  · cases hserves
    exact ⟨written, bound, _, rfl, h⟩
  · cases hserves with
    | cons first => exact nomatch first
  · cases hserves with
    | cons first hserves =>
      cases first
      rw [h.cursor] at hf
      have h' := h.idle (e := ⟨.cursor w.initialBlock, .ok (s.currentBlock w.chain w.initialBlock)⟩)
        rfl rfl
      obtain ⟨written', bound', h''⟩ := h'.run hf hserves
      exact ⟨written', bound', f, pending_of_atRest hp hrest, h''⟩

/-- Any number of runs have a chronicle, from which the next run may start. -/
theorem Runs.chronicle (hmode : w.mode = .blocks) (h : w.Runs l past s) :
    ∃ written bound start, Chronicle l w.chain w.initialBlock past [] written bound s
      (Frontier.start start) := by
  induction h with
  | nil => exact ⟨_, _, _, .nil l w.chain w.initialBlock⟩
  | snoc _ hlog hrest hserves ih =>
    obtain ⟨written, bound, start, h⟩ := ih
    obtain ⟨written', bound', f, hp, h'⟩ := chronicle_of_logs hmode h hlog hrest hserves
    exact ⟨written', bound', f.cursor, h'.restart hp⟩

/-- **Starting again converges.** Let every block of a chain have a fixed outcome, and let a live
loop run any number of times on stores that were empty at first, each time from its cursor. Let `m`
be the highest block processed so far, in any run, and `rs` the candidates of all blocks up to `m`,
each once and in the order of the blocks. Then the stored statuses are those that writing `rs`
leaves, and once the last run has processed `m` as well, so are the stored candidates. -/
theorem restarts_converge (w : Watcher) (hmode : w.mode = .blocks) (l : Ledger)
    (hpast : w.Runs l past s) (hlog : Loop.Logs w.live (.done (.inl .start)) log p)
    (hrest : p.AtRest) (hserves : Replays (Serves l w.chain) s log s') {m : UInt64}
    (hm : m ∈ Watch.processed (past ++ log)) (hmax : ∀ b ∈ Watch.fetched (past ++ log), b ≤ m)
    {rs : List Record}
    (hrs : rs.map (·.toCandidate) = l.between w.initialBlock.toNat (m.toNat + 1)) :
    (∀ id, s'.status? id = (MemoryStore.empty.upsertAll rs).status? id) ∧
    (m ∈ Watch.processed log → ∀ id, (s'.get? id).map (·.toCandidate) =
      ((MemoryStore.empty.upsertAll rs).get? id).map (·.toCandidate)) := by
  obtain ⟨written, bound, start, h⟩ := hpast.chronicle hmode
  obtain ⟨written, bound, f, hp, h⟩ := chronicle_of_logs hmode h hlog hrest hserves
  obtain ⟨hstart, hbound⟩ := (h.mem_processed m).mp hm
  have hle := UInt64.le_iff_toNat_le.mp hstart
  have hcovered := h.covered
  rw [hp, List.append_nil] at hcovered
  have hempty : ∀ k, m.toNat + 1 ≤ k → l.between k bound = [] := by
    intro k hk
    refine Ledger.between_eq_nil h.bound_le fun b hb hlt => ?_
    have hb' : w.initialBlock ≤ b := UInt64.le_iff_toNat_le.mpr (by omega)
    refine (h.fetched_or b ((h.mem_processed b).mpr ⟨hb', hlt⟩)).resolve_left fun hfetched => ?_
    have := UInt64.le_iff_toNat_le.mp (hmax b hfetched)
    omega
  have hall : l.between w.initialBlock.toNat bound = rs.map (·.toCandidate) := by
    rw [hrs, ← Ledger.between_append (by omega) hbound, hempty _ le_rfl, List.append_nil]
  have hrefs := MemoryStore.Holds.upsertAll_empty rs
  refine ⟨h.holds.status?_congr hrefs fun c => ?_, fun hlatest => h.holds.congr hrefs ?_⟩
  · rw [hcovered.mem, hall]
  · have hnext := h.latest m hlatest
    have hbest := hcovered.sameBest f.next (by omega) le_rfl
    rw [hempty f.next hnext, List.append_nil, hall] at hbest
    exact hbest

/-- A redemption in block 7. -/
def sampleCandidate : Candidate :=
  { (default : Candidate) with blockNumber := 7 }

/-- A chain with a redemption in block 7, a block 8 that cannot be read, and no other block. -/
def sampleLedger : Ledger := fun b =>
  if b = 7 then .ok (some [sampleCandidate]) else if b = 8 then .error "no block" else .ok none

/-- A run from block 7 on, until it is stopped after `rest`. -/
def sampleRun (s : MemoryStore) (rest : Log Watch.interface) : Log Watch.interface :=
  [⟨.cursor 7, .ok 7⟩, ⟨.isCancelled, false⟩, ⟨.publish .polling, ()⟩, ⟨.latestBlock, .ok 8⟩,
    ⟨.isCancelled, false⟩, ⟨.block 7, .ok (some [sampleCandidate])⟩,
    ⟨.record sampleCandidate, .ok (s.upsert (sampleCandidate.at default)).1⟩] ++ rest ++
    [⟨.isCancelled, true⟩, ⟨.publish .closed, ()⟩]

/-- What the first run leaves. -/
def sampleStore : MemoryStore :=
  (MemoryStore.empty.upsert (sampleCandidate.at default)).2

/-- Block 8 is done after block 7. -/
def sampleRest : Log Watch.interface :=
  [⟨.isCancelled, false⟩, ⟨.block 8, .error (.decode "no block")⟩, ⟨.moveCursor 8, .ok ()⟩]

theorem replays_sampleRun {rest : Log Watch.interface} (hcursor : s.currentBlock "sample" 7 = 7)
    (h : Replays (Serves sampleLedger "sample") (s.upsert (sampleCandidate.at default)).2 rest s') :
    Replays (Serves sampleLedger "sample") s (sampleRun s rest) s' := by
  have hfirst : Serves sampleLedger "sample" s ⟨.cursor 7, .ok 7⟩ s := by
    have hserves : Serves sampleLedger "sample" s
        ⟨.cursor 7, .ok (s.currentBlock "sample" 7)⟩ s := .cursor s 7
    rwa [hcursor] at hserves
  have hstart := Replays.cons hfirst <| .cons (.isCancelled s false) <|
    .cons (.publish s .polling) <| .cons (.latestBlock s (.ok 8)) <| .cons (.isCancelled s false) <|
    .cons (.block s 7 (.ok (some [sampleCandidate])) rfl) <|
    .cons (.record s sampleCandidate default) <| .nil _
  exact (hstart.append h).append <| .cons (.isCancelled s' true) <| .cons (.publish s' .closed) <|
    .nil _

/-- A live loop is cancelled after block 7, and the next one does blocks 7 and 8. -/
theorem restarts_converge_sampleLedger :
    ∃ past s log s', sampleLive.mode = .blocks ∧ sampleLive.Runs sampleLedger past s ∧
      Loop.Logs sampleLive.live (.done (.inl .start)) log (.done (.inr (.ok ()))) ∧
      Replays (Serves sampleLedger sampleLive.chain) s log s' ∧ 8 ∈ Watch.processed log ∧
      ∀ id, (s'.get? id).map (·.toCandidate) =
        ((MemoryStore.empty.upsertAll [sampleCandidate.at default]).get? id).map
          (·.toCandidate) := by
  have hcursor : MemoryStore.empty.currentBlock "sample" 7 = 7 :=
    (Chronicle.nil sampleLedger "sample" 7).cursor
  have hcursor' := (MemoryStore.currentBlock_upsert .empty (sampleCandidate.at default) "sample"
    7).trans hcursor
  have hrest : (Plan.done (P := Watch.interface) (.inr (.ok ())) : Watch.Act Turn).AtRest :=
    fun _ _ h => nomatch h
  have hlog : Loop.Logs sampleLive.live (.done (.inl .start)) (sampleRun .empty []) _ :=
    .round <| .ask <| .round <| .ask <| .ask <| .ask <| .round <| .ask <| .ask <| .ask <| .ask <|
      .ask <| .nil _
  have hruns : sampleLive.Runs sampleLedger ([] ++ sampleRun .empty []) _ :=
    .snoc .nil hlog hrest (replays_sampleRun hcursor (.nil _))
  have hlog' : Loop.Logs sampleLive.live (.done (.inl .start))
      (sampleRun sampleStore sampleRest) _ :=
    .round <| .ask <| .round <| .ask <| .ask <| .ask <| .round <| .ask <| .ask <| .ask <| .ask <|
      .ask <| .ask <| .round <| .ask <| .ask <| .nil _
  have hserves := replays_sampleRun hcursor' <| .cons (.isCancelled sampleStore false) <|
    .cons (.block _ 8 (.error (.decode "no block")) rfl) <| .cons (.moveCursor _ 8 default) <|
    .nil _
  have hlatest : (8 : UInt64) ∈ [7, 8] := by decide
  have hall : (8 : UInt64) ∈ [7, 7, 8] := by decide
  have hmax : ∀ b ∈ ([7, 7] : List UInt64), b ≤ 8 := by simp
  have hrs : [sampleCandidate.at default].map (·.toCandidate) = sampleLedger.between 7 9 := rfl
  have hsame :=
    restarts_converge sampleLive rfl sampleLedger hruns hlog' hrest hserves hall hmax hrs
  exact ⟨_, _, _, _, rfl, hruns, hlog', hserves, hlatest, hsame.2 hlatest⟩

end Watcher

end RedemptionWatch
