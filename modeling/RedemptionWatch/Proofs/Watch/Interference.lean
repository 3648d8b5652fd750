import Mathlib.Data.List.Nodup
import RedemptionWatch.Proofs.Config.Loading
import RedemptionWatch.Proofs.Watch.Backfill
import RedemptionWatch.Proofs.Watch.Indifference

/-!
# Watchers do not interfere

A service runs the live loops of watchers of different chains, as a configuration has them
(`Roster.ofConfig`), and next to them backfills that leave the cursors alone. All of them take turns
on one store, one request at a time, and each is answered by surroundings of its own for what does
not concern the store: its endpoint, the time it waits for, and whether it is cancelled. So what an
endpoint answers to one task does not depend on what others ask, but it may change over time, and
the surroundings may keep a log.

A task goes by what it sees of the surroundings (`Roster.Screens`) and by the cursor of its chain
(`Roster.viewAmid`). No other task changes these: a backfill of the roster does not use the cursor,
and the live loops use different ones, as chain names are unique (`Roster.chain_ne`). The rest of
the store a task does not look at (`Task.loop_alike`). So it does among others what it does alone,
and as all tasks together record the same candidates in any order, the stored statuses are the same
(`Roster.Screens.apart`).

`Roster.noninterference` says so of tasks with surroundings of their own. All tasks of a chain may
also share one endpoint, if it answers by what it is asked alone (`Roster.endpoints_may_be_shared`).
-/

namespace RedemptionWatch

open Watch (Surroundings Shared)

/-! ## Tasks -/

/-- What a service runs: the live loop of a watcher, or a backfill. -/
inductive Task where
  | live (w : Watcher)
  | backfill (w : Watcher) (r : BackfillRequest)

namespace Task

/-- The watcher of a task. -/
def watcher : Task → Watcher
  | live w => w
  | backfill w _ => w

/-- May the task use the cursor of its chain? -/
def usesCursor : Task → Bool
  | live _ => true
  | backfill _ r => r.persist

/-- The states of a task between two rounds. -/
def State : Task → Type
  | live _ => Watcher.Stage
  | backfill _ _ => Listing

/-- What a task comes to. -/
def Result : Task → Type
  | live _ => Except WatchError Unit
  | backfill _ _ => Except WatchError ScanReport

/-- The rounds of a task. -/
def loop : (t : Task) → Loop Watch.interface t.State t.Result
  | live w => w.live
  | backfill w r => w.backfill r

/-- Where a task begins. -/
def begin : (t : Task) → t.State
  | live _ => .start
  | backfill _ r => .start r.range

/-- States that differ in counts of records alone. -/
def Like : (t : Task) → t.State → t.State → Prop
  | live _ => Watcher.Stage.Like
  | backfill _ _ => Listing.Like

theorem like_begin (t : Task) : t.Like t.begin t.begin := by
  cases t with
  | live w => exact .start
  | backfill w r => exact ⟨_, .refl _, rfl⟩

theorem loop_alike (t : Task) {x y : t.State} (h : t.Like x y) :
    Watch.Alike t.usesCursor (Sum.LiftRel t.Like fun _ _ => True) (t.loop x) (t.loop y) := by
  cases t with
  | live w =>
    exact (w.live_alike h).mono fun _ _ h => h.mono (fun _ _ => id) fun _ _ _ => trivial
  | backfill w r =>
    exact (w.backfill_alike r h).mono fun _ _ h => h.mono (fun _ _ => id) fun _ _ _ => trivial

end Task

/-! ## Rosters -/

/-- Watchers of chains with different names, and backfills that leave the cursors alone. -/
structure Roster where
  watchers : List Watcher
  distinct : (watchers.map (·.chain)).Nodup
  backfills : List (Watcher × BackfillRequest)
  plain : ∀ b ∈ backfills, b.2.persist = false

namespace Roster

/-- The watchers of a configuration, with backfills that leave the cursors alone. -/
def ofConfig {text : String} {all : List Settings} (h : Config.load text = .ok all)
    (backfills : List (Watcher × BackfillRequest))
    (plain : ∀ b ∈ backfills, b.2.persist = false) : Roster where
  watchers := all.map Settings.watcher
  distinct := by
    rw [List.map_map]
    exact Config.nodup_load h
  backfills
  plain

/-- The tasks of a roster by their numbers: the live loops of the watchers, and the backfills. -/
abbrev Index (ρ : Roster) :=
  Fin ρ.watchers.length ⊕ Fin ρ.backfills.length

variable (ρ : Roster)

/-- The task with a number. -/
def task : ρ.Index → Task
  | .inl i => .live (ρ.watchers.get i)
  | .inr k => .backfill (ρ.backfills.get k).1 (ρ.backfills.get k).2

/-- The chain of a task. -/
def chain (i : ρ.Index) : String :=
  (ρ.task i).watcher.chain

variable {ρ} {i j : ρ.Index}

theorem usesCursor_backfill (k : Fin ρ.backfills.length) :
    (ρ.task (.inr k)).usesCursor = false :=
  ρ.plain _ (List.get_mem ρ.backfills k)

/-- Two tasks that use cursors use different ones. -/
theorem chain_ne (hne : i ≠ j) (hi : (ρ.task i).usesCursor = true)
    (hj : (ρ.task j).usesCursor = true) : ρ.chain i ≠ ρ.chain j := by
  rcases i with i | k
  · rcases j with j | k
    · intro hchain
      have hwatcher : ρ.watchers.get i = ρ.watchers.get j :=
        List.inj_on_of_nodup_map ρ.distinct (List.get_mem _ i) (List.get_mem _ j) hchain
      have hij : i = j :=
        List.nodup_iff_injective_get.mp (List.Nodup.of_map _ ρ.distinct) hwatcher
      exact hne (congrArg Sum.inl hij)
    · rw [usesCursor_backfill] at hj
      exact nomatch hj
  · rw [usesCursor_backfill] at hi
    exact nomatch hi

/-! ## Runs side by side -/

section

variable {E : Type} {V : ρ.Index → Type}

/-- The task is answered by the store it shares, and for the rest by its part of the surroundings.
-/
def answerAmid (clock : Nat → Timestamp) (sources : ρ.Index → Surroundings E) (i : ρ.Index) :
    Surroundings (Shared E) :=
  Shared.answer (ρ.chain i) clock (sources i)

/-- The tasks and their surroundings after these turns. -/
def runAmid (clock : Nat → Timestamp) (sources : ρ.Index → Surroundings E) (s : Shared E)
    (turns : List ρ.Index) :
    Ensemble Watch.interface (Shared E) (fun i => (ρ.task i).State) (fun i => (ρ.task i).Result) :=
  (Ensemble.start s fun i => (ρ.task i).begin).run (fun i => (ρ.task i).loop)
    (answerAmid clock sources) turns

/-- What a task sees: its part of the surroundings, and the cursor of its chain if it uses one. -/
def viewAmid (see : (i : ρ.Index) → E → V i) (i : ρ.Index) (s : Shared E) : V i × Option UInt64 :=
  (see i s.own, if (ρ.task i).usesCursor then (s.store.cursor? (ρ.chain i)).map (·.block) else none)

/-- A task sees a part of the surroundings. What others ask does not change that part, and what the
task asks is answered by it alone. -/
structure Screens (see : (i : ρ.Index) → E → V i) (sources : ρ.Index → Surroundings E) : Prop where
  other : ∀ i j, i ≠ j → ∀ q e, see i ((sources j q).run e).2 = see i e
  own : ∀ i q e e', see i e = see i e' →
    ((sources i q).run e).1 = ((sources i q).run e').1 ∧
      see i ((sources i q).run e).2 = see i ((sources i q).run e').2

variable (ρ) in
/-- Tasks use the cursors that they may use, and do not go by what is answered to writes. -/
def discipline : Discipline Watch.interface fun i => (ρ.task i).State where
  allowed i := Watch.Permitted (ρ.task i).usesCursor
  same := Watch.Unread
  related i := (ρ.task i).Like
  same_refl _ _ _ := rfl

theorem discipline_governs : ρ.discipline.Governs fun i => (ρ.task i).loop :=
  fun i _ _ h => (ρ.task i).loop_alike h

variable {see : (i : ρ.Index) → E → V i} {sources : ρ.Index → Surroundings E}
  {clock clock' : Nat → Timestamp} {q : Watch.Request} {s t : Shared E}

/-- What other tasks may ask, a task does not see. -/
theorem viewAmid_answer_other (h : Screens see sources) (hne : i ≠ j)
    (hq : Watch.Permitted (ρ.task j).usesCursor q) :
    viewAmid see i ((answerAmid clock sources j q).run s).2 = viewAmid see i s := by
  have hown : see i ((answerAmid clock sources j q).run s).2.own = see i s.own := by
    unfold answerAmid
    rw [Shared.own_answer]
    split_ifs
    · rfl
    · exact h.other i j hne q s.own
  unfold viewAmid
  rw [hown]
  split_ifs with huses
  · unfold answerAmid
    rw [Shared.cursor?_answer q s]
    rintro block rfl
    exact chain_ne hne.symm hq huses
  · rfl

/-- A task that sees the same is answered the same, writes apart. -/
theorem unread_answerAmid (h : Screens see sources) (hq : Watch.Permitted (ρ.task i).usesCursor q)
    (hview : viewAmid see i s = viewAmid see i t) :
    Watch.Unread q ((answerAmid clock sources i q).run s).1
      ((answerAmid clock' sources i q).run t).1 := by
  intro hread
  obtain ⟨hown, hcursor⟩ := Prod.mk.inj hview
  cases q with
  | cursor fallback =>
    have huses : (ρ.task i).usesCursor = true := hq
    rw [if_pos huses, if_pos huses] at hcursor
    change Except.ok (((s.store.cursor? (ρ.chain i)).map (·.block)).getD fallback) =
      Except.ok (((t.store.cursor? (ρ.chain i)).map (·.block)).getD fallback)
    rw [hcursor]
  | record c => exact nomatch hread
  | moveCursor block => rfl
  | _ => exact (h.own i _ s.own t.own hown).1

/-- A task that sees the same still does so after what it asks. -/
theorem viewAmid_answer_self (h : Screens see sources)
    (hview : viewAmid see i s = viewAmid see i t) :
    viewAmid see i ((answerAmid clock sources i q).run s).2 =
      viewAmid see i ((answerAmid clock' sources i q).run t).2 := by
  obtain ⟨hown, hcursor⟩ := Prod.mk.inj hview
  refine Prod.ext ?_ ?_
  · change see i ((answerAmid clock sources i q).run s).2.own =
      see i ((answerAmid clock' sources i q).run t).2.own
    unfold answerAmid
    rw [Shared.own_answer, Shared.own_answer]
    split_ifs
    · exact hown
    · exact (h.own i q s.own t.own hown).2
  · by_cases hmoves : ∃ block, q = .moveCursor block
    · obtain ⟨block, rfl⟩ := hmoves
      change (if _ then ((s.store.updateCursor (ρ.chain i) block _).cursor? _).map _ else none) =
        if _ then ((t.store.updateCursor (ρ.chain i) block _).cursor? _).map _ else none
      rw [MemoryStore.cursor?_updateCursor_self, MemoryStore.cursor?_updateCursor_self]
      rfl
    · have hother : ∀ block, q = .moveCursor block → ρ.chain i ≠ ρ.chain i :=
        fun block h => absurd ⟨block, h⟩ hmoves
      unfold viewAmid answerAmid
      dsimp only
      rw [Shared.cursor?_answer q s hother, Shared.cursor?_answer q t hother]
      exact hcursor

theorem Screens.isolates (h : Screens see sources) (clock clock' : Nat → Timestamp)
    (i : ρ.Index) : ρ.discipline.Isolates (viewAmid see i) (answerAmid clock sources)
      (answerAmid clock' sources) i where
  other _ hne _ hq _ := viewAmid_answer_other h hne hq
  own _ hq _ _ hview := ⟨unread_answerAmid h hq hview, viewAmid_answer_self h hview⟩

theorem kept_runAmid (clock : Nat → Timestamp) (sources : ρ.Index → Surroundings E) (s : Shared E)
    (turns : List ρ.Index) : ρ.discipline.Kept (ρ.runAmid clock sources s turns) :=
  (Discipline.kept_start fun i => (ρ.task i).like_begin).run discipline_governs turns

/-- A task comes to the same among others and alone. -/
theorem Screens.agree (h : Screens see sources) (clock clock' : Nat → Timestamp) (s : Shared E)
    (turns : List ρ.Index) (i : ρ.Index) :
    ρ.discipline.Agree (viewAmid see i) i (ρ.runAmid clock sources s turns)
      (ρ.runAmid clock' sources s (turns.filter (· = i))) :=
  (Discipline.agree_start rfl (ρ.task i).like_begin).run
    (Discipline.kept_start fun i => (ρ.task i).like_begin) discipline_governs
    (h.isolates clock clock' i) turns

/-! ## What the records come to -/

/-- What has been recorded is what the tasks have asked to be recorded. -/
theorem wrote_runAmid (clock : Nat → Timestamp) (sources : ρ.Index → Surroundings E) (s : Shared E)
    (turns : List ρ.Index) :
    s.store.Wrote ((ρ.runAmid clock sources s turns).asked.flatMap fun e => e.2.candidates)
      (ρ.runAmid clock sources s turns).state.store := by
  induction turns using List.reverseRecOn with
  | nil => exact .refl _
  | append_singleton turns j ih =>
    unfold runAmid Ensemble.run at ih ⊢
    rw [List.foldl_append, List.foldl_cons, List.foldl_nil, Ensemble.asked_turn,
      Ensemble.state_turn, List.flatMap_append]
    refine ih.trans ?_
    generalize List.foldl _ _ turns = c
    cases (c.left j).next? with
    | none => exact .refl _
    | some q =>
      rw [Option.map_some, Option.toList_some, List.flatMap_singleton]
      exact Shared.wrote_answer q c.state

/-- Tasks that have asked the same leave the same statuses, in whatever order they did. -/
theorem status?_runAmid {turns turns' : List ρ.Index}
    (h : ∀ i, (ρ.runAmid clock sources s turns).askedBy i =
      (ρ.runAmid clock' sources s turns').askedBy i)
    (id : MessageId) : (ρ.runAmid clock sources s turns).state.store.status? id =
      (ρ.runAmid clock' sources s turns').state.store.status? id := by
  refine (wrote_runAmid clock sources s turns).status?_congr (wrote_runAmid clock' sources s turns')
    ?_ id
  have hasked : ∀ e, e ∈ (ρ.runAmid clock sources s turns).asked ↔
      e ∈ (ρ.runAmid clock' sources s turns').asked := fun e => by
    rw [← Ensemble.mem_askedBy, ← Ensemble.mem_askedBy, h]
  intro c
  simp only [List.mem_flatMap, hasked]

/-- Tasks that are screened from each other do not interfere. -/
theorem Screens.apart (h : Screens see sources) (clock clock' : Nat → Timestamp) (s : Shared E)
    (turns : List ρ.Index) :
    (∀ i,
      let alone := ρ.runAmid clock' sources s (turns.filter (· = i))
      (ρ.runAmid clock sources s turns).askedBy i = alone.askedBy i ∧
        viewAmid see i (ρ.runAmid clock sources s turns).state = viewAmid see i alone.state) ∧
    (∀ k block,
      Watch.Request.moveCursor block ∉ (ρ.runAmid clock sources s turns).askedBy (.inr k)) ∧
    ∀ turns', turns.Perm turns' → ∀ id,
      (ρ.runAmid clock sources s turns).state.store.status? id =
        (ρ.runAmid clock' sources s turns').state.store.status? id := by
  refine ⟨fun i => ?_, fun k block hmem => ?_, fun turns' hperm id => ?_⟩
  · have hagree := h.agree clock clock' s turns i
    exact ⟨hagree.askedBy_eq, hagree.view_eq⟩
  · have huses : (ρ.task (.inr k)).usesCursor = true :=
      (kept_runAmid clock sources s turns).asked _ (Ensemble.mem_askedBy.mp hmem)
    rw [usesCursor_backfill] at huses
    exact nomatch huses
  · refine status?_runAmid (fun i => ?_) id
    rw [(h.agree clock clock' s turns i).askedBy_eq, Ensemble.filter_turns_eq hperm,
      (h.agree clock' clock' s turns' i).askedBy_eq]

end

/-! ## Surroundings of their own -/

variable {E : ρ.Index → Type}

/-- Each task has surroundings of its own. -/
def surroundings (sources : (i : ρ.Index) → Surroundings (E i)) (i : ρ.Index) :
    Surroundings ((i : ρ.Index) → E i) := fun q own =>
  let answered := (sources i q).run (own i)
  (answered.1, Function.update own i answered.2)

/-- The tasks and their surroundings after these turns. -/
def run (clock : Nat → Timestamp) (sources : (i : ρ.Index) → Surroundings (E i))
    (s : Shared ((i : ρ.Index) → E i)) (turns : List ρ.Index) :
    Ensemble Watch.interface (Shared ((i : ρ.Index) → E i)) (fun i => (ρ.task i).State)
      (fun i => (ρ.task i).Result) :=
  ρ.runAmid clock (surroundings sources) s turns

/-- What a task sees: its own surroundings, and the cursor of its chain if it uses one. -/
def view (i : ρ.Index) (s : Shared ((i : ρ.Index) → E i)) : E i × Option UInt64 :=
  viewAmid (fun i own => own i) i s

theorem surroundings_other (sources : (i : ρ.Index) → Surroundings (E i)) (hne : i ≠ j)
    (q : Watch.Request) (own : (i : ρ.Index) → E i) :
    ((surroundings sources j q).run own).2 i = own i :=
  Function.update_of_ne hne _ _

theorem surroundings_own (sources : (i : ρ.Index) → Surroundings (E i)) (q : Watch.Request)
    {own own' : (i : ρ.Index) → E i} (h : own i = own' i) :
    ((surroundings sources i q).run own).1 = ((surroundings sources i q).run own').1 ∧
      ((surroundings sources i q).run own).2 i = ((surroundings sources i q).run own').2 i := by
  change ((sources i q).run (own i)).1 = ((sources i q).run (own' i)).1 ∧
    Function.update own i ((sources i q).run (own i)).2 i =
      Function.update own' i ((sources i q).run (own' i)).2 i
  rw [Function.update_self, Function.update_self, h]
  exact ⟨rfl, rfl⟩

theorem screens_surroundings (sources : (i : ρ.Index) → Surroundings (E i)) :
    Screens (fun i own => own i) (surroundings sources) where
  other _ _ hne q own := surroundings_other sources hne q own
  own _ q _ _ h := surroundings_own sources q h

/-- **Tasks do not interfere.** Watchers of different chains and backfills that leave the cursors
alone take turns on one store, in any order, each with surroundings of its own.
* Every task makes the requests that it makes when it takes its turns alone, from the same store, in
  the same order: what it asks of its endpoint, what it records and how it moves its
  cursor. Its surroundings come to the same as well, and so does the cursor of a live loop.
* The backfills move no cursor.
* If the same tasks take as many turns each in another order, all messages have the same statuses in
  the end.

The times at which the store is written to do not matter for any of this. -/
theorem noninterference (ρ : Roster) {E : ρ.Index → Type} (clock clock' : Nat → Timestamp)
    (sources : (i : ρ.Index) → Surroundings (E i)) (s : Shared ((i : ρ.Index) → E i))
    (turns : List ρ.Index) :
    (∀ i,
      let alone := ρ.run clock' sources s (turns.filter (· = i))
      (ρ.run clock sources s turns).askedBy i = alone.askedBy i ∧
        view i (ρ.run clock sources s turns).state = view i alone.state) ∧
    (∀ k block, Watch.Request.moveCursor block ∉ (ρ.run clock sources s turns).askedBy (.inr k)) ∧
    ∀ turns', turns.Perm turns' → ∀ id,
      (ρ.run clock sources s turns).state.store.status? id =
        (ρ.run clock' sources s turns').state.store.status? id :=
  (screens_surroundings sources).apart clock clock' s turns

/-- A watcher, and a backfill of blocks 7 and 8 of the same chain. -/
def sampleRoster : Roster where
  watchers := [Watcher.sampleLive]
  distinct := by decide
  backfills := [(Watcher.sampleLive, ⟨⟨7, 8⟩, none, false⟩)]
  plain := by decide

/-- The live loop of the sample roster. -/
def sampleLoop : sampleRoster.Index :=
  .inl ⟨0, Nat.one_pos⟩

/-- The backfill of the sample roster. -/
def sampleFill : sampleRoster.Index :=
  .inr ⟨0, Nat.one_pos⟩

/-- Surroundings that have come to block 9. -/
def sampleSource : Surroundings Unit
  | .latestBlock => pure (.ok 9)
  | q => Watcher.surroundingsOf Watcher.sampleLedger q

/-- The sample roster on an empty store. -/
def sampleRun (turns : List sampleRoster.Index) :=
  sampleRoster.run (fun _ => default) (fun _ => sampleSource) ⟨.empty, 0, fun _ => ()⟩ turns

/-- Both scan blocks 7 and 8, one after the other. -/
def sampleTurns : List sampleRoster.Index :=
  List.replicate 14 sampleLoop ++ List.replicate 7 sampleFill

/-- They leave the same statuses if the backfill comes first. -/
theorem noninterference_sampleTurns :
    Watch.Request.moveCursor 8 ∈ (sampleRun sampleTurns).askedBy sampleLoop ∧
    Watch.Request.record Watcher.sampleCandidate ∈ (sampleRun sampleTurns).askedBy sampleFill ∧
    sampleTurns.Perm sampleTurns.reverse ∧
    ∀ id, (sampleRun sampleTurns).state.store.status? id =
      (sampleRun sampleTurns.reverse).state.store.status? id := by
  have hperm : sampleTurns.Perm sampleTurns.reverse := (List.reverse_perm _).symm
  obtain ⟨-, -, hstatus⟩ := noninterference sampleRoster (fun _ => default) (fun _ => default)
    (fun _ => sampleSource) ⟨.empty, 0, fun _ => ()⟩ sampleTurns
  exact ⟨List.mem_of_getElem? (i := 9) rfl, List.mem_of_getElem? (i := 2) rfl, hperm,
    hstatus _ hperm⟩

/-! ## Endpoints that tasks share -/

variable {N : Type}

/-- Does the request concern an endpoint? -/
def asksEndpoint : Watch.Request → Bool
  | .latestBlock | .block _ | .activity _ _ => true
  | _ => false

/-- The task is answered by the endpoint of its chain, which all of its tasks share, and for the
rest by surroundings of its own. -/
def served (endpoint : String → Surroundings N) (sources : (i : ρ.Index) → Surroundings (E i))
    (i : ρ.Index) : Surroundings (((i : ρ.Index) → E i) × N) := fun q e =>
  if asksEndpoint q then
    let answered := (endpoint (ρ.chain i) q).run e.2
    (answered.1, (e.1, answered.2))
  else
    let answered := (surroundings sources i q).run e.1
    (answered.1, (answered.2, e.2))

theorem served_run (endpoint : String → Surroundings N)
    (sources : (i : ρ.Index) → Surroundings (E i)) (q : Watch.interface.Request)
    (e : ((i : ρ.Index) → E i) × N) : (served endpoint sources i q).run e =
      if asksEndpoint q then
        (((endpoint (ρ.chain i) q).run e.2).1, (e.1, ((endpoint (ρ.chain i) q).run e.2).2))
      else
        (((surroundings sources i q).run e.1).1,
          (((surroundings sources i q).run e.1).2, e.2)) :=
  rfl

/-- **Endpoints may be shared.** The live loop of a chain and the backfills of it use one endpoint,
and endpoints may keep one log of all requests. If what they answer does not depend on the log, then
the tasks do not interfere: each makes the requests that it makes alone, and its own surroundings
and the cursor of a live loop come to the same; the backfills move no cursor; and in any order of
the turns all messages have the same statuses in the end. -/
theorem endpoints_may_be_shared (ρ : Roster) {E : ρ.Index → Type} {N : Type}
    (clock clock' : Nat → Timestamp) (endpoint : String → Surroundings N)
    (hstateless : ∀ chain q n n',
      ((endpoint chain q).run n).1 = ((endpoint chain q).run n').1)
    (sources : (i : ρ.Index) → Surroundings (E i)) (s : Shared (((i : ρ.Index) → E i) × N))
    (turns : List ρ.Index) :
    let run (clock : Nat → Timestamp) := ρ.runAmid clock (served endpoint sources) s
    (∀ i,
      let alone := run clock' (turns.filter (· = i))
      (run clock turns).askedBy i = alone.askedBy i ∧
        viewAmid (fun i e => e.1 i) i (run clock turns).state =
          viewAmid (fun i e => e.1 i) i alone.state) ∧
    (∀ k block, Watch.Request.moveCursor block ∉ (run clock turns).askedBy (.inr k)) ∧
    ∀ turns', turns.Perm turns' → ∀ id,
      (run clock turns).state.store.status? id = (run clock' turns').state.store.status? id := by
  have hscreens : Screens (fun i e => e.1 i) (served endpoint sources) := by
    refine ⟨fun i j hne q e => ?_, fun i q e e' h => ?_⟩
    · rw [served_run]
      split_ifs
      · rfl
      · exact surroundings_other sources hne q e.1
    · rw [served_run, served_run]
      split_ifs
      · exact ⟨hstateless _ q e.2 e'.2, h⟩
      · exact surroundings_own sources q h
  exact hscreens.apart clock clock' s turns

end Roster

end RedemptionWatch
