import RedemptionWatch.Proofs.Plan.Log
import RedemptionWatch.Rehearsal.World

/-!
# What the tasks of a world change

A request of a watcher changes only what `World.Asks` names, and so does a task that runs, but for
its own phase. Over time the world keeps its watchers, its sources and the labels of its tasks
(`World.Keeps`), and no tasks go on but those that were going on before (`World.Idles`). New ones
come from `World.start` alone, one for each watcher (`World.start_eq`).
-/

namespace RedemptionWatch.Rehearsal

/-- Is the loop in a pause? -/
def Phase.isAsleep : Phase → Bool
  | .asleep .. => true
  | _ => false

theorem Books.readError_record (b : Books) (c : Candidate) (time : Timestamp) :
    (b.record c time).2.readError = b.readError := by
  unfold Books.record
  split <;> rfl

theorem Books.readError_moveCursor (b : Books) (chain : String) (block : UInt64)
    (time : Timestamp) : (b.moveCursor chain block time).2.readError = b.readError := by
  unfold Books.moveCursor
  split <;> rfl

namespace World

variable {ρ : Type} {w w' w'' : World ρ}

/-! ## What requests change -/

/-- The worlds are the same but for what requests of watchers change: what the sources remember, the
books, and what loops show and count. Whether cursors can be read stays as it is. -/
def Asks (w w' : World ρ) : Prop :=
  ∃ remote books states pauses, books.readError = w.books.readError ∧
    w' = { w with remote, books, states, pauses }

theorem Asks.refl (w : World ρ) : w.Asks w :=
  ⟨_, _, _, _, rfl, rfl⟩

theorem Asks.trans (h : w.Asks w') (h' : w'.Asks w'') : w.Asks w'' := by
  obtain ⟨_, _, _, _, hread, rfl⟩ := h
  obtain ⟨_, _, _, _, hread', rfl⟩ := h'
  exact ⟨_, _, _, _, hread'.trans hread, rfl⟩

theorem asks_answer (i : Nat) (cancelled : Bool) (q : Watch.Request) (w : World ρ) :
    w.Asks (answer i cancelled q w).2 := by
  cases q with
  | record c => exact ⟨_, _, _, _, w.books.readError_record c w.time, rfl⟩
  | moveCursor block =>
    exact ⟨_, _, _, _, w.books.readError_moveCursor (w.chain i) block w.time, rfl⟩
  | cursor _ | latestBlock | block _ | activity _ _ | pause _ | isCancelled | publish _ =>
    exact ⟨_, _, _, _, rfl, rfl⟩

theorem asks_untilPause {α : Type} (i : Nat) (cancelled : Bool) (plan : Watch.Act α) (w : World ρ) :
    w.Asks (untilPause i cancelled plan w).2 := by
  induction plan generalizing w with
  | done a => exact .refl w
  | ask q next ih =>
    rw [untilPause]
    split
    · split
      · exact (asks_answer i cancelled q w).trans (ih _ _)
      · exact .refl w
    · exact (asks_answer i cancelled q w).trans (ih _ _)

theorem asks_runLoop (i : Nat) (watcher : Watcher) (cancelled : Bool) (rounds : Nat)
    (plan : Watch.Act Watcher.Turn) (w : World ρ) :
    w.Asks (runLoop i watcher cancelled rounds plan w).2 := by
  induction rounds generalizing plan w with
  | zero => exact .refl w
  | succ rounds ih =>
    have hplan := asks_untilPause i cancelled plan w
    rw [runLoop]
    generalize untilPause i cancelled plan w = outcome at hplan
    obtain ⟨(stage | result) | ⟨millis, resume⟩, w'⟩ := outcome
    · cases stage with
      | broken reason => exact hplan
      | start | poll | scan => exact hplan.trans (ih _ _)
    · exact hplan
    · refine hplan.trans ⟨_, _, _, _, rfl, rfl⟩

/-! ## Loops that have been cancelled -/

/-- The pauses of a loop that has been cancelled take no time. -/
theorem isLeft_untilPause {α : Type} (i : Nat) (plan : Watch.Act α) (w : World ρ) :
    ((untilPause i true plan w).1).isLeft := by
  induction plan generalizing w with
  | done a => rfl
  | ask q next ih =>
    rw [untilPause]
    split
    · rw [if_pos (Or.inl rfl)]
      exact ih _ _
    · exact ih _ _

theorem isAsleep_runLoop (i : Nat) (watcher : Watcher) (rounds : Nat)
    (plan : Watch.Act Watcher.Turn) (w : World ρ) :
    ((runLoop i watcher true rounds plan w).1).isAsleep = false := by
  induction rounds generalizing plan w with
  | zero => rfl
  | succ rounds ih =>
    have hplan := isLeft_untilPause i plan w
    rw [runLoop]
    generalize untilPause i true plan w = outcome at hplan
    obtain ⟨(stage | result) | ⟨millis, resume⟩, w'⟩ := outcome
    · cases stage with
      | broken reason => rfl
      | start | poll | scan => exact ih _ _
    · rfl
    · exact nomatch hplan

/-- A live loop that was cancelled before it began ends well at once, and changes nothing but the
state that it shows. -/
theorem runLoop_of_cancelled (i : Nat) (watcher : Watcher) (rounds : Nat) {w : World ρ}
    (hread : w.books.readError = none) :
    runLoop i watcher true (rounds + 2) (watcher.live .start) w =
      (.ended (.ok ()), { w with states := w.states.setIfInBounds i .closed }) := by
  have hcursor : w.books.cursor (w.chain i) watcher.initialBlock =
      .ok (w.books.backend.currentBlock (w.chain i) watcher.initialBlock) := by
    rw [Books.cursor, hread]
  obtain ⟨next, hask, hnext⟩ : ∃ next,
      watcher.live .start = .ask (.cursor watcher.initialBlock) next ∧
        ∀ position, next (.ok position) = .done (.inl (.poll position)) :=
    ⟨_, rfl, fun _ => rfl⟩
  have hstart : untilPause i true (watcher.live .start) w =
      (.inl (.inl (.poll (w.books.backend.currentBlock (w.chain i) watcher.initialBlock))), w) := by
    have hrun : untilPause i true (.ask (.cursor watcher.initialBlock) next) w =
        untilPause i true (next (w.books.cursor (w.chain i) watcher.initialBlock)) w := rfl
    rw [hask, hrun, hcursor, hnext]
    rfl
  rw [runLoop, hstart]
  rfl

/-! ## Phases and labels of tasks -/

/-- The phase of a task. -/
def phase? (w : World ρ) (id : Nat) : Option Phase :=
  w.tasks[id]?.map (·.phase)

/-- The watcher of a task, and whether the task has been cancelled. -/
def label? (w : World ρ) (id : Nat) : Option (Nat × Bool) :=
  w.tasks[id]?.map fun t => (t.watcher, t.cancelled)

theorem phase?_setPhase (w : World ρ) (id : Nat) (phase : Phase) (id' : Nat) :
    (w.setPhase id phase).phase? id' =
      if id = id' then (w.phase? id').map fun _ => phase else w.phase? id' := by
  unfold phase? setPhase
  rw [Array.getElem?_modify]
  split
  · simp [Function.comp_def]
  · rfl

theorem tasks_setPhase (w : World ρ) (id : Nat) (phase : Phase) (id' : Nat) :
    (w.setPhase id phase).tasks[id']? =
      if id = id' then w.tasks[id']?.map fun t => { t with phase } else w.tasks[id']? :=
  Array.getElem?_modify

theorem label?_setPhase (w : World ρ) (id : Nat) (phase : Phase) (id' : Nat) :
    (w.setPhase id phase).label? id' = w.label? id' := by
  unfold label? setPhase
  rw [Array.getElem?_modify]
  split
  · simp [Function.comp_def]
  · rfl

theorem isEnded_iff {id : Nat} :
    w.isEnded id = true ↔ ∃ result, w.phase? id = some (.ended result) := by
  unfold isEnded phase?
  rcases w.tasks[id]? with _ | ⟨i, cancelled, _ | _ | _⟩ <;> simp

theorem phase?_of_tasks {id : Nat} {t : Task} (h : w.tasks[id]? = some t) :
    w.phase? id = some t.phase :=
  congrArg (Option.map Task.phase) h

theorem label?_of_tasks {id : Nat} {t : Task} (h : w.tasks[id]? = some t) :
    w.label? id = some (t.watcher, t.cancelled) := by
  rw [label?, h, Option.map_some]

theorem tasks_of_phase? {id : Nat} {phase : Phase} (h : w.phase? id = some phase) :
    ∃ i cancelled, w.tasks[id]? = some ⟨i, cancelled, phase⟩ := by
  obtain ⟨⟨i, cancelled, _⟩, ht, rfl⟩ := Option.map_eq_some_iff.mp h
  exact ⟨i, cancelled, ht⟩

/-! ## What stays -/

/-- What nothing can change: the sources, the watchers, and whether cursors can be read. -/
structure Frame (w w' : World ρ) : Prop where
  sources_eq : w'.sources = w.sources
  watchers_eq : w'.watchers = w.watchers
  readError_eq : w'.books.readError = w.books.readError

theorem Frame.refl (w : World ρ) : w.Frame w :=
  ⟨rfl, rfl, rfl⟩

theorem Frame.trans (h : w.Frame w') (h' : w'.Frame w'') : w.Frame w'' where
  sources_eq := h'.sources_eq.trans h.sources_eq
  watchers_eq := h'.watchers_eq.trans h.watchers_eq
  readError_eq := h'.readError_eq.trans h.readError_eq

/-- What no loop and no time that passes can change: whether the world is closed, and which tasks
there are and have been cancelled. -/
structure Keeps (w w' : World ρ) : Prop extends Frame w w' where
  closed_eq : w'.closed = w.closed
  started_eq : w'.started = w.started
  label?_eq : ∀ id, w'.label? id = w.label? id

theorem Keeps.refl (w : World ρ) : w.Keeps w :=
  ⟨.refl w, rfl, rfl, fun _ => rfl⟩

theorem Keeps.trans (h : w.Keeps w') (h' : w'.Keeps w'') : w.Keeps w'' where
  toFrame := h.toFrame.trans h'.toFrame
  closed_eq := h'.closed_eq.trans h.closed_eq
  started_eq := h'.started_eq.trans h.started_eq
  label?_eq id := (h'.label?_eq id).trans (h.label?_eq id)

theorem Asks.keeps (h : w.Asks w') : w.Keeps w' := by
  obtain ⟨_, _, _, _, hread, rfl⟩ := h
  exact ⟨⟨rfl, rfl, hread⟩, rfl, rfl, fun _ => rfl⟩

theorem Asks.phase?_eq (h : w.Asks w') (id : Nat) : w'.phase? id = w.phase? id := by
  obtain ⟨_, _, _, _, -, rfl⟩ := h
  rfl

theorem Asks.queue_eq (h : w.Asks w') : w'.queue = w.queue := by
  obtain ⟨_, _, _, _, -, rfl⟩ := h
  rfl

theorem keeps_setPhase (w : World ρ) (id : Nat) (phase : Phase) : w.Keeps (w.setPhase id phase) :=
  ⟨⟨rfl, rfl, rfl⟩, rfl, rfl, w.label?_setPhase id phase⟩

/-! ## Tasks that run -/

/-- A task runs if it is ready and has a watcher. -/
theorem runTask_cases (w : World ρ) (id : Nat) :
    (w.runTask id = w ∧ ∀ i cancelled plan watcher,
      w.tasks[id]? = some ⟨i, cancelled, .ready plan⟩ → w.watchers[i]? ≠ some watcher) ∨
    ∃ i cancelled plan watcher, w.tasks[id]? = some ⟨i, cancelled, .ready plan⟩ ∧
      w.watchers[i]? = some watcher ∧
      w.runTask id = (runLoop i watcher cancelled (w.liveRounds i) plan w).2.setPhase id
        (runLoop i watcher cancelled (w.liveRounds i) plan w).1 := by
  unfold runTask
  split
  · next i cancelled plan htask =>
    split
    · next watcher hwatcher => exact Or.inr ⟨i, cancelled, plan, watcher, htask, hwatcher, rfl⟩
    · next hnone =>
      refine Or.inl ⟨rfl, fun i' cancelled' plan' watcher htask' hwatcher => ?_⟩
      cases htask.symm.trans htask'
      exact nomatch hnone.symm.trans hwatcher
  · next hother =>
    exact Or.inl ⟨rfl, fun i cancelled plan _ htask _ => hother i cancelled plan htask⟩

theorem keeps_runTask (w : World ρ) (id : Nat) : w.Keeps (w.runTask id) := by
  rcases w.runTask_cases id with ⟨hsame, -⟩ | ⟨i, cancelled, plan, watcher, -, -, hruns⟩
  · rw [hsame]
    exact .refl w
  · rw [hruns]
    exact (asks_runLoop i watcher cancelled _ plan w).keeps.trans (keeps_setPhase _ _ _)

theorem queue_runTask (w : World ρ) (id : Nat) : (w.runTask id).queue = w.queue := by
  rcases w.runTask_cases id with ⟨hsame, -⟩ | ⟨i, cancelled, plan, watcher, -, -, hruns⟩
  · rw [hsame]
  · rw [hruns]
    exact (asks_runLoop i watcher cancelled _ plan w).queue_eq

/-! ## Which tasks may go on -/

/-- Only these tasks may go on: those that are asleep, and those that are waiting to run and have
not ended. -/
structure Confined (ids waiting : List Nat) (w : World ρ) : Prop where
  asleep : ∀ id phase, w.phase? id = some phase → phase.isAsleep = true → id ∈ ids
  ready : ∀ id ∈ waiting, id ∈ ids ∨ w.isEnded id = true

variable {ids waiting : List Nat}

theorem Confined.of_phase?_eq (h : w.Confined ids waiting)
    (heq : ∀ id, w'.phase? id = w.phase? id) : w'.Confined ids waiting where
  asleep id phase hphase := h.asleep id phase (heq id ▸ hphase)
  ready id hid := (h.ready id hid).imp_right fun hended => by
    rw [isEnded_iff] at hended ⊢
    rwa [heq]

/-- One of these tasks gets another phase, unless it has ended. -/
theorem Confined.setPhase (h : w.Confined ids waiting) {id : Nat} (hid : id ∈ ids) {old : Phase}
    (hold : w.phase? id = some old) (hends : ∀ result, old ≠ .ended result) (phase : Phase) :
    (w.setPhase id phase).Confined ids waiting where
  asleep id' phase' hphase hasleep := by
    by_cases heq : id = id'
    · exact heq ▸ hid
    · rw [phase?_setPhase, if_neg heq] at hphase
      exact h.asleep id' phase' hphase hasleep
  ready id' hid' := by
    refine (h.ready id' hid').imp_right fun hended => ?_
    obtain ⟨result, hresult⟩ := isEnded_iff.mp hended
    have hne : id ≠ id' := by
      rintro rfl
      exact hends result (Option.some_inj.mp (hold.symm.trans hresult))
    rw [isEnded_iff, phase?_setPhase, if_neg hne]
    exact ⟨result, hresult⟩

theorem Confined.runTask {id : Nat} (h : w.Confined ids (id :: waiting)) :
    (w.runTask id).Confined ids waiting := by
  have hrest : w.Confined ids waiting := ⟨h.asleep, fun id' hid' => h.ready id' (.tail _ hid')⟩
  rcases w.runTask_cases id with ⟨hsame, -⟩ | ⟨i, cancelled, plan, watcher, htask, -, hruns⟩
  · rwa [hsame]
  · have hready : w.phase? id = some (.ready plan) := phase?_of_tasks htask
    have hid : id ∈ ids := by
      rcases h.ready id List.mem_cons_self with hid | hended
      · exact hid
      · obtain ⟨result, hresult⟩ := isEnded_iff.mp hended
        exact nomatch hready.symm.trans hresult
    have hasks := asks_runLoop i watcher cancelled (w.liveRounds i) plan w
    rw [hruns]
    have hconfined := hrest.of_phase?_eq hasks.phase?_eq
    exact hconfined.setPhase hid ((hasks.phase?_eq id).trans hready) nofun _

/-! ## Time that passes -/

/-- What time that passes may change: it keeps what loops keep, and lets no other tasks go on. -/
structure Idles (w w' : World ρ) : Prop extends Keeps w w' where
  confined : ∀ ids, w.Confined ids w.queue → w'.Confined ids w'.queue

theorem Idles.refl (w : World ρ) : w.Idles w :=
  ⟨.refl w, fun _ h => h⟩

theorem Idles.trans (h : w.Idles w') (h' : w'.Idles w'') : w.Idles w'' :=
  ⟨h.toKeeps.trans h'.toKeeps, fun ids hids => h'.confined ids (h.confined ids hids)⟩

theorem Idles.foldl {α : Type} {step : World ρ → α → World ρ} (h : ∀ w a, Idles w (step w a))
    (as : List α) (w : World ρ) : w.Idles (as.foldl step w) := by
  induction as generalizing w with
  | nil => exact .refl w
  | cons a as ih => exact (h w a).trans (ih _)

theorem Asks.idles (h : w.Asks w') : w.Idles w' :=
  ⟨h.keeps, fun _ hids => h.queue_eq ▸ hids.of_phase?_eq h.phase?_eq⟩

theorem drain_foldl (waiting : List Nat) (w : World ρ) :
    w.Keeps (waiting.foldl runTask w) ∧ (waiting.foldl runTask w).queue = w.queue ∧
      ∀ ids, w.Confined ids waiting → (waiting.foldl runTask w).Confined ids [] := by
  induction waiting generalizing w with
  | nil => exact ⟨.refl w, rfl, fun _ h => h⟩
  | cons id waiting ih =>
    obtain ⟨hkeeps, hqueue, hconfined⟩ := ih (w.runTask id)
    exact ⟨(w.keeps_runTask id).trans hkeeps, hqueue.trans (w.queue_runTask id),
      fun ids h => hconfined ids h.runTask⟩

theorem queue_drain (w : World ρ) : w.drain.queue = [] :=
  (drain_foldl w.queue { w with queue := [] }).2.1

theorem idles_drain (w : World ρ) : w.Idles w.drain := by
  obtain ⟨hkeeps, hqueue, hconfined⟩ := drain_foldl w.queue { w with queue := [] }
  have hcleared : w.Keeps { w with queue := [] } := ⟨⟨rfl, rfl, rfl⟩, rfl, rfl, fun _ => rfl⟩
  refine ⟨hcleared.trans hkeeps, fun ids h => ?_⟩
  rw [queue_drain]
  exact hconfined ids (h.of_phase?_eq fun _ => rfl)

theorem idles_resume (w : World ρ) (id : Nat) (ending : PauseEnd) :
    w.Idles (w.resume id ending) := by
  unfold resume
  split
  · next i cancelled deadline order next htask =>
    have hasleep : w.phase? id = some (.asleep deadline order next) := phase?_of_tasks htask
    refine ⟨(w.keeps_setPhase id _).trans ⟨⟨rfl, rfl, rfl⟩, rfl, rfl, fun _ => rfl⟩,
      fun ids h => ?_⟩
    have hid : id ∈ ids := h.asleep id _ hasleep rfl
    have hset := h.setPhase hid hasleep nofun (.ready (next ending))
    refine ⟨hset.asleep, fun id' hid' => ?_⟩
    rcases List.mem_append.mp hid' with hid' | hid'
    · exact hset.ready id' hid'
    · exact Or.inl (List.mem_singleton.mp hid' ▸ hid)
  · exact .refl w

theorem idles_wake (w : World ρ) (t : Nat) : w.Idles (w.wake t) := by
  have hnow : w.Idles { w with now := t } :=
    ⟨⟨⟨rfl, rfl, rfl⟩, rfl, rfl, fun _ => rfl⟩, fun _ h => h.of_phase?_eq fun _ => rfl⟩
  exact hnow.trans (.foldl (fun w _ => w.idles_resume _ _) _ _)

theorem idles_idleUntil (t steps : Nat) (w : World ρ) : w.Idles (idleUntil t steps w) := by
  induction steps generalizing w with
  | zero => exact w.idles_wake t
  | succ steps ih =>
    rw [idleUntil]
    refine w.idles_drain.trans ?_
    split
    · split
      · exact (idles_wake _ _).trans (ih _)
      · exact idles_wake _ _
    · exact idles_wake _ _

theorem idles_sleep (w : World ρ) (millis : Nat) : w.Idles (w.sleep millis) := by
  unfold sleep
  split
  · exact .refl w
  · exact idles_idleUntil _ _ w

theorem idles_answerCaller (i : Nat) (q : Watch.Request) (w : World ρ) :
    w.Idles (answerCaller i q w).2 := by
  unfold answerCaller
  split
  · split
    · exact .refl w
    · exact w.idles_sleep _
  · exact (asks_answer i w.closed q w).idles

/-- A backfill changes the world by what it asks. -/
theorem idles_backfill (w : World ρ) (chain : String) (r : BackfillRequest) :
    w.Idles (w.backfill chain r).2 := by
  have hreplays {i : Nat} {log : Log Watch.interface} {w w' : World ρ}
      (h : Replays (handles (answerCaller i)) w log w') : w.Idles w' := by
    induction h with
    | nil => exact .refl _
    | @cons w w' _ e _ first _ ih =>
      have hfirst : answerCaller i e.request w = (e.answer, w') := first
      have hidles := idles_answerCaller i e.request w
      rw [hfirst] at hidles
      exact hidles.trans ih
  unfold backfill
  split
  · next i watcher _ _ =>
    obtain ⟨log, -, -, hlog, -⟩ := Loop.logs_of_run (watcher.backfill r) (answerCaller i)
      (w.sources.listingRounds i w.remote) (.start r.range) w
    exact hreplays hlog
  · exact .refl w

/-! ## Loops that begin -/

/-- The tasks with which the live loops of all watchers begin. -/
def beginners (w : World ρ) : List Task :=
  w.watchers.toList.mapIdx fun i watcher => ⟨i, w.closed, .ready (watcher.live .start)⟩

theorem length_beginners (w : World ρ) : w.beginners.length = w.watchers.size := by
  simp [beginners]

/-- The live loop of watcher `i` is begun as one of those that `start` begins. -/
def begin (w : World ρ) (i : Nat) : World ρ :=
  let (id, w) := w.spawn i w.closed
  { w with started := w.started ++ [id] }

theorem begin_eq {i : Nat} {watcher : Watcher} (h : w.watchers[i]? = some watcher) :
    w.begin i = { w with
      tasks := w.tasks.push ⟨i, w.closed, .ready (watcher.live .start)⟩
      queue := w.queue ++ [w.tasks.size]
      started := w.started ++ [w.tasks.size] } := by
  unfold begin spawn
  rw [h]

/-- The world in which the live loops of the first `n` watchers have been begun. -/
def begun (w : World ρ) (n : Nat) : World ρ :=
  { w with
    tasks := w.tasks ++ (w.beginners.take n).toArray
    queue := w.queue ++ List.range' w.tasks.size n
    started := List.range' w.tasks.size n }

theorem begin_begun {n : Nat} (hn : n < w.watchers.size) :
    (w.begun n).begin n = w.begun (n + 1) := by
  have hlength : n < w.beginners.length := w.length_beginners ▸ hn
  have hsize : (w.begun n).tasks.size = w.tasks.size + n := by
    simp [begun, Nat.min_eq_left (Nat.le_of_lt hlength)]
  have hwatcher : (w.begun n).watchers[n]? = some w.watchers[n] := Array.getElem?_eq_getElem hn
  have htask : w.beginners[n] = ⟨n, w.closed, .ready (w.watchers[n].live .start)⟩ := by
    simp [beginners]
  have htasks : (w.begun n).tasks.push ⟨n, w.closed, .ready (w.watchers[n].live .start)⟩ =
      w.tasks ++ (w.beginners.take (n + 1)).toArray := by
    rw [List.take_succ_eq_append_getElem hlength, htask]
    simp [begun]
  have hqueue : (w.begun n).queue ++ [w.tasks.size + n] =
      w.queue ++ List.range' w.tasks.size (n + 1) := by
    rw [List.range'_concat, Nat.one_mul, ← List.append_assoc]
    rfl
  have hstarted : (w.begun n).started ++ [w.tasks.size + n] =
      List.range' w.tasks.size (n + 1) := by
    rw [List.range'_concat, Nat.one_mul]
    rfl
  have hclosed : (w.begun n).closed = w.closed := rfl
  rw [begin_eq hwatcher, hsize, hclosed, htasks, hqueue, hstarted]
  rfl

/-- If no loops have been begun, one is begun for each watcher. -/
theorem start_eq (h : w.started = []) : w.start = w.begun w.watchers.size := by
  have hfoldl (n : Nat) (hn : n ≤ w.watchers.size) :
      (List.range n).foldl begin w = w.begun n := by
    induction n with
    | zero =>
      cases w
      cases h
      simp [begun]
    | succ n ih =>
      rw [List.range_succ, List.foldl_append, ih (Nat.le_of_lt hn)]
      exact begin_begun hn
  unfold start
  rw [if_neg (not_not.mpr h)]
  exact hfoldl w.watchers.size (Nat.le_refl _)

/-- After a start there are the tasks from before, and one for each watcher. -/
theorem tasks_begun (w : World ρ) (id : Nat) : (w.begun w.watchers.size).tasks[id]? =
    if id < w.tasks.size then w.tasks[id]? else w.beginners[id - w.tasks.size]? := by
  have htake : w.beginners.take w.watchers.size = w.beginners :=
    List.take_of_length_le (Nat.le_of_eq w.length_beginners)
  have hnew : w.beginners.toArray[id - w.tasks.size]? = w.beginners[id - w.tasks.size]? :=
    List.getElem?_toArray
  unfold begun
  rw [htake, Array.getElem?_append, hnew]

theorem beginners_eq_some {i : Nat} {t : Task} (h : w.beginners[i]? = some t) :
    ∃ watcher, w.watchers[i]? = some watcher ∧ t = ⟨i, w.closed, .ready (watcher.live .start)⟩ := by
  rw [beginners, List.getElem?_mapIdx, Array.getElem?_toList] at h
  obtain ⟨watcher, hwatcher, rfl⟩ := Option.map_eq_some_iff.mp h
  exact ⟨watcher, hwatcher, rfl⟩

/-- A task of a world that has been started was there before, or it is that of a watcher. -/
theorem tasks_begun_cases {id : Nat} {t : Task}
    (h : (w.begun w.watchers.size).tasks[id]? = some t) :
    (id < w.tasks.size ∧ w.tasks[id]? = some t) ∨
      id ∈ List.range' w.tasks.size w.watchers.size ∧ ∃ i watcher, w.watchers[i]? = some watcher ∧
        t = ⟨i, w.closed, .ready (watcher.live .start)⟩ := by
  rw [tasks_begun] at h
  split at h
  · next hlt => exact Or.inl ⟨hlt, h⟩
  · obtain ⟨watcher, hwatcher, rfl⟩ := beginners_eq_some h
    obtain ⟨hlt, -⟩ := Array.getElem?_eq_some_iff.mp hwatcher
    refine Or.inr ⟨List.mem_range'_1.mpr (by omega), _, watcher, hwatcher, rfl⟩

theorem isEnded_begun {id : Nat} (h : w.isEnded id = true) :
    (w.begun w.watchers.size).isEnded id = true := by
  obtain ⟨result, hresult⟩ := isEnded_iff.mp h
  obtain ⟨i, cancelled, htask⟩ := tasks_of_phase? hresult
  obtain ⟨hlt, -⟩ := Array.getElem?_eq_some_iff.mp htask
  have htask' := w.tasks_begun id
  rw [if_pos hlt, htask] at htask'
  exact isEnded_iff.mpr ⟨result, phase?_of_tasks htask'⟩

theorem Confined.start (h : w.Confined w.started w.queue) :
    w.start.Confined w.start.started w.start.queue := by
  by_cases hstarted : w.started = []
  · rw [start_eq hstarted]
    rw [hstarted] at h
    refine ⟨fun id phase hphase hasleep => ?_, fun id hid => ?_⟩
    · obtain ⟨i, cancelled, htask⟩ := tasks_of_phase? hphase
      rcases tasks_begun_cases htask with ⟨-, hold⟩ | ⟨hid, -⟩
      · exact absurd (h.asleep id phase (phase?_of_tasks hold) hasleep) List.not_mem_nil
      · exact hid
    · rcases List.mem_append.mp hid with hid | hid
      · exact Or.inr (isEnded_begun ((h.ready id hid).resolve_left List.not_mem_nil))
      · exact Or.inl hid
  · have hsame : w.start = w := if_pos hstarted
    rwa [hsame]

end World

end RedemptionWatch.Rehearsal
