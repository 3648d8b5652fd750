import RedemptionWatch.Proofs.Rehearsal.Worlds
import RedemptionWatch.Proofs.Watch.Cancellation

/-!
# Worlds that are closed

Closing a world ends all of its loops (`World.close_ends`). What was begun later was cancelled
before it began, so that it ends at its first round and writes nothing. `World.Quiet` says so of a
world since it was closed, and starting, closing and time that passes preserve it. A backfill of a
closed world changes nothing (`World.backfill_of_closed`).
-/

namespace RedemptionWatch.Rehearsal.World

variable {ρ : Type} {w w' : World ρ} {id id' : Nat} {ids waiting : List Nat}

/-! ## Tasks that are cancelled -/

/-- The task, if there is one, has been cancelled and is not in a pause. -/
structure Still (w : World ρ) (id : Nat) : Prop where
  cancelled : ∀ i cancelled, w.label? id = some (i, cancelled) → cancelled = true
  awake : ∀ phase, w.phase? id = some phase → phase.isAsleep = false

/-- The world in which a task has been told that it is cancelled. -/
def flag (w : World ρ) (id : Nat) : World ρ :=
  { w with tasks := w.tasks.modify id fun t => { t with cancelled := true } }

theorem cancel_eq (w : World ρ) (id : Nat) : w.cancel id = (w.flag id).resume id .interrupted :=
  rfl

theorem phase?_flag (w : World ρ) (id id' : Nat) : (w.flag id).phase? id' = w.phase? id' := by
  unfold phase? flag
  rw [Array.getElem?_modify]
  split
  · simp [Function.comp_def]
  · rfl

theorem label?_flag (w : World ρ) (id id' : Nat) : (w.flag id).label? id' =
    if id = id' then (w.label? id').map fun l => (l.1, true) else w.label? id' := by
  unfold label? flag
  rw [Array.getElem?_modify]
  split
  · simp [Function.comp_def]
  · rfl

theorem phase?_resume_of_ne (w : World ρ) (ending : PauseEnd) (hne : id ≠ id') :
    (w.resume id ending).phase? id' = w.phase? id' := by
  unfold resume
  split
  · exact (w.phase?_setPhase id _ id').trans (if_neg hne)
  · rfl

/-- Whatever it was doing, a task is awake when its pause has ended. -/
theorem awake_resume (w : World ρ) (id : Nat) (ending : PauseEnd) {phase : Phase}
    (h : (w.resume id ending).phase? id = some phase) : phase.isAsleep = false := by
  unfold resume at h
  split at h
  · next next _ =>
    have hset := (w.phase?_setPhase id (.ready (next ending)) id).symm.trans h
    rw [if_pos rfl] at hset
    obtain ⟨_, -, rfl⟩ := Option.map_eq_some_iff.mp hset
    rfl
  · next hother =>
    cases phase with
    | asleep deadline order next =>
      obtain ⟨i, cancelled, htask⟩ := tasks_of_phase? h
      exact absurd htask (hother i cancelled deadline order next)
    | ready | ended => rfl

theorem still_cancel (w : World ρ) (id : Nat) : (w.cancel id).Still id where
  cancelled i cancelled h := by
    rw [cancel_eq, (idles_resume _ _ _).label?_eq, label?_flag, if_pos rfl] at h
    obtain ⟨_, -, heq⟩ := Option.map_eq_some_iff.mp h
    cases heq
    rfl
  awake phase h := awake_resume (w.flag id) id .interrupted h

theorem Still.cancel (h : w.Still id') (id : Nat) : (w.cancel id).Still id' := by
  by_cases heq : id = id'
  · exact heq ▸ w.still_cancel id
  · refine ⟨fun i cancelled hlabel => ?_, fun phase hphase => ?_⟩
    · rw [cancel_eq, (idles_resume _ _ _).label?_eq, label?_flag, if_neg heq] at hlabel
      exact h.cancelled i cancelled hlabel
    · rw [cancel_eq, phase?_resume_of_ne _ _ heq, phase?_flag] at hphase
      exact h.awake phase hphase

/-- A task that was cancelled and is awake does not fall asleep. -/
theorem Still.runTask (h : w.Still id') (id : Nat) : (w.runTask id).Still id' := by
  refine ⟨fun i cancelled hlabel => h.cancelled i cancelled ?_, fun phase hphase => ?_⟩
  · rwa [(w.keeps_runTask id).label?_eq] at hlabel
  rcases w.runTask_cases id with ⟨hsame, -⟩ | ⟨i, cancelled, plan, watcher, htask, -, hruns⟩
  · rw [hsame] at hphase
    exact h.awake phase hphase
  · have hasks := asks_runLoop i watcher cancelled (w.liveRounds i) plan w
    rw [hruns, phase?_setPhase, hasks.phase?_eq] at hphase
    split at hphase
    · next heq =>
      subst heq
      have hcancelled : cancelled = true := h.cancelled i cancelled (label?_of_tasks htask)
      subst hcancelled
      obtain ⟨_, -, rfl⟩ := Option.map_eq_some_iff.mp hphase
      exact isAsleep_runLoop i watcher _ plan w
    · exact h.awake phase hphase

theorem Confined.cancel (h : w.Confined ids w.queue) (id : Nat) :
    (w.cancel id).Confined ids (w.cancel id).queue := by
  have hflag : (w.flag id).Confined ids (w.flag id).queue := h.of_phase?_eq (w.phase?_flag id)
  exact (idles_resume (w.flag id) id .interrupted).confined ids hflag

/-- Cancelling what has been cancelled and is awake changes nothing. -/
theorem Still.cancel_eq_self (h : w.Still id) : w.cancel id = w := by
  have htasks : w.tasks.modify id (fun t => { t with cancelled := true }) = w.tasks := by
    refine Array.ext_getElem? fun id' => ?_
    rw [Array.getElem?_modify]
    split
    · next heq =>
      subst heq
      rcases htask : w.tasks[id]? with _ | ⟨i, cancelled, phase⟩
      · rfl
      · have hcancelled : cancelled = true := h.cancelled i cancelled (label?_of_tasks htask)
        subst hcancelled
        rfl
    · rfl
  have hflag : w.flag id = w := congrArg (fun tasks => { w with tasks }) htasks
  rw [cancel_eq, hflag]
  unfold resume
  split
  · next i cancelled deadline order next htask =>
    have hawake := h.awake _ (phase?_of_tasks htask)
    exact nomatch hawake
  · rfl

/-! ## Worlds that have been closed -/

/-- The live loop of the task has not run yet. -/
def Task.IsFresh (w : World ρ) (t : Task) : Prop :=
  ∃ watcher, w.watchers[t.watcher]? = some watcher ∧ t.phase = .ready (watcher.live .start)

/-- Since the world `v` was closed nothing has been asked of the sources, nothing has been written,
and every loop that was begun has ended well or is still to run. No loop from before goes on. -/
structure Quiet (v : World ρ) (waiting : List Nat) (w : World ρ) : Prop where
  closed : w.closed = true
  remote_eq : w.remote = v.remote
  books_eq : w.books = v.books
  size_le : v.tasks.size ≤ w.tasks.size
  still : ∀ id, w.Still id
  earlier : ∀ id ∈ waiting, id < v.tasks.size → w.isEnded id = true
  later : ∀ id t, v.tasks.size ≤ id → w.tasks[id]? = some t →
    t.phase = .ended (.ok ()) ∨ id ∈ waiting ∧ Task.IsFresh w t

variable {v : World ρ}

/-- A task that runs is one that has not run yet, and it ends well at once. -/
theorem Quiet.runTask_cases (h : v.Quiet (id :: waiting) w) (hread : v.books.readError = none) :
    (w.runTask id = w ∧ ∀ t, w.tasks[id]? = some t → ¬Task.IsFresh w t) ∨
      ∃ i, w.runTask id =
        { w with states := w.states.setIfInBounds i .closed }.setPhase id (.ended (.ok ())) := by
  rcases w.runTask_cases id with
    ⟨hsame, hnone⟩ | ⟨i, cancelled, plan, watcher, htask, hwatcher, hruns⟩
  · refine Or.inl ⟨hsame, ?_⟩
    rintro ⟨i, cancelled, phase⟩ htask ⟨watcher, hwatcher, rfl⟩
    exact hnone i cancelled _ watcher htask hwatcher
  · have hcancelled : cancelled = true := (h.still id).cancelled i cancelled (label?_of_tasks htask)
    have hlate : v.tasks.size ≤ id := by
      by_contra hearly
      obtain ⟨result, hresult⟩ :=
        isEnded_iff.mp (h.earlier id List.mem_cons_self (Nat.lt_of_not_le hearly))
      exact nomatch (phase?_of_tasks htask).symm.trans hresult
    obtain hended | ⟨-, watcher', hwatcher', hplan⟩ := h.later id _ hlate htask
    · exact nomatch hended
    · obtain rfl : watcher' = watcher := Option.some_inj.mp (hwatcher'.symm.trans hwatcher)
      obtain rfl : plan = watcher'.live .start := Phase.ready.inj hplan
      have hread' : w.books.readError = none := h.books_eq ▸ hread
      subst hcancelled
      refine Or.inr ⟨i, ?_⟩
      rw [hruns, liveRounds, runLoop_of_cancelled i watcher' _ hread']

theorem Quiet.runTask (h : v.Quiet (id :: waiting) w) (hread : v.books.readError = none) :
    v.Quiet waiting (w.runTask id) := by
  have hstill (id' : Nat) : (w.runTask id).Still id' := (h.still id').runTask id
  rcases h.runTask_cases hread with ⟨hsame, hnone⟩ | ⟨i, hruns⟩
  · rw [hsame]
    refine { h with earlier := fun id' hid' => h.earlier id' (.tail _ hid'), later := ?_ }
    intro id' t hlate htask
    refine (h.later id' t hlate htask).imp_right fun ⟨hid', hfresh⟩ => ⟨?_, hfresh⟩
    rcases List.mem_cons.mp hid' with rfl | hid'
    · exact absurd hfresh (hnone t htask)
    · exact hid'
  · rw [hruns] at hstill ⊢
    refine ⟨h.closed, h.remote_eq, h.books_eq, ?_, hstill, fun id' hid' hearly => ?_,
      fun id' t hlate htask => ?_⟩
    · exact h.size_le.trans_eq Array.size_modify.symm
    · obtain ⟨result, hresult⟩ := isEnded_iff.mp (h.earlier id' (.tail _ hid') hearly)
      rw [isEnded_iff, phase?_setPhase]
      split
      · exact ⟨.ok (), congrArg (Option.map fun _ => Phase.ended (.ok ())) hresult⟩
      · exact ⟨result, hresult⟩
    · rw [tasks_setPhase] at htask
      split at htask
      · obtain ⟨_, -, rfl⟩ := Option.map_eq_some_iff.mp htask
        exact Or.inl rfl
      · next hne =>
        refine (h.later id' t hlate htask).imp_right fun ⟨hid', hfresh⟩ => ⟨?_, hfresh⟩
        exact (List.mem_cons.mp hid').resolve_left (Ne.symm hne)

theorem Quiet.with (h : v.Quiet waiting w) (queue : List Nat) (now : Nat) (started : List Nat) :
    v.Quiet waiting { w with queue, now, started } :=
  ⟨h.closed, h.remote_eq, h.books_eq, h.size_le,
    fun id => ⟨(h.still id).cancelled, (h.still id).awake⟩, h.earlier, h.later⟩

/-- All tasks that are waiting run to their end. -/
theorem Quiet.drain (h : v.Quiet w.queue w) (hread : v.books.readError = none) :
    v.Quiet [] w.drain := by
  have hfoldl (waiting : List Nat) (w : World ρ) (h : v.Quiet waiting w) :
      v.Quiet [] (waiting.foldl World.runTask w) := by
    induction waiting generalizing w with
    | nil => exact h
    | cons id waiting ih => exact ih _ (h.runTask hread)
  exact hfoldl w.queue _ (h.with [] w.now w.started)

/-- When no task is waiting all loops that were begun have ended. -/
theorem Quiet.ended (h : v.Quiet [] w) {t : Task} (hlate : v.tasks.size ≤ id)
    (htask : w.tasks[id]? = some t) : t.phase = .ended (.ok ()) :=
  (h.later id t hlate htask).resolve_right fun hwaits => nomatch hwaits.1

/-! ## Calls of a closed world -/

theorem sleepers_eq_nil (h : ∀ id, w.Still id) : w.sleepers = [] := by
  refine List.filterMap_eq_nil_iff.mpr fun ⟨t, id⟩ hmem => ?_
  have htask : w.tasks[id]? = some t := by
    rw [← Array.getElem?_toList]
    exact List.mem_zipIdx_iff_getElem?.mp hmem
  have hawake := (h id).awake _ (phase?_of_tasks htask)
  obtain ⟨i, cancelled, phase⟩ := t
  cases phase with
  | asleep => exact nomatch hawake
  | ready | ended => rfl

theorem wake_of_sleepers (h : w.sleepers = []) (t : Nat) : w.wake t = { w with now := t } := by
  unfold wake
  rw [h, List.filter_nil, List.mergeSort_nil]
  rfl

/-- While the caller sleeps, the tasks that are waiting run, and nothing else happens. -/
theorem Quiet.sleep (h : v.Quiet w.queue w) (hread : v.books.readError = none) {millis : Nat}
    (hmillis : 0 < millis) : v.Quiet [] (w.sleep millis) ∧ (w.sleep millis).queue = [] := by
  obtain ⟨steps, rfl⟩ := Nat.exists_eq_succ_of_ne_zero hmillis.ne'
  have hdrain := h.drain hread
  have hnone : w.drain.sleepers = [] := sleepers_eq_nil hdrain.still
  have hsleep : w.sleep (steps + 1) =
      { w.drain with now := Clock.wakeTime w.now (steps + 1) } := by
    unfold World.sleep
    rw [if_neg (Nat.succ_ne_zero steps), idleUntil]
    dsimp only
    rw [wake_of_sleepers hnone, hnone]
    rfl
  rw [hsleep]
  exact ⟨hdrain.with _ _ _, w.queue_drain⟩

/-- The live loops that are begun have been cancelled. -/
theorem Quiet.start (h : v.Quiet w.queue w) : v.Quiet w.start.queue w.start := by
  by_cases hstarted : w.started = []
  · rw [start_eq hstarted]
    refine ⟨h.closed, h.remote_eq, h.books_eq, ?_, fun id => ⟨fun i cancelled hlabel => ?_,
      fun phase hphase => ?_⟩, fun id hid hearly => ?_, fun id t hlate htask => ?_⟩
    · have hsize : w.tasks.size ≤ (w.begun w.watchers.size).tasks.size := by simp [begun]
      exact h.size_le.trans hsize
    · obtain ⟨t, htask, heq⟩ := Option.map_eq_some_iff.mp hlabel
      cases heq
      rcases tasks_begun_cases htask with ⟨-, hold⟩ | ⟨-, j, watcher, -, rfl⟩
      · exact (h.still id).cancelled _ _ (label?_of_tasks hold)
      · exact h.closed
    · obtain ⟨t, htask, rfl⟩ := Option.map_eq_some_iff.mp hphase
      rcases tasks_begun_cases htask with ⟨-, hold⟩ | ⟨-, j, watcher, -, rfl⟩
      · exact (h.still id).awake _ (phase?_of_tasks hold)
      · rfl
    · rcases List.mem_append.mp hid with hid | hid
      · exact isEnded_begun (h.earlier id hid hearly)
      · have hsize := h.size_le
        have hnew := List.mem_range'_1.mp hid
        omega
    · rcases tasks_begun_cases htask with ⟨-, hold⟩ | ⟨hid, j, watcher, hwatcher, rfl⟩
      · rcases h.later id t hlate hold with hended | ⟨hid, hfresh⟩
        · exact Or.inl hended
        · exact Or.inr ⟨List.mem_append_left _ hid, hfresh⟩
      · exact Or.inr ⟨List.mem_append_right _ hid, watcher, hwatcher, rfl⟩
  · have hsame : w.start = w := if_pos hstarted
    rwa [hsame]

theorem foldl_cancel_of_still (h : ∀ id, w.Still id) (ids : List Nat) : ids.foldl cancel w = w := by
  induction ids with
  | nil => rfl
  | cons id ids ih => rw [List.foldl_cons, (h id).cancel_eq_self, ih]

/-- Closing once more lets the loops end that were begun meanwhile. -/
theorem Quiet.close (h : v.Quiet w.queue w) (hread : v.books.readError = none)
    (hconfined : w.Confined w.started w.queue) :
    v.Quiet w.close.queue w.close ∧
      ∀ id t, v.tasks.size ≤ id → w.close.tasks[id]? = some t → t.phase = .ended (.ok ()) := by
  have hquiet := h.with w.queue w.now []
  have hclose : w.close = join { w with started := [] } w.started := by
    have hclosed : { w with closed := true, started := [] } = { w with started := [] } :=
      congrArg (fun closed => { w with closed, started := [] }) h.closed.symm
    unfold World.close
    dsimp only
    rw [hclosed, foldl_cancel_of_still hquiet.still]
  rw [hclose]
  unfold join
  split
  · next hended =>
    refine ⟨hquiet, fun id t hlate htask => ?_⟩
    rcases h.later id t hlate htask with hok | ⟨hid, watcher, -, hfresh⟩
    · exact hok
    · have hnot : w.isEnded id = true := by
        rcases hconfined.ready id hid with hstarted | hdone
        · exact List.all_eq_true.mp hended id hstarted
        · exact hdone
      obtain ⟨result, hresult⟩ := isEnded_iff.mp hnot
      have hphase := phase?_of_tasks htask
      rw [hfresh] at hphase
      exact nomatch hphase.symm.trans hresult
  · have hdrain : v.Quiet [] (World.drain { w with started := [] }) := hquiet.drain hread
    refine ⟨?_, fun id t hlate htask => hdrain.ended hlate htask⟩
    rwa [queue_drain]

/-! ## The first time that a world is closed -/

theorem size_cancel (w : World ρ) (id : Nat) : (w.cancel id).tasks.size = w.tasks.size := by
  have hflag : (w.flag id).tasks.size = w.tasks.size := Array.size_modify
  rw [cancel_eq, resume]
  split
  · exact Array.size_modify.trans hflag
  · exact hflag

theorem frame_cancel (w : World ρ) (id : Nat) : w.Frame (w.cancel id) := by
  have hflag : w.Frame (w.flag id) := ⟨rfl, rfl, rfl⟩
  exact hflag.trans (idles_resume (w.flag id) id .interrupted).toFrame

/-- All tasks are cancelled, and no others go on than before. -/
theorem foldl_cancel (w : World ρ) (ids : List Nat) (n : Nat) :
    ((List.range n).foldl cancel w).tasks.size = w.tasks.size ∧
    ((List.range n).foldl cancel w).closed = w.closed ∧
    ((List.range n).foldl cancel w).started = w.started ∧
    w.Frame ((List.range n).foldl cancel w) ∧
    (∀ id < n, ((List.range n).foldl cancel w).Still id) ∧
    (w.Confined ids w.queue →
      ((List.range n).foldl cancel w).Confined ids ((List.range n).foldl cancel w).queue) := by
  induction n with
  | zero => exact ⟨rfl, rfl, rfl, .refl w, fun id hid => absurd hid (Nat.not_lt_zero id), id⟩
  | succ n ih =>
    obtain ⟨hsize, hclosed, hstarted, hframe, hstill, hconfined⟩ := ih
    rw [List.range_succ, List.foldl_append, List.foldl_cons, List.foldl_nil]
    refine ⟨(size_cancel _ n).trans hsize, ?_, ?_, hframe.trans (frame_cancel _ n),
      fun id hid => ?_, fun h => (hconfined h).cancel n⟩
    · exact (idles_resume (flag _ n) n .interrupted).closed_eq.trans hclosed
    · exact (idles_resume (flag _ n) n .interrupted).started_eq.trans hstarted
    · rcases Nat.lt_succ_iff_lt_or_eq.mp hid with hid | rfl
      · exact (hstill id hid).cancel n
      · exact still_cancel _ id

theorem still_of_size_le (h : w.tasks.size ≤ id) : w.Still id := by
  have hnone : w.tasks[id]? = none := Array.getElem?_eq_none h
  constructor
  · intro i cancelled hlabel
    rw [label?, hnone] at hlabel
    cases hlabel
  · intro phase hphase
    rw [phase?, hnone] at hphase
    cases hphase

theorem still_drain (h : ∀ id, w.Still id) (id : Nat) : w.drain.Still id := by
  have hfoldl (waiting : List Nat) (w : World ρ) (h : w.Still id) :
      (waiting.foldl runTask w).Still id := by
    induction waiting generalizing w with
    | nil => exact h
    | cons id' waiting ih => exact ih _ (h.runTask id')
  exact hfoldl w.queue _ ⟨(h id).cancelled, (h id).awake⟩

/-- No task goes on if all are awake and those that are waiting have ended. -/
theorem confined_of_still (hstill : ∀ id, w.Still id)
    (hended : ∀ id ∈ waiting, w.isEnded id = true) : w.Confined ids waiting where
  asleep id phase hphase hasleep := nomatch ((hstill id).awake phase hphase).symm.trans hasleep
  ready id hid := Or.inr (hended id hid)

/-- In a closed world in which no task goes on, nothing has happened since. -/
theorem quiet_self (hclosed : w.closed = true) (hstill : ∀ id, w.Still id)
    (hended : ∀ id ∈ waiting, w.isEnded id = true) : w.Quiet waiting w where
  closed := hclosed
  remote_eq := rfl
  books_eq := rfl
  size_le := Nat.le_refl _
  still := hstill
  earlier id hid _ := hended id hid
  later id t hlate htask := by
    rw [Array.getElem?_eq_none hlate] at htask
    exact nomatch htask

/-- Closing ends all loops. -/
theorem close_ends (h : w.Confined w.started w.queue) :
    w.Frame w.close ∧ w.close.closed = true ∧ w.close.started = [] ∧ (∀ id, w.close.Still id) ∧
      ∀ id ∈ w.close.queue, w.close.isEnded id = true := by
  have hclosing : w.Frame { w with closed := true, started := [] } := ⟨rfl, rfl, rfl⟩
  have hclose : w.close = join ((List.range w.tasks.size).foldl cancel
    { w with closed := true, started := [] }) w.started := rfl
  obtain ⟨hsize, hclosed, hstarted, hframe, hstill, hconfined⟩ :=
    foldl_cancel { w with closed := true, started := [] } w.started w.tasks.size
  have hconfined := hconfined ⟨h.asleep, h.ready⟩
  have hframe := hclosing.trans hframe
  rw [hclose]
  generalize (List.range w.tasks.size).foldl cancel
    { w with closed := true, started := [] } = v at *
  have hstill (id : Nat) : v.Still id := by
    rcases Nat.lt_or_ge id w.tasks.size with hlt | hge
    · exact hstill id hlt
    · exact still_of_size_le (hsize.trans_le hge)
  unfold join
  split
  · next hended =>
    refine ⟨hframe, hclosed, hstarted, hstill, fun id hid => ?_⟩
    rcases hconfined.ready id hid with hid | hdone
    · exact List.all_eq_true.mp hended id hid
    · exact hdone
  · refine ⟨hframe.trans v.idles_drain.toFrame, v.idles_drain.closed_eq.trans hclosed,
      v.idles_drain.started_eq.trans hstarted, still_drain hstill, ?_⟩
    rw [queue_drain]
    exact fun id hid => absurd hid List.not_mem_nil

/-! ## Backfills -/

theorem backfill_of_unknown {chain : String} (h : ∀ watcher ∈ w.watchers, watcher.chain ≠ chain)
    (r : BackfillRequest) : w.backfill chain r = (some (.error (.unknownChain chain)), w) := by
  have hnone : w.watchers.find? (·.chain = chain) = none := by
    simpa [Array.find?_eq_none] using h
  unfold backfill
  rw [hnone]
  split <;> first | rfl | simp_all

/-- The backfill of a known chain runs the loop of its watcher. -/
theorem backfill_of_known {chain : String} {watcher : Watcher}
    (h : w.watchers.find? (·.chain = chain) = some watcher) (r : BackfillRequest) :
    ∃ i, w.backfill chain r = (Loop.run (watcher.backfill r) (answerCaller i)
      (w.sources.listingRounds i w.remote) (.start r.range)).run w := by
  have hfind : (w.find? chain).isSome = true := by
    rw [find?, Array.findIdx?_isSome, ← Array.isSome_find?, h]
    rfl
  obtain ⟨i, hi⟩ := Option.isSome_iff_exists.mp hfind
  refine ⟨i, ?_⟩
  rw [backfill, hi, h]

/-- The first round of a loop that looks only whether it has been cancelled, or at nothing, is its
last one in a closed world. -/
theorem run_of_closed {loop : Loop Watch.interface Listing (Except WatchError ScanReport)}
    {l : Listing} {result : Except WatchError ScanReport} (i rounds : Nat)
    (h : loop l = .done (.inr result) ∨ w.closed = true ∧ ∃ next,
      loop l = .ask Watch.Request.isCancelled next ∧ next true = .done (.inr result)) :
    (Loop.run loop (answerCaller i) (rounds + 1) l).run w = (some result, w) := by
  have hround : ((loop l).run (answerCaller i)).run w = (.inr result, w) := by
    rcases h with hdone | ⟨hclosed, next, hask, hnext⟩
    · rw [hdone]
      rfl
    · have hrun : ((Plan.ask (P := Watch.interface) .isCancelled next).run (answerCaller i)).run w =
          ((next w.closed).run (P := Watch.interface) (answerCaller i)).run w := rfl
      rw [hask, hrun, hclosed, hnext]
      rfl
  have hsucc := Loop.run_succ loop (answerCaller i) rounds l w
  exact hsucc.trans (by rw [hround])

/-- A backfill of a closed world changes nothing. -/
theorem backfill_of_closed (hclosed : w.closed = true) (chain : String) (r : BackfillRequest) :
    (w.backfill chain r).2 = w := by
  cases hknown : w.watchers.find? (·.chain = chain) with
  | none =>
    have hunknown := Array.find?_eq_none.mp hknown
    rw [backfill_of_unknown (by simpa using hunknown) r]
  | some watcher =>
    obtain ⟨i, hi⟩ := backfill_of_known hknown r
    rw [hi]
    cases w.sources.listingRounds i w.remote with
    | zero => rfl
    | succ rounds =>
      rcases watcher.backfill_cases r with ⟨result, hdone⟩ | hasks
      · rw [run_of_closed i rounds (Or.inl hdone)]
      · rw [run_of_closed i rounds (Or.inr ⟨hclosed, hasks⟩)]

end RedemptionWatch.Rehearsal.World
