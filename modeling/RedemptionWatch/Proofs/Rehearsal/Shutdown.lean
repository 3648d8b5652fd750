import RedemptionWatch.Proofs.Rehearsal.Closing

/-!
# Nothing new happens after a shutdown

A world is started, closed and asked for backfills in any order, and time passes in between
(`World.Call`). `World.shutdown_is_final` says what is left of this once the world has been closed:
backfills are cancelled, and live loops that are begun end well at once. Nothing is asked of the
sources, and nothing is written. Worlds have one order in which tasks run. What the theorem says of
the logs of a single watcher holds in whatever order tasks run.
-/

namespace RedemptionWatch.Rehearsal.World

variable {ρ : Type} {w : World ρ}

/-! ## Calls -/

/-- What a caller does with a world. -/
inductive Call where
  | start
  | close
  | backfill (chain : String) (request : BackfillRequest)
  /-- Lets so many milliseconds pass. -/
  | sleep (millis : Nat)
  deriving DecidableEq

/-- The world after a call. -/
def serve (w : World ρ) : Call → World ρ
  | .start => w.start
  | .close => w.close
  | .backfill chain request => (w.backfill chain request).2
  | .sleep millis => w.sleep millis

/-- The world after calls. -/
def serveAll (w : World ρ) (calls : List Call) : World ρ :=
  calls.foldl serve w

theorem serveAll_append (w : World ρ) (calls later : List Call) :
    w.serveAll (calls ++ later) = (w.serveAll calls).serveAll later :=
  List.foldl_append

/-- The cursors of the world can be read, and only the loops that the last start began go on. -/
structure Sound (w : World ρ) : Prop where
  readError_eq : w.books.readError = none
  confined : w.Confined w.started w.queue

theorem Sound.of_idles {w' : World ρ} (h : w.Sound) (hidles : w.Idles w') : w'.Sound where
  readError_eq := hidles.readError_eq.trans h.readError_eq
  confined := hidles.started_eq ▸ hidles.confined w.started h.confined

theorem frame_start (w : World ρ) : w.Frame w.start := by
  by_cases hstarted : w.started = []
  · rw [start_eq hstarted]
    exact ⟨rfl, rfl, rfl⟩
  · have hsame : w.start = w := if_pos hstarted
    rw [hsame]
    exact .refl w

theorem Sound.serve (h : w.Sound) (c : Call) : w.Frame (w.serve c) ∧ (w.serve c).Sound := by
  cases c with
  | start =>
    exact ⟨w.frame_start, w.frame_start.readError_eq.trans h.readError_eq, h.confined.start⟩
  | close =>
    obtain ⟨hframe, -, -, hstill, hended⟩ := close_ends h.confined
    exact ⟨hframe, hframe.readError_eq.trans h.readError_eq, confined_of_still hstill hended⟩
  | backfill chain request =>
    exact ⟨(w.idles_backfill chain request).toFrame, h.of_idles (w.idles_backfill chain request)⟩
  | sleep millis => exact ⟨(w.idles_sleep millis).toFrame, h.of_idles (w.idles_sleep millis)⟩

theorem sound_of {sources : Sources ρ} {remote : ρ} {watchers : List Watcher} {books : Books}
    (hread : books.readError = none) : (of sources remote watchers books).Sound where
  readError_eq := hread
  confined := ⟨fun _ _ hphase _ => (nomatch hphase), fun _ hid => absurd hid List.not_mem_nil⟩

theorem Sound.serveAll (h : w.Sound) (calls : List Call) :
    w.Frame (w.serveAll calls) ∧ (w.serveAll calls).Sound := by
  induction calls generalizing w with
  | nil => exact ⟨.refl w, h⟩
  | cons c calls ih =>
    obtain ⟨hframe, hsound⟩ := h.serve c
    obtain ⟨hframe', hsound'⟩ := ih hsound
    exact ⟨hframe.trans hframe', hsound'⟩

/-! ## Loops that are begun -/

/-- The watchers whose live loops were begun, in order. -/
def spawned (w : World ρ) : List Nat :=
  w.tasks.toList.map (·.watcher)

theorem Keeps.spawned_eq {w' : World ρ} (h : w.Keeps w') : w'.spawned = w.spawned := by
  have hlabel (w : World ρ) (id : Nat) : w.spawned[id]? = (w.label? id).map Prod.fst := by
    simp [spawned, label?, Function.comp_def]
  refine List.ext_getElem? fun id => ?_
  rw [hlabel, hlabel, h.label?_eq]

theorem spawned_begun (w : World ρ) :
    (w.begun w.watchers.size).spawned = w.spawned ++ List.range w.watchers.size := by
  have htake : w.beginners.take w.watchers.size = w.beginners :=
    List.take_of_length_le (Nat.le_of_eq w.length_beginners)
  have hbeginners : w.beginners.map (·.watcher) = List.range w.watchers.size := by
    refine List.ext_getElem (by simp [length_beginners]) fun i _ _ => ?_
    simp [beginners]
  unfold spawned begun
  rw [htake, Array.toList_append, List.map_append, hbeginners]

/-- Every watcher has a loop that the last start began. -/
def IsStarted (w : World ρ) : Prop :=
  w.started ≠ [] ∨ w.watchers.size = 0

/-- While the world is not closed, the loops that were begun stay the only ones. -/
theorem IsStarted.serve (h : w.IsStarted) {c : Call} (hopen : c ≠ .close) :
    (w.serve c).IsStarted ∧ (w.serve c).spawned = w.spawned := by
  have hidles {w' : World ρ} (h' : w.Idles w') : w'.IsStarted ∧ w'.spawned = w.spawned := by
    refine ⟨?_, h'.spawned_eq⟩
    unfold IsStarted
    rw [h'.started_eq, h'.watchers_eq]
    exact h
  cases c with
  | start =>
    by_cases hstarted : w.started = []
    · have hnone : w.watchers.size = 0 := h.resolve_left (not_not.mpr hstarted)
      refine ⟨Or.inr (w.frame_start.watchers_eq ▸ hnone), ?_⟩
      show w.start.spawned = w.spawned
      rw [start_eq hstarted, spawned_begun, hnone]
      exact List.append_nil _
    · have hsame : w.start = w := if_pos hstarted
      have hrefl : w.Idles w.start := hsame.symm ▸ .refl w
      exact hidles hrefl
  | close => exact absurd rfl hopen
  | backfill chain request => exact hidles (w.idles_backfill chain request)
  | sleep millis => exact hidles (w.idles_sleep millis)

theorem IsStarted.serveAll (h : w.IsStarted) {calls : List Call} (hopen : .close ∉ calls) :
    (w.serveAll calls).spawned = w.spawned := by
  induction calls generalizing w with
  | nil => rfl
  | cons c calls ih =>
    obtain ⟨hc, hcalls⟩ := not_or.mp (mt List.mem_cons.mpr hopen)
    obtain ⟨hstarted, hspawned⟩ := h.serve (Ne.symm hc)
    exact (ih hstarted hcalls).trans hspawned

/-- Until the world is closed, the first start begins one loop for each watcher, and further ones
begin none. -/
theorem spawned_serveAll (h : w.started = []) {calls : List Call} (hopen : .close ∉ calls) :
    (w.serveAll calls).spawned =
      w.spawned ++ if .start ∈ calls then List.range w.watchers.size else [] := by
  induction calls generalizing w with
  | nil => exact (List.append_nil _).symm
  | cons c calls ih =>
    obtain ⟨hc, hcalls⟩ := not_or.mp (mt List.mem_cons.mpr hopen)
    have hidles {w' : World ρ} (hidles : w.Idles w') : (w'.serveAll calls).spawned =
        w.spawned ++ if .start ∈ calls then List.range w.watchers.size else [] := by
      rw [ih (hidles.started_eq.trans h) hcalls, hidles.spawned_eq, hidles.watchers_eq]
    cases c with
    | start =>
      have hstarted : w.start.IsStarted := by
        rw [start_eq h]
        by_cases hnone : w.watchers.size = 0
        · exact Or.inr hnone
        · exact Or.inl (mt List.range'_eq_nil_iff.mp hnone)
      have hspawned : w.start.spawned = w.spawned ++ List.range w.watchers.size := by
        rw [start_eq h, spawned_begun]
      rw [if_pos List.mem_cons_self, ← hspawned]
      exact hstarted.serveAll hcalls
    | close => exact absurd rfl hc
    | backfill chain request =>
      simp only [List.mem_cons, reduceCtorEq, false_or]
      exact hidles (w.idles_backfill chain request)
    | sleep millis =>
      simp only [List.mem_cons, reduceCtorEq, false_or]
      exact hidles (w.idles_sleep millis)

/-! ## Worlds that have been closed -/

variable {v : World ρ}

/-- What is left of a world with these watchers since it was closed: `v` is the world right then. -/
structure StaysClosed (watchers : List Watcher) (v w : World ρ) : Prop where
  remote_eq : w.remote = v.remote
  books_eq : w.books = v.books
  /-- A backfill that would be done comes to nothing. -/
  backfill_eq : ∀ chain watcher (r : BackfillRequest),
    watchers.find? (·.chain = chain) = some watcher → r.validate = .ok () →
    r.range.HasPages (watcher.backfillOptions r).pageSize →
    w.backfill chain r = (some (.error .cancelled), w)
  /-- The loops that were begun since are cancelled, and have ended well or are still to run. -/
  loops : ∀ id t, v.tasks.size ≤ id → w.tasks[id]? = some t →
    t.cancelled = true ∧ (t.phase = .ended (.ok ()) ∨ Task.IsFresh w t)
  /-- They run when the world is closed once more, or time passes. -/
  ends : ∀ c, c = .close ∨ (∃ millis, 0 < millis ∧ c = .sleep millis) →
    ∀ id t, v.tasks.size ≤ id → (w.serve c).tasks[id]? = some t → t.phase = .ended (.ok ())

theorem Quiet.serve (h : v.Quiet w.queue w) (hread : v.books.readError = none) (hsound : w.Sound)
    (c : Call) : v.Quiet (w.serve c).queue (w.serve c) := by
  cases c with
  | start => exact h.start
  | close => exact (h.close hread hsound.confined).1
  | backfill chain request =>
    have hsame : w.serve (.backfill chain request) = w := backfill_of_closed h.closed chain request
    rwa [hsame]
  | sleep millis =>
    rcases Nat.eq_zero_or_pos millis with rfl | hmillis
    · exact h
    · obtain ⟨hquiet, hqueue⟩ := h.sleep hread hmillis
      show v.Quiet (w.sleep millis).queue (w.sleep millis)
      rwa [hqueue]

theorem Quiet.serveAll (h : v.Quiet w.queue w) (hread : v.books.readError = none)
    (hsound : w.Sound) (calls : List Call) :
    v.Quiet (w.serveAll calls).queue (w.serveAll calls) := by
  induction calls generalizing w with
  | nil => exact h
  | cons c calls ih => exact ih (h.serve hread hsound c) (hsound.serve c).2

theorem Quiet.staysClosed {watchers : List Watcher} (h : v.Quiet w.queue w)
    (hread : v.books.readError = none) (hsound : w.Sound)
    (hwatchers : w.watchers = watchers.toArray)
    (hrounds : ∀ i, 0 < w.sources.listingRounds i w.remote) : StaysClosed watchers v w where
  remote_eq := h.remote_eq
  books_eq := h.books_eq
  backfill_eq chain watcher r hknown hvalid hpages := by
    rw [← List.find?_toArray, ← hwatchers] at hknown
    obtain ⟨i, hi⟩ := backfill_of_known hknown r
    obtain ⟨rounds, hsucc⟩ := Nat.exists_eq_succ_of_ne_zero (hrounds i).ne'
    rw [hi, hsucc]
    exact run_of_closed i rounds (Or.inr ⟨h.closed, watcher.backfill_eq_ask hvalid fun _ => hpages⟩)
  loops id t hlate htask :=
    ⟨(h.still id).cancelled _ _ (label?_of_tasks htask),
      (h.later id t hlate htask).imp_right And.right⟩
  ends c hc id t hlate htask := by
    rcases hc with rfl | ⟨millis, hmillis, rfl⟩
    · exact (h.close hread hsound.confined).2 id t hlate htask
    · exact (h.sleep hread hmillis).1.ended hlate htask

/-- A world with these watchers refuses backfills of other chains and of ranges that are not valid,
and they change nothing. -/
structure Refuses (watchers : List Watcher) (w : World ρ) : Prop where
  unknown : ∀ chain (r : BackfillRequest), (∀ watcher ∈ watchers, watcher.chain ≠ chain) →
    w.backfill chain r = (some (.error (.unknownChain chain)), w)
  invalid : ∀ chain (r : BackfillRequest), (∃ watcher ∈ watchers, watcher.chain = chain) →
    r.validate ≠ .ok () →
    ∃ reason, w.backfill chain r = (some (.error (.invalidRange reason)), w)

theorem refuses {watchers : List Watcher} (hwatchers : w.watchers = watchers.toArray)
    (hrounds : ∀ i, 0 < w.sources.listingRounds i w.remote) : w.Refuses watchers where
  unknown chain r h := backfill_of_unknown (by simpa [hwatchers] using h) r
  invalid chain r h hinvalid := by
    obtain ⟨watcher, hmem, hchain⟩ := h
    have hsome : (w.watchers.find? (·.chain = chain)).isSome := by
      rw [hwatchers, List.find?_toArray, List.find?_isSome]
      exact ⟨watcher, hmem, decide_eq_true hchain⟩
    obtain ⟨watcher, hknown⟩ := Option.isSome_iff_exists.mp hsome
    obtain ⟨reason, hreason⟩ := r.validate_cases.resolve_left hinvalid
    obtain ⟨i, hi⟩ := backfill_of_known hknown r
    obtain ⟨rounds, hsucc⟩ := Nat.exists_eq_succ_of_ne_zero (hrounds i).ne'
    refine ⟨reason, ?_⟩
    rw [hi, hsucc]
    exact run_of_closed i rounds (Or.inl (watcher.backfill_eq_refused hreason _))

/-! ## The life of a world -/

section

variable {sources : Sources ρ} {remote : ρ} {watchers : List Watcher} {books : Books}

/-- Neither before the first close nor after any other one a loop is begun. -/
theorem started_eq_nil (hread : books.readError = none) {calls : List Call}
    (h : calls = [] ∨ calls.getLast? = some .close) :
    ((of sources remote watchers books).serveAll calls).started = [] := by
  rcases h with rfl | hlast
  · rfl
  · obtain ⟨earlier, rfl⟩ := List.getLast?_eq_some_iff.mp hlast
    have hfresh : (of sources remote watchers books).Sound := sound_of hread
    rw [serveAll_append]
    exact (close_ends (hfresh.serveAll earlier).2.confined).2.2.1

/-- Since its last close, a world is quiet. -/
theorem quiet_serveAll (hread : books.readError = none) (earlier later : List Call) :
    let v := (of sources remote watchers books).serveAll (earlier ++ [.close])
    let w := (of sources remote watchers books).serveAll (earlier ++ .close :: later)
    v.Quiet w.queue w := by
  intro v w
  have hfresh : (of sources remote watchers books).Sound := sound_of hread
  have hsound := (hfresh.serveAll earlier).2
  obtain ⟨-, hclosed, -, hstill, hended⟩ := close_ends hsound.confined
  have hquiet := quiet_self hclosed hstill hended
  have hread' := (hsound.serve .close).2.readError_eq
  have hv : v = ((of sources remote watchers books).serveAll earlier).close := serveAll_append ..
  have hw : w = v.serveAll later := by
    rw [hv]
    exact serveAll_append _ earlier (.close :: later)
  rw [hw, hv]
  exact hquiet.serveAll hread' (hsound.serve .close).2 later

/-- **A shutdown is final.** Let a world whose cursors can be read be called in any way.

* Until it is closed, however often it is started, one live loop is begun for each watcher, and so
  again after it was closed.
* Once it has been closed, nothing more is asked of the sources and nothing is written. Every
  backfill of a known chain and a valid range that has pages is cancelled. Every live loop that is
  begun ends well as soon as it runs.
* At any time a backfill of an unknown chain or of an invalid range is refused, and changes nothing.
* In whatever order tasks run: a live loop that was cancelled before it began has asked for its
  cursor and shown that it is closed, nothing else, and a backfill has asked for nothing. -/
theorem shutdown_is_final (sources : Sources ρ) (remote : ρ) (watchers : List Watcher)
    (books : Books) (hread : books.readError = none)
    (hrounds : ∀ i remote, 0 < sources.listingRounds i remote) :
    (∀ earlier calls, earlier = [] ∨ earlier.getLast? = some .close → .close ∉ calls →
      ((of sources remote watchers books).serveAll (earlier ++ calls)).spawned =
        ((of sources remote watchers books).serveAll earlier).spawned ++
          if .start ∈ calls then List.range watchers.length else []) ∧
    (∀ earlier later, StaysClosed watchers
      ((of sources remote watchers books).serveAll (earlier ++ [.close]))
      ((of sources remote watchers books).serveAll (earlier ++ .close :: later))) ∧
    (∀ calls, ((of sources remote watchers books).serveAll calls).Refuses watchers) ∧
    ∀ watcher : Watcher,
      (∀ log p, Loop.Logs watcher.live (.done (.inl .start)) log p →
        (∀ e ∈ log, Watcher.CancelledAnswer e) →
        ∃ position, log <+: watcher.closingLog position ∧
          ∀ result, p = .done (.inr result) →
            log = watcher.closingLog position ∧ result = .ok ()) ∧
      ∀ (r : BackfillRequest) log p, r.validate = .ok () →
        r.range.HasPages (watcher.backfillOptions r).pageSize →
        Loop.Logs (watcher.backfill r) (.done (.inl (.start r.range))) log p →
        (∀ e ∈ log, Watcher.CancelledAnswer e) →
        log <+: [⟨.isCancelled, true⟩] ∧
          ∀ result, p = .done (.inr result) → result = .error .cancelled := by
  have hsound : (of sources remote watchers books).Sound := sound_of hread
  have hwatchers (calls : List Call) :
      ((of sources remote watchers books).serveAll calls).watchers = watchers.toArray :=
    (hsound.serveAll calls).1.watchers_eq
  have hrounds (calls : List Call) (i : Nat) :
      0 < ((of sources remote watchers books).serveAll calls).sources.listingRounds i
        ((of sources remote watchers books).serveAll calls).remote :=
    (hsound.serveAll calls).1.sources_eq ▸ hrounds i _
  refine ⟨fun earlier calls hearlier hopen => ?_, fun earlier later => ?_, fun calls => ?_,
    fun watcher => ⟨fun log p hlogs hanswers => ?_, fun r log p hvalid hpages hlogs hanswers => ?_⟩⟩
  · rw [serveAll_append, spawned_serveAll (started_eq_nil hread hearlier) hopen, hwatchers,
      List.size_toArray]
  · exact (quiet_serveAll hread earlier later).staysClosed (hsound.serveAll _).2.readError_eq
      (hsound.serveAll _).2 (hwatchers _) (hrounds _)
  · exact refuses (hwatchers calls) (hrounds calls)
  · exact Watcher.live_logs_of_cancelled hlogs hanswers
  · exact Watcher.backfill_logs_of_cancelled hvalid (fun _ => hpages) hlogs hanswers

end

/-- A world with one watcher, over a script. -/
def sampleWorld : World (Array Script) :=
  of scripted #[.empty] [Watcher.sampleLive] (.on (.memory .empty))

/-- Two starts begin one loop. The loop that is begun after the world was closed is cancelled, and
ends well when a millisecond passes. -/
theorem shutdown_is_final_sampleWorld :
    (∀ i remote, 0 < scripted.listingRounds i remote) ∧
      (sampleWorld.serveAll [.start, .start]).spawned = [0] ∧
      ((sampleWorld.serveAll [.start, .close, .start]).backfill "sample"
        ⟨⟨3, 9⟩, none, true⟩).1 = some (.error .cancelled) ∧
      ((sampleWorld.serveAll [.start, .close, .start]).backfill "sample"
        ⟨⟨9, 3⟩, none, true⟩).1 ≠ some (.error .cancelled) ∧
      (∃ t, (sampleWorld.serveAll [.start, .close, .start]).tasks[1]? = some t ∧
        t.cancelled = true ∧ (t.phase = .ended (.ok ()) ∨
          Task.IsFresh (sampleWorld.serveAll [.start, .close, .start]) t)) ∧
      ∃ t, (sampleWorld.serveAll [.start, .close, .start, .sleep 1]).tasks[1]? = some t ∧
        t.phase = .ended (.ok ()) := by
  have hrounds (i : Nat) (remote : Array Script) : 0 < scripted.listingRounds i remote :=
    Nat.succ_pos _
  obtain ⟨hspawned, hclosed, hrefuses, -⟩ := shutdown_is_final scripted #[.empty]
    [Watcher.sampleLive] (.on (.memory .empty)) rfl hrounds
  have hpages : (⟨3, 9⟩ : BlockRange).HasPages 2 := ⟨by decide, by decide⟩
  have hstays := hclosed [.start] [.start]
  have hbackfill := hstays.backfill_eq "sample" Watcher.sampleLive ⟨⟨3, 9⟩, none, true⟩ rfl rfl
    hpages
  obtain ⟨reason, hreason⟩ := (hrefuses [.start, .close, .start]).invalid "sample"
    ⟨⟨9, 3⟩, none, true⟩ ⟨_, List.mem_singleton_self _, rfl⟩ nofun
  have hsize : (sampleWorld.serveAll [.start, .close]).tasks.size = 1 := by decide +kernel
  have hbegun : (sampleWorld.serveAll [.start, .close, .start]).tasks[1]?.isSome := by
    decide +kernel
  have hwoken : (sampleWorld.serveAll [.start, .close, .start, .sleep 1]).tasks[1]?.isSome := by
    decide +kernel
  obtain ⟨begun, hbegun⟩ := Option.isSome_iff_exists.mp hbegun
  obtain ⟨woken, hwoken⟩ := Option.isSome_iff_exists.mp hwoken
  refine ⟨hrounds, hspawned [] [.start, .start] (Or.inl rfl) nofun, congrArg Prod.fst hbackfill, ?_,
    ⟨begun, hbegun, hstays.loops 1 begun hsize.le hbegun⟩,
    woken, hwoken, hstays.ends (.sleep 1) (Or.inr ⟨1, one_pos, rfl⟩) 1 woken hsize.le hwoken⟩
  unfold sampleWorld
  rw [hreason]
  nofun

end RedemptionWatch.Rehearsal.World
