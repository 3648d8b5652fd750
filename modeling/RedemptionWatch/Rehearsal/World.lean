import RedemptionWatch.Admin.Response
import RedemptionWatch.Clock
import RedemptionWatch.Rehearsal.Script
import RedemptionWatch.Watch.Watcher

/-!
# Rehearsals of many watchers

A `World` holds watchers, the stores they share, and their live loops as tasks. One task runs at a
time, until it pauses. The caller that drives the world is not a task: time moves only while the
caller waits (`World.sleep`), straight from one pause that ends to the next, and a caller whose wait
ends at the same time as a task's pause goes first.
-/

namespace RedemptionWatch.Rehearsal

/-- Where the watchers get their data. They are known by their numbers. -/
structure Sources (ρ : Type) where
  latestBlock : Nat → StateM ρ (Except FetchError UInt64)
  block : Nat → UInt64 → StateM ρ (Except FetchError (Option (List Candidate)))
  activity : Nat → BlockRange → Option String → StateM ρ (Except FetchError ActivityPage)
  /-- How many rounds of a listing a watcher may have to read. -/
  listingRounds : Nat → ρ → Nat

/-- Where a live loop stands. -/
inductive Phase where
  | ready (plan : Watch.Act Watcher.Turn)
  /-- A pause ends at `deadline`; of two that end together the one of lower `order` comes first. -/
  | asleep (deadline order : Nat) (resume : PauseEnd → Watch.Act Watcher.Turn)
  /-- The loop has ended with a result, or it has broken off. -/
  | ended (result : Except WatchError Unit)

/-- A live loop. -/
structure Task where
  /-- The number of its watcher. -/
  watcher : Nat
  cancelled : Bool
  phase : Phase

/-- Watchers, stores and live loops at one moment. -/
structure World (ρ : Type) where
  sources : Sources ρ
  remote : ρ
  watchers : Array Watcher
  states : Array WatchState
  books : Books
  /-- Milliseconds since the start. -/
  now : Nat
  tasks : Array Task
  /-- The tasks that are ready, in the order in which they run. -/
  queue : List Nat
  /-- How many pauses have begun. -/
  pauses : Nat
  /-- Has the world been closed? -/
  closed : Bool
  /-- The tasks that the last `start` began. -/
  started : List Nat
  /-- Tasks of their own, by the names of their chains. -/
  own : List (String × Nat)

namespace World

variable {ρ : Type}

/-- A world in which nothing has happened. -/
def of (sources : Sources ρ) (remote : ρ) (watchers : List Watcher) (books : Books) : World ρ where
  sources := sources
  remote := remote
  watchers := watchers.toArray
  states := (watchers.map fun _ => .idle).toArray
  books := books
  now := 0
  tasks := #[]
  queue := []
  pauses := 0
  closed := false
  started := []
  own := []

/-- The time as a timestamp. -/
def time (w : World ρ) : Timestamp :=
  .ofMillis (Int64.ofNat w.now)

/-- The name of the chain of a watcher. -/
def chain (w : World ρ) (i : Nat) : String :=
  (w.watchers[i]?.map (·.chain)).getD ""

/-- The number of the watcher of a chain. -/
def find? (w : World ρ) (chain : String) : Option Nat :=
  w.watchers.findIdx? (·.chain = chain)

/-- The state that the loop of a watcher shows. -/
def state (w : World ρ) (i : Nat) : WatchState :=
  w.states.getD i .idle

/-- The answer to a request of watcher `i`. A pause is over at once. -/
def answer (i : Nat) (cancelled : Bool) (q : Watch.Request) : StateM (World ρ) q.Answer := fun w =>
  match q with
  | .cursor fallback => (w.books.cursor (w.chain i) fallback, w)
  | .latestBlock =>
    let (a, remote) := w.sources.latestBlock i w.remote
    (a, { w with remote })
  | .block number =>
    let (a, remote) := w.sources.block i number w.remote
    (a, { w with remote })
  | .activity range token =>
    let (a, remote) := w.sources.activity i range token w.remote
    (a, { w with remote })
  | .record c =>
    let (a, books) := w.books.record c w.time
    (a, { w with books })
  | .moveCursor block =>
    let (a, books) := w.books.moveCursor (w.chain i) block w.time
    (a, { w with books })
  | .pause _ => (if cancelled then .interrupted else .elapsed, w)
  | .isCancelled => (cancelled, w)
  | .publish state => ((), { w with states := w.states.setIfInBounds i state })

/-! ## Tasks -/

/-- The pause that a request is, and what follows it. -/
def pause? {α : Type} : (q : Watch.Request) → (q.Answer → α) → Option (Nat × (PauseEnd → α))
  | .pause millis, next => some (millis, next)
  | _, _ => none

/-- Runs a plan of watcher `i` to its end, or to a pause that takes time. -/
def untilPause {α : Type} (i : Nat) (cancelled : Bool) :
    Watch.Act α → World ρ → (α ⊕ Nat × (PauseEnd → Watch.Act α)) × World ρ
  | .done a, w => (.inl a, w)
  | .ask q next, w =>
    match pause? q next with
    | some (millis, resume) =>
      if cancelled ∨ millis = 0 then
        let (a, w) := answer i cancelled q w
        untilPause i cancelled (next a) w
      else (.inr (millis, resume), w)
    | none =>
      let (a, w) := answer i cancelled q w
      untilPause i cancelled (next a) w

/-- Runs a live loop until it pauses or ends, for at most so many rounds. -/
def runLoop (i : Nat) (watcher : Watcher) (cancelled : Bool) :
    Nat → Watch.Act Watcher.Turn → World ρ → Phase × World ρ
  | 0, plan, w => (.ready plan, w)
  | rounds + 1, plan, w =>
    match untilPause i cancelled plan w with
    | (.inl (.inl (.broken reason)), w) => (.ended (.error (.broken reason)), w)
    | (.inl (.inl stage), w) => runLoop i watcher cancelled rounds (watcher.live stage) w
    | (.inl (.inr result), w) => (.ended result, w)
    | (.inr (millis, resume), w) =>
      (.asleep (Clock.wakeTime w.now millis) w.pauses resume, { w with pauses := w.pauses + 1 })

/-- The number of rounds within which a live loop pauses: it reads the cursor, polls, lists
activity, and polls once more. -/
def liveRounds (w : World ρ) (i : Nat) : Nat :=
  w.sources.listingRounds i w.remote + 6

/-- The world with another phase of a task. -/
def setPhase (w : World ρ) (id : Nat) (phase : Phase) : World ρ :=
  { w with tasks := w.tasks.modify id fun t => { t with phase } }

/-- Lets a task run if it is ready. -/
def runTask (w : World ρ) (id : Nat) : World ρ :=
  match w.tasks[id]? with
  | some ⟨i, cancelled, .ready plan⟩ =>
    match w.watchers[i]? with
    | some watcher =>
      let (phase, w) := runLoop i watcher cancelled (w.liveRounds i) plan w
      w.setPhase id phase
    | none => w
  | _ => w

/-- Lets every task that is ready run. No task makes another one ready. -/
def drain (w : World ρ) : World ρ :=
  w.queue.foldl runTask { w with queue := [] }

/-- Puts a task that has paused back among those that are ready. -/
def resume (w : World ρ) (id : Nat) (ending : PauseEnd) : World ρ :=
  match w.tasks[id]? with
  | some ⟨_, _, .asleep _ _ next⟩ =>
    { w.setPhase id (.ready (next ending)) with queue := w.queue ++ [id] }
  | _ => w

/-! ## Time -/

/-- The pauses that are under way: deadline, order and number of the task. -/
def sleepers (w : World ρ) : List (Nat × Nat × Nat) :=
  w.tasks.toList.zipIdx.filterMap fun (t, id) =>
    match t.phase with
    | .asleep deadline order _ => some (deadline, order, id)
    | _ => none

/-- Does the first pause end before the second? -/
def endsFirst (a b : Nat × Nat × Nat) : Bool :=
  a.1 < b.1 || (a.1 == b.1 && a.2.1 ≤ b.2.1)

/-- Moves the clock to `t`, where pauses may end. -/
def wake (w : World ρ) (t : Nat) : World ρ :=
  let due := (w.sleepers.filter (·.1 ≤ t)).mergeSort endsFirst
  due.foldl (fun w (_, _, id) => w.resume id .elapsed) { w with now := t }

/-- Lets tasks run until time `t`, where the caller goes on. `steps` bounds the number of times at
which pauses end. -/
def idleUntil (t : Nat) : Nat → World ρ → World ρ
  | 0, w => w.wake t
  | steps + 1, w =>
    let w := w.drain
    match (w.sleepers.map (·.1)).min? with
    | some next => if next < t then idleUntil t steps (w.wake next) else w.wake t
    | none => w.wake t

/-- The caller waits for so many milliseconds. Pauses end at different milliseconds, so there are at
most as many of them on the way. -/
def sleep (w : World ρ) (millis : Nat) : World ρ :=
  if millis = 0 then w else idleUntil (Clock.wakeTime w.now millis) millis w

/-- The answer to a request of a plan that the caller itself runs. -/
def answerCaller (i : Nat) (q : Watch.Request) : StateM (World ρ) q.Answer := fun w =>
  match q with
  | .pause millis => if w.closed then (.interrupted, w) else (.elapsed, w.sleep millis)
  | q => answer i w.closed q w

/-! ## The life of the watchers -/

/-- Adds a task that runs the live loop of watcher `i`. -/
def spawn (w : World ρ) (i : Nat) (cancelled : Bool) : Nat × World ρ :=
  match w.watchers[i]? with
  | some watcher =>
    let id := w.tasks.size
    (id, { w with
      tasks := w.tasks.push ⟨i, cancelled, .ready (watcher.live .start)⟩
      queue := w.queue ++ [id] })
  | none => (w.tasks.size, w)

/-- Begins the live loops of all watchers, unless they have been begun. -/
def start (w : World ρ) : World ρ :=
  if w.started ≠ [] then w
  else (List.range w.watchers.size).foldl (fun w i =>
    let (id, w) := w.spawn i w.closed
    { w with started := w.started ++ [id] }) w

/-- Has a task ended? -/
def isEnded (w : World ρ) (id : Nat) : Bool :=
  match w.tasks[id]? with
  | some ⟨_, _, .ended _⟩ => true
  | _ => false

/-- Cancels a task. Its pause is interrupted. -/
def cancel (w : World ρ) (id : Nat) : World ρ :=
  { w with tasks := w.tasks.modify id fun t => { t with cancelled := true } }.resume id .interrupted

/-- Waits for tasks that have been cancelled. -/
def join (w : World ρ) (ids : List Nat) : World ρ :=
  if ids.all w.isEnded then w else w.drain

/-- Cancels all live loops, and every later one, and waits for those that `start` began. -/
def close (w : World ρ) : World ρ :=
  let ids := w.started
  let w := (List.range w.tasks.size).foldl cancel { w with closed := true, started := [] }
  w.join ids

/-- Begins a live loop that can be closed without the others. -/
def spawnOwn (w : World ρ) (chain : String) : World ρ :=
  match w.find? chain with
  | some i =>
    let (id, w) := w.spawn i w.closed
    { w with own := (chain, id) :: w.own.filter (·.1 ≠ chain) }
  | none => w

/-- The task that runs a chain on its own. -/
def own? (w : World ρ) (chain : String) : Option Nat :=
  (w.own.find? (·.1 = chain)).map (·.2)

/-- Cancels a live loop that was begun on its own, and waits for its result. -/
def closeOwn (w : World ρ) (chain : String) : Option (Except WatchError Unit) × World ρ :=
  match w.own? chain with
  | some id =>
    let w := (w.cancel id).join [id]
    let w : World ρ := { w with own := w.own.filter (·.1 ≠ chain) }
    match w.tasks[id]? with
    | some ⟨_, _, .ended result⟩ => (some result, w)
    | _ => (none, w)
  | none => (none, w)

/-- Scans a range of a chain while the caller waits. -/
def backfill (w : World ρ) (chain : String) (r : BackfillRequest) :
    Option (Except WatchError ScanReport) × World ρ :=
  match w.find? chain, w.watchers.find? (·.chain = chain) with
  | some i, some watcher =>
    let rounds := w.sources.listingRounds i w.remote
    (Loop.run (watcher.backfill r) (answerCaller i) rounds (Listing.start r.range)).run w
  | _, _ => (some (.error (.unknownChain chain)), w)

/-- The watchers and the states that their loops show. -/
def statuses (w : World ρ) : List (Watcher × WatchState) :=
  w.watchers.toList.zipIdx.map fun (watcher, i) => (watcher, w.state i)

/-- Answers an administration request. There is no response if a backfill breaks off, and `none` if
it has not come to an end within the rounds that a listing may have. -/
def administer (w : World ρ) (r : Admin.Request) :
    Option (Except Breakdown Admin.Response) × World ρ :=
  let (response, w) : Option (Except Breakdown Admin.Response) × World ρ := match r.call with
    | .error refusal => (some (.ok (.refused refusal)), w)
    | .ok .health => (some (.ok .health), w)
    | .ok .watchers => (some (.ok (.watchers w.statuses)), w)
    | .ok (.backfill chain request) =>
      let (result, w) := w.backfill chain request
      (result.map Admin.Response.backfill, w)
  (response.map (·.map (·.answering r)), w)

end World

/-! ## Scripted worlds -/

/-- Runs one of several scripts. -/
def withScript {α : Type} (i : Nat) (f : Script → α × Script) : StateM (Array Script) α := fun s =>
  let (a, script) := f (s.getD i .empty)
  (a, s.setIfInBounds i script)

/-- Scripts as sources. Every round of a listing brings a token that has not come before, or is the
last one. -/
def scripted : Sources (Array Script) where
  latestBlock i := withScript i Script.latestBlock
  block i number := withScript i (·.block number)
  activity i range token := withScript i (·.activity range token)
  listingRounds i scripts := (scripts.getD i .empty).pages.length + 2

end RedemptionWatch.Rehearsal
