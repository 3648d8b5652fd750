import RedemptionWatch.Proofs.Watch.Scans

/-!
# Polls of a live loop

A live loop goes from poll to poll: it looks whether it has been cancelled, shows that it is
polling, asks for the latest block, and scans what lies ahead. Between two polls it may wait.
`Watcher.Lawful` says what it may ask at any time, by what came before: nothing once it has shown
that it is closed, and it shows that it waits only right after a poll that calls for this
(`Watcher.MayWait`). All logs keep to this, and a loop that ends has been cancelled, or its cursor
could not be read (`Watcher.live_lawful`).
-/

namespace RedemptionWatch

/-- May the second state be shown after the first? -/
def WatchState.leads : WatchState → WatchState → Bool
  | closed, _ => false
  | _, closed => true
  | _, polling => true
  | polling, waiting => true
  | _, _ => false

namespace Watch

variable {log events : Log interface}

/-- The states that were shown. -/
def published (log : Log interface) : List WatchState :=
  log.filterMap fun
    | ⟨.publish state, _⟩ => some state
    | _ => none

/-- The state that is shown. Before any other it is that the watcher is idle. -/
def shown (log : Log interface) : WatchState :=
  (published log).getLastD .idle

theorem published_append (log log' : Log interface) :
    published (log ++ log') = published log ++ published log' :=
  List.filterMap_append

theorem shown_publish (log : Log interface) (state : WatchState) :
    shown (log ++ [⟨.publish state, ()⟩]) = state := by
  rw [shown, published_append]
  exact List.getLastD_concat

theorem shown_append (h : published events = []) : shown (log ++ events) = shown log := by
  rw [shown, published_append, h, List.append_nil]
  rfl

/-- Scans show no state. -/
theorem published_eq_nil (h : ∀ e ∈ events, Request.isScan e.request = true) :
    published events = [] := by
  refine List.filterMap_eq_nil_iff.mpr ?_
  rintro ⟨q, a⟩ he
  have hscan := h _ he
  cases q <;> first | rfl | exact nomatch hscan

end Watch

/-! ## How polls end -/

/-- How a poll ended, unless the watcher was cancelled. -/
inductive PollEnd where
  /-- The latest block could not be had. -/
  | failed (e : FetchError)
  /-- The latest block was not ahead. -/
  | caughtUp (head : UInt64)
  /-- It was, and what lies between was scanned. -/
  | scanned (report : ScanReport)

/-- Does the loop wait before it polls again? -/
def PollEnd.waits : PollEnd → Bool
  | failed _ | caughtUp _ => true
  | scanned report => !report.complete

namespace Watcher

variable (w : Watcher)

/-- What a poll from this position on asks after it has begun, and how it ends. -/
inductive Polls (position : UInt64) : Log Watch.interface → PollEnd → Prop where
  | failed {log : Log Watch.interface} {e : FetchError}
      (h : (w.retry.execute Watch.latestBlock).Logs log (.done (.error e))) (he : e ≠ .cancelled) :
      Polls position log (.failed e)
  | caughtUp {log : Log Watch.interface} {head : UInt64}
      (h : (w.retry.execute Watch.latestBlock).Logs log (.done (.ok head)))
      (hle : ¬position < head) : Polls position log (.caughtUp head)
  | scanned {first rest : Log Watch.interface} {head : UInt64} {report : ScanReport}
      (h : (w.retry.execute Watch.latestBlock).Logs first (.done (.ok head)))
      (hlt : position < head)
      (hscan : Loop.Logs (w.mode.scan w.retry w.liveOptions)
        (.done (.inl (.start ⟨position, head⟩))) rest (.done (.inr (.ok report)))) :
      Polls position (first ++ rest) (.scanned report)

/-- A poll has begun. -/
def pollBegin : Log Watch.interface :=
  [⟨.isCancelled, false⟩, ⟨.publish .polling, ()⟩]

/-- Just now a poll has ended after which the loop waits. -/
def MayWait (log : Log Watch.interface) : Prop :=
  ∃ earlier position events ending, log = earlier ++ (pollBegin ++ events) ∧
    Loop.Logs w.live (.done (.inl .start)) earlier (.done (.inl (.poll position))) ∧
    w.Polls position events ending ∧ ending.waits = true

/-! ## What a live loop may ask -/

/-- A live loop asks nothing after it is closed, and shows states in their order, that it waits only
after a poll that calls for it. -/
def Lawful (log : Log Watch.interface) (q : Watch.interface.Request) : Prop :=
  Watch.shown log ≠ .closed ∧ ∀ state, q = Watch.Request.publish state →
    (Watch.shown log).leads state = true ∧ (state = .waiting → w.MayWait log)

/-- What has come before when the loop begins a round. -/
def Standing : Stage → Log Watch.interface → Prop
  | .start, log => log = []
  | .poll _, log | .broken _, log => Watch.shown log ≠ .closed
  | .scan position l, log => Watch.shown log = .polling ∧ ∃ earlier head first rest,
      log = earlier ++ (pollBegin ++ (first ++ rest)) ∧
      Loop.Logs w.live (.done (.inl .start)) earlier (.done (.inl (.poll position))) ∧
      (w.retry.execute Watch.latestBlock).Logs first (.done (.ok head)) ∧ position < head ∧
      Loop.Logs (w.mode.scan w.retry w.liveOptions) (.done (.inl (.start ⟨position, head⟩))) rest
        (.done (.inl l))

/-- What has come before when the loop ends. -/
def Ended (result : Except WatchError Unit) (log : Log Watch.interface) : Prop :=
  Watch.shown log = .closed ∧ (result = .ok () ∧ Watch.Cancelled log ∨
    ∃ reason, result = .error (.cursor reason) ∧
      log = [⟨.cursor w.initialBlock, .error reason⟩, ⟨.publish .closed, ()⟩])

/-- What holds after a round. -/
abbrev AfterRound (turn : Turn) (log : Log Watch.interface) : Prop :=
  turn.elim (w.Standing · log) (w.Ended · log)

variable {w} {log : Log Watch.interface} {position : UInt64}

/-- Anything but showing a state is lawful until the loop is closed. -/
theorem lawful_of_silent (h : Watch.shown log ≠ .closed) {q : Watch.Request}
    (hq : ∀ state, q ≠ .publish state) : w.Lawful log q :=
  ⟨h, fun state heq => absurd heq (hq state)⟩

theorem close_respects {result : Except WatchError Unit} (h : Watch.shown log ≠ .closed)
    (hended : w.Ended result (log ++ [⟨.publish .closed, ()⟩])) :
    (close result).Respects w.Lawful w.AfterRound log := by
  refine ⟨⟨h, ?_⟩, fun _ => hended⟩
  rintro _ ⟨⟩
  refine ⟨?_, nofun⟩
  cases hshown : Watch.shown log <;> first | rfl | exact absurd hshown h

/-- A loop that knows it has been cancelled ends well. -/
theorem close_cancelled (h : Watch.shown log ≠ .closed) (hcancelled : Watch.Cancelled log) :
    (close (.ok ())).Respects w.Lawful w.AfterRound log :=
  close_respects h ⟨Watch.shown_publish log .closed, Or.inl ⟨rfl, hcancelled.append _⟩⟩

theorem rest_respects (h : Watch.shown log = .polling) (hwait : w.MayWait log) :
    (w.rest position).Respects w.Lawful w.AfterRound log := by
  have hwaiting := Watch.shown_publish log .waiting
  have hpaused (pauseEnd : PauseEnd) : Watch.shown
      (log ++ [⟨.publish .waiting, ()⟩] ++ [⟨.pause w.wait, pauseEnd⟩]) = .waiting :=
    (Watch.shown_append rfl).trans hwaiting
  have hpublish : w.Lawful log (.publish .waiting) := by
    refine ⟨h.trans_ne nofun, ?_⟩
    rintro _ ⟨⟩
    rw [h]
    exact ⟨rfl, fun _ => hwait⟩
  refine ⟨hpublish, fun _ => ⟨lawful_of_silent (hwaiting.trans_ne nofun) nofun, ?_⟩⟩
  rintro (_ | _)
  · exact (hpaused .elapsed).trans_ne nofun
  · exact close_cancelled ((hpaused .interrupted).trans_ne nofun) (.of_snoc (.inl rfl))

/-- Asking for the latest block is lawful while a poll goes on. -/
theorem head_respects (h : Watch.shown log = .polling) :
    (w.retry.execute Watch.latestBlock).Respects w.Lawful
      (Watch.Keeping (Watch.shown · = .polling)) log := by
  have hsilent {log : Log Watch.interface} {q : Watch.Request} (h : Watch.shown log = .polling)
      (hq : ∀ state, q ≠ .publish state) : w.Lawful log q :=
    lawful_of_silent (h.trans_ne nofun) hq
  refine Watch.execute_respects w.retry (fun log millis a h => ?_) (fun log h => ?_) h
  · exact ⟨hsilent h nofun, (Watch.shown_append rfl).trans h⟩
  · refine ⟨hsilent h nofun, fun a => ⟨(Watch.shown_append rfl).trans h, ?_⟩⟩
    rintro rfl
    exact .of_snoc (.inr rfl)

theorem poll_respects
    (hcomes : Loop.Logs w.live (.done (.inl .start)) log (.done (.inl (.poll position))))
    (h : Watch.shown log ≠ .closed) : (w.poll position).Respects w.Lawful w.AfterRound log := by
  have hasked (answer : Bool) : Watch.shown (log ++ [⟨.isCancelled, answer⟩]) = Watch.shown log :=
    Watch.shown_append rfl
  refine ⟨lawful_of_silent h nofun, ?_⟩
  rintro (_ | _)
  · have hpolling : w.Lawful (log ++ [⟨.isCancelled, false⟩]) (.publish .polling) := by
      refine ⟨(hasked false).trans_ne h, ?_⟩
      rintro _ ⟨⟩
      rw [hasked]
      refine ⟨?_, nofun⟩
      cases hshown : Watch.shown log <;> first | rfl | exact absurd hshown h
    refine ⟨hpolling, fun _ => ?_⟩
    refine ((head_respects (Watch.shown_publish _ .polling)).with_logs).bind ?_
    rintro a _ ⟨⟨hshown, hcancelled⟩, events, rfl, hevents⟩
    have hwait {ending : PollEnd} (hends : w.Polls position events ending)
        (hwaits : ending.waits = true) : w.MayWait
          (log ++ [⟨.isCancelled, false⟩] ++ [⟨.publish .polling, ()⟩] ++ events) :=
      ⟨log, position, events, ending, by simp [pollBegin], hcomes, hends, hwaits⟩
    rcases a with e | head
    · cases e with
      | cancelled => exact close_cancelled (hshown.trans_ne nofun) (hcancelled rfl)
      | throttled reason | remote reason | decode reason =>
        exact rest_respects hshown (hwait (.failed hevents nofun) rfl)
    · dsimp only
      split_ifs with hlt
      · exact ⟨hshown, log, head, events, [], by simp [pollBegin], hcomes, hevents, hlt, .nil _⟩
      · exact rest_respects hshown (hwait (.caughtUp hevents hlt) rfl)
  · exact close_cancelled ((hasked true).trans_ne h) (.of_snoc (.inl rfl))

theorem scanStage_respects {l : Listing} (h : w.Standing (.scan position l) log) :
    (w.live (.scan position l)).Respects w.Lawful w.AfterRound log := by
  obtain ⟨hshown, earlier, head, first, rest, rfl, hcomes, hfirst, hlt, hrest⟩ := h
  have hscans {events : Log Watch.interface}
      {p : Watch.Act (Listing ⊕ Except WatchError ScanReport)}
      (hevents : (w.mode.scan w.retry w.liveOptions l).Logs events p) :
      Loop.Logs (w.mode.scan w.retry w.liveOptions) (.done (.inl (.start ⟨position, head⟩)))
        (rest ++ events) p :=
    hrest.trans (.round hevents.loop)
  have hsilent {events : Log Watch.interface}
      {p : Watch.Act (Listing ⊕ Except WatchError ScanReport)}
      (hevents : (w.mode.scan w.retry w.liveOptions l).Logs events p) :
      Watch.shown (earlier ++ (pollBegin ++ (first ++ rest)) ++ events) = .polling := by
    have hscan := (ScanMode.logs_reported (hscans hevents)).1
    refine (Watch.shown_append (Watch.published_eq_nil fun e he => ?_)).trans hshown
    exact hscan e (List.mem_append_right rest he)
  have hscan : (w.mode.scan w.retry w.liveOptions l).Respects w.Lawful
      (fun a log' => ∃ events, log' = earlier ++ (pollBegin ++ (first ++ rest)) ++ events ∧
        (w.mode.scan w.retry w.liveOptions l).Logs events (.done a))
      (earlier ++ (pollBegin ++ (first ++ rest))) := by
    refine .of_logs (fun events q next hevents => ?_) fun events a hevents => ⟨events, rfl, hevents⟩
    refine lawful_of_silent ((hsilent hevents).trans_ne nofun) ?_
    rintro state rfl
    exact nomatch (ScanMode.logs_reported (hscans hevents)).2.1
  refine hscan.bind ?_
  rintro (l' | result) _ ⟨events, rfl, hevents⟩
  · exact ⟨hsilent hevents, earlier, head, first, rest ++ events, by simp, hcomes, hfirst, hlt,
      hscans hevents⟩
  · have hreports : ScanReport.Reports result (rest ++ events) :=
      (ScanMode.logs_reported (hscans hevents)).2
    cases result with
    | error e =>
      have hopen := (hsilent hevents).trans_ne (nofun : WatchState.polling ≠ .closed)
      rcases hreports with ⟨rfl, e, he, hcancelled⟩ | ⟨reason, rfl⟩
      · refine close_cancelled hopen ⟨e, ?_, hcancelled⟩
        simpa using Or.inr (Or.inr (Or.inr (List.mem_append.mp he)))
      · exact hopen
    | ok report =>
      change (if report.complete then _ else w.rest _).Respects _ _ _
      split_ifs with hcomplete
      · exact (hsilent hevents).trans_ne nofun
      · refine rest_respects (hsilent hevents) ⟨earlier, position, first ++ (rest ++ events), _,
          by simp, hcomes, .scanned hfirst hlt (hscans hevents), ?_⟩
        simpa [PollEnd.waits] using hcomplete

/-- In every round a live loop asks only what is lawful. -/
theorem live_respects {stage : Stage}
    (hcomes : Loop.Logs w.live (.done (.inl .start)) log (.done (.inl stage)))
    (h : w.Standing stage log) : (w.live stage).Respects w.Lawful w.AfterRound log := by
  cases stage with
  | start =>
    cases h
    refine ⟨lawful_of_silent (by decide) nofun, ?_⟩
    rintro (reason | block)
    · exact close_respects nofun ⟨rfl, Or.inr ⟨reason, rfl, rfl⟩⟩
    · exact nofun
  | poll position => exact poll_respects hcomes h
  | scan position l => exact scanStage_respects h
  | broken reason => exact h

/-- A live loop asks only what is lawful, whatever it is answered. -/
theorem live_lawful {p : Watch.Act Turn} (h : Loop.Logs w.live (.done (.inl .start)) log p) :
    Log.Keeps w.Lawful [] log ∧ p.Respects w.Lawful w.AfterRound log :=
  h.respects w.Standing w.Ended (fun _ _ => live_respects) rfl

end Watcher

end RedemptionWatch
