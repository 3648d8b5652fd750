import Mathlib.Data.List.Destutter
import RedemptionWatch.Proofs.Watch.CursorSafety
import RedemptionWatch.Proofs.Watch.Polls

/-!
# The life of a watcher

A live loop is idle, then polls and waits in turns, and in the end it is closed
(`Watcher.lifecycle`). It waits only after a poll that calls for this, and a backfill shows no state
at all.
-/

namespace RedemptionWatch

/-- The first states of an alternation between two. -/
def WatchState.alternation : WatchState → WatchState → Nat → List WatchState
  | _, _, 0 => []
  | a, b, n + 1 => a :: alternation b a n

namespace WatchState

/-- States that lead one to the next, from polling or waiting on, alternate until the last one,
which may be that the watcher is closed. -/
theorem destutter'_eq_alternation {a b : WatchState} (hab : a = polling ∧ b = waiting ∨
    a = waiting ∧ b = polling) {l : List WatchState} (h : (a :: l).IsChain (leads · · = true)) :
    ∃ n, l.destutter' (· ≠ ·) a =
      alternation a b (n + 1) ++ if l.getLastD a = closed then [closed] else [] := by
  induction l generalizing a b with
  | nil =>
    refine ⟨0, ?_⟩
    rcases hab with ⟨rfl, rfl⟩ | ⟨rfl, rfl⟩ <;> rfl
  | cons c l ih =>
    obtain ⟨hleads, hrest⟩ := List.isChain_cons_cons.mp h
    rw [List.getLastD_cons]
    by_cases hc : c = closed
    · subst hc
      cases l with
      | nil =>
        refine ⟨0, ?_⟩
        rcases hab with ⟨rfl, rfl⟩ | ⟨rfl, rfl⟩ <;> rfl
      | cons d l => exact nomatch (List.isChain_cons_cons.mp hrest).1
    · by_cases hca : c = a
      · subst hca
        rw [List.destutter'_cons_neg _ (by simp)]
        exact ih hab hrest
      · have hcb : c = b := by
          rcases hab with ⟨rfl, rfl⟩ | ⟨rfl, rfl⟩ <;> cases c <;> simp_all [leads]
        subst hcb
        obtain ⟨n, hn⟩ := ih (hab.symm.imp And.symm And.symm) hrest
        refine ⟨n + 1, ?_⟩
        rw [List.destutter'_cons_pos _ (Ne.symm hca), hn]
        rfl

end WatchState

namespace Watch

/-- The states that were shown, each once as long as it lasted, from the first one on. -/
def changes (log : Log interface) : List WatchState :=
  (.idle :: published log).destutter (· ≠ ·)

/-- States that lead one to the next from the beginning on are an alternation of polling and
waiting, and the last one may be that the watcher is closed. -/
theorem changes_eq {log : Log interface}
    (h : (.idle :: published log).IsChain (WatchState.leads · · = true)) :
    ∃ n, changes log = .idle :: (WatchState.alternation .polling .waiting n ++
      if shown log = .closed then [.closed] else []) := by
  unfold changes shown
  generalize published log = states at h
  rw [List.destutter_cons']
  cases states with
  | nil => exact ⟨0, rfl⟩
  | cons state states =>
    obtain ⟨hleads, hrest⟩ := List.isChain_cons_cons.mp h
    rw [List.getLastD_cons]
    cases state with
    | idle => exact nomatch hleads
    | waiting => exact nomatch hleads
    | polling =>
      obtain ⟨n, hn⟩ := WatchState.destutter'_eq_alternation (Or.inl ⟨rfl, rfl⟩) hrest
      refine ⟨n + 1, ?_⟩
      rw [List.destutter'_cons_pos _ nofun, hn]
    | closed =>
      cases states with
      | nil => exact ⟨0, rfl⟩
      | cons next states => exact nomatch (List.isChain_cons_cons.mp hrest).1

end Watch

namespace Watcher

variable {w : Watcher} {log : Log Watch.interface} {p : Watch.Act Turn}

/-- In a lawful log each state that is shown may follow the one before. -/
theorem isChain_published (h : Log.Keeps w.Lawful [] log) :
    (.idle :: Watch.published log).IsChain (WatchState.leads · · = true) := by
  induction log using List.reverseRecOn with
  | nil => exact .singleton _
  | append_singleton log e ih =>
    have hlog := ih fun before e' after heq => h before e' (after ++ [e]) (by simp [heq])
    rw [Watch.published_append, ← List.cons_append]
    refine List.isChain_append.mpr ⟨hlog, ?_, ?_⟩
    · obtain ⟨q, a⟩ := e
      cases q <;> first | exact .singleton _ | exact .nil
    · intro last hlast state hstate
      obtain ⟨q, a⟩ := e
      cases q with
      | publish shown =>
        obtain rfl : shown = state := Option.some_inj.mp hstate
        have hlawful := (h log _ [] rfl).2 shown rfl
        rw [List.getLast?_cons, ← List.getLastD_eq_getLast?] at hlast
        rw [← Option.some_inj.mp hlast]
        exact hlawful.1
      | _ => exact nomatch hstate

/-- The loop has shown that it is closed if and only if it has ended. -/
theorem shown_eq_closed_iff (h : Loop.Logs w.live (.done (.inl .start)) log p) :
    Watch.shown log = .closed ↔ ∃ result, p = .done (.inr result) := by
  have hp := (live_lawful h).2
  cases p with
  | ask q next => simpa using hp.1.1
  | done turn =>
    rcases turn with stage | result
    · have hopen : Watch.shown log ≠ .closed := by
        cases stage with
        | start =>
          cases (show log = [] from hp)
          exact nofun
        | poll position | broken reason => exact hp
        | scan position l => exact hp.1.trans_ne nofun
      simpa using hopen
    · have hended : w.Ended result log := hp
      simpa using hended.1

/-- A poll with a complete scan leads to the next poll. -/
theorem logs_of_complete {position : UInt64} {earlier events : Log Watch.interface}
    {report : ScanReport}
    (hcomes : Loop.Logs w.live (.done (.inl .start)) earlier (.done (.inl (.poll position))))
    (hpolls : w.Polls position events (.scanned report)) (hcomplete : report.complete = true) :
    ∃ next, Loop.Logs w.live (.done (.inl .start)) (earlier ++ (pollBegin ++ events))
      (.done (.inl (.poll next))) := by
  cases hpolls with
  | @scanned first rest head _ h hlt hscan =>
    have hpoll : (w.poll position).Logs (pollBegin ++ (first ++ []))
        (.done (.inl (.scan position (.start ⟨position, head⟩)))) := by
      refine .ask (.ask (h.bind ?_))
      dsimp only
      rw [if_pos hlt]
      exact .nil _
    have hround : ∀ l, w.live (.scan position l) = w.mode.scan w.retry w.liveOptions l >>=
        Sum.elim (fun l => .done (.inl (.scan position l))) (w.afterScan position) := by
      intro l
      refine congrArg (Plan.bind _) (funext fun next => ?_)
      cases next <;> rfl
    have hscanned := hscan.embed w.live (.scan position) _ (fun _ => rfl) hround
    have hafter : w.afterScan position (.ok report) =
        .done (.inl (.poll (max position (report.lastBlock.getD position)))) :=
      if_pos hcomplete
    rw [Plan.done_bind, Plan.done_bind, Sum.elim_inr, hafter] at hscanned
    rw [List.append_nil] at hpoll
    have hround := hcomes.trans (.round (hpoll.loop.trans hscanned))
    rw [List.append_assoc] at hround
    exact ⟨_, hround⟩

/-- After it stands before a poll, a live loop does not wait first. -/
theorem head_published_ne {position : UInt64}
    (h : Loop.Logs w.live (.done (.inl (.poll position))) log p) :
    (Watch.published log).head? ≠ some .waiting := by
  cases h with
  | nil => nofun
  | round h =>
    cases h with
    | nil => nofun
    | @ask _ _ answer _ _ h =>
      cases answer with
      | false =>
        cases h with
        | nil => nofun
        | ask h => nofun
      | true =>
        cases h with
        | nil => nofun
        | ask h => nofun

/-- Backfills make the requests of scans only. -/
theorem published_backfill {r : BackfillRequest}
    {q : Watch.Act (Listing ⊕ Except WatchError ScanReport)}
    (h : Loop.Logs (w.backfill r) (.done (.inl (.start r.range))) log q) :
    Watch.published log = [] := by
  cases hvalid : r.validate with
  | error e =>
    have hround : w.backfill r = fun _ => .done (.inr (.error e)) := by
      unfold backfill
      rw [hvalid]
      rfl
    rw [hround] at h
    cases h with
    | nil => rfl
    | round h =>
      cases h
      rfl
  | ok =>
    rw [w.backfill_eq_scan hvalid] at h
    exact Watch.published_eq_nil (ScanMode.logs_reported h).1

/-- **The life of a watcher.** Whatever it is answered, a live loop is idle first, then it polls and
waits in turns, beginning with a poll, and it is closed if and only if it has ended.
* It shows that it waits right after a poll that calls for this: the latest block could not be had
  or was not ahead, or the scan was not complete.
* After a poll whose scan was complete, the next state that it shows is another one.
* Backfills show no state. -/
theorem lifecycle (w : Watcher) {log : Log Watch.interface} {p : Watch.Act Turn}
    (h : Loop.Logs w.live (.done (.inl .start)) log p) :
    (∃ n, (∀ result, p = .done (.inr result) → Watch.changes log =
        .idle :: (WatchState.alternation .polling .waiting n ++ [.closed])) ∧
      ((∀ result, p ≠ .done (.inr result)) → Watch.changes log =
        .idle :: WatchState.alternation .polling .waiting n)) ∧
    (∀ before after, log = before ++ ⟨.publish .waiting, ()⟩ :: after → w.MayWait before) ∧
    (∀ earlier position events report after, log = earlier ++ (pollBegin ++ events) ++ after →
      Loop.Logs w.live (.done (.inl .start)) earlier (.done (.inl (.poll position))) →
      w.Polls position events (.scanned report) → report.complete = true →
      (Watch.published after).head? ≠ some .waiting) ∧
    ∀ r events q, Loop.Logs (w.backfill r) (.done (.inl (.start r.range))) events q →
      Watch.published events = [] := by
  have hkeeps := (live_lawful h).1
  refine ⟨?_, fun before after hlog => ?_, fun earlier position events report after hlog hcomes
    hpolls hcomplete => ?_, fun r events q => published_backfill⟩
  · obtain ⟨n, hn⟩ := Watch.changes_eq (isChain_published hkeeps)
    refine ⟨n, fun result hresult => ?_, fun hopen => ?_⟩
    · rwa [if_pos ((shown_eq_closed_iff h).mpr ⟨result, hresult⟩)] at hn
    · have hshown : Watch.shown log ≠ .closed := fun hclosed =>
        let ⟨result, hresult⟩ := (shown_eq_closed_iff h).mp hclosed
        hopen result hresult
      rwa [if_neg hshown, List.append_nil] at hn
  · exact ((hkeeps before _ after hlog).2 .waiting rfl).2 rfl
  · by_cases hafter : after = []
    · rw [hafter]
      nofun
    · obtain ⟨next, hnext⟩ := logs_of_complete hcomes hpolls hcomplete
      rw [hlog] at h
      exact head_published_ne (h.of_append hnext hafter)

/-- Blocks 7 and 8 are scanned in one poll, the next one finds nothing new, and the wait after it is
interrupted. -/
def sampleDay : Log Watch.interface :=
  [⟨.cursor 7, .ok 7⟩] ++ (pollBegin ++ [⟨.latestBlock, .ok 8⟩, ⟨.isCancelled, false⟩,
    ⟨.block 7, .ok none⟩, ⟨.isCancelled, false⟩, ⟨.block 8, .ok none⟩, ⟨.moveCursor 8, .ok ()⟩]) ++
  (pollBegin ++ [⟨.latestBlock, .ok 8⟩, ⟨.publish .waiting, ()⟩, ⟨.pause 1000, .interrupted⟩,
    ⟨.publish .closed, ()⟩])

/-- The loop is idle, polls, waits and is closed, and it may wait after the second poll. -/
theorem lifecycle_sampleDay :
    Loop.Logs sampleLive.live (.done (.inl .start)) sampleDay (.done (.inr (.ok ()))) ∧
    Watch.changes sampleDay = [.idle, .polling, .waiting, .closed] ∧
    (∃ n, Watch.changes sampleDay =
      .idle :: (WatchState.alternation .polling .waiting n ++ [.closed])) ∧
    ∃ before, sampleDay = before ++
        [⟨.publish .waiting, ()⟩, ⟨.pause 1000, .interrupted⟩, ⟨.publish .closed, ()⟩] ∧
      sampleLive.MayWait before := by
  have hlogs : Loop.Logs sampleLive.live (.done (.inl .start)) sampleDay (.done (.inr (.ok ()))) :=
    .round <| .ask <| .round <| .ask <| .ask <| .ask <| .round <| .ask <| .ask <| .ask <| .ask <|
      .ask <| .round <| .ask <| .ask <| .ask <| .ask <| .ask <| .ask <| .nil _
  obtain ⟨⟨n, hended, -⟩, hwaits, -⟩ := lifecycle sampleLive hlogs
  exact ⟨hlogs, by decide, ⟨n, hended _ rfl⟩, sampleDay.take 12, rfl, hwaits _ _ rfl⟩

end Watcher

end RedemptionWatch
