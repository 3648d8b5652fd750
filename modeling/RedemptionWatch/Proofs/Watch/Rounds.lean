import RedemptionWatch.Proofs.Plan.Log
import RedemptionWatch.Watch.Watcher

/-!
# Rounds of a live loop

What live loops do apart from their scans is the same for every kind of scan. They read the cursor
first (`Watcher.logs_start`), ask under a retry policy, hand candidates to the store one after the
other, and wait between two polls. Here it is shown once for any monitor what these rounds need of
it: that it lets a watcher idle (`Watch.Idles`), and that what is to hold after a round survives the
requests that the round makes.
-/

namespace RedemptionWatch

variable {S α : Type} {step : S → Event Watch.interface → Option S} {s : S}

namespace Watch

/-- The requests of a log. -/
def requests (log : Log interface) : List Request :=
  log.map (·.request)

theorem requests_append (log log' : Log interface) :
    requests (log ++ log') = requests log ++ requests log' :=
  List.map_append

/-- In this state a monitor lets a watcher pause, look whether it has been cancelled and show its
state, and learns nothing from it. -/
structure Idles (step : S → Event interface → Option S) (s : S) : Prop where
  pause : ∀ millis pauseEnd, step s ⟨.pause millis, pauseEnd⟩ = some s
  isCancelled : ∀ answer, step s ⟨.isCancelled, answer⟩ = some s
  publish : ∀ state, step s ⟨.publish state, ()⟩ = some s

namespace Idles

theorem pause_obeys (h : Idles step s) (millis : Nat) :
    (Watch.pause millis).Obeys step (fun _ t => t = s) s :=
  fun pauseEnd => ⟨s, h.pause millis pauseEnd, rfl⟩

theorem isCancelled_obeys (h : Idles step s) :
    Watch.isCancelled.Obeys step (fun _ t => t = s) s :=
  fun answer => ⟨s, h.isCancelled answer, rfl⟩

theorem publish_obeys (h : Idles step s) (state : WatchState) :
    (Watch.publish state).Obeys step (fun _ t => t = s) s :=
  fun _ => ⟨s, h.publish state, rfl⟩

end Idles

/-- Retries keep what `ask` keeps when it is throttled. -/
theorem attempt_obeys {ask : Act (Except FetchError α)} {keeps : S → Prop}
    {post : Except FetchError α → S → Prop} (hidles : ∀ s, keeps s → Idles step s)
    (hask : ∀ s, keeps s → ask.Obeys step post s)
    (hthrottled : ∀ reason s, post (.error (.throttled reason)) s → keeps s)
    (hcancelled : ∀ s, keeps s → post (.error .cancelled) s) (delay retries : Nat) (h : keeps s) :
    (attempt ask delay retries).Obeys step post s := by
  induction retries generalizing s with
  | zero => exact hask s h
  | succ retries ih =>
    unfold attempt
    refine (hask s h).bind ?_
    rintro (e | a) t ht
    · cases e with
      | throttled reason =>
        have hkeeps := hthrottled reason t ht
        refine ((hidles t hkeeps).pause_obeys delay).bind ?_
        rintro (_ | _) _ rfl
        · exact ih hkeeps
        · exact hcancelled _ hkeeps
      | remote reason => exact ht
      | decode reason => exact ht
      | cancelled => exact ht
    · exact ht

end Watch

/-- If the monitor lets each candidate in turn be recorded, all are recorded, and the report still
stands where it stood. -/
theorem ScanReport.recordAll_obeys (left : List Candidate → S → Prop)
    (hrecord : ∀ c rest s, left (c :: rest) s → (Watch.record c).Obeys step (fun _ => left rest) s)
    (report : ScanReport) (candidates : List Candidate) (h : left candidates s) :
    (report.recordAll candidates).Obeys step (fun report' t => left [] t ∧
      report'.range = report.range ∧ report'.lastBlock = report.lastBlock) s := by
  induction candidates generalizing report s with
  | nil => exact ⟨h, rfl, rfl⟩
  | cons c rest ih =>
    unfold ScanReport.recordAll
    refine (hrecord c rest s h).bind fun outcome t ht => ?_
    have hreport : (report.recorded outcome).range = report.range ∧
        (report.recorded outcome).lastBlock = report.lastBlock := by
      unfold ScanReport.recorded
      split <;> exact ⟨rfl, rfl⟩
    exact (ih (report.recorded outcome) ht).mono fun report' u ⟨hu, hrange, hlast⟩ =>
      ⟨hu, hrange.trans hreport.1, hlast.trans hreport.2⟩

namespace Watcher

variable {w : Watcher} {position : UInt64} {post : Turn → S → Prop}

/-- A live loop begins by reading the cursor. If it cannot be read, nothing follows but that the
loop shows that it has ended. -/
theorem logs_start {log : Log Watch.interface} {p : Watch.Act Turn}
    (h : Loop.Logs w.live (.done (.inl .start)) log p) :
    log = [] ∨
    (∃ reason rest, log = ⟨.cursor w.initialBlock, .error reason⟩ :: rest ∧
      ∀ e ∈ rest, e.request = .publish .closed) ∨
    ∃ start rest, log = ⟨.cursor w.initialBlock, .ok start⟩ :: rest ∧
      Loop.Logs w.live (.done (.inl (.poll start))) rest p := by
  cases h with
  | nil => exact Or.inl rfl
  | round h =>
    obtain ⟨next, hstart, hok, herror⟩ : ∃ next : Except StoreError UInt64 → Watch.Act Turn,
        w.live .start = .ask (P := Watch.interface) (.cursor w.initialBlock) next ∧
        (∀ position, next (.ok position) = .done (.inl (.poll position))) ∧
        ∀ e, next (.error e) = Watcher.close (.error (.cursor e)) :=
      ⟨_, rfl, fun _ => rfl, fun _ => rfl⟩
    rw [hstart] at h
    cases h with
    | nil => exact Or.inl rfl
    | @ask _ _ a rest _ h =>
      cases a with
      | error reason =>
        refine Or.inr (Or.inl ⟨reason, rest, rfl, ?_⟩)
        rw [herror] at h
        have hclose : Watcher.close (.error (.cursor reason)) =
            .ask (P := Watch.interface) (.publish .closed)
              fun _ => .done (.inr (.error (.cursor reason))) := rfl
        rw [hclose] at h
        cases h with
        | nil => simp
        | ask h =>
          cases h
          intro e he
          rw [List.mem_singleton.mp he]
      | ok start =>
        rw [hok] at h
        exact Or.inr (Or.inr ⟨start, rest, rfl, h⟩)

/-- What comes before a move of the cursor begins with reading it. -/
theorem exists_rest_of_moveCursor {log before after : Log Watch.interface} {p : Watch.Act Turn}
    {block : UInt64} {result : Except StoreError Unit}
    (h : Loop.Logs w.live (.done (.inl .start)) log p)
    (hlog : log = before ++ ⟨.moveCursor block, result⟩ :: after) :
    ∃ start rest, before = ⟨.cursor w.initialBlock, .ok start⟩ :: rest ∧
      Loop.Logs w.live (.done (.inl (.poll start))) (rest ++ ⟨.moveCursor block, result⟩ :: after)
        p := by
  rcases logs_start h with rfl | ⟨reason, rest, rfl, hrest⟩ | ⟨start, rest, rfl, hrest⟩
  · simp at hlog
  · cases before with
    | nil => exact nomatch (List.cons.inj hlog).1
    | cons e before =>
      have hmem : (⟨.moveCursor block, result⟩ : Event Watch.interface) ∈ rest := by
        rw [(List.cons.inj hlog).2]
        simp
      exact nomatch hrest _ hmem
  · cases before with
    | nil => exact nomatch (List.cons.inj hlog).1
    | cons e before =>
      obtain ⟨rfl, rfl⟩ := List.cons.inj hlog
      exact ⟨start, before, rfl, hrest⟩

theorem close_obeys {result : Except WatchError Unit} (h : Watch.Idles step s)
    (hclose : post (.inr result) s) : (Watcher.close result).Obeys step post s := by
  unfold Watcher.close
  refine (h.publish_obeys .closed).bind ?_
  rintro _ _ rfl
  exact hclose

theorem rest_obeys (h : Watch.Idles step s) (hclose : ∀ result, post (.inr result) s)
    (hpoll : post (.inl (.poll position)) s) : (w.rest position).Obeys step post s := by
  unfold Watcher.rest
  refine (h.publish_obeys .waiting).bind ?_
  rintro _ _ rfl
  refine (h.pause_obeys w.wait).bind ?_
  rintro (_ | _) _ rfl
  · exact hpoll
  · exact close_obeys h (hclose _)

/-- A poll needs a monitor that lets the latest block be asked for. Answers other than a block are
to leave what holds before polls, a block is to allow a scan up to it if it lies ahead. -/
theorem poll_obeys (before : S → Prop) (hidles : ∀ s, before s → Watch.Idles step s)
    (hclose : ∀ s, before s → ∀ result, post (.inr result) s)
    (hpoll : ∀ s, before s → post (.inl (.poll position)) s)
    (hfailed : ∀ s, before s → ∀ e, ∃ t, step s ⟨.latestBlock, .error e⟩ = some t ∧ before t)
    (hfound : ∀ s, before s → ∀ head, ∃ t, step s ⟨.latestBlock, .ok head⟩ = some t ∧ before t ∧
      (position < head → post (.inl (.scan position (.start ⟨position, head⟩))) t))
    (h : before s) : (w.poll position).Obeys step post s := by
  unfold Watcher.poll
  refine ((hidles s h).isCancelled_obeys).bind ?_
  rintro (_ | _) _ rfl
  · refine ((hidles _ h).publish_obeys .polling).bind ?_
    rintro _ s rfl
    have hask : ∀ s, before s → Watch.latestBlock.Obeys step (fun a t => before t ∧
        ∀ head, a = .ok head → position < head →
          post (.inl (.scan position (.start ⟨position, head⟩))) t) s := by
      rintro s hs (e | head)
      · obtain ⟨t, hstep, ht⟩ := hfailed s hs e
        exact ⟨t, hstep, ht, nofun⟩
      · obtain ⟨t, hstep, ht, hscan⟩ := hfound s hs head
        refine ⟨t, hstep, ht, ?_⟩
        rintro _ ⟨⟩
        exact hscan
    have hexecute := Watch.attempt_obeys hidles hask (fun _ _ ht => ht.1)
      (fun _ hs => ⟨hs, nofun⟩) w.retry.delay w.retry.retries h
    refine Plan.Obeys.bind (p := w.retry.execute Watch.latestBlock) hexecute ?_
    rintro (e | head) t ⟨ht, hscan⟩
    · cases e with
      | cancelled => exact close_obeys (hidles t ht) (hclose t ht _)
      | throttled reason => exact rest_obeys (hidles t ht) (hclose t ht) (hpoll t ht)
      | remote reason => exact rest_obeys (hidles t ht) (hclose t ht) (hpoll t ht)
      | decode reason => exact rest_obeys (hidles t ht) (hclose t ht) (hpoll t ht)
    · simp only
      split_ifs with hlt
      · exact hscan head rfl hlt
      · exact rest_obeys (hidles t ht) (hclose t ht) (hpoll t ht)
  · exact close_obeys (hidles _ h) (hclose _ h _)

theorem afterScan_obeys (result : Except WatchError ScanReport) (h : Watch.Idles step s)
    (hclose : ∀ result, post (.inr result) s)
    (hbroken : ∀ reason, post (.inl (.broken reason)) s)
    (hpoll : ∀ report, result = .ok report →
      post (.inl (.poll (max position (report.lastBlock.getD position)))) s) :
    (w.afterScan position result).Obeys step post s := by
  cases result with
  | error e =>
    cases e with
    | broken reason => exact hbroken reason
    | cancelled | cursor reason | unknownChain name | invalidRange reason =>
      exact close_obeys h (hclose _)
  | ok report =>
    unfold Watcher.afterScan
    simp only
    split_ifs
    · exact hpoll report rfl
    · exact rest_obeys h hclose (hpoll report rfl)

end Watcher

end RedemptionWatch
