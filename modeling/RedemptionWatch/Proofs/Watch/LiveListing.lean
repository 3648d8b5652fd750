import RedemptionWatch.Proofs.Watch.Survey

/-!
# Listings keep to their survey

Whatever a scan by listings is answered, it never does what its survey refuses, be it a scan of a
given range (`Listing.logs_accepted`) or one of a live loop (`Watcher.listings_accepted`).

Between two pages the survey stands where the listing stands (`Survey.At`). When the listing has
ended, the live loop goes on from the position of the survey (`Survey.After`).
-/

namespace RedemptionWatch

open ActivityPage

namespace Survey

/-- The survey stands where the listing stands. -/
structure At (live : Bool) (l : Listing) (s : Survey) : Prop where
  live : s.live = live
  pending : s.pending = []
  range : s.range = some l.report.range
  position : s.position = l.report.range.first
  token : s.token = l.token
  ended : s.ended = false
  seen : ∀ token, token ∈ l.seen ↔ token ∈ tokens s.pages
  highest : l.highest = highestOf s.pages
  lastBlock : l.report.lastBlock = none

/-- What a listing of the range leaves. -/
def After (live : Bool) (options : ScanOptions) (range : BlockRange) :
    Except WatchError ScanReport → Survey → Prop
  | .ok report, s => s.live = live ∧ s.pending = [] ∧ (options.persist = true →
      s.position = max range.first (report.lastBlock.getD range.first))
  | .error _, s => s.live = live ∧ s.pending = []

variable {s : Survey} {l : Listing} {retry : RetryPolicy} {options : ScanOptions}
  {range : BlockRange} {live : Bool}

theorem At.start (live : Bool) (range : BlockRange) :
    (Survey.begin live range).At live (.start range) :=
  ⟨rfl, rfl, rfl, rfl, rfl, rfl, fun _ => Iff.rfl, rfl, rfl⟩

/-- Asking for a page leaves the survey as it is, or reads the page. -/
theorem execute_activity_obeys (retry : RetryPolicy) (h : s.At live l) :
    (retry.execute (Watch.activity l.report.range l.token)).Obeys step (fun a t => t = s.read a)
      s := by
  refine Watch.attempt_obeys (fun t ht => ?_) (fun t ht => ?_) (fun _ _ ht => ht) (fun _ ht => ht)
    retry.delay retry.retries rfl
  · rw [ht]
    exact idles h.pending
  · rw [ht]
    exact activity_obeys h.pending ⟨h.range, h.token, h.ended⟩

/-- When the listing has ended, the cursor moves to its highest block. -/
theorem finish_obeys {report : ScanReport} (hlive : s.live = live) (hp : s.pending = [])
    (hended : s.ended = true) (hrange : s.range = some report.range)
    (hposition : s.position = report.range.first) :
    (Listing.finish options (highestOf s.pages) report).Obeys step
      (After live options report.range) s := by
  have hresult {t : Survey} {last : UInt64} (hlive : t.live = live) (hp : t.pending = [])
      (hmoved : options.persist = true → t.position = max report.range.first last) :
      After live options report.range (report.upTo last) t := by
    unfold ScanReport.upTo
    cases report.range.reach last with
    | error reason => exact ⟨hlive, hp⟩
    | ok blocks => exact ⟨hlive, hp, hmoved⟩
  unfold Listing.finish
  extract_lets last
  cases hpersist : options.persist with
  | false => exact hresult hlive hp fun h => absurd (hpersist.symm.trans h) nofun
  | true =>
    refine (moveCursor_obeys hp ⟨hended, report.range, hrange, rfl⟩).bind ?_
    rintro _ _ rfl
    exact hresult hlive rfl fun _ => by rw [hposition]; rfl

/-- What the round of a listing leaves. -/
abbrev AfterPage (live : Bool) (options : ScanOptions) (range : BlockRange)
    (turn : Listing ⊕ Except WatchError ScanReport) (s : Survey) : Prop :=
  turn.elim (fun l => l.report.range = range ∧ s.At live l) (After live options range · s)

/-- A page is asked for, its candidates are recorded, and either the next page follows or the
listing has ended. -/
theorem next_obeys (h : s.At live l) :
    (l.next retry options).Obeys step (AfterPage live options l.report.range) s := by
  unfold Listing.next
  refine (idles h.pending).isCancelled_obeys.bind ?_
  rintro (_ | _) s rfl
  · refine (execute_activity_obeys retry h).bind ?_
    rintro (e | page) t ht
    · obtain rfl : s = t := ht.symm
      have hskipped : After live options l.report.range (.ok l.report.skipped) s := by
        refine ⟨h.live, h.pending, fun _ => ?_⟩
        have hlast : l.report.skipped.lastBlock = none := h.lastBlock
        rw [hlast, h.position]
        exact (if_pos (UInt64.le_refl _)).symm
      cases e with
      | cancelled => exact ⟨h.live, h.pending⟩
      | throttled reason => exact hskipped
      | remote reason => exact hskipped
      | decode reason => exact hskipped
    · subst ht
      have hrecord : ∀ c rest t, t = { s.read (.ok page) with pending := c :: rest } →
          (Watch.record c).Obeys step
            (fun _ t => t = { s.read (.ok page) with pending := rest }) t := by
        rintro c rest _ rfl
        exact record_obeys rfl
      refine (ScanReport.recordAll_obeys
        (fun rest t => t = { s.read (.ok page) with pending := rest }) hrecord l.report
        page.candidates rfl).bind ?_
      rintro report _ ⟨rfl, hrange, hlast⟩
      have hhighest : Listing.higher l.highest page.highest = highestOf (s.pages ++ [page]) := by
        rw [highestOf_snoc, h.highest]
      have hfinish (hends : page.EndsAfter s.pages) :
          (Listing.finish options (Listing.higher l.highest page.highest) report >>= fun report' =>
            pure (Sum.inr report')).Obeys step (AfterPage live options l.report.range)
            { s.read (.ok page) with pending := [] } := by
        rw [hhighest, ← hrange]
        have hrange' : s.range = some report.range := h.range.trans (congrArg some hrange.symm)
        refine (finish_obeys (s := { s.read (.ok page) with pending := [] }) h.live rfl
          (decide_eq_true hends) hrange' (h.position.trans (congrArg _ hrange.symm))).bind ?_
        exact fun report' t ht => ht
      rcases hnext : page.next with _ | token
      · exact hfinish (by simp [EndsAfter, hnext])
      · simp only
        split_ifs with hseen
        · refine hfinish ?_
          rintro _ hmem
          obtain rfl := Option.some_inj.mp (hnext.symm.trans hmem)
          exact (h.seen token).mp hseen
        · have hends : ¬page.EndsAfter s.pages :=
            fun hends => hseen ((h.seen token).mpr (hends token hnext))
          refine ⟨hrange, h.live, rfl, h.range.trans (congrArg some hrange.symm),
            h.position.trans (congrArg _ hrange.symm), hnext, decide_eq_false hends, fun t => ?_,
            hhighest, hlast.trans h.lastBlock⟩
          have htokens : tokens (s.pages ++ [page]) = tokens s.pages ++ [token] := by
            rw [tokens_snoc, hnext]
            rfl
          change t ∈ token :: l.seen ↔ t ∈ tokens (s.pages ++ [page])
          rw [htokens, List.mem_cons, List.mem_append, List.mem_singleton, h.seen, or_comm]
  · exact ⟨h.live, h.pending⟩

end Survey

/-- The survey of a range accepts every log of its scan. -/
theorem Listing.logs_accepted {retry : RetryPolicy} {options : ScanOptions} {range : BlockRange}
    {log : Log Watch.interface} {p : Watch.Act (Listing ⊕ Except WatchError ScanReport)}
    (h : Loop.Logs (Listing.next retry options) (.done (.inl (.start range))) log p) :
    ∃ s, log.foldlM Survey.step (Survey.begin false range) = some s := by
  have hround : ∀ l s, l.report.range = range ∧ Survey.At false l s →
      (Listing.next retry options l).Obeys Survey.step
        (Survey.AfterPage false options range) s := by
    rintro l s ⟨rfl, hl⟩
    exact Survey.next_obeys hl
  obtain ⟨s, hs, -⟩ := Loop.Logs.obeys hround h
    (show Survey.AfterPage false options range (.inl (.start range)) (Survey.begin false range)
      from ⟨rfl, Survey.At.start false range⟩)
  exact ⟨s, hs⟩

/-! ## The live loop -/

namespace Watcher

open Survey

/-- What holds between two rounds of a live loop by listings. -/
def SurveyKeeps : Stage → Survey → Prop
  | .start, _ => False
  | .poll position, s => s.live = true ∧ s.pending = [] ∧ s.position = position
  | .scan position l, s => l.report.range.first = position ∧ s.At true l
  | .broken _, s => s.pending = []

/-- What a round of a live loop by listings leaves. -/
abbrev AfterSurvey (turn : Turn) (s : Survey) : Prop :=
  turn.elim (SurveyKeeps · s) fun _ => s.pending = []

variable (w : Watcher) {s : Survey} {position : UInt64}

theorem pollListing_obeys (h : s.live = true ∧ s.pending = [] ∧ s.position = position) :
    (w.poll position).Obeys step AfterSurvey s := by
  refine poll_obeys (fun s => s.live = true ∧ s.pending = [] ∧ s.position = position)
    (fun _ hs => idles hs.2.1) (fun _ hs _ => hs.2.1) (fun _ hs => hs)
    (fun s hs e => ⟨s, if_pos ⟨hs.2.1, hs.1⟩, hs⟩) ?_ h
  rintro s ⟨hlive, hp, rfl⟩ head
  refine ⟨s.sighted (.ok head), if_pos ⟨hp, hlive⟩, ?_⟩
  by_cases hlt : s.position < head
  · have hsighted : s.sighted (.ok head) = begin true ⟨s.position, head⟩ :=
      (if_pos hlt).trans (by rw [hlive])
    rw [hsighted]
    exact ⟨⟨rfl, rfl, rfl⟩, fun _ => ⟨rfl, At.start true _⟩⟩
  · have hsighted : s.sighted (.ok head) = Survey.start true s.position :=
      (if_neg hlt).trans (by rw [hlive])
    rw [hsighted]
    exact ⟨⟨rfl, rfl, rfl⟩, fun h => absurd h hlt⟩

/-- The live loop never does what its survey refuses. -/
theorem liveListing_obeys (hmode : w.mode = .activity) (stage : Stage) (s : Survey)
    (h : SurveyKeeps stage s) : (w.live stage).Obeys step AfterSurvey s := by
  cases stage with
  | start => exact h.elim
  | poll position => exact pollListing_obeys w h
  | scan position l =>
    obtain ⟨rfl, hat⟩ := h
    rw [Watcher.live, hmode]
    refine (next_obeys hat).bind ?_
    rintro (l' | result) t ht
    · obtain ⟨hrange, hat'⟩ := ht
      exact ⟨congrArg _ hrange, hat'⟩
    · have hp : t.pending = [] := by
        cases result with
        | error e => exact ht.2
        | ok report => exact ht.2.1
      refine afterScan_obeys result (idles hp) (fun _ => hp) (fun _ => hp) ?_
      rintro report rfl
      exact ⟨ht.1, ht.2.1, ht.2.2 rfl⟩
  | broken reason => exact h

/-- The survey accepts every log of a live loop from the first poll on. -/
theorem listings_accepted (hmode : w.mode = .activity) {start : UInt64}
    {log : Log Watch.interface} {p : Watch.Act Turn}
    (h : Loop.Logs w.live (.done (.inl (.poll start))) log p) :
    ∃ s, log.foldlM step (Survey.start true start) = some s := by
  obtain ⟨s, hs, -⟩ := Loop.Logs.obeys (liveListing_obeys w hmode) h
    (show AfterSurvey (.inl (.poll start)) (Survey.start true start) from ⟨rfl, rfl, rfl⟩)
  exact ⟨s, hs⟩

end Watcher

end RedemptionWatch
