import RedemptionWatch.Proofs.Plan.Rounds
import RedemptionWatch.Proofs.Watch.ScanLogs
import RedemptionWatch.Proofs.Watch.Survey

/-!
# The readings of a listing

A scan by listings reads one page after the other. A `Listing.Reading` is what it does with one
page: it looks whether it has been cancelled, asks for the page under the retry policy, and hands
its candidates to the store. What a round comes to is read off `Listing.next_logs`: it is cancelled,
or it reads a page, after which the next one follows or the listing has ended. Between two rounds
the listing knows all pages that were read (`Listing.After`).
-/

namespace RedemptionWatch

open ActivityPage (tokens highestOf)
open Watch (interface Cancelled isMove moves)

namespace Listing

/-- What a scan by listings does with one page. -/
structure Reading where
  token : Option String
  /-- All that was asked for the page under the retry policy, with the pauses in between. -/
  asked : Log interface
  /-- What this came to. -/
  outcome : Except FetchError ActivityPage
  /-- What the store answered for each candidate. -/
  stored : List (Except StoreError UpsertOutcome)

namespace Reading

variable (r : Reading)

/-- The page, if it was had. -/
def page? : Option ActivityPage :=
  r.outcome.toOption

/-- The candidates of the page. -/
def candidates : List Candidate :=
  r.page?.toList.flatMap (·.candidates)

/-- The events of the reading. -/
def log : Log interface :=
  ⟨Watch.Request.isCancelled, false⟩ :: (r.asked ++ ScanReport.recording r.candidates r.stored)

/-- The reading is one unit of work under the retry policy: the page was asked for as the policy
says, and the store answered for every candidate. -/
structure Made (retry : RetryPolicy) (range : BlockRange) : Prop where
  asks : (retry.execute (Watch.activity range r.token)).Logs r.asked (.done r.outcome)
  stores : r.stored.length = r.candidates.length

namespace Made

variable {r} {retry : RetryPolicy} {range : BlockRange} (h : r.Made retry range)

include h

theorem recorded_log : Watch.recorded r.log = r.candidates := by
  have hasked : Watch.recorded r.asked = [] :=
    Watch.recorded_eq_nil <| Watch.forall_of_tries (p := fun q => Watch.Request.candidates q = [])
      (Watch.execute_activity_logs h.asks).1 rfl fun _ => rfl
  have hlog : Watch.recorded r.log =
      Watch.recorded (r.asked ++ ScanReport.recording r.candidates r.stored) := rfl
  rw [hlog, Watch.recorded_append, hasked, ScanReport.recorded_recording h.stores, List.nil_append]

theorem listed_log : Watch.listed r.log = r.page?.toList := by
  have hlog : Watch.listed r.log =
      Watch.listed (r.asked ++ ScanReport.recording r.candidates r.stored) := rfl
  rw [hlog, Watch.listed_append, (Watch.execute_activity_logs h.asks).2,
    ScanReport.listed_recording, List.append_nil]
  rfl

/-- A reading does not move the cursor. -/
theorem isMove_log : ∀ e ∈ r.log, isMove e.request = false := by
  intro e he
  rcases List.mem_cons.mp he with rfl | he
  · rfl
  rcases List.mem_append.mp he with he | he
  · exact Watch.forall_of_tries (p := fun q => isMove q = false)
      (Watch.execute_activity_logs h.asks).1 rfl (fun _ => rfl) e he
  · exact ScanReport.forall_recording (p := fun e => isMove e.request = false)
      (fun _ _ => rfl) e he

end Made

end Reading

variable {retry : RetryPolicy} {options : ScanOptions} {range : BlockRange} {l : Listing}
  {log : Log interface} {x : Listing ⊕ Except WatchError ScanReport}

/-- What a page leaves of a listing, if another one follows. -/
def turn (l : Listing) (page : ActivityPage) (token : String) (r : Reading) : Listing where
  token := some token
  seen := token :: l.seen
  highest := higher l.highest page.highest
  report := r.stored.foldl ScanReport.recorded l.report

/-- What a round of a scan by listings does: it is cancelled; or it reads a page and fails with it;
or it reads a page, and another one follows, or the listing has ended. -/
theorem next_logs (h : (l.next retry options).Logs log (.done x)) :
    (log = [⟨Watch.Request.isCancelled, true⟩] ∧ x = .inr (.error .cancelled)) ∨
      ∃ r : Reading, r.token = l.token ∧ r.Made retry l.report.range ∧
        ((∃ e, r.outcome = .error e ∧ log = r.log ∧
            x = .inr (if e = .cancelled then .error .cancelled else .ok l.report.skipped)) ∨
          ∃ page rest, r.outcome = .ok page ∧ log = r.log ++ rest ∧
            ((∃ token, page.next = some token ∧ token ∉ l.seen ∧ rest = [] ∧
                x = .inl (l.turn page token r)) ∨
              (∀ token ∈ page.next, token ∈ l.seen) ∧
                ∃ result, (finish options (higher l.highest page.highest)
                  (r.stored.foldl ScanReport.recorded l.report)).Logs rest (.done result) ∧
                x = .inr result)) := by
  rw [next] at h
  obtain ⟨isCancelled, look, log, rfl, hlook, hnext⟩ := h.of_bind
  obtain rfl := hlook.of_request
  rcases isCancelled with _ | _
  · refine Or.inr ?_
    obtain ⟨outcome, asked, rest, rfl, hasked, hfound⟩ :=
      Plan.Logs.of_bind (p := retry.execute (Watch.activity l.report.range l.token)) hnext
    rcases outcome with e | page
    · refine ⟨⟨l.token, asked, .error e, []⟩, rfl, ⟨hasked, rfl⟩, Or.inl ⟨e, rfl, ?_⟩⟩
      cases e with
      | cancelled =>
        have hend : Plan.Logs (pure (.inr (.error .cancelled))) rest (.done x) := hfound
        cases hend
        exact ⟨rfl, rfl⟩
      | throttled reason | remote reason | decode reason =>
        have hend : Plan.Logs (pure (.inr (.ok l.report.skipped))) rest (.done x) := hfound
        cases hend
        exact ⟨rfl, rfl⟩
    · obtain ⟨report, recorded, rest, rfl, hrecorded, hturn⟩ :=
        Plan.Logs.of_bind (p := l.report.recordAll page.candidates) hfound
      obtain ⟨stored, hlength, rfl, rfl⟩ := ScanReport.recordAll_logs hrecorded
      have hcandidates : Reading.candidates ⟨l.token, asked, .ok page, stored⟩ = page.candidates :=
        List.flatMap_singleton ..
      refine ⟨⟨l.token, asked, .ok page, stored⟩, rfl, ⟨hasked, ?_⟩,
        Or.inr ⟨page, rest, rfl, ?_, ?_⟩⟩
      · rw [hcandidates, hlength]
      · simp [Reading.log, hcandidates]
      · have hfinish : (finish options (higher l.highest page.highest)
              (stored.foldl ScanReport.recorded l.report) >>= fun result =>
            pure (Sum.inr result)).Logs rest (.done x) →
            ∃ result, (finish options (higher l.highest page.highest)
              (stored.foldl ScanReport.recorded l.report)).Logs rest (.done result) ∧
            x = .inr result := by
          intro h
          obtain ⟨result, finished, nothing, rfl, hfinished, hend⟩ := h.of_bind
          cases hend
          exact ⟨result, by rwa [List.append_nil], rfl⟩
        cases hnext' : page.next with
        | none =>
          rw [hnext'] at hturn
          exact Or.inr ⟨nofun, hfinish hturn⟩
        | some token =>
          simp only [hnext'] at hturn
          split_ifs at hturn with hseen
          · refine Or.inr ⟨?_, hfinish hturn⟩
            rintro _ ⟨⟩
            exact hseen
          · cases hturn
            exact Or.inl ⟨token, rfl, hseen, rfl, rfl⟩
  · have hend : Plan.Logs (pure (.inr (.error .cancelled))) log (.done x) := hnext
    cases hend
    exact Or.inl ⟨rfl, rfl⟩

theorem finish_logs {highest : Option UInt64} {r : ScanReport}
    {result : Except WatchError ScanReport}
    (h : (finish options highest r).Logs log (.done result)) :
    result = r.upTo (highest.getD r.range.last) ∧
      if options.persist then ∃ a, log = [⟨.moveCursor (highest.getD r.range.last), a⟩]
      else log = [] := by
  unfold finish at h
  extract_lets last at h
  cases hpersist : options.persist with
  | true =>
    rw [if_pos hpersist] at h
    obtain ⟨_, moved, rest, rfl, hmoved, hrest⟩ := h.of_bind
    obtain ⟨a, request, nothing, rfl, hrequest, hnothing⟩ := hmoved.of_bind
    obtain rfl := hrequest.of_request
    cases hnothing
    cases hrest
    exact ⟨rfl, a, rfl⟩
  | false =>
    rw [if_neg (hpersist ▸ Bool.false_ne_true)] at h
    cases h
    exact ⟨rfl, rfl⟩

/-! ## Between two rounds -/

/-- The pages that were had. -/
def pages (readings : List Reading) : List ActivityPage :=
  readings.flatMap fun r => r.page?.toList

section

variable {readings : List Reading} (h : ∀ r ∈ readings, r.Made retry range)

include h

theorem isMove_flatMap_log : ∀ e ∈ readings.flatMap Reading.log, isMove e.request = false := by
  intro e he
  obtain ⟨r, hr, he⟩ := List.mem_flatMap.mp he
  exact (h r hr).isMove_log e he

theorem listed_flatMap_log : Watch.listed (readings.flatMap Reading.log) = pages readings := by
  rw [Watch.listed, List.filterMap_flatMap]
  exact List.flatMap_congr fun r hr => (h r hr).listed_log

theorem recorded_flatMap_log :
    Watch.recorded (readings.flatMap Reading.log) = (pages readings).flatMap (·.candidates) := by
  rw [Watch.recorded, pages, List.flatMap_assoc, List.flatMap_assoc]
  exact List.flatMap_congr fun r hr => (h r hr).recorded_log

end

/-- Between two rounds a listing knows the readings so far. -/
structure After (retry : RetryPolicy) (range : BlockRange) (readings : List Reading) (l : Listing) :
    Prop where
  made : ∀ r ∈ readings, r.Made retry range
  answered : ∀ r ∈ readings, ∃ page, r.outcome = .ok page
  asks : readings.map (·.token) ++ [l.token] = none :: (tokens (pages readings)).map some
  seen : l.seen = (tokens (pages readings)).reverse
  nodup : l.seen.Nodup
  highest : l.highest = highestOf (pages readings)
  range_eq : l.report.range = range
  lastBlock : l.report.lastBlock = none
  unfinished : l.report.complete = false

theorem after_start (retry : RetryPolicy) (range : BlockRange) :
    After retry range [] (.start range) where
  made _ h := absurd h List.not_mem_nil
  answered _ h := absurd h List.not_mem_nil
  asks := rfl
  seen := rfl
  nodup := List.nodup_nil
  highest := rfl
  range_eq := rfl
  lastBlock := rfl
  unfinished := rfl

variable {readings : List Reading} {r : Reading} {page : ActivityPage} {token : String}

theorem pages_snoc (h : r.outcome = .ok page) :
    pages (readings ++ [r]) = pages readings ++ [page] := by
  rw [pages, List.flatMap_append, List.flatMap_singleton, Reading.page?, h]
  rfl

/-- One more page is read, and another one follows. -/
theorem After.snoc (h : After retry range readings l) (hr : r.Made retry range)
    (htoken : r.token = l.token) (hpage : r.outcome = .ok page) (hnext : page.next = some token)
    (hfresh : token ∉ l.seen) : After retry range (readings ++ [r]) (l.turn page token r) := by
  have hpages : pages (readings ++ [r]) = pages readings ++ [page] := pages_snoc hpage
  have htokens : tokens (pages (readings ++ [r])) = tokens (pages readings) ++ [token] := by
    rw [hpages, ActivityPage.tokens_snoc, hnext]
    rfl
  obtain ⟨written, rejected, hstored⟩ := l.report.foldl_recorded r.stored
  have hreport : (l.turn page token r).report = r.stored.foldl ScanReport.recorded l.report := rfl
  refine ⟨?_, ?_, ?_, ?_, ?_, ?_, ?_, ?_, ?_⟩
  · exact List.forall_mem_append.mpr ⟨h.made, List.forall_mem_singleton.mpr hr⟩
  · exact List.forall_mem_append.mpr ⟨h.answered, List.forall_mem_singleton.mpr ⟨page, hpage⟩⟩
  · rw [List.map_append, List.map_singleton, htoken, h.asks, htokens, List.map_append]
    rfl
  · rw [htokens, List.reverse_append, ← h.seen]
    rfl
  · exact List.nodup_cons.mpr ⟨hfresh, h.nodup⟩
  · rw [hpages, ActivityPage.highestOf_snoc, ← h.highest]
    rfl
  · rw [hreport, hstored]
    exact h.range_eq
  · rw [hreport, hstored]
    exact h.lastBlock
  · rw [hreport, hstored]
    exact h.unfinished

/-- Whole rounds of a scan are readings of its pages. -/
theorem after_of_rounds (h : Loop.Rounds (next retry options) (.start range) log l) :
    ∃ readings, log = readings.flatMap Reading.log ∧ After retry range readings l := by
  induction h with
  | start => exact ⟨[], rfl, after_start retry range⟩
  | snoc _ hround ih =>
    obtain ⟨readings, rfl, hafter⟩ := ih
    rcases next_logs hround with ⟨-, hend⟩ | ⟨r, htoken, hr, ⟨e, -, -, hend⟩ |
      ⟨page, rest, hpage, rfl, ⟨token, hnext, hfresh, rfl, hturn⟩ | ⟨-, report, -, hend⟩⟩⟩
    · exact nomatch hend
    · exact nomatch hend
    · cases hturn
      rw [hafter.range_eq] at hr
      refine ⟨readings ++ [r], ?_, hafter.snoc hr htoken hpage hnext hfresh⟩
      rw [List.append_nil, List.flatMap_append, List.flatMap_singleton]
    · exact nomatch hend

end Listing

end RedemptionWatch
