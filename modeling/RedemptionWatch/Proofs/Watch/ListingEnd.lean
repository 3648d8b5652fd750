import Mathlib.Data.Finset.Option
import RedemptionWatch.Proofs.Watch.Readings
import RedemptionWatch.Proofs.Watch.Restart

/-!
# Where a scan by listings ends

A scan by listings goes on by the tokens that the endpoint names, which may change from request to
request. It asks for no page twice, so it ends after at most one page more than there are tokens
(`Listing.scan_terminates`). It moves its cursor once at most, when the listing has ended, to the
highest block that was listed; nothing comes after that (`Listing.ended_of_moves`). If a page cannot
be had, the cursor stays where it is.
-/

namespace RedemptionWatch

open ActivityPage (tokens highestOf)
open Watch (interface isMove moves)

namespace Listing

variable {retry : RetryPolicy} {options : ScanOptions} {range : BlockRange} {l : Listing}
  {log : Log interface} {readings : List Reading} {result : Except WatchError ScanReport}

/-- The result of a listing that has come up to this block. The report names the block and counts
the blocks up to it; if they are too many to count, the scan breaks off. -/
def Reaches (range : BlockRange) (block : UInt64) (result : Except WatchError ScanReport) : Prop :=
  match range.reach block with
  | .error reason => result = .error (.broken reason)
  | .ok blocks => ∃ report, result = .ok report ∧ report.lastBlock = some block ∧
      report.blocksProcessed = blocks ∧ (report.complete = true ↔ range.last ≤ block)

theorem reaches_upTo (report : ScanReport) (block : UInt64) :
    Reaches report.range block (report.upTo block) := by
  unfold Reaches ScanReport.upTo
  cases report.range.reach block with
  | error reason => rfl
  | ok blocks => exact ⟨_, rfl, rfl, rfl, decide_eq_true_iff⟩

/-- What a scan by listings that has ended has done. -/
structure Reads (retry : RetryPolicy) (options : ScanOptions) (range : BlockRange)
    (log : Log interface) (readings : List Reading) (result : Except WatchError ScanReport) :
    Prop where
  /-- Each page is one unit of work under the retry policy. -/
  made : ∀ r ∈ readings, r.Made retry range
  /-- The pages are asked for in turn, the first one without a token and each other one by the token
  that the page before it names. -/
  asks : readings.map (·.token) <+: none :: (tokens (pages readings)).map some
  /-- None is asked for twice. -/
  nodup : (readings.map (·.token)).Nodup
  /-- Apart from its readings, the scan moves its cursor, or sees that it is cancelled. -/
  log_eq : log.without isMove = readings.flatMap Reading.log ∨
    log = readings.flatMap Reading.log ++ [⟨Watch.Request.isCancelled, true⟩]
  /-- These are the pages that were listed. -/
  listed : Watch.listed log = pages readings
  /-- Each candidate is handed to the store once, in the order of the pages. -/
  recorded : Watch.recorded log = (pages readings).flatMap (·.candidates)
  /-- The cursor moves only when the listing has ended, and to the highest block. -/
  moved : moves log = [] ∨ ∃ earlier page block, options.persist = true ∧
    pages readings = earlier ++ [page] ∧ page.EndsAfter earlier ∧
    (∃ a, log = readings.flatMap Reading.log ++ [⟨.moveCursor block, a⟩]) ∧ moves log = [block] ∧
    ActivityPage.IsHighest (pages readings) range.last block ∧ Reaches range block result
  /-- If a page cannot be had, the cursor stays, and the report says so. -/
  failed : ∀ r ∈ readings, ∀ e, r.outcome = .error e → e ≠ .cancelled → moves log = [] ∧
    ∃ report, result = .ok report ∧ report.lastBlock = none ∧ report.complete = false

theorem After.nodup_asks (h : After retry range readings l) :
    (readings.map (·.token) ++ [l.token]).Nodup := by
  rw [h.asks]
  have htokens : (tokens (pages readings)).Nodup := by
    rw [← List.nodup_reverse, ← h.seen]
    exact h.nodup
  refine List.nodup_cons.mpr ⟨?_, htokens.map fun _ _ => Option.some_inj.mp⟩
  simp

section

variable (h : ∀ r ∈ readings, r.Made retry range)

include h

theorem without_flatMap_log :
    Log.without isMove (readings.flatMap Reading.log) = readings.flatMap Reading.log :=
  List.filter_eq_self.mpr fun e he => by simp [isMove_flatMap_log h e he]

theorem moves_flatMap_log : moves (readings.flatMap Reading.log) = [] :=
  Watch.moves_eq_nil (isMove_flatMap_log h)

end

namespace After

variable {r : Reading} {page : ActivityPage} {rest : Log interface}
  (h : After retry range readings l)

include h

theorem outcome_ne_error : ∀ r ∈ readings, ∀ e, r.outcome ≠ .error e := by
  intro r hr e he
  obtain ⟨page, hpage⟩ := h.answered r hr
  exact nomatch he.symm.trans hpage

/-- The reading of the round under way comes after those of the rounds before. -/
theorem last (htoken : r.token = l.token) (hr : r.Made retry l.report.range) :
    (∀ r' ∈ readings ++ [r], r'.Made retry range) ∧
      (readings ++ [r]).map (·.token) = none :: (tokens (pages readings)).map some ∧
      ((readings ++ [r]).map (·.token)).Nodup := by
  have hasks : (readings ++ [r]).map (·.token) = readings.map (·.token) ++ [l.token] := by
    rw [List.map_append, List.map_singleton, htoken]
  rw [h.range_eq] at hr
  refine ⟨List.forall_mem_append.mpr ⟨h.made, List.forall_mem_singleton.mpr hr⟩, ?_, ?_⟩
  · rw [hasks, h.asks]
  · rw [hasks]
    exact h.nodup_asks

/-- The scan is cancelled before it asks for the next page. -/
theorem reads_cancelled : Reads retry options range
    (readings.flatMap Reading.log ++ [⟨Watch.Request.isCancelled, true⟩]) readings result where
  made := h.made
  asks := ⟨[l.token], h.asks⟩
  nodup := (List.nodup_append.mp h.nodup_asks).1
  log_eq := Or.inr rfl
  listed := by
    rw [Watch.listed_append, listed_flatMap_log h.made]
    exact List.append_nil _
  recorded := by
    rw [Watch.recorded_append, recorded_flatMap_log h.made]
    exact List.append_nil _
  moved := by
    rw [Watch.moves_append, moves_flatMap_log h.made]
    exact Or.inl rfl
  failed r hr e he := absurd he (h.outcome_ne_error r hr e)

/-- The next page cannot be had. -/
theorem reads_failed {e : FetchError} (htoken : r.token = l.token)
    (hr : r.Made retry l.report.range) (he : r.outcome = .error e)
    (hresult : e ≠ .cancelled → result = .ok l.report.skipped) :
    Reads retry options range ((readings ++ [r]).flatMap Reading.log) (readings ++ [r]) result := by
  obtain ⟨hmade, hasks, hnodup⟩ := h.last htoken hr
  have hpages : pages (readings ++ [r]) = pages readings := by
    rw [pages, List.flatMap_append, List.flatMap_singleton, Reading.page?, he]
    exact List.append_nil _
  have hmoves := moves_flatMap_log hmade
  refine ⟨hmade, ?_, hnodup, Or.inl (without_flatMap_log hmade), listed_flatMap_log hmade,
    recorded_flatMap_log hmade, Or.inl hmoves, fun r' hr' e' he' hne => ⟨hmoves, ?_⟩⟩
  · rw [hasks, hpages]
  · rcases List.mem_append.mp hr' with hr' | hr'
    · exact absurd he' (h.outcome_ne_error r' hr' e')
    · obtain rfl := List.mem_singleton.mp hr'
      obtain rfl : e = e' := Except.error.inj (he.symm.trans he')
      exact ⟨_, hresult hne, h.lastBlock, h.unfinished⟩

theorem range_foldl_recorded : (r.stored.foldl ScanReport.recorded l.report).range = range := by
  obtain ⟨written, rejected, hstored⟩ := l.report.foldl_recorded r.stored
  rw [hstored, ← h.range_eq]

/-- The highest block of the pages so far and of one more, or the end of the range. -/
theorem getD_higher (hpage : r.outcome = .ok page) :
    (higher l.highest page.highest).getD
        (r.stored.foldl ScanReport.recorded l.report).range.last =
      (highestOf (pages (readings ++ [r]))).getD range.last := by
  rw [pages_snoc hpage, ActivityPage.highestOf_snoc, ← h.highest, h.range_foldl_recorded]

/-- The result of a listing that has ended is for the highest block of its pages. -/
theorem reaches (hpage : r.outcome = .ok page)
    (hresult : result = (r.stored.foldl ScanReport.recorded l.report).upTo
      ((higher l.highest page.highest).getD
        (r.stored.foldl ScanReport.recorded l.report).range.last)) :
    Reaches range ((highestOf (pages (readings ++ [r]))).getD range.last) result := by
  rw [hresult, h.getD_higher hpage, ← h.range_foldl_recorded]
  exact reaches_upTo _ _

/-- The next page is the last one. -/
theorem reads_listed (htoken : r.token = l.token) (hr : r.Made retry l.report.range)
    (hpage : r.outcome = .ok page) (hends : ∀ token ∈ page.next, token ∈ l.seen)
    (hfinish : (finish options (higher l.highest page.highest)
      (r.stored.foldl ScanReport.recorded l.report)).Logs rest (.done result)) :
    Reads retry options range ((readings ++ [r]).flatMap Reading.log ++ rest) (readings ++ [r])
      result := by
  obtain ⟨hmade, hasks, hnodup⟩ := h.last htoken hr
  have hpages : pages (readings ++ [r]) = pages readings ++ [page] := pages_snoc hpage
  have hasks' : (readings ++ [r]).map (·.token) <+:
      none :: (tokens (pages (readings ++ [r]))).map some := by
    rw [hasks, hpages, ActivityPage.tokens_snoc, List.map_append, ← List.cons_append]
    exact List.prefix_append _ _
  have hended : page.EndsAfter (pages readings) := by
    intro token hnext
    rw [← List.mem_reverse, ← h.seen]
    exact hends token hnext
  have hfailed : ∀ r' ∈ readings ++ [r], ∀ e, r'.outcome ≠ .error e :=
    List.forall_mem_append.mpr
      ⟨h.outcome_ne_error, List.forall_mem_singleton.mpr fun e he => nomatch he.symm.trans hpage⟩
  obtain ⟨hresult, hcursor⟩ := finish_logs hfinish
  have hhighest := ActivityPage.isHighest_highestOf (pages (readings ++ [r])) range.last
  have hreaches := h.reaches hpage hresult
  rw [h.getD_higher hpage] at hcursor
  have hrest : Log.without isMove rest = [] ∧ Watch.listed rest = [] ∧
      Watch.recorded rest = [] := by
    split_ifs at hcursor
    · obtain ⟨a, rfl⟩ := hcursor
      exact ⟨rfl, rfl, rfl⟩
    · rw [hcursor]
      exact ⟨rfl, rfl, rfl⟩
  refine ⟨hmade, hasks', hnodup, Or.inl ?_, ?_, ?_, ?_,
    fun r' hr' e he => absurd he (hfailed r' hr' e)⟩
  · rw [Log.without_append, without_flatMap_log hmade, hrest.1, List.append_nil]
  · rw [Watch.listed_append, listed_flatMap_log hmade, hrest.2.1, List.append_nil]
  · rw [Watch.recorded_append, recorded_flatMap_log hmade, hrest.2.2, List.append_nil]
  · rw [Watch.moves_append, moves_flatMap_log hmade, List.nil_append]
    split_ifs at hcursor with hpersist
    · obtain ⟨a, rfl⟩ := hcursor
      exact Or.inr ⟨pages readings, page, _, hpersist, hpages, hended, ⟨a, rfl⟩, rfl, hhighest,
        hreaches⟩
    · rw [hcursor]
      exact Or.inl rfl

end After

/-- What a scan that has ended has done. -/
theorem reads_of_logs (h : Loop.Logs (next retry options) (.done (.inl (.start range))) log
    (.done (.inr result))) : ∃ readings, Reads retry options range log readings result := by
  obtain ⟨l, _, events, rfl, hrounds, hround⟩ := h.ended
  obtain ⟨readings, rfl, hafter⟩ := after_of_rounds hrounds
  have hlog : ∀ r : Reading, readings.flatMap Reading.log ++ r.log =
      (readings ++ [r]).flatMap Reading.log := by
    intro r
    rw [List.flatMap_append, List.flatMap_singleton]
  rcases next_logs hround with ⟨rfl, -⟩ | ⟨r, htoken, hr, ⟨e, he, rfl, hend⟩ |
    ⟨page, rest, hpage, rfl, ⟨_, -, -, -, hturn⟩ | ⟨hends, _, hfinish, hend⟩⟩⟩
  · exact ⟨readings, hafter.reads_cancelled⟩
  · rw [hlog]
    refine ⟨readings ++ [r], hafter.reads_failed htoken hr he fun hne => ?_⟩
    rw [if_neg hne] at hend
    exact Sum.inr.inj hend
  · exact nomatch hturn
  · rw [← List.append_assoc, hlog]
    cases hend
    exact ⟨readings ++ [r], hafter.reads_listed htoken hr hpage hends hfinish⟩

/-! ## The move of the cursor -/

/-- What a round of a scan leaves: the cursor has not been moved, or the scan has ended. -/
abbrev Unmoved (turn : Listing ⊕ Except WatchError ScanReport) (log : Log interface) : Prop :=
  turn.elim (fun _ => moves log = []) fun _ => True

theorem moves_snoc_eq_nil (h : moves log = []) {e : Event interface}
    (he : isMove e.request = false) : moves (log ++ [e]) = [] := by
  rw [Watch.moves_append, h]
  exact Watch.moves_eq_nil (List.forall_mem_singleton.mpr he)

/-- In a round of a scan nothing is asked after a move of the cursor, and it is the last round. -/
theorem next_unmoved (h : moves log = []) :
    (l.next retry options).Respects (fun log _ => moves log = []) Unmoved log := by
  refine ⟨h, ?_⟩
  rintro (_ | _)
  · have hask : ∀ log, moves log = [] → (Watch.activity l.report.range l.token).Respects
        (fun log _ => moves log = []) (fun _ log => moves log = []) log :=
      fun log h => ⟨h, fun a => moves_snoc_eq_nil h rfl⟩
    refine (Watch.attempt_respects hask
      (fun _ _ h => ⟨h, moves_snoc_eq_nil h rfl, moves_snoc_eq_nil h rfl⟩) retry.retries
      (moves_snoc_eq_nil h rfl)).bind ?_
    rintro (e | page) log' h
    · cases e <;> exact trivial
    · refine (ScanReport.recordAll_respects (fun _ _ log => moves log = [])
        (fun _ _ _ _ h => ⟨h, fun _ => moves_snoc_eq_nil h rfl⟩) h).bind ?_
      intro report log' h
      have hfinish : (finish options (higher l.highest page.highest) report >>= fun result =>
          pure (Sum.inr result)).Respects (fun log _ => moves log = []) Unmoved log' := by
        unfold finish
        split_ifs
        · exact ⟨h, fun _ => trivial⟩
        · exact trivial
      cases page.next with
      | none => exact hfinish
      | some token =>
        dsimp only
        split_ifs
        · exact hfinish
        · exact h
  · exact trivial

variable {p : Watch.Act (Listing ⊕ Except WatchError ScanReport)} {block : UInt64}

/-- A scan that has moved its cursor has ended. -/
theorem ended_of_moves (h : Loop.Logs (next retry options) (.done (.inl (.start range))) log p)
    (hblock : block ∈ moves log) : ∃ result, p = .done (.inr result) := by
  have hmoved : moves log ≠ [] := List.ne_nil_of_mem hblock
  obtain ⟨-, hp⟩ := h.respects (fun _ log => moves log = []) (fun _ _ => True)
    (fun _ _ _ h => next_unmoved h) rfl
  cases p with
  | ask q rest => exact absurd hp.1 hmoved
  | done turn =>
    cases turn with
    | inl l => exact absurd hp hmoved
    | inr result => exact ⟨result, rfl⟩

/-- When the cursor moves, it is to the highest block of the pages whose candidates, and no others,
have been handed to the store. -/
theorem recorded_of_moves (h : Loop.Logs (next retry options) (.done (.inl (.start range))) log p)
    (hblock : block ∈ moves log) :
    Watch.recorded log = (Watch.listed log).flatMap (·.candidates) ∧
      ActivityPage.IsHighest (Watch.listed log) range.last block := by
  obtain ⟨result, rfl⟩ := ended_of_moves h hblock
  obtain ⟨readings, hreads⟩ := reads_of_logs h
  rw [hreads.listed]
  refine ⟨hreads.recorded, ?_⟩
  rcases hreads.moved with hnil | ⟨-, -, last, -, -, -, -, hmoves, hhighest, -⟩
  · rw [hnil] at hblock
    exact absurd hblock List.not_mem_nil
  · rw [hmoves] at hblock
    rw [List.mem_singleton.mp hblock]
    exact hhighest

/-! ## Endpoints that name finitely many tokens -/

variable {S : Type} {answer : (q : interface.Request) → StateM S (interface.Answer q)} {s : S}
  {T : Finset String}

/-- There is at most one reading more than there are tokens. -/
theorem Reads.length_le (h : Reads retry options range log readings result)
    (hT : ∀ token ∈ tokens (Watch.listed log), token ∈ T) : readings.length ≤ T.card + 1 := by
  have hsubset : (readings.map (·.token)).toFinset ⊆ Finset.insertNone T := by
    intro token htoken
    refine Finset.mem_insertNone.mpr fun t ht => hT t ?_
    obtain rfl : token = some t := ht
    rcases List.mem_cons.mp (h.asks.subset (List.mem_toFinset.mp htoken)) with hnone | hnamed
    · exact nomatch hnone
    · rw [h.listed]
      exact (List.mem_map_of_injective (Option.some_injective String)).mp hnamed
  calc readings.length = (readings.map (·.token)).toFinset.card := by
        rw [List.toFinset_card_of_nodup h.nodup, List.length_map]
    _ ≤ (Finset.insertNone T).card := Finset.card_le_card hsubset
    _ = T.card + 1 := Finset.card_insertNone T

/-- With each round that does not end the scan, one more token has come. -/
theorem length_seen_of_next {l' : Listing} (h : (l.next retry options).Logs log (.done (.inl l'))) :
    l'.seen.length = l.seen.length + 1 := by
  rcases next_logs h with ⟨-, hend⟩ | ⟨r, -, -, ⟨e, -, -, hend⟩ |
    ⟨page, rest, -, -, ⟨token, -, -, -, hturn⟩ | ⟨-, report, -, hend⟩⟩⟩
  · exact nomatch hend
  · exact nomatch hend
  · cases hturn
    rfl
  · exact nomatch hend

/-- No more tokens have come than there are. -/
theorem length_seen_le (h : Loop.Rounds (next retry options) (.start range) log l)
    (hT : ∀ token ∈ tokens (Watch.listed log), token ∈ T) : l.seen.length ≤ T.card := by
  obtain ⟨readings, rfl, hafter⟩ := after_of_rounds h
  have hsubset : l.seen.toFinset ⊆ T := by
    intro token htoken
    rw [List.mem_toFinset, hafter.seen, List.mem_reverse] at htoken
    rw [listed_flatMap_log hafter.made] at hT
    exact hT token htoken
  rw [← List.toFinset_card_of_nodup hafter.nodup]
  exact Finset.card_le_card hsubset

/-- **Scans by listings end.** Let the tokens that an endpoint names in a scan be among those of
`T`, whatever it answers and when. Then the scan ends, after at most one page more than `T` has
tokens, and what it has done is what `Reads` says. -/
theorem scan_terminates (retry : RetryPolicy) (options : ScanOptions) (range : BlockRange)
    (hT : ∀ log p t, Loop.Logs (next retry options) (.done (.inl (.start range))) log p →
      Replays (handles answer) s log t → ∀ token ∈ tokens (Watch.listed log), token ∈ T) :
    ∃ readings log result t,
      (Loop.run (next retry options) answer (T.card + 1) (.start range)).run s = (some result, t) ∧
      Loop.Logs (next retry options) (.done (.inl (.start range))) log (.done (.inr result)) ∧
      Replays (handles answer) s log t ∧ readings.length ≤ T.card + 1 ∧
      Reads retry options range log readings result := by
  have hround : ∀ y z past log t, Loop.Rounds (next retry options) (.start range) past y →
      (next retry options y).Logs log (.done (.inl z)) →
      Replays (handles answer) s (past ++ log) t →
      T.card - z.seen.length < T.card - y.seen.length := by
    intro y z past log t hpast hlog hreplays
    have hrounds := hpast.snoc hlog
    have hle := length_seen_le hrounds (hT _ _ t hrounds.logs hreplays)
    have hlength := length_seen_of_next hlog
    omega
  obtain ⟨result, hresult⟩ := Loop.exists_run_eq_some
    (fun l : Listing => T.card - l.seen.length) hround (T.card + 1) .start (.nil s)
    (Nat.lt_succ_of_le (Nat.sub_le _ _))
  obtain ⟨log, p, hlog, hreplays, hend⟩ :=
    Loop.logs_of_run (next retry options) answer (T.card + 1) (.start range) s
  obtain rfl := hend result hresult
  obtain ⟨readings, hreads⟩ := reads_of_logs hlog
  exact ⟨readings, log, result, _, Prod.ext hresult rfl, hlog, hreplays,
    hreads.length_le (hT log _ _ hlog hreplays), hreads⟩

/-- An endpoint that names two tokens in turn, however often it is asked for a page, and lists block
7 and those after it. All else is answered in some way. -/
def sampleTurns : (q : interface.Request) → StateM Nat (interface.Answer q)
  | .activity _ _ => fun n =>
    (.ok ⟨[], some (UInt64.ofNat (7 + n)), some (if n % 2 = 0 then "even" else "odd")⟩, n + 1)
  | q => fun n => (Watch.Request.someAnswer q, n)

theorem mem_tokens_sampleTurns {n t : Nat} (h : Replays (handles sampleTurns) n log t) :
    ∀ token ∈ tokens (Watch.listed log), token ∈ ({"even", "odd"} : Finset String) := by
  induction h with
  | nil => exact fun _ h => absurd h List.not_mem_nil
  | @cons s _ _ e log first _ ih =>
    obtain ⟨q, a⟩ := e
    cases q with
    | activity range token =>
      cases first
      intro token htoken
      rcases List.mem_cons.mp htoken with rfl | htoken
      · split_ifs <;> simp
      · exact ih token htoken
    | _ => exact ih

/-- The scan comes to its end with the third page, which names the first token again. -/
theorem scan_terminates_sampleTurns :
    (∀ log p t, Loop.Logs (next ⟨1, 0⟩ ⟨10, true, true⟩) (.done (.inl (.start ⟨5, 20⟩))) log p →
      Replays (handles sampleTurns) 0 log t →
      ∀ token ∈ tokens (Watch.listed log), token ∈ ({"even", "odd"} : Finset String)) ∧
    ∃ readings log report t,
      (Loop.run (next ⟨1, 0⟩ ⟨10, true, true⟩) sampleTurns 3 (.start ⟨5, 20⟩)).run 0 =
        (some (.ok report), t) ∧
      report.lastBlock = some 9 ∧
      Reads ⟨1, 0⟩ ⟨10, true, true⟩ ⟨5, 20⟩ log readings (.ok report) := by
  have hT : ∀ log p t,
      Loop.Logs (next ⟨1, 0⟩ ⟨10, true, true⟩) (.done (.inl (.start ⟨5, 20⟩))) log p →
      Replays (handles sampleTurns) 0 log t →
      ∀ token ∈ tokens (Watch.listed log), token ∈ ({"even", "odd"} : Finset String) :=
    fun _ _ _ _ h => mem_tokens_sampleTurns h
  have hresult : ((Loop.run (next ⟨1, 0⟩ ⟨10, true, true⟩) sampleTurns 3
      (.start ⟨5, 20⟩)).run 0).1 = some (.ok ⟨⟨5, 20⟩, 5, 0, 0, 0, 0, some 9, false⟩) := by
    rfl
  obtain ⟨readings, log, result, t, hrun, -, -, -, hreads⟩ :=
    scan_terminates ⟨1, 0⟩ ⟨10, true, true⟩ ⟨5, 20⟩ hT
  have hcard : ({"even", "odd"} : Finset String).card = 2 := rfl
  rw [hcard] at hrun
  rw [hrun] at hresult
  obtain rfl := Option.some.inj hresult
  exact ⟨hT, readings, log, _, t, hrun, rfl, hreads⟩

end Listing

end RedemptionWatch
