import RedemptionWatch.Proofs.Watch.Walk

/-!
# The visits of a walk

A walk along blocks visits one after the other. A `Visit` is what it does with one block: it looks
whether it has been cancelled, asks for the block under the retry policy, and hands the candidates
to the store. Every log of a walk is the logs of its visits in a row (`BlockScan.walk_logs`), and
`BlockScan.Ends` says how it ends: all blocks are visited, or it stops at one, or it is cancelled
before the next one is done.
-/

namespace RedemptionWatch

open Watch (interface Cancelled)

namespace BlockScan

/-! ## Visits -/

/-- What a walk does with one block. -/
structure Visit where
  number : UInt64
  /-- All that was asked for the block under the retry policy, with the pauses in between. -/
  asked : Log interface
  /-- What this came to. -/
  outcome : Except FetchError (Option (List Candidate))
  /-- What the store answered for each candidate. -/
  stored : List (Except StoreError UpsertOutcome)

namespace Visit

variable (v : Visit)

/-- The candidates of the block. -/
def candidates : List Candidate :=
  match v.outcome with
  | .ok found => found.getD []
  | .error _ => []

/-- Was the block had, or is there none of this number? -/
def isProcessed : Bool :=
  match v.outcome with
  | .ok _ => true
  | .error _ => false

/-- Does a scan stop at the block, if it stops at failures that may pass? -/
def stops (stopAtFailure : Bool) : Bool :=
  match v.outcome with
  | .ok _ => false
  | .error e => stopAtFailure && e.isTransient

/-- The events of the visit. -/
def log : Log interface :=
  ⟨Watch.Request.isCancelled, false⟩ :: (v.asked ++ ScanReport.recording v.candidates v.stored)

/-- The visit is one unit of work under the retry policy: the block was asked for as the policy
says, this did not come to a cancellation, and the store answered for every candidate. -/
structure Made (retry : RetryPolicy) : Prop where
  asks : (retry.execute (Watch.block v.number)).Logs v.asked (.done v.outcome)
  goes : v.outcome ≠ .error .cancelled
  stores : v.stored.length = v.candidates.length

variable {v}

theorem candidates_eq_nil (h : v.isProcessed = false) : v.candidates = [] := by
  obtain ⟨_, _, _ | _, _⟩ := v
  · rfl
  · exact nomatch h

theorem Made.not_cancelled {retry : RetryPolicy} (h : v.Made retry) : ¬Cancelled v.log := by
  rw [log, ← List.singleton_append, Watch.cancelled_append, Watch.cancelled_append,
    Watch.cancelled_singleton, (Watch.execute_block_logs h.asks).2]
  rintro ((hlook | hlook) | hasked | hrecording)
  · exact nomatch hlook
  · exact nomatch hlook
  · exact h.goes hasked
  · exact ScanReport.not_cancelled_recording _ _ hrecording

theorem Made.recorded_log {retry : RetryPolicy} (h : v.Made retry) :
    Watch.recorded v.log = v.candidates := by
  have hasked : Watch.recorded v.asked = [] :=
    Watch.recorded_eq_nil <| Watch.forall_of_tries (p := fun q => Watch.Request.candidates q = [])
      (Watch.execute_block_logs h.asks).1 rfl fun _ => rfl
  have hlog : Watch.recorded v.log =
      Watch.recorded (v.asked ++ ScanReport.recording v.candidates v.stored) := rfl
  rw [hlog, Watch.recorded_append, hasked, ScanReport.recorded_recording h.stores, List.nil_append]

end Visit

/-- The visits are those of the blocks from `number` on, one after the other. -/
structure Visits (retry : RetryPolicy) (number : UInt64) (visits : List Visit) : Prop where
  made : ∀ v ∈ visits, v.Made retry
  numbers : visits.map (·.number) = (List.range visits.length).map fun i => number + UInt64.ofNat i

/-- What a report says after one more visit. -/
def reportVisit (r : ScanReport) (v : Visit) : ScanReport :=
  if v.isProcessed then (v.stored.foldl ScanReport.recorded r).processed else r.skipped

/-- The walk is cancelled before a block, or while it is asked for. -/
inductive Interrupted (retry : RetryPolicy) (number : UInt64) : Log interface → Prop where
  | before : Interrupted retry number [⟨Watch.Request.isCancelled, true⟩]
  | asking {asked : Log interface}
      (h : (retry.execute (Watch.block number)).Logs asked (.done (.error .cancelled))) :
      Interrupted retry number (⟨Watch.Request.isCancelled, false⟩ :: asked)

/-- How a walk along `count` blocks from block `number` on ends after its visits: with which log and
result. -/
inductive Ends (retry : RetryPolicy) (stopAtFailure : Bool) (count : Nat) (number : UInt64)
    (r : ScanReport) (visits : List Visit) :
    Log interface → Except WatchError ScanReport → Prop where
  /-- All blocks are visited. -/
  | finished (hlength : visits.length = count)
      (hgoes : ∀ v ∈ visits, v.stops stopAtFailure = false) :
      Ends retry stopAtFailure count number r visits (visits.flatMap Visit.log)
        (.ok (visits.foldl reportVisit r).finished)
  /-- It stops at the block visited last. -/
  | stopped {earlier : List Visit} {v : Visit} (hvisits : visits = earlier ++ [v])
      (hlength : visits.length ≤ count)
      (hgoes : ∀ v ∈ earlier, v.stops stopAtFailure = false)
      (hstops : v.stops stopAtFailure = true) :
      Ends retry stopAtFailure count number r visits (visits.flatMap Visit.log)
        (.ok ((visits.foldl reportVisit r).before v.number))
  /-- It is cancelled at the next block. -/
  | cancelled {tail : Log interface} (hlength : visits.length < count)
      (hgoes : ∀ v ∈ visits, v.stops stopAtFailure = false)
      (htail : Interrupted retry (number + UInt64.ofNat visits.length) tail) :
      Ends retry stopAtFailure count number r visits (visits.flatMap Visit.log ++ tail)
        (.error .cancelled)

/-! ## Logs of walks -/

variable {retry : RetryPolicy} {stopAtFailure : Bool} {count : Nat} {number : UInt64}
  {r : ScanReport} {v : Visit} {visits : List Visit} {log : Log interface}
  {result : Except WatchError ScanReport}

theorem Visits.nil (retry : RetryPolicy) (number : UInt64) : Visits retry number [] :=
  ⟨fun _ h => absurd h List.not_mem_nil, rfl⟩

theorem Visits.cons (hv : v.Made retry) (h : Visits retry (v.number + 1) visits) :
    Visits retry v.number (v :: visits) := by
  refine ⟨List.forall_mem_cons.mpr ⟨hv, h.made⟩, ?_⟩
  rw [List.map_cons, h.numbers, List.length_cons, List.range_succ_eq_map, List.map_cons,
    List.map_map]
  refine congrArg₂ List.cons (UInt64.add_zero _).symm (List.map_congr_left fun i _ => ?_)
  exact BlockRange.add_one_add_ofNat v.number i

/-- One more visit before the others, after which the walk goes on. -/
theorem Ends.cons (hgoes : v.stops stopAtFailure = false)
    (h : Ends retry stopAtFailure count (v.number + 1) (reportVisit r v) visits log result) :
    Ends retry stopAtFailure (count + 1) v.number r (v :: visits) (v.log ++ log) result := by
  cases h with
  | finished hlength hrest =>
    rw [← List.flatMap_cons, ← List.foldl_cons]
    exact .finished (congrArg Nat.succ hlength) (List.forall_mem_cons.mpr ⟨hgoes, hrest⟩)
  | @stopped earlier _ hvisits hlength hrest hstops =>
    rw [← List.flatMap_cons, ← List.foldl_cons]
    have hvisits : v :: visits = (v :: earlier) ++ [_] := congrArg (v :: ·) hvisits
    exact .stopped hvisits (Nat.succ_le_succ hlength)
      (List.forall_mem_cons.mpr ⟨hgoes, hrest⟩) hstops
  | cancelled hlength hrest htail =>
    rw [← List.append_assoc, ← List.flatMap_cons]
    rw [BlockRange.add_one_add_ofNat] at htail
    exact .cancelled (Nat.succ_lt_succ hlength) (List.forall_mem_cons.mpr ⟨hgoes, hrest⟩) htail

/-- What a walk does next: it is cancelled, or it visits a block, at which it stops or after which
it goes on. -/
theorem walk_succ_logs
    (h : (walk retry stopAtFailure (count + 1) number r).Logs log (.done result)) :
    (Interrupted retry number log ∧ result = .error .cancelled) ∨
      ∃ v rest, v.number = number ∧ v.Made retry ∧ log = v.log ++ rest ∧
        (v.stops stopAtFailure = true ∧ rest = [] ∧
            result = .ok ((reportVisit r v).before number) ∨
          v.stops stopAtFailure = false ∧
            (walk retry stopAtFailure count (number + 1) (reportVisit r v)).Logs rest
              (.done result)) := by
  rw [walk] at h
  obtain ⟨isCancelled, look, log, rfl, hlook, hnext⟩ := h.of_bind
  obtain rfl := hlook.of_request
  rcases isCancelled with _ | _
  · obtain ⟨outcome, asked, rest, rfl, hasked, hfound⟩ :=
      Plan.Logs.of_bind (p := retry.execute (Watch.block number)) hnext
    rcases outcome with e | found
    · have hfails : e ≠ .cancelled → (if stopAtFailure = true ∧ e.isTransient = true then
            pure (Except.ok (r.skipped.before number))
          else walk retry stopAtFailure count (number + 1) r.skipped).Logs rest (.done result) →
          ∃ v rest', v.number = number ∧ v.Made retry ∧
            ⟨Watch.Request.isCancelled, false⟩ :: (asked ++ rest) = v.log ++ rest' ∧
            (v.stops stopAtFailure = true ∧ rest' = [] ∧
                result = .ok ((reportVisit r v).before number) ∨
              v.stops stopAtFailure = false ∧
                (walk retry stopAtFailure count (number + 1) (reportVisit r v)).Logs rest'
                  (.done result)) := by
        intro hne h
        refine ⟨⟨number, asked, .error e, []⟩, rest, rfl, ⟨hasked, by simpa using hne, rfl⟩, ?_, ?_⟩
        · simp [Visit.log, Visit.candidates, ScanReport.recording]
        · split_ifs at h with hstops
          · cases h
            exact Or.inl ⟨by simpa [Visit.stops] using hstops, rfl, rfl⟩
          · exact Or.inr ⟨by simpa [Visit.stops] using hstops, h⟩
      cases e with
      | cancelled =>
        have hend : Plan.Logs (pure (.error .cancelled)) rest (.done result) := hfound
        cases hend
        rw [List.append_nil]
        exact Or.inl ⟨.asking hasked, rfl⟩
      | throttled reason | remote reason | decode reason => exact Or.inr (hfails (by simp) hfound)
    · obtain ⟨r', recorded, rest, rfl, hrecorded, hrest⟩ :=
        Plan.Logs.of_bind (p := r.recordAll (found.getD [])) hfound
      obtain ⟨stored, hlength, rfl, rfl⟩ := ScanReport.recordAll_logs hrecorded
      refine Or.inr ⟨⟨number, asked, .ok found, stored⟩, rest, rfl, ⟨hasked, by simp, hlength⟩, ?_,
        Or.inr ⟨rfl, hrest⟩⟩
      simp [Visit.log, Visit.candidates]
  · have hend : Plan.Logs (pure (.error .cancelled)) log (.done result) := hnext
    cases hend
    exact Or.inl ⟨.before, rfl⟩

/-- Every log of a walk comes about by its visits. -/
theorem walk_logs (h : (walk retry stopAtFailure count number r).Logs log (.done result)) :
    ∃ visits, Visits retry number visits ∧
      Ends retry stopAtFailure count number r visits log result := by
  induction count generalizing number r log with
  | zero =>
    cases h
    exact ⟨[], .nil retry number, .finished rfl fun _ h => absurd h List.not_mem_nil⟩
  | succ count ih =>
    rcases walk_succ_logs h with
      ⟨hlog, rfl⟩ | ⟨v, rest, rfl, hv, rfl, ⟨hstops, rfl, rfl⟩ | ⟨hgoes, hrest⟩⟩
    · rw [← UInt64.add_zero number] at hlog
      exact ⟨[], .nil retry number, .cancelled (Nat.succ_pos count)
        (fun _ h => absurd h List.not_mem_nil) hlog⟩
    · refine ⟨[v], (Visits.nil retry _).cons hv, ?_⟩
      exact .stopped (List.nil_append [v]).symm (Nat.succ_le_succ (Nat.zero_le count))
        (fun _ h => absurd h List.not_mem_nil) hstops
    · obtain ⟨visits, hvisits, hends⟩ := ih hrest
      exact ⟨v :: visits, hvisits.cons hv, hends.cons hgoes⟩

/-! ## Blocks and events of visits -/

namespace Visits

variable (h : Visits retry number visits)

include h

/-- The blocks of visits are consecutive numbers. -/
theorem map_toNat (hbound : number.toNat + visits.length ≤ 2 ^ 64) :
    visits.map (·.number.toNat) = List.range' number.toNat visits.length := by
  have hcomp : visits.map (·.number.toNat) = (visits.map (·.number)).map UInt64.toNat := by
    rw [List.map_map]
    rfl
  rw [hcomp, h.numbers, BlockRange.map_toNat_range hbound]

/-- Which blocks are visited. -/
theorem mem_numbers (hbound : number.toNat + visits.length ≤ 2 ^ 64) {b : UInt64} :
    b ∈ visits.map (·.number) ↔
      number.toNat ≤ b.toNat ∧ b.toNat < number.toNat + visits.length := by
  have hmem : b ∈ visits.map (·.number) ↔ b.toNat ∈ visits.map (·.number.toNat) := by
    rw [← List.mem_map_of_injective fun _ _ => UInt64.toNat_inj.mp, List.map_map]
    rfl
  rw [hmem, h.map_toNat hbound, List.mem_range'_1]

omit h in
/-- The block visited last. -/
theorem toNat_last {earlier : List Visit} (h : Visits retry number (earlier ++ [v]))
    (hbound : number.toNat + earlier.length < 2 ^ 64) :
    v.number.toNat = number.toNat + earlier.length := by
  have hnumbers := h.map_toNat (by
    rw [List.length_append, List.length_singleton]
    omega)
  rw [List.length_append, List.length_singleton, List.range'_1_concat, List.map_append,
    List.map_singleton] at hnumbers
  exact List.singleton_inj.mp (List.append_inj_right' hnumbers rfl)

theorem recorded_flatMap_log :
    Watch.recorded (visits.flatMap Visit.log) = visits.flatMap Visit.candidates := by
  rw [Watch.recorded, List.flatMap_assoc]
  exact List.flatMap_congr fun v hv => (h.made v hv).recorded_log

theorem not_cancelled : ¬Cancelled (visits.flatMap Visit.log) := by
  rintro ⟨e, he, hshows⟩
  obtain ⟨v, hv, he⟩ := List.mem_flatMap.mp he
  exact (h.made v hv).not_cancelled ⟨e, he, hshows⟩

end Visits

theorem Interrupted.cancelled (h : Interrupted retry number log) : Cancelled log := by
  cases h with
  | before => exact ⟨_, List.mem_cons_self, Or.inl rfl⟩
  | asking h =>
    obtain ⟨e, he, hshows⟩ := (Watch.execute_block_logs h).2.mpr rfl
    exact ⟨e, List.mem_cons_of_mem _ he, hshows⟩

/-- Every log of a scan, but for the moves of its cursor, comes about by its visits. -/
theorem scan_logs {options : ScanOptions} {range : BlockRange} (h : range.HasPages options.pageSize)
    (hlog : (scan retry options range).Logs log (.done result)) :
    ∃ visits, Visits retry range.first visits ∧
      Ends retry options.stopAtFailure range.blockCount range.first (.start range) visits
        (log.without Watch.isMove) result := by
  obtain ⟨_, rfl, hwalk⟩ := (scan_extends h).logs hlog
  exact walk_logs hwalk

end BlockScan

end RedemptionWatch
