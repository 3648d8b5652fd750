import RedemptionWatch.Proofs.Plan.Extension
import RedemptionWatch.Proofs.Watch.Scans
import RedemptionWatch.Proofs.Watch.Shared

/-!
# What the logs of scans tell

What a scan has done is read off its log: which candidates it has handed to the store, where it has
moved its cursor, which pages it has been listed, and how often it has looked whether it is
cancelled. A scan is made of units of work under the retry policy (`Watch.execute_block_logs`,
`Watch.execute_activity_logs`) and of candidates that are handed to the store
(`ScanReport.recordAll_logs`), and here it is said what each of these adds.
-/

namespace RedemptionWatch

namespace Watch

variable {log log' : Log interface}

/-! ## Projections -/

/-- Does the request move the cursor? -/
def isMove : interface.Request → Bool
  | Request.moveCursor _ => true
  | _ => false

/-- Does the request look whether the watcher has been cancelled? -/
def isLook : interface.Request → Bool
  | Request.isCancelled => true
  | _ => false

/-- The candidates that were handed to the store, in order. -/
def recorded (log : Log interface) : List Candidate :=
  log.flatMap fun e => Request.candidates e.request

/-- The blocks to which the cursor was moved, in order. -/
def moves (log : Log interface) : List UInt64 :=
  log.filterMap fun
    | ⟨.moveCursor block, _⟩ => some block
    | _ => none

/-- The pages that were listed, in order. -/
def listed (log : Log interface) : List ActivityPage :=
  log.filterMap fun
    | ⟨.activity _ _, .ok page⟩ => some page
    | _ => none

/-- So often has the watcher looked whether it has been cancelled. -/
def looks (log : Log interface) : Nat :=
  log.countP fun e => isLook e.request

theorem recorded_append (log log' : Log interface) :
    recorded (log ++ log') = recorded log ++ recorded log' :=
  List.flatMap_append

theorem moves_append (log log' : Log interface) : moves (log ++ log') = moves log ++ moves log' :=
  List.filterMap_append

theorem listed_append (log log' : Log interface) :
    listed (log ++ log') = listed log ++ listed log' :=
  List.filterMap_append

theorem looks_append (log log' : Log interface) : looks (log ++ log') = looks log + looks log' :=
  List.countP_append

theorem recorded_eq_nil (h : ∀ e ∈ log, Request.candidates e.request = []) : recorded log = [] :=
  List.flatMap_eq_nil_iff.mpr h

theorem moves_eq_nil (h : ∀ e ∈ log, isMove e.request = false) : moves log = [] := by
  refine List.filterMap_eq_nil_iff.mpr fun e he => ?_
  have hmove := h e he
  obtain ⟨q, a⟩ := e
  cases q with
  | moveCursor block => exact nomatch hmove
  | _ => rfl

theorem looks_eq_zero (h : ∀ e ∈ log, isLook e.request = false) : looks log = 0 :=
  List.countP_eq_zero.mpr fun e he => by simp [h e he]

theorem looks_without (log : Log interface) : looks (log.without isMove) = looks log := by
  rw [looks, Log.without, List.countP_filter]
  refine List.countP_congr fun e _ => ?_
  obtain ⟨q, a⟩ := e
  cases q <;> simp [isLook, isMove]

theorem recorded_without (log : Log interface) : recorded (log.without isMove) = recorded log := by
  induction log with
  | nil => rfl
  | cons e log ih =>
    obtain ⟨q, a⟩ := e
    cases q with
    | moveCursor number => exact ih
    | _ => exact congrArg (_ ++ ·) ih

/-- Every candidate that was handed to the store was written or not. -/
theorem countP_isWritten_add_countP_isRejected (log : Log interface) :
    log.countP isWritten + log.countP isRejected = (recorded log).length := by
  induction log with
  | nil => rfl
  | cons e log ih =>
    have hone : (if isWritten e = true then 1 else 0) + (if isRejected e = true then 1 else 0) =
        (Request.candidates e.request).length := by
      obtain ⟨q, a⟩ := e
      cases q with
      | record c => rcases a with e | (_ | _) <;> rfl
      | _ => rfl
    have hhead : recorded [e] = Request.candidates e.request := List.append_nil _
    rw [List.countP_cons, List.countP_cons, ← List.singleton_append, recorded_append,
      List.length_append, ← ih, hhead, ← hone]
    omega

/-! ## Cancellation -/

theorem cancelled_append : Cancelled (log ++ log') ↔ Cancelled log ∨ Cancelled log' := by
  simp only [Cancelled, List.mem_append, or_and_right, exists_or]

theorem not_cancelled_nil : ¬Cancelled [] :=
  fun ⟨_, he, _⟩ => absurd he List.not_mem_nil

theorem cancelled_singleton {e : Event interface} :
    Cancelled [e] ↔ showsCancelled e = true ∨ failure? e = some .cancelled := by
  simp only [Cancelled, List.mem_singleton, exists_eq_left]

theorem cancelled_block (number : UInt64) (a : Except FetchError (Option (List Candidate))) :
    Cancelled [⟨Request.block number, a⟩] ↔ a = .error .cancelled := by
  rw [cancelled_singleton]
  rcases a with e | found
  · constructor
    · rintro (h | h)
      · exact nomatch h
      · cases h
        rfl
    · rintro ⟨⟩
      exact Or.inr rfl
  · exact iff_of_false (by rintro (h | h) <;> exact nomatch h) nofun

/-- Moves of the cursor tell nothing of a cancellation. -/
theorem cancelled_without : Cancelled (log.without isMove) ↔ Cancelled log := by
  constructor
  · rintro ⟨e, he, h⟩
    exact ⟨e, List.mem_of_mem_filter he, h⟩
  · rintro ⟨e, he, h⟩
    refine ⟨e, List.mem_filter.mpr ⟨he, ?_⟩, h⟩
    obtain ⟨q, a⟩ := e
    cases q with
    | moveCursor number => rcases h with h | h <;> exact nomatch h
    | _ => rfl

/-! ## Units of work under the retry policy -/

/-- Is this the request, or a pause? -/
def Tries (q q' : interface.Request) : Prop :=
  q' = q ∨ ∃ millis, q' = Request.pause millis

theorem forall_of_tries {q : interface.Request} {p : interface.Request → Prop}
    (h : ∀ e ∈ log, Tries q e.request) (hq : p q) (hpause : ∀ millis, p (Request.pause millis)) :
    ∀ e ∈ log, p e.request := by
  intro e he
  rcases h e he with heq | ⟨millis, heq⟩
  · exact heq ▸ hq
  · exact heq ▸ hpause millis

/-- Under a retry policy a request is asked, with pauses in between. -/
theorem execute_logs {α : Type} {ask : Act (Except FetchError α)} {q : interface.Request}
    {keeps : Log interface → Prop} {post : Except FetchError α → Log interface → Prop}
    {retry : RetryPolicy} (hask : ∀ log, keeps log → ask.Respects (fun _ => Tries q) post log)
    (hthrottled : ∀ reason log millis, post (.error (.throttled reason)) log →
      keeps (log ++ [⟨.pause millis, .elapsed⟩]) ∧
      post (.error .cancelled) (log ++ [⟨.pause millis, .interrupted⟩])) (hnil : keeps [])
    {a : Except FetchError α} (h : (retry.execute ask).Logs log (.done a)) :
    (∀ e ∈ log, Tries q e.request) ∧ post a log := by
  have hexecute : (retry.execute ask).Respects (fun _ => Tries q) post [] :=
    attempt_respects hask (fun reason log h => ⟨Or.inr ⟨_, rfl⟩, hthrottled reason log _ h⟩)
      retry.retries hnil
  obtain ⟨hkeeps, hpost⟩ := h.respects hexecute
  exact ⟨hkeeps.forall_mem, hpost⟩

/-- Asking for a block comes to a cancellation exactly if the watcher has learned of one. -/
theorem execute_block_logs {retry : RetryPolicy} {number : UInt64}
    {a : Except FetchError (Option (List Candidate))}
    (h : (retry.execute (block number)).Logs log (.done a)) :
    (∀ e ∈ log, Tries (Request.block number) e.request) ∧
      (Cancelled log ↔ a = .error .cancelled) := by
  have hask : ∀ log, ¬Cancelled log →
      (block number).Respects (fun _ => Tries (Request.block number))
        (fun a log => Cancelled log ↔ a = .error .cancelled) log := by
    intro log hlog
    refine ⟨Or.inl rfl, fun a => ?_⟩
    exact cancelled_append.trans <| (or_iff_right hlog).trans (cancelled_block number a)
  refine execute_logs hask (fun reason log millis hpost => ⟨?_, ?_⟩) not_cancelled_nil h
  · rw [cancelled_append, cancelled_singleton]
    rintro (h | h | h)
    · exact nomatch hpost.mp h
    · exact nomatch h
    · exact nomatch h
  · exact iff_of_true (.of_snoc (.inl rfl)) rfl

/-- Asking for a page lists it, if it is had. -/
theorem execute_activity_logs {retry : RetryPolicy} {range : BlockRange} {token : Option String}
    {a : Except FetchError ActivityPage}
    (h : (retry.execute (activity range token)).Logs log (.done a)) :
    (∀ e ∈ log, Tries (Request.activity range token) e.request) ∧
      listed log = a.toOption.toList := by
  have hask : ∀ log, listed log = [] →
      (activity range token).Respects (fun _ => Tries (Request.activity range token))
        (fun a log => listed log = a.toOption.toList) log := by
    intro log h
    refine ⟨Or.inl rfl, fun a => ?_⟩
    change listed (log ++ [⟨Request.activity range token, a⟩]) = a.toOption.toList
    rw [listed_append, h]
    rcases a with e | page <;> rfl
  have hsnoc : ∀ {log : Log interface} {millis : Nat} {pauseEnd : PauseEnd}, listed log = [] →
      listed (log ++ [⟨.pause millis, pauseEnd⟩]) = [] := by
    intro log millis pauseEnd h
    rw [listed_append, h]
    rfl
  exact execute_logs hask (fun _ _ _ h => ⟨hsnoc h, hsnoc h⟩) rfl h

end Watch

/-! ## Candidates that are handed to the store -/

namespace ScanReport

open Watch (interface)

/-- The events by which candidates are handed to the store. -/
def recording (cs : List Candidate) (outcomes : List (Except StoreError UpsertOutcome)) :
    Log interface :=
  (cs.zip outcomes).map fun p => ⟨Watch.Request.record p.1, p.2⟩

variable {cs : List Candidate} {outcomes : List (Except StoreError UpsertOutcome)}

theorem forall_recording {p : Event interface → Prop}
    (h : ∀ c outcome, p ⟨Watch.Request.record c, outcome⟩) : ∀ e ∈ recording cs outcomes, p e := by
  intro e he
  obtain ⟨x, -, rfl⟩ := List.mem_map.mp he
  exact h x.1 x.2

theorem recorded_recording (h : outcomes.length = cs.length) :
    Watch.recorded (recording cs outcomes) = cs := by
  rw [Watch.recorded, recording, List.flatMap_map]
  exact List.map_eq_flatMap.symm.trans (List.map_fst_zip h.ge)

theorem listed_recording (cs : List Candidate)
    (outcomes : List (Except StoreError UpsertOutcome)) :
    Watch.listed (recording cs outcomes) = [] :=
  List.filterMap_eq_nil_iff.mpr (forall_recording fun _ _ => rfl)

theorem not_cancelled_recording (cs : List Candidate)
    (outcomes : List (Except StoreError UpsertOutcome)) :
    ¬Watch.Cancelled (recording cs outcomes) := by
  rintro ⟨e, he, h⟩
  obtain ⟨x, -, rfl⟩ := List.mem_map.mp he
  rcases h with h | h <;> exact nomatch h

/-- Every candidate is handed to the store once, in order. -/
theorem recordAll_logs {r r' : ScanReport} {log : Log interface}
    (h : (r.recordAll cs).Logs log (.done r')) :
    ∃ outcomes, outcomes.length = cs.length ∧ log = recording cs outcomes ∧
      r' = outcomes.foldl recorded r := by
  induction cs generalizing r log with
  | nil =>
    cases h
    exact ⟨[], rfl, rfl, rfl⟩
  | cons c rest ih =>
    obtain ⟨outcome, first, log, rfl, hfirst, hrest⟩ := h.of_bind
    obtain rfl := hfirst.of_request
    obtain ⟨outcomes, hlength, rfl, rfl⟩ := ih hrest
    exact ⟨outcome :: outcomes, congrArg Nat.succ hlength, rfl, rfl⟩

/-- The store's answers change the counts of candidates and nothing else. -/
theorem foldl_recorded (r : ScanReport) (outcomes : List (Except StoreError UpsertOutcome)) :
    ∃ written rejected, outcomes.foldl recorded r = { r with
      candidates := r.candidates + UInt64.ofNat outcomes.length
      recordsWritten := written
      recordsRejected := rejected } := by
  induction outcomes generalizing r with
  | nil => exact ⟨r.recordsWritten, r.recordsRejected, by simp⟩
  | cons outcome outcomes ih =>
    obtain ⟨written, rejected, h⟩ := ih (r.recorded outcome)
    refine ⟨written, rejected, h.trans ?_⟩
    rcases outcome with e | (_ | _)
    all_goals
      rw [List.length_cons, UInt64.ofNat_add, UInt64.add_comm (UInt64.ofNat _), ← UInt64.add_assoc]
      rfl

end ScanReport

end RedemptionWatch
