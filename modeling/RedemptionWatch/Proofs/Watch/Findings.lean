import RedemptionWatch.Proofs.Watch.ScanLogs

/-!
# What a scan block by block hands to the store

A request for a block is answered by the candidates of the block, or it fails. A scan hands to the
store the candidates of the answers that came, in the order in which they came, and nothing else
(`BlockScan.scan_recorded`). So an attempt that failed leaves nothing in the store, whatever the
endpoint had told by then, and neither its repetition nor the stop of the scan changes that.
-/

namespace RedemptionWatch

open Watch (interface)

namespace Watch

/-- The candidates that the answer to a request for a block holds. -/
def Request.found : (q : Request) → q.Answer → List Candidate
  | block _, .ok candidates => candidates.getD []
  | _, _ => []

/-- The candidates that were found, block by block, in order. -/
def found (log : Log interface) : List Candidate :=
  log.flatMap fun e => Request.found e.request e.answer

theorem found_append (log log' : Log interface) : found (log ++ log') = found log ++ found log' :=
  List.flatMap_append

/-- Of what was found, everything but these candidates has been handed to the store. -/
def Owes (cs : List Candidate) (log : Log interface) : Prop :=
  recorded log ++ cs = found log

/-- What is handed to the store was found before, and it is its turn. -/
def handoverRule (log : Log interface) (q : Request) : Prop :=
  ∃ later, Owes (q.candidates ++ later) log

variable {log : Log interface} {cs : List Candidate}

theorem Owes.append {events : Log interface} (h : Owes cs log)
    (hevents : recorded events = []) : Owes (cs ++ found events) (log ++ events) := by
  unfold Owes at h ⊢
  rw [recorded_append, hevents, List.append_nil, found_append, ← h, List.append_assoc]

/-- An event that neither finds nor records anything. -/
theorem Owes.snoc {e : Event interface} (h : Owes cs log) (hrecorded : recorded [e] = [])
    (hfound : found [e] = []) : Owes cs (log ++ [e]) := by
  have happend := h.append hrecorded
  rwa [hfound, List.append_nil] at happend

theorem Owes.record {c : Candidate} (h : Owes (c :: cs) log)
    (outcome : Except StoreError UpsertOutcome) :
    Owes cs (log ++ [⟨Request.record c, outcome⟩]) := by
  unfold Owes at h ⊢
  rw [recorded_append, found_append, ← h, List.append_assoc]
  exact (List.append_nil _).symm

/-- A request that hands over nothing keeps to the rule. -/
theorem Owes.rule {q : Request} (h : Owes cs log) (hq : q.candidates = []) :
    handoverRule log q :=
  ⟨cs, hq ▸ h⟩

/-- Under the rule nothing is handed over that was not found before. -/
theorem recorded_prefix (h : Log.Keeps handoverRule [] log) : recorded log <+: found log := by
  rcases List.eq_nil_or_concat log with rfl | ⟨before, e, rfl⟩
  · exact List.nil_prefix
  · obtain ⟨later, howes⟩ := h before e [] (List.concat_eq_append ..)
    refine ⟨later ++ found [e], ?_⟩
    have hlast : recorded [e] = Request.candidates e.request := List.append_nil _
    unfold Owes at howes
    rw [List.nil_append] at howes
    rw [List.concat_eq_append, recorded_append, found_append, ← howes, hlast]
    simp only [List.append_assoc]

/-- What an outcome holds. -/
def foundBy : Except FetchError (Option (List Candidate)) → List Candidate
  | .ok candidates => candidates.getD []
  | .error _ => []

/-- Only the last attempt at a block can find anything. -/
theorem execute_block_owes (retry : RetryPolicy) (number : UInt64) (h : Owes [] log) :
    (retry.execute (block number)).Respects handoverRule (fun a log => Owes (foundBy a) log)
      log := by
  have hask : ∀ log, Owes [] log → (block number).Respects handoverRule
      (fun a log => Owes (foundBy a) log) log := by
    intro log h
    refine ⟨h.rule rfl, fun a => ?_⟩
    have hfound : found [⟨Request.block number, a⟩] = foundBy a := by
      cases a <;> exact List.append_nil _
    have hnothing : recorded [⟨Request.block number, a⟩] = [] := rfl
    have happend := h.append hnothing
    rwa [hfound] at happend
  refine attempt_respects hask (fun reason log (h : Owes [] log) => ?_) retry.retries h
  exact ⟨h.rule rfl, h.snoc rfl rfl, h.snoc rfl rfl⟩

end Watch

open Watch (Owes handoverRule)

variable {retry : RetryPolicy} {options : ScanOptions} {log : Log interface} {r : ScanReport}

/-- Whatever was found last is handed over. -/
theorem ScanReport.recordAll_owes {cs : List Candidate} (h : Owes cs log) :
    (r.recordAll cs).Respects handoverRule (fun _ log => Owes [] log) log :=
  recordAll_respects (fun _ cs log => Owes cs log)
    (fun _ _ rest _ h => ⟨⟨rest, h⟩, fun outcome => h.record outcome⟩) h

namespace BlockScan

theorem stopBefore_owes (h : Owes [] log) (page : BlockRange) (number : UInt64) :
    (stopBefore options page number r).Respects handoverRule (fun _ log => Owes [] log) log := by
  unfold stopBefore
  split_ifs
  · exact ⟨h.rule rfl, fun a => h.snoc rfl rfl⟩
  · exact h
  · exact h

theorem scanBlocks_owes (h : Owes [] log) (page : BlockRange) (count : Nat) (number : UInt64) :
    (scanBlocks retry options page count number r).Respects handoverRule
      (fun _ log => Owes [] log) log := by
  induction count generalizing number r log with
  | zero => exact h
  | succ count ih =>
    refine ⟨h.rule rfl, ?_⟩
    rintro (_ | _)
    · refine (Watch.execute_block_owes retry number (h.snoc rfl rfl)).bind ?_
      rintro (e | found) log' howes
      · have hfailed : (if options.stopAtFailure = true ∧ e.isTransient = true then
            stopBefore options page number r.skipped >>= fun r => pure (Progress.stopped r)
          else scanBlocks retry options page count (number + 1) r.skipped).Respects handoverRule
            (fun _ log => Owes [] log) log' := by
          split_ifs
          · exact (stopBefore_owes howes page number).bind fun _ _ h => h
          · exact ih howes (number + 1)
        cases e with
        | cancelled => exact howes
        | throttled reason | remote reason | decode reason => exact hfailed
      · exact (ScanReport.recordAll_owes howes).bind fun _ _ h => ih h (number + 1)
    · exact h.snoc rfl rfl

theorem scanPages_owes (h : Owes [] log) (count : Nat) (index : UInt64) :
    (scanPages retry options count index r).Respects handoverRule (fun _ log => Owes [] log)
      log := by
  induction count generalizing index r log with
  | zero => exact h
  | succ count ih =>
    rw [scanPages]
    cases r.range.page (BlockRange.pageSize options.pageSize) index with
    | error reason => exact h
    | ok page =>
      refine (scanBlocks_owes h _ _ _).bind ?_
      rintro (r' | r' | _) log' howes
      · dsimp only
        split_ifs
        · exact ⟨howes.rule rfl, fun a => ih (howes.snoc rfl rfl) (index + 1)⟩
        · exact ih howes (index + 1)
      · exact howes
      · exact howes

theorem scan_owes (h : Owes [] log) (range : BlockRange) :
    (scan retry options range).Respects handoverRule (fun _ log => Owes [] log) log := by
  unfold scan
  cases range.countPages options.pageSize with
  | error reason => exact h
  | ok count => exact scanPages_owes h _ 0

/-- A scan hands over what the answers to its requests for blocks hold, in order and nothing else;
at its end all of it, and at any time before a beginning of it. -/
theorem scan_recorded {range : BlockRange} {rest : Watch.Act (Except WatchError ScanReport)}
    (h : (scan retry options range).Logs log rest) :
    Watch.recorded log <+: Watch.found log ∧
      ∀ result, rest = .done result → Watch.recorded log = Watch.found log := by
  have howes : Owes [] [] := rfl
  obtain ⟨hkeeps, hrest⟩ := h.respects (scan_owes howes range)
  refine ⟨Watch.recorded_prefix hkeeps, ?_⟩
  rintro result rfl
  have hend : Owes [] log := hrest
  exact (List.append_nil _).symm.trans hend

end BlockScan

end RedemptionWatch
