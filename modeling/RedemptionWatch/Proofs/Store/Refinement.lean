import RedemptionWatch.Proofs.Store.Ranks

/-!
# The tables refine the store in memory

A client that asks one of the two stores (`StoreCall`) cannot tell which of them it is, except that
the tables keep times in whole milliseconds (`SqlStore.serveAll_refines`). The two decide in
different ways whether a record is written: the store in memory by `Status.reconcile`, the tables by
the guard of a statement on the column of ranks, after whose refusal the stored status is read.

`Refines` relates the two stores: every row is the row of the record that is kept in memory. One
call keeps it and is answered alike (`Refines.serve`). So every row that is reached has a status
that can be read, and its rank in the column of ranks (`Refines.row`).
-/

namespace RedemptionWatch

/-! ## Calls -/

/-- What a client may ask of a store. -/
inductive StoreCall where
  | upsert (record : Record)
  | status (id : MessageId)
  | record (id : MessageId)
  | updateCursor (chain : String) (block : UInt64) (time : Timestamp)
  | currentBlock (chain : String) (fallback : UInt64)
  deriving DecidableEq, Repr

/-- What a store answers. -/
inductive StoreReply where
  | outcome (answer : Except StoreError UpsertOutcome)
  | status (answer : Except StoreError (Option Status))
  | record (answer : Except StoreError (Option Record))
  | moved
  | block (number : UInt64)
  deriving DecidableEq, Repr

/-- A record that is to be written has times that the calendar holds. -/
def StoreCall.IsDated : StoreCall → Prop
  | upsert r => r.IsDated
  | _ => True

instance : (c : StoreCall) → Decidable c.IsDated
  | .upsert r => inferInstanceAs (Decidable r.IsDated)
  | .status _ | .record _ | .updateCursor _ _ _ | .currentBlock _ _ => .isTrue trivial

/-- The reply with the times of a record cut to whole milliseconds. -/
def StoreReply.floored : StoreReply → StoreReply
  | record answer => record (answer.map (·.map (·.floored)))
  | reply => reply

/-- The replies to calls that are made one after the other, and the store after them. -/
def serveAll {σ : Type} (serve : StoreCall → σ → StoreReply × σ) :
    List StoreCall → σ → List StoreReply × σ
  | [], s => ([], s)
  | c :: rest, s =>
    let (reply, s) := serve c s
    let (replies, s) := serveAll serve rest s
    (reply :: replies, s)

/-- A call of the store in memory. -/
def MemoryStore.serve : StoreCall → MemoryStore → StoreReply × MemoryStore
  | .upsert r, s => (.outcome (.ok (s.upsert r).1), (s.upsert r).2)
  | .status id, s => (.status (.ok (s.status? id)), s)
  | .record id, s => (.record (.ok (s.get? id)), s)
  | .updateCursor chain block time, s => (.moved, s.updateCursor chain block time)
  | .currentBlock chain fallback, s => (.block (s.currentBlock chain fallback), s)

/-- A call of the tables. -/
def SqlStore.serve : StoreCall → SqlStore → StoreReply × SqlStore
  | .upsert r, s => (.outcome (s.upsert r).1, (s.upsert r).2)
  | .status id, s => (.status (s.status? id), s)
  | .record id, s => (.record (s.get? id), s)
  | .updateCursor chain block time, s => (.moved, s.updateCursor chain block time)
  | .currentBlock chain fallback, s => (.block (s.currentBlock chain fallback), s)

namespace SqlStore

variable {s s' : SqlStore} {r : Record}

/-! ## Upserts of a single client -/

/-- What an upsert does with the stored status, once its write was refused. -/
def afterStatus (r : Record) (attempts : Nat) :
    Except StoreError (Option Status) → Plan interface (Except StoreError UpsertOutcome)
  | .error e => .done (.error e)
  | .ok stored =>
    match Status.reconcile stored r.status with
    | .error reason => .done (.ok (.rejected reason))
    | .ok () => upsertWithin r attempts

/-- What an upsert does once its write was tried. -/
def afterWrite (r : Record) (attempts : Nat) (written : Bool) :
    Plan interface (Except StoreError UpsertOutcome) :=
  if written then .done (.ok .written)
  else .ask (P := interface) (.status r.messageId) (afterStatus r attempts)

theorem upsert_eq (s : SqlStore) (r : Record) : s.upsert r =
    ((afterWrite r 2 (s.tryUpsert r).1).run (P := interface) execute).run (s.tryUpsert r).2 :=
  rfl

theorem run_afterWrite_false (attempts : Nat) (s : SqlStore) (r : Record) :
    ((afterWrite r attempts false).run (P := interface) execute).run s =
      ((afterStatus r attempts (s.status? r.messageId)).run (P := interface) execute).run s :=
  rfl

theorem upsert_of_written (h : s.tryUpsert r = (true, s')) : s.upsert r = (.ok .written, s') := by
  rw [upsert_eq, h]
  rfl

/-- A refusal that the stored status explains is the outcome. -/
theorem upsert_of_refused {stored : Option Status} {reason : Rejection}
    (h : s.tryUpsert r = (false, s')) (hstored : s'.status? r.messageId = .ok stored)
    (hreason : Status.reconcile stored r.status = .error reason) :
    s.upsert r = (.ok (.rejected reason), s') := by
  rw [upsert_eq, h, run_afterWrite_false, hstored, afterStatus, hreason]
  rfl

end SqlStore

/-! ## The relation of the stores -/

/-- Every row is the row of a record or cursor that is kept in memory. -/
structure Refines (db : SqlStore) (s : MemoryStore) : Prop where
  records : ∀ key : String, db.records[key]? = s.records[key]?.map RecordRow.ofRecord
  cursors : ∀ chain : String,
    db.cursors[chain]?.map (·.block) = s.cursors[chain]?.map (·.block.toInt64)
  dated : ∀ (key : String) (r : Record), s.records[key]? = some r → r.IsDated

namespace Refines

variable {db : SqlStore} {s : MemoryStore}

theorem empty : Refines .empty .empty where
  records key := by simp [SqlStore.empty, MemoryStore.empty]
  cursors chain := by simp [SqlStore.empty, MemoryStore.empty]
  dated key r h := by simp [MemoryStore.empty] at h

/-- A row has a status that can be read, and its rank in the column of ranks. -/
theorem row (h : Refines db s) {key : String} {row : RecordRow}
    (hrow : db.records[key]? = some row) :
    ∃ status, Status.parse row.status = .ok status ∧ row.statusRank.toInt = status.rank := by
  rw [h.records] at hrow
  obtain ⟨r, -, rfl⟩ := Option.map_eq_some_iff.mp hrow
  exact ⟨r.status, Status.parse_text r.status, RecordRow.toInt_statusRank_ofRecord r⟩

theorem ranked (h : Refines db s) : db.Ranked :=
  fun _ _ => h.row

theorem status? (h : Refines db s) (id : MessageId) : db.status? id = .ok (s.status? id) := by
  unfold SqlStore.status? MemoryStore.status? MemoryStore.get?
  rw [h.records]
  cases s.records[id.text]? with
  | none => rfl
  | some r => simp [RecordRow.ofRecord]

theorem get? (h : Refines db s) (id : MessageId) :
    db.get? id = .ok ((s.get? id).map (·.floored)) := by
  unfold SqlStore.get? MemoryStore.get?
  rw [h.records]
  cases hr : s.records[id.text]? with
  | none => rfl
  | some r =>
    simp only [Option.map_some, RecordRow.toRecord_ofRecord (h.dated _ _ hr)]
    rfl

theorem currentBlock (h : Refines db s) (chain : String) (fallback : UInt64) :
    db.currentBlock chain fallback = s.currentBlock chain fallback := by
  have hblock : db.cursors[chain]?.map (·.block.toUInt64) = s.cursors[chain]?.map (·.block) := by
    have hcast := congrArg (Option.map Int64.toUInt64) (h.cursors chain)
    simpa [Function.comp_def] using hcast
  unfold SqlStore.currentBlock MemoryStore.currentBlock MemoryStore.cursor?
  rw [hblock]

theorem updateCursor (h : Refines db s) (chain : String) (block : UInt64) (time : Timestamp) :
    Refines (db.updateCursor chain block time) (s.updateCursor chain block time) where
  records := h.records
  cursors other := by
    simp only [SqlStore.updateCursor, MemoryStore.updateCursor, Std.TreeMap.getElem?_insert]
    split_ifs
    · rfl
    · exact h.cursors other
  dated := h.dated

theorem insert (h : Refines db s) {r : Record} (hr : r.IsDated) :
    Refines (db.write r) { s with records := s.records.insert r.messageId.text r } where
  records key := by
    rw [SqlStore.getElem?_write]
    simp only [Std.TreeMap.getElem?_insert, Std.LawfulEqCmp.compare_eq_iff_eq]
    split_ifs
    · rfl
    · exact h.records key
  cursors := h.cursors
  dated key r' hr' := by
    simp only [Std.TreeMap.getElem?_insert] at hr'
    split_ifs at hr'
    · exact Option.some.inj hr' ▸ hr
    · exact h.dated key r' hr'

/-- The guard of the statement lets a record pass exactly if the store in memory writes it. -/
theorem tryUpsert (h : Refines db s) (r : Record) : db.tryUpsert r =
    if r.outcome (s.status? r.messageId) = .written then (true, db.write r) else (false, db) := by
  have hiff := Record.outcome_eq_written_iff (s.status? r.messageId) r
  have hstatus := h.status? r.messageId
  obtain ⟨htry, hrises⟩ | ⟨htry, habove⟩ := SqlStore.tryUpsert_cases db r
  · rw [htry, if_pos]
    refine hiff.mpr fun stored hstored => ?_
    rw [hstored] at hstatus
    obtain ⟨written, hwritten, hle⟩ := hrises.status? h.ranked (h.ranked.write r) hstatus
    rw [SqlStore.status?_write_self] at hwritten
    obtain rfl : r.status = written := Option.some.inj (Except.ok.inj hwritten)
    exact hle
  · obtain ⟨stored, hstored, hlt⟩ := h.ranked.status?_of_outranks habove
    rw [htry, if_neg]
    intro hwritten
    have hle := hiff.mp hwritten stored (Except.ok.inj (hstatus.symm.trans hstored))
    omega

/-- An upsert is answered alike by both stores, and leaves them related. -/
theorem upsert (h : Refines db s) {r : Record} (hr : r.IsDated) :
    (db.upsert r).1 = .ok (s.upsert r).1 ∧ Refines (db.upsert r).2 (s.upsert r).2 := by
  have htry := h.tryUpsert r
  rw [MemoryStore.fst_upsert, MemoryStore.snd_upsert]
  cases hreason : Status.reconcile (s.status? r.messageId) r.status with
  | ok _ =>
    have hout : r.outcome (s.status? r.messageId) = .written := by
      simp [Record.outcome, hreason]
    rw [if_pos hout] at htry ⊢
    rw [SqlStore.upsert_of_written htry, hout]
    exact ⟨rfl, h.insert hr⟩
  | error reason =>
    have hout : r.outcome (s.status? r.messageId) = .rejected reason := by
      simp [Record.outcome, hreason]
    rw [if_neg (by simp [hout])] at htry ⊢
    rw [SqlStore.upsert_of_refused htry (h.status? r.messageId) hreason, hout]
    exact ⟨rfl, h⟩

/-- One call is answered alike by both stores, and leaves them related. -/
theorem serve (h : Refines db s) {c : StoreCall} (hc : c.IsDated) :
    (db.serve c).1 = (s.serve c).1.floored ∧ Refines (db.serve c).2 (s.serve c).2 := by
  cases c with
  | upsert r =>
    obtain ⟨hreply, hnext⟩ := h.upsert hc
    exact ⟨congrArg StoreReply.outcome hreply, hnext⟩
  | status id => exact ⟨congrArg StoreReply.status (h.status? id), h⟩
  | record id => exact ⟨congrArg StoreReply.record (h.get? id), h⟩
  | updateCursor chain block time => exact ⟨rfl, h.updateCursor chain block time⟩
  | currentBlock chain fallback =>
    exact ⟨congrArg StoreReply.block (h.currentBlock chain fallback), h⟩

/-- Calls are answered alike by both stores, and leave them related. -/
theorem serveAll (h : Refines db s) {calls : List StoreCall} (hc : ∀ c ∈ calls, c.IsDated) :
    (serveAll SqlStore.serve calls db).1 =
        (serveAll MemoryStore.serve calls s).1.map StoreReply.floored ∧
      Refines (serveAll SqlStore.serve calls db).2 (serveAll MemoryStore.serve calls s).2 := by
  induction calls generalizing db s with
  | nil => exact ⟨rfl, h⟩
  | cons c rest ih =>
    obtain ⟨hreply, hnext⟩ := h.serve (hc c List.mem_cons_self)
    obtain ⟨hreplies, hlast⟩ := ih hnext fun c' hc' => hc c' (List.mem_cons_of_mem c hc')
    refine ⟨?_, hlast⟩
    simp only [RedemptionWatch.serveAll, List.map_cons]
    rw [hreply, hreplies]

end Refines

/-- **Refinement.** Calls of one client on new stores are answered alike by the tables and by the
store in memory, but for the parts of a record's times below a millisecond. Every row that they
leave has a status that can be read, and its rank in the column of ranks. -/
theorem SqlStore.serveAll_refines (calls : List StoreCall) (h : ∀ c ∈ calls, c.IsDated) :
    (serveAll SqlStore.serve calls .empty).1 =
        (serveAll MemoryStore.serve calls .empty).1.map StoreReply.floored ∧
      ∀ (key : String) (row : RecordRow),
        (serveAll SqlStore.serve calls .empty).2.records[key]? = some row →
          ∃ status, Status.parse row.status = .ok status ∧ row.statusRank.toInt = status.rank := by
  obtain ⟨hreplies, hstores⟩ := Refines.empty.serveAll h
  exact ⟨hreplies, fun _ _ => hstores.row⟩

/-- Calls with a refused write, a block number above the signed range, and times below a
millisecond, one of them in a leap second. -/
def sampleCalls : List StoreCall :=
  let c : Candidate := {
    messageId := ⟨"1/0a/7"⟩, chainId := ⟨2⟩, method := "completeTransfer", txHash := "0xabc"
    sender := "0xfrom", target := "0xto", blockNumber := 18446744073709551615
    timestamp := ⟨1483228799, 1500000001⟩, status := .confirmed }
  [.upsert (c.at ⟨-1, 999999999⟩), .upsert ({ c with status := .failed }.at .epoch),
    .status c.messageId, .record c.messageId,
    .updateCursor "ethereum" 18446744073709551615 .epoch, .currentBlock "ethereum" 0]

theorem SqlStore.serveAll_refines_sampleCalls : (∀ c ∈ sampleCalls, c.IsDated) ∧
    (serveAll SqlStore.serve sampleCalls .empty).1 =
      (serveAll MemoryStore.serve sampleCalls .empty).1.map StoreReply.floored :=
  ⟨by decide, (SqlStore.serveAll_refines sampleCalls (by decide)).1⟩

end RedemptionWatch
