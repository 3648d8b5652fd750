import RedemptionWatch.Plan
import RedemptionWatch.Store.Basic
import Std.Data.TreeMap

/-!
# The store in tables

Cursors and records as rows of two tables whose numbers are signed and have 64 bits. Times are whole
milliseconds. A record is written by one conditional statement (`tryUpsert`); if its guard refuses
the write, a second statement reads the stored status to say why (`status?`). The two are separate
steps, so `upsertPlan` is a plan over them, and other clients may come in between.
-/

namespace RedemptionWatch

/-- A row of the cursor table. -/
structure CursorRow where
  block : Int64
  updatedAt : Int64
  deriving DecidableEq, Repr

/-- A row of the record table. -/
structure RecordRow where
  messageId : String
  chainId : Int64
  status : String
  statusRank : Int64
  method : String
  txHash : String
  sender : String
  target : String
  blockNumber : Int64
  timestamp : Int64
  updatedAt : Int64
  deriving DecidableEq, Repr

namespace RecordRow

/-- A record as a row. -/
def ofRecord (r : Record) : RecordRow where
  messageId := r.messageId.text
  chainId := Int64.ofNat r.chainId.number.toNat
  status := r.status.text
  statusRank := Int64.ofNat r.status.rank
  method := r.method
  txHash := r.txHash
  sender := r.sender
  target := r.target
  blockNumber := r.blockNumber.toInt64
  timestamp := Int64.ofInt r.timestamp.millis
  updatedAt := Int64.ofInt r.updatedAt.millis

/-- The record that a row holds. -/
def toRecord (row : RecordRow) : Except StoreError Record := do
  let chain := row.chainId.toInt
  if chain < 0 ∨ 65536 ≤ chain then throw .invalidChainId
  match Status.parse row.status with
  | .error reason => throw (.invalidStatus reason)
  | .ok status => return {
      messageId := ⟨row.messageId⟩
      chainId := ⟨UInt16.ofNat chain.toNat⟩
      method := row.method
      txHash := row.txHash
      sender := row.sender
      target := row.target
      blockNumber := row.blockNumber.toUInt64
      timestamp := Timestamp.ofMillis row.timestamp
      status
      updatedAt := Timestamp.ofMillis row.updatedAt }

end RecordRow

/-- The two tables by their keys. -/
structure SqlStore where
  cursors : Std.TreeMap String CursorRow
  records : Std.TreeMap String RecordRow

namespace SqlStore

/-- The store whose tables are empty. -/
def empty : SqlStore := ⟨∅, ∅⟩

/-- The last processed block of a chain, `fallback` if none was written. -/
def currentBlock (s : SqlStore) (chain : String) (fallback : UInt64) : UInt64 :=
  (s.cursors[chain]?.map (·.block.toUInt64)).getD fallback

/-- The store with this cursor. -/
def updateCursor (s : SqlStore) (chain : String) (block : UInt64) (updatedAt : Timestamp) :
    SqlStore :=
  { s with cursors := s.cursors.insert chain ⟨block.toInt64, Int64.ofInt updatedAt.millis⟩ }

/-- Inserts a row, or updates the stored one if its rank is not higher. Was a row written? -/
def tryUpsert (s : SqlStore) (r : Record) : Bool × SqlStore :=
  let row := RecordRow.ofRecord r
  match s.records[row.messageId]? with
  | some stored =>
    if stored.statusRank ≤ row.statusRank then
      (true, { s with records := s.records.insert row.messageId row })
    else (false, s)
  | none => (true, { s with records := s.records.insert row.messageId row })

/-- The stored status of a message. -/
def status? (s : SqlStore) (id : MessageId) : Except StoreError (Option Status) :=
  match s.records[id.text]? with
  | none => .ok none
  | some row =>
    match Status.parse row.status with
    | .ok status => .ok (some status)
    | .error reason => .error (.invalidStatus reason)

/-- The record of a message. -/
def get? (s : SqlStore) (id : MessageId) : Except StoreError (Option Record) :=
  match s.records[id.text]? with
  | none => .ok none
  | some row => row.toRecord.map some

/-- The number of records. -/
def count (s : SqlStore) : Nat :=
  s.records.size

/-- The readable records in the order of their message ids. -/
def toList (s : SqlStore) : List Record :=
  s.records.toList.filterMap fun (_, row) => row.toRecord.toOption

/-! ## Upserts as steps -/

/-- A statement of an upsert. -/
inductive Statement where
  | tryUpsert (record : Record)
  | status (id : MessageId)
  deriving DecidableEq, Repr

/-- What a statement answers. -/
def Statement.Answer : Statement → Type
  | tryUpsert _ => Bool
  | status _ => Except StoreError (Option Status)

/-- The statements that an upsert may make. -/
def interface : Interface := ⟨Statement, Statement.Answer⟩

/-- One statement on the tables. -/
def execute : (q : Statement) → StateM SqlStore q.Answer
  | .tryUpsert r => fun s => s.tryUpsert r
  | .status id => fun s => (s.status? id, s)

/-- How often a refused write is tried again before it is given up. -/
def maxAttempts : Nat := 3

/-- Writes a record with at most this many attempts. -/
def upsertWithin (r : Record) : Nat → Plan interface (Except StoreError UpsertOutcome)
  | 0 => return .error (.unsettled r.messageId maxAttempts)
  | attempts + 1 => do
    let written : Bool ← Plan.request (P := interface) (.tryUpsert r)
    if written then return .ok .written
    let stored : Except StoreError (Option Status) ←
      Plan.request (P := interface) (.status r.messageId)
    match stored with
    | .error e => return .error e
    | .ok stored =>
      match Status.reconcile stored r.status with
      | .error reason => return .ok (.rejected reason)
      | .ok () => upsertWithin r attempts

/-- Writes a record unless it would lower the stored status. -/
def upsertPlan (r : Record) : Plan interface (Except StoreError UpsertOutcome) :=
  upsertWithin r maxAttempts

/-- `upsertPlan` without other clients. -/
def upsert (s : SqlStore) (r : Record) : Except StoreError UpsertOutcome × SqlStore :=
  ((upsertPlan r).run (P := interface) execute).run s

end SqlStore

end RedemptionWatch
