import RedemptionWatch.Store.Basic
import Std.Data.TreeMap

/-!
# The store in memory

Cursors by chain name and records by message id, the latter in the order of the ids as texts.
-/

namespace RedemptionWatch

/-- The last processed block of a chain, and when it was written. -/
structure CursorEntry where
  block : UInt64
  updatedAt : Timestamp
  deriving DecidableEq, Repr

/-- Cursors and records, and every cursor that was written, in order. -/
structure MemoryStore where
  cursors : Std.TreeMap String CursorEntry
  records : Std.TreeMap String Record
  cursorWrites : Array (String × UInt64)

namespace MemoryStore

/-- The store that holds nothing. -/
def empty : MemoryStore := ⟨∅, ∅, #[]⟩

/-- The cursor of a chain. -/
def cursor? (s : MemoryStore) (chain : String) : Option CursorEntry :=
  s.cursors[chain]?

/-- The last processed block of a chain, `fallback` if none was written. -/
def currentBlock (s : MemoryStore) (chain : String) (fallback : UInt64) : UInt64 :=
  ((s.cursor? chain).map (·.block)).getD fallback

/-- The store with this cursor. -/
def updateCursor (s : MemoryStore) (chain : String) (block : UInt64) (updatedAt : Timestamp) :
    MemoryStore :=
  { s with
    cursors := s.cursors.insert chain ⟨block, updatedAt⟩
    cursorWrites := s.cursorWrites.push (chain, block) }

/-- The record of a message. -/
def get? (s : MemoryStore) (id : MessageId) : Option Record :=
  s.records[id.text]?

/-- The stored status of a message. -/
def status? (s : MemoryStore) (id : MessageId) : Option Status :=
  (s.get? id).map (·.status)

/-- Writes a record unless it would lower the stored status. -/
def upsert (s : MemoryStore) (r : Record) : UpsertOutcome × MemoryStore :=
  match Status.reconcile (s.status? r.messageId) r.status with
  | .ok () => (.written, { s with records := s.records.insert r.messageId.text r })
  | .error reason => (.rejected reason, s)

/-- The records in the order of their message ids. -/
def toList (s : MemoryStore) : List Record :=
  s.records.toList.map (·.2)

end MemoryStore

end RedemptionWatch
