import RedemptionWatch.Store.Memory
import RedemptionWatch.Store.Sql

/-!
# Either store

The two stores behind one set of operations.
-/

namespace RedemptionWatch

/-- A store of either kind. -/
inductive Backend where
  | memory (store : MemoryStore)
  | sql (store : SqlStore)

namespace Backend

/-- The last processed block of a chain, `fallback` if none was written. -/
def currentBlock (b : Backend) (chain : String) (fallback : UInt64) : UInt64 :=
  match b with
  | memory s => s.currentBlock chain fallback
  | sql s => s.currentBlock chain fallback

/-- The store with this cursor. -/
def updateCursor (b : Backend) (chain : String) (block : UInt64) (updatedAt : Timestamp) :
    Backend :=
  match b with
  | memory s => memory (s.updateCursor chain block updatedAt)
  | sql s => sql (s.updateCursor chain block updatedAt)

/-- Writes a record unless it would lower the stored status. -/
def upsert (b : Backend) (r : Record) : Except StoreError UpsertOutcome × Backend :=
  match b with
  | memory s =>
    let (outcome, s) := s.upsert r
    (.ok outcome, memory s)
  | sql s =>
    let (outcome, s) := s.upsert r
    (outcome, sql s)

/-- The records in the order of their message ids. -/
def toList : Backend → List Record
  | memory s => s.toList
  | sql s => s.toList

end Backend

end RedemptionWatch
