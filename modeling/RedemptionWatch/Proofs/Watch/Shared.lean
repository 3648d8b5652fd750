import RedemptionWatch.Proofs.Store.Candidates
import RedemptionWatch.Watch.Interface

/-!
# Watchers that share a store

Several watchers use one store, each for its own chain, while everything else that a watcher asks is
answered by surroundings of its own (`Watch.Shared.answer`). Writes to the store succeed, and take
place one after the other at the times that a clock shows.

A watcher adds nothing to the records of the store but what it asks to be recorded
(`Watch.Shared.wrote_answer`), and it moves no cursor but that of its own chain, and only if it asks
for that (`Watch.Shared.cursor?_answer`).
-/

namespace RedemptionWatch

namespace MemoryStore

variable (s : MemoryStore) (chain other : String) (block : UInt64) (now : Timestamp)

theorem cursor?_upsert (r : Record) : (s.upsert r).2.cursor? chain = s.cursor? chain := by
  rw [snd_upsert]
  split_ifs <;> rfl

theorem cursor?_updateCursor_self :
    (s.updateCursor chain block now).cursor? chain = some ⟨block, now⟩ := by
  simp [updateCursor, cursor?]

theorem cursor?_updateCursor_of_ne (h : chain ≠ other) :
    (s.updateCursor chain block now).cursor? other = s.cursor? other := by
  simp [updateCursor, cursor?, Std.TreeMap.getElem?_insert, h]

end MemoryStore

/-- The candidates that a request writes. -/
def Watch.Request.candidates : Watch.Request → List Candidate
  | .record c => [c]
  | _ => []

/-- Does the request concern the store? -/
def Watch.Request.isStored : Watch.Request → Bool
  | .cursor _ | .record _ | .moveCursor _ => true
  | _ => false

namespace Watch

/-- A store with the number of writes to it so far, and surroundings of some other kind. -/
structure Shared (E : Type) where
  store : MemoryStore
  writes : Nat
  own : E

/-- What answers the requests that do not concern the store. -/
abbrev Surroundings (E : Type) := (q : interface.Request) → StateM E (interface.Answer q)

namespace Shared

variable {E : Type} (chain : String) (clock : Nat → Timestamp) (source : Surroundings E)

/-- The watcher of a chain is answered by the store, and by its surroundings for the rest. -/
def answer : Surroundings (Shared E)
  | .cursor fallback => fun s => (.ok (s.store.currentBlock chain fallback), s)
  | .record c => fun s =>
    let written := s.store.upsert (c.at (clock s.writes))
    (.ok written.1, { s with store := written.2, writes := s.writes + 1 })
  | .moveCursor block => fun s =>
    (.ok (), { s with
      store := s.store.updateCursor chain block (clock s.writes), writes := s.writes + 1 })
  | q => fun s =>
    let answered := (source q).run s.own
    (answered.1, { s with own := answered.2 })

variable {chain clock source}

/-- A request adds its candidates to the records and nothing else. -/
theorem wrote_answer (q : Request) (s : Shared E) :
    s.store.Wrote q.candidates ((answer chain clock source q).run s).2.store := by
  cases q with
  | record c => exact s.store.wrote_upsert c _
  | moveCursor block => exact s.store.wrote_updateCursor chain block _
  | _ => exact .refl s.store

/-- No cursor is moved but that of the chain. -/
theorem cursor?_answer (q : Request) (s : Shared E) {other : String}
    (h : ∀ block, q = .moveCursor block → chain ≠ other) :
    ((answer chain clock source q).run s).2.store.cursor? other = s.store.cursor? other := by
  cases q with
  | record c => exact s.store.cursor?_upsert other _
  | moveCursor block => exact s.store.cursor?_updateCursor_of_ne chain other block _ (h block rfl)
  | _ => rfl

/-- The surroundings change by their own answer alone. -/
theorem own_answer (q : Request) (s : Shared E) :
    ((answer chain clock source q).run s).2.own =
      if q.isStored then s.own else ((source q).run s.own).2 := by
  cases q <;> rfl

end Shared

end Watch

end RedemptionWatch
