import Mathlib.Data.List.Perm.Basic
import RedemptionWatch.Proofs.Store.LastBest
import RedemptionWatch.Store.Memory
import Std.Data.TreeMap.Lemmas

/-!
# Convergence of the store in memory

Whatever a store holds and in whatever order records are written to it, it ends with the last record
of the highest status rank of every message (`MemoryStore.upsertAll_converges`). So statuses only
rise, they do not depend on the order of the writes, and writing the same records again changes
nothing.

One write leaves the better of the stored record and the new one (`MemoryStore.get?_upsert`), and
any number of them leave `lastBest?` of all that was offered for a message
(`MemoryStore.get?_upsertAll`).
-/

namespace RedemptionWatch

theorem MessageId.text_inj {a b : MessageId} : a.text = b.text ↔ a = b := by
  cases a
  cases b
  simp

namespace Record

/-- A record is written exactly if its rank is not below that of the stored status. -/
theorem outcome_eq_written_iff (stored : Option Status) (r : Record) :
    r.outcome stored = .written ↔ ∀ s, stored = some s → s.rank ≤ r.status.rank := by
  unfold outcome
  cases h : Status.reconcile stored r.status with
  | ok _ => simpa using (Status.reconcile_eq_ok_iff stored r.status).mp h
  | error reason =>
    have hne : ¬∀ s, stored = some s → s.rank ≤ r.status.rank := by
      rw [← Status.reconcile_eq_ok_iff, h]
      simp
    simpa using hne

end Record

namespace MemoryStore

variable (s : MemoryStore) (r : Record) (rs : List Record) (id : MessageId)

/-! ## One write -/

theorem get?_empty : empty.get? id = none := by
  simp [empty, get?]

theorem get?_insert :
    MemoryStore.get? { s with records := s.records.insert r.messageId.text r } id =
      if r.messageId = id then some r else s.get? id := by
  simp [get?, Std.TreeMap.getElem?_insert, MessageId.text_inj]

/-- A write answers what `Record.outcome` says of the stored status. -/
theorem fst_upsert : (s.upsert r).1 = r.outcome (s.status? r.messageId) := by
  unfold upsert Record.outcome
  split <;> simp [*]

/-- A record that is refused leaves the store as it is. -/
theorem snd_upsert : (s.upsert r).2 =
    if r.outcome (s.status? r.messageId) = .written then
      { s with records := s.records.insert r.messageId.text r }
    else s := by
  unfold upsert Record.outcome
  split <;> simp [*]

/-- A write leaves the better of the stored record and the new one. -/
theorem get?_upsert : (s.upsert r).2.get? id =
    if r.messageId = id then some (match s.get? id with
      | some stored => stored.better r
      | none => r)
    else s.get? id := by
  rw [snd_upsert]
  by_cases hid : r.messageId = id
  · subst hid
    have hstatus : s.status? r.messageId = (s.get? r.messageId).map (·.status) := rfl
    cases hs : s.get? r.messageId with
    | none =>
      rw [if_pos ((Record.outcome_eq_written_iff _ r).mpr (by simp [hstatus, hs])), get?_insert]
      simp
    | some stored =>
      have hiff := Record.outcome_eq_written_iff (s.status? r.messageId) r
      rw [hstatus, hs] at hiff ⊢
      by_cases hle : stored.status.rank ≤ r.status.rank
      · rw [if_pos (hiff.mpr fun t ht => Option.some.inj ht ▸ hle), get?_insert]
        simp [Record.better, hle]
      · rw [if_neg fun h => hle (hiff.mp h _ rfl), hs]
        simp [Record.better, hle]
  · rw [if_neg hid]
    split_ifs
    · rw [get?_insert, if_neg hid]
    · rfl

/-! ## Any number of writes -/

/-- The store after these records were written one after the other. -/
def upsertAll (s : MemoryStore) (rs : List Record) : MemoryStore :=
  rs.foldl (fun s r => (s.upsert r).2) s

/-- What was offered for a message: the stored record, then those that were written. -/
def offered (s : MemoryStore) (rs : List Record) (id : MessageId) : List Record :=
  (s.get? id).toList ++ rs.filter (·.messageId = id)

theorem upsertAll_append (rs' : List Record) :
    s.upsertAll (rs ++ rs') = (s.upsertAll rs).upsertAll rs' :=
  List.foldl_append ..

theorem upsertAll_snoc : s.upsertAll (rs ++ [r]) = ((s.upsertAll rs).upsert r).2 :=
  upsertAll_append s rs [r]

/-- The store holds the last record of the highest rank of all that was offered for a message. -/
theorem get?_upsertAll : (s.upsertAll rs).get? id = lastBest? Record.rank (s.offered rs id) := by
  induction rs using List.reverseRecOn with
  | nil => cases hs : s.get? id <;> simp [upsertAll, offered, hs, lastBest?]
  | append_singleton rs r ih =>
    rw [upsertAll_snoc, get?_upsert, ih]
    by_cases hid : r.messageId = id
    · have hoffered : s.offered (rs ++ [r]) id = s.offered rs id ++ [r] := by
        simp [offered, hid]
      rw [if_pos hid, hoffered, lastBest?_snoc]
      cases lastBest? Record.rank (s.offered rs id) <;> rfl
    · have hoffered : s.offered (rs ++ [r]) id = s.offered rs id := by
        simp [offered, hid]
      rw [if_neg hid, hoffered]

theorem status?_upsertAll :
    (s.upsertAll rs).status? id = (lastBest? Record.rank (s.offered rs id)).map (·.status) := by
  rw [← get?_upsertAll]
  rfl

/-- Of the same rank is the same status. -/
theorem map_status_congr {a b : Option Record} (h : a.map Record.rank = b.map Record.rank) :
    a.map (·.status) = b.map (·.status) := by
  cases a <;> cases b <;> simp_all [Record.rank, Candidate.rank]
  exact Status.rank_injective h

/-- Statuses depend on what was offered, not on its order. -/
theorem status?_upsertAll_congr {s s' : MemoryStore} {rs rs' : List Record} {id : MessageId}
    (h : ∀ r, r ∈ s.offered rs id ↔ r ∈ s'.offered rs' id) :
    (s.upsertAll rs).status? id = (s'.upsertAll rs').status? id := by
  rw [status?_upsertAll, status?_upsertAll]
  exact map_status_congr (map_rank_lastBest?_congr h)

theorem rank_le_status?_upsert {t : Status} (h : s.status? id = some t) :
    ∃ t', (s.upsert r).2.status? id = some t' ∧ t.rank ≤ t'.rank := by
  obtain ⟨stored, hs, rfl⟩ := Option.map_eq_some_iff.mp h
  unfold status?
  rw [get?_upsert, hs]
  split_ifs
  · refine ⟨(stored.better r).status, rfl, ?_⟩
    unfold Record.better
    split_ifs with hle
    · exact hle
    · exact le_rfl
  · exact ⟨stored.status, rfl, le_rfl⟩

/-- Once records are written, writing them again changes nothing. -/
theorem get?_upsertAll_self :
    ((s.upsertAll rs).upsertAll rs).get? id = (s.upsertAll rs).get? id := by
  have hoffered : s.offered (rs ++ rs) id = (s.get? id).toList ++ rs.filter (·.messageId = id) ++
      rs.filter (·.messageId = id) := by
    simp [offered]
  rw [← upsertAll_append, get?_upsertAll, get?_upsertAll, hoffered,
    lastBest?_append_of_subset _ (List.Subset.refl _)]
  rfl

/-- **Convergence.** After any writes to any store, it holds of every message the last record of
the highest rank that was offered for it, and nothing else has changed. No write lowers a status,
every order of the writes gives the same statuses, and doing all of them again changes nothing. -/
theorem upsertAll_converges :
    (∀ id, (s.upsertAll rs).get? id = none ↔ s.offered rs id = []) ∧
    (∀ id r, (s.upsertAll rs).get? id = some r ↔ IsLastBest Record.rank (s.offered rs id) r) ∧
    (∀ id, (∀ r ∈ rs, r.messageId ≠ id) → (s.upsertAll rs).get? id = s.get? id) ∧
    (∀ before r after, rs = before ++ r :: after → ∀ id t,
      (s.upsertAll before).status? id = some t →
        ∃ t', (s.upsertAll (before ++ [r])).status? id = some t' ∧ t.rank ≤ t'.rank) ∧
    (∀ rs', rs.Perm rs' → ∀ id, (s.upsertAll rs').status? id = (s.upsertAll rs).status? id) ∧
    (∀ id, ((s.upsertAll rs).upsertAll rs).get? id = (s.upsertAll rs).get? id) := by
  refine ⟨fun id => ?_, fun id r => ?_, fun id hid => ?_, ?_, fun rs' hperm id => ?_,
    get?_upsertAll_self s rs⟩
  · rw [get?_upsertAll, lastBest?_eq_none_iff]
  · rw [get?_upsertAll, lastBest?_eq_some_iff]
  · have hoffered : s.offered rs id = s.offered [] id := by
      simpa [offered] using hid
    rw [get?_upsertAll, hoffered, ← get?_upsertAll]
    rfl
  · rintro before r after - id t ht
    rw [upsertAll_snoc]
    exact rank_le_status?_upsert _ r id ht
  · refine status?_upsertAll_congr fun r => ?_
    simp [offered, hperm.mem_iff]

end MemoryStore

end RedemptionWatch
