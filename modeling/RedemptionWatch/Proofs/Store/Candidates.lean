import RedemptionWatch.Proofs.Store.Convergence

/-!
# Candidates that are written again

A store to which candidates are written, each at some time, holds of every message the last one of
the highest rank (`MemoryStore.Holds`). The times at which they were written do not matter for that,
so stores can be compared by the candidates that were written to them: lists with the same last best
candidates (`SameBest`) leave the same but for the times, and lists with the same entries leave the
same statuses.

The same goes for a store that holds something already: what is written to it later
(`MemoryStore.Wrote`) leaves statuses that depend on the entries alone
(`MemoryStore.Wrote.status?_congr`).
-/

namespace RedemptionWatch

/-! ## The same last best candidates -/

/-- Of every message, the last candidate of the highest rank is the same. -/
def SameBest (l l' : List Candidate) : Prop :=
  ∀ id : MessageId, lastBest? Candidate.rank (l.filter (·.messageId = id)) =
    lastBest? Candidate.rank (l'.filter (·.messageId = id))

namespace SameBest

variable {l l' m : List Candidate}

theorem refl (l : List Candidate) : SameBest l l :=
  fun _ => rfl

theorem append_right (h : SameBest l l') (m : List Candidate) : SameBest (l ++ m) (l' ++ m) := by
  intro id
  rw [List.filter_append, List.filter_append]
  exact lastBest?_append_congr (h id) _

/-- Candidates that come again later may be left out. -/
theorem of_subset (l : List Candidate) (h : m ⊆ l') : SameBest (l ++ m ++ l') (l ++ l') := by
  intro id
  rw [List.filter_append, List.filter_append, List.filter_append]
  exact lastBest?_append_of_subset _ (List.filter_subset _ h)

theorem trans {l'' : List Candidate} (h : SameBest l l') (h' : SameBest l' l'') :
    SameBest l l'' :=
  fun id => (h id).trans (h' id)

end SameBest

/-! ## What a store holds -/

/-- The store holds of every message the last candidate of the highest rank of those written. -/
def MemoryStore.Holds (s : MemoryStore) (written : List Candidate) : Prop :=
  ∀ id, (s.get? id).map (·.toCandidate) =
    lastBest? Candidate.rank (written.filter (·.messageId = id))

namespace MemoryStore.Holds

variable {s s' : MemoryStore} {written written' : List Candidate}

theorem empty : MemoryStore.empty.Holds [] := fun id => by
  rw [get?_empty]
  rfl

theorem upsert (h : s.Holds written) (c : Candidate) (now : Timestamp) :
    (s.upsert (c.at now)).2.Holds (written ++ [c]) := by
  intro id
  have hid : (c.at now).messageId = c.messageId := rfl
  rw [get?_upsert, List.filter_append, hid]
  by_cases hc : c.messageId = id
  · rw [if_pos hc, List.filter_cons_of_pos (by simpa using hc), List.filter_nil, lastBest?_snoc,
      ← h id]
    cases hs : s.get? id with
    | none => rfl
    | some stored =>
      have hrank : stored.better (c.at now) =
          if stored.toCandidate.rank ≤ c.rank then c.at now else stored := rfl
      simp only [Option.map_some, hrank]
      split_ifs <;> rfl
  · rw [if_neg hc, List.filter_cons_of_neg (by simpa using hc), List.filter_nil, List.append_nil,
      h id]

theorem upsertAll_empty (rs : List Record) :
    (MemoryStore.empty.upsertAll rs).Holds (rs.map (·.toCandidate)) := by
  induction rs using List.reverseRecOn with
  | nil => exact empty
  | append_singleton rs r ih =>
    rw [upsertAll_snoc, List.map_append]
    exact ih.upsert r.toCandidate r.updatedAt

/-- Moving a cursor changes no record. -/
theorem updateCursor (h : s.Holds written) (chain : String) (block : UInt64) (now : Timestamp) :
    (s.updateCursor chain block now).Holds written :=
  h

/-- The candidates that are held depend on the last best ones alone. -/
theorem congr (h : s.Holds written) (h' : s'.Holds written') (hbest : SameBest written written')
    (id : MessageId) : (s.get? id).map (·.toCandidate) = (s'.get? id).map (·.toCandidate) := by
  rw [h id, h' id, hbest id]

/-- The statuses that are held do not depend on the order of the writes. -/
theorem status?_congr (h : s.Holds written) (h' : s'.Holds written')
    (hmem : ∀ c, c ∈ written ↔ c ∈ written') (id : MessageId) : s.status? id = s'.status? id := by
  have hrank : ((s.get? id).map (·.toCandidate)).map Candidate.rank =
      ((s'.get? id).map (·.toCandidate)).map Candidate.rank := by
    rw [h id, h' id]
    refine map_rank_lastBest?_congr fun c => ?_
    rw [List.mem_filter, List.mem_filter, hmem]
  rw [Option.map_map, Option.map_map] at hrank
  exact map_status_congr hrank

end MemoryStore.Holds

/-! ## What is written to a store -/

/-- The records of the second store are those of the first one after these candidates were written
to it in this order, each at some time. -/
def MemoryStore.Wrote (s : MemoryStore) (written : List Candidate) (s' : MemoryStore) : Prop :=
  ∃ rs : List Record, rs.map (·.toCandidate) = written ∧
    ∀ id, s'.get? id = (s.upsertAll rs).get? id

namespace MemoryStore

variable {s t u : MemoryStore} {written written' : List Candidate} {rs : List Record}

/-- What was written before decides for the records alone. -/
theorem get?_upsertAll_congr (h : ∀ id, s.get? id = t.get? id) (rs : List Record)
    (id : MessageId) : (s.upsertAll rs).get? id = (t.upsertAll rs).get? id := by
  rw [get?_upsertAll, get?_upsertAll, offered, offered, h id]

theorem wrote_upsertAll (s : MemoryStore) (rs : List Record) :
    s.Wrote (rs.map (·.toCandidate)) (s.upsertAll rs) :=
  ⟨rs, rfl, fun _ => rfl⟩

theorem wrote_upsert (s : MemoryStore) (c : Candidate) (now : Timestamp) :
    s.Wrote [c] (s.upsert (c.at now)).2 :=
  ⟨[c.at now], rfl, fun _ => rfl⟩

/-- Moving a cursor writes no record. -/
theorem wrote_updateCursor (s : MemoryStore) (chain : String) (block : UInt64) (now : Timestamp) :
    s.Wrote [] (s.updateCursor chain block now) :=
  ⟨[], rfl, fun _ => rfl⟩

/-- The candidates of the records that a message has been offered. -/
theorem map_offered (s : MemoryStore) (rs : List Record) (id : MessageId) :
    (s.offered rs id).map (·.toCandidate) =
      ((s.get? id).map (·.toCandidate)).toList ++
        (rs.map (·.toCandidate)).filter (·.messageId = id) := by
  rw [offered, List.map_append, List.filter_map]
  cases s.get? id <;> rfl

namespace Wrote

theorem refl (s : MemoryStore) : s.Wrote [] s :=
  s.wrote_upsertAll []

theorem trans (h : s.Wrote written t) (h' : t.Wrote written' u) :
    s.Wrote (written ++ written') u := by
  obtain ⟨rs, rfl, hrs⟩ := h
  obtain ⟨rs', rfl, hrs'⟩ := h'
  refine ⟨rs ++ rs', List.map_append, fun id => ?_⟩
  rw [upsertAll_append, hrs' id, get?_upsertAll_congr hrs]

/-- The status of a message is that of its last best candidate. -/
theorem status?_eq (h : s.Wrote written t) (id : MessageId) :
    t.status? id = (lastBest? Candidate.rank (((s.get? id).map (·.toCandidate)).toList ++
      written.filter (·.messageId = id))).map (·.status) := by
  obtain ⟨rs, rfl, hrs⟩ := h
  have hcandidates : (lastBest? Record.rank (s.offered rs id)).map (·.toCandidate) =
      lastBest? Candidate.rank ((s.offered rs id).map (·.toCandidate)) :=
    map_lastBest? Record.toCandidate (s.offered rs id)
  rw [← map_offered, ← hcandidates, Option.map_map]
  unfold status?
  rw [hrs id, get?_upsertAll]
  rfl

/-- The statuses do not depend on the order in which candidates are written, nor on the times, nor
on how often they come. -/
theorem status?_congr (h : s.Wrote written t) (h' : s.Wrote written' u)
    (hmem : ∀ c, c ∈ written ↔ c ∈ written') (id : MessageId) : t.status? id = u.status? id := by
  rw [h.status?_eq, h'.status?_eq]
  apply Option.map_injective fun _ _ => Status.rank_injective
  rw [Option.map_map, Option.map_map]
  refine map_rank_lastBest?_congr fun c => ?_
  rw [List.mem_append, List.mem_append, List.mem_filter, List.mem_filter, hmem]

end Wrote

end MemoryStore

end RedemptionWatch
