import RedemptionWatch.Proofs.Store.Convergence
import RedemptionWatch.Proofs.Store.Rows

/-!
# Ranks in the tables

The guard of a write reads the column of ranks, and a write that it refuses is explained by the
status of the same row. The two agree in a store that is `Ranked`, so there a refusal is always
explained (`SqlStore.Ranked.status?_of_outranks`).

A write that goes through takes no row away and lowers no rank (`SqlStore.tryUpsert_cases`). So what
is in the way of a record (`SqlStore.Outranks`) stays in its way, and a message whose row is as high
as a record (`SqlStore.Covers`) stays as high.
-/

namespace RedemptionWatch

/-- A status of a lower rank than the stored one is refused, with a reason. -/
theorem Status.exists_reconcile_eq_error {stored observed : Status}
    (h : observed.rank < stored.rank) :
    ∃ reason, reconcile (some stored) observed = .error reason := by
  cases hreason : reconcile (some stored) observed with
  | error reason => exact ⟨reason, rfl⟩
  | ok _ =>
    have hle := (reconcile_eq_ok_iff _ _).mp hreason stored rfl
    omega

namespace SqlStore

variable {s t u : SqlStore} {r : Record} {key : String} {row : RecordRow}

/-- Every row has a status that can be read, and its rank in the column of ranks. -/
def Ranked (s : SqlStore) : Prop :=
  ∀ (key : String) (row : RecordRow), s.records[key]? = some row →
    ∃ status, Status.parse row.status = .ok status ∧ row.statusRank.toInt = status.rank

/-- Every row of `s` is still there in `t`, and its rank has not become lower. -/
def Rises (s t : SqlStore) : Prop :=
  ∀ (key : String) (row : RecordRow), s.records[key]? = some row →
    ∃ row', t.records[key]? = some row' ∧ row.statusRank ≤ row'.statusRank

/-- A row of a higher rank is in the way of the record. -/
def Outranks (s : SqlStore) (r : Record) : Prop :=
  ∃ row, s.records[r.messageId.text]? = some row ∧
    (RecordRow.ofRecord r).statusRank < row.statusRank

/-- There is a row of the message whose rank is at least that of the record. -/
def Covers (s : SqlStore) (r : Record) : Prop :=
  ∃ row, s.records[r.messageId.text]? = some row ∧
    (RecordRow.ofRecord r).statusRank ≤ row.statusRank

/-- The store with the row of the record. -/
def write (s : SqlStore) (r : Record) : SqlStore :=
  { s with records := s.records.insert r.messageId.text (.ofRecord r) }

/-! ## Rising -/

namespace Rises

theorem refl (s : SqlStore) : s.Rises s :=
  fun _ row h => ⟨row, h, Int64.le_refl _⟩

theorem trans (h : s.Rises t) (h' : t.Rises u) : s.Rises u := by
  intro key row hrow
  obtain ⟨row', hrow', hle⟩ := h key row hrow
  obtain ⟨row'', hrow'', hle'⟩ := h' key row' hrow'
  exact ⟨row'', hrow'', Int64.le_trans hle hle'⟩

end Rises

theorem Outranks.mono (h : s.Outranks r) (hst : s.Rises t) : t.Outranks r := by
  obtain ⟨row, hrow, hlt⟩ := h
  obtain ⟨row', hrow', hle⟩ := hst _ row hrow
  exact ⟨row', hrow', Int64.lt_of_lt_of_le hlt hle⟩

theorem Covers.mono (h : s.Covers r) (hst : s.Rises t) : t.Covers r := by
  obtain ⟨row, hrow, hle⟩ := h
  obtain ⟨row', hrow', hle'⟩ := hst _ row hrow
  exact ⟨row', hrow', Int64.le_trans hle hle'⟩

theorem Outranks.covers (h : s.Outranks r) : s.Covers r := by
  obtain ⟨row, hrow, hlt⟩ := h
  exact ⟨row, hrow, Int64.le_of_lt hlt⟩

/-! ## One statement -/

theorem getElem?_write (s : SqlStore) (r : Record) (key : String) : (s.write r).records[key]? =
    if r.messageId.text = key then some (.ofRecord r) else s.records[key]? := by
  simp [write, Std.TreeMap.getElem?_insert]

theorem getElem?_write_self (s : SqlStore) (r : Record) :
    (s.write r).records[r.messageId.text]? = some (.ofRecord r) := by
  rw [getElem?_write, if_pos rfl]

theorem covers_write (s : SqlStore) (r : Record) : (s.write r).Covers r :=
  ⟨_, getElem?_write_self s r, Int64.le_refl _⟩

/-- A write goes through and nothing of a higher rank is lost, or it is refused as a row of a higher
rank is in its way. -/
theorem tryUpsert_cases (s : SqlStore) (r : Record) :
    (s.tryUpsert r = (true, s.write r) ∧ s.Rises (s.write r)) ∨
      (s.tryUpsert r = (false, s) ∧ s.Outranks r) := by
  have hkey : (RecordRow.ofRecord r).messageId = r.messageId.text := rfl
  unfold tryUpsert
  simp only [hkey]
  cases hrow : s.records[r.messageId.text]? with
  | none =>
    refine .inl ⟨rfl, fun key row h => ?_⟩
    rw [getElem?_write, if_neg (by rintro rfl; simp [hrow] at h)]
    exact ⟨row, h, Int64.le_refl _⟩
  | some stored =>
    by_cases hle : stored.statusRank ≤ (RecordRow.ofRecord r).statusRank
    · refine .inl ⟨if_pos hle, fun key row h => ?_⟩
      rw [getElem?_write]
      split_ifs with hid
      · subst hid
        obtain rfl : stored = row := Option.some.inj (hrow.symm.trans h)
        exact ⟨_, rfl, hle⟩
      · exact ⟨row, h, Int64.le_refl _⟩
    · exact .inr ⟨if_neg hle, stored, hrow, Int64.not_le.mp hle⟩

namespace Ranked

theorem empty : SqlStore.empty.Ranked := by
  intro key row hrow
  simp [SqlStore.empty] at hrow

theorem write (h : s.Ranked) (r : Record) : (s.write r).Ranked := by
  intro key row hrow
  rw [getElem?_write] at hrow
  split_ifs at hrow
  · obtain rfl := Option.some.inj hrow
    exact ⟨r.status, Status.parse_text r.status, RecordRow.toInt_statusRank_ofRecord r⟩
  · exact h key row hrow

/-- A message has the status whose rank is in the column of ranks. -/
theorem status?_eq_some_iff (h : s.Ranked) {id : MessageId} {status : Status} :
    s.status? id = .ok (some status) ↔
      ∃ row, s.records[id.text]? = some row ∧ row.statusRank.toInt = status.rank := by
  unfold status?
  cases hrow : s.records[id.text]? with
  | none => simp
  | some row =>
    obtain ⟨stored, hparse, hrank⟩ := h _ row hrow
    simp only [hparse, Except.ok.injEq, Option.some.injEq, exists_eq_left', hrank, Int.natCast_inj]
    exact ⟨congrArg Status.rank, Status.rank_injective⟩

theorem exists_status? (h : s.Ranked) {id : MessageId} (hrow : s.records[id.text]? = some row) :
    ∃ status, s.status? id = .ok (some status) ∧ row.statusRank.toInt = status.rank := by
  obtain ⟨status, -, hrank⟩ := h _ row hrow
  exact ⟨status, h.status?_eq_some_iff.mpr ⟨row, hrow, hrank⟩, hrank⟩

/-- The row in the way of a record explains its refusal. -/
theorem status?_of_outranks (h : s.Ranked) (hr : s.Outranks r) :
    ∃ stored, s.status? r.messageId = .ok (some stored) ∧ r.status.rank < stored.rank := by
  obtain ⟨row, hrow, hlt⟩ := hr
  obtain ⟨stored, hstored, hrank⟩ := h.exists_status? hrow
  rw [Int64.lt_iff_toInt_lt, RecordRow.toInt_statusRank_ofRecord, hrank] at hlt
  exact ⟨stored, hstored, Int.ofNat_lt.mp hlt⟩

theorem status?_of_covers (h : s.Ranked) (hr : s.Covers r) :
    ∃ stored, s.status? r.messageId = .ok (some stored) ∧ r.status.rank ≤ stored.rank := by
  obtain ⟨row, hrow, hle⟩ := hr
  obtain ⟨stored, hstored, hrank⟩ := h.exists_status? hrow
  rw [Int64.le_iff_toInt_le, RecordRow.toInt_statusRank_ofRecord, hrank] at hle
  exact ⟨stored, hstored, Int.ofNat_le.mp hle⟩

end Ranked

theorem status?_write_self (s : SqlStore) (r : Record) :
    (s.write r).status? r.messageId = .ok (some r.status) := by
  unfold status?
  simp only [getElem?_write_self, RecordRow.ofRecord, Status.parse_text]

/-- As the store rises, so do its statuses. -/
theorem Rises.status? (hst : s.Rises t) (hs : s.Ranked) (ht : t.Ranked) {id : MessageId}
    {status : Status} (h : s.status? id = .ok (some status)) :
    ∃ status', t.status? id = .ok (some status') ∧ status.rank ≤ status'.rank := by
  obtain ⟨row, hrow, hrank⟩ := hs.status?_eq_some_iff.mp h
  obtain ⟨row', hrow', hle⟩ := hst _ row hrow
  obtain ⟨status', hstatus', hrank'⟩ := ht.exists_status? hrow'
  rw [Int64.le_iff_toInt_le, hrank, hrank'] at hle
  exact ⟨status', hstatus', Int.ofNat_le.mp hle⟩

end SqlStore

end RedemptionWatch
