import Mathlib.Data.Nat.Basic
import Mathlib.Order.Basic
import RedemptionWatch.Proofs.Store.LastBest
import RedemptionWatch.Store.Sql

/-!
# Records as rows

A row holds everything of a record but the parts of its times below a millisecond
(`RecordRow.toRecord_ofRecord`), and the rank of its status (`RecordRow.toInt_statusRank_ofRecord`).
Block numbers go through signed columns unharmed, as they are cast there and back.
-/

namespace RedemptionWatch

namespace Timestamp

/-- The instant cut to whole milliseconds. A leap second counts as the second after it. -/
def floored (t : Timestamp) : Timestamp where
  seconds := t.seconds + (t.nanos / 1000000000 : Nat)
  nanos := t.nanos % 1000000000 / 1000000 * 1000000

/-- The calendar holds the second of this instant. -/
def IsInstant (t : Timestamp) : Prop :=
  isRepresentable (t.seconds + (t.nanos / 1000000000 : Nat)) = true

instance (t : Timestamp) : Decidable t.IsInstant :=
  inferInstanceAs (Decidable (_ = true))

theorem isRepresentable_iff (seconds : Int) :
    isRepresentable seconds = true ↔ -8334601228800 ≤ seconds ∧ seconds ≤ 8210266876799 := by
  have hmin : minSeconds = -8334601228800 := by decide
  have hmax : maxSeconds = 8210266876799 := by decide
  simp [isRepresentable, hmin, hmax]

/-- Milliseconds are counted in a signed column without overflow. -/
theorem ofMillis_millis {t : Timestamp} (h : t.IsInstant) :
    ofMillis (Int64.ofInt t.millis) = t.floored := by
  have hrange := (isRepresentable_iff _).mp h
  have hint : (Int64.ofInt t.millis).toInt = t.millis := by
    refine Int64.toInt_ofInt_of_le ?_ ?_ <;> simp only [millis] <;> omega
  have hsecond : t.millis / (1000 : Nat) = t.seconds + (t.nanos / 1000000000 : Nat) := by
    simp only [millis]
    omega
  have hnanos : (t.millis % (1000 : Nat)).toNat = t.nanos % 1000000000 / 1000000 := by
    simp only [millis]
    omega
  simp only [ofMillis, ofUnits, hint, hsecond, hnanos]
  exact if_pos h

end Timestamp

namespace Record

/-- Both times of the record are instants. -/
def IsDated (r : Record) : Prop :=
  r.timestamp.IsInstant ∧ r.updatedAt.IsInstant

instance (r : Record) : Decidable r.IsDated :=
  inferInstanceAs (Decidable (_ ∧ _))

/-- The record with its times cut to whole milliseconds. -/
def floored (r : Record) : Record :=
  { r with timestamp := r.timestamp.floored, updatedAt := r.updatedAt.floored }

end Record

@[simp] theorem Status.parse_text (s : Status) : parse s.text = .ok s := by
  simp [parse]

namespace RecordRow

theorem toInt_statusRank_ofRecord (r : Record) : (ofRecord r).statusRank.toInt = r.rank := by
  have hlt : r.status.rank < 2 ^ 63 := by cases r.status <;> decide
  exact Int64.toInt_ofNat_of_lt hlt

/-- What is written is read back, its times cut to whole milliseconds. -/
theorem toRecord_ofRecord {r : Record} (h : r.IsDated) : (ofRecord r).toRecord = .ok r.floored := by
  have hchain : (ofRecord r).chainId.toInt = r.chainId.number.toNat :=
    Int64.toInt_ofNat_of_lt (by have := r.chainId.number.toNat_lt; omega)
  have hstatus : Status.parse (ofRecord r).status = .ok r.status := Status.parse_text r.status
  have hlt := r.chainId.number.toNat_lt
  unfold toRecord
  simp only [hchain, hstatus]
  rw [if_neg (by omega)]
  simp [ofRecord, Record.floored, Timestamp.ofMillis_millis h.1, Timestamp.ofMillis_millis h.2]
  rfl

end RecordRow

end RedemptionWatch
