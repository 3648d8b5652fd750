import RedemptionWatch.Aptos.Source
import RedemptionWatch.Proofs.Ankr.Receipts
import RedemptionWatch.Proofs.Evm.Extraction
import RedemptionWatch.Proofs.Store.Rows

/-!
# When redemptions are dated

A block says how many seconds or microseconds after the epoch it was made, in a number of 64 bits
without a sign. `Timestamp.Dates` is what an instant should be for such a number: as many units
after the epoch, or the epoch itself where the calendar ends before that.

The number is read as a signed one, so from `2 ^ 63` on it counts back from `2 ^ 64`, to instants
before the epoch. Most of them lie before the first year of the calendar, and then the epoch stands
in. But the last ones are in the calendar: a block that names the second `2 ^ 64 - 1` is dated to
the last second of 1969 (`Ankr.last_second_before_epoch`). `candidates_dated` says for which numbers
this is so. For all others the redemptions of the block are dated as they should be.
-/

namespace RedemptionWatch

namespace Timestamp

/-- Nanoseconds since the epoch, without a leap second. -/
def nanoseconds (t : Timestamp) : Int :=
  t.seconds * 1000000000 + t.nanos

/-- The first instant of the calendar. -/
def first : Timestamp :=
  ⟨minSeconds, 0⟩

/-- The last instant of the calendar. -/
def last : Timestamp :=
  ⟨maxSeconds, 999999999⟩

theorem first_nanoseconds : first.nanoseconds = -8334601228800000000000 := by
  decide

theorem last_nanoseconds : last.nanoseconds = 8210266876799999999999 := by
  decide

example : first.text = "-262143-01-01T00:00:00Z" ∧
    last.text = "+262142-12-31T23:59:59.999999999Z" := by decide +kernel

/-- The instant is in the calendar and `n` units after the epoch, of which `unit` make a second. -/
structure IsAt (unit : Nat) (n : Int) (t : Timestamp) : Prop where
  nanos_lt : t.nanos < 1000000000
  nanoseconds_eq : t.nanoseconds * unit = n * 1000000000
  first_le : first.nanoseconds ≤ t.nanoseconds
  le_last : t.nanoseconds ≤ last.nanoseconds

/-- The instant for `n` units after the epoch: just that one if the calendar has it, and the epoch
if not. -/
def Dates (unit : Nat) (n : Int) (t : Timestamp) : Prop :=
  t.IsAt unit n ∨ t = epoch ∧ ∀ t', ¬IsAt unit n t'

/-- The units in which blocks count: seconds and microseconds. -/
def IsBlockUnit (unit : Nat) : Prop :=
  unit = 1 ∨ unit = 1000000

section Units

variable {unit : Nat} {n : Int} {t : Timestamp}

/-- The calendar holds the second of an instant. -/
theorem IsAt.isRepresentable (hunit : IsBlockUnit unit) (h : t.IsAt unit n) :
    Timestamp.isRepresentable (n / unit) = true := by
  obtain ⟨hnanos, heq, hfirst, hlast⟩ := h
  rw [first_nanoseconds] at hfirst
  rw [last_nanoseconds] at hlast
  rw [isRepresentable_iff]
  unfold nanoseconds at heq hfirst hlast
  rcases hunit with rfl | rfl <;> omega

theorem ofUnits_isAt (hunit : IsBlockUnit unit) (h : Timestamp.isRepresentable (n / unit) = true) :
    (ofUnits unit n).IsAt unit n := by
  have heq : ofUnits unit n = ⟨n / unit, (n % unit).toNat * (1000000000 / unit)⟩ := if_pos h
  rw [isRepresentable_iff] at h
  rw [heq]
  refine ⟨?_, ?_, first_nanoseconds ▸ ?_, last_nanoseconds ▸ ?_⟩ <;>
    simp only [nanoseconds] <;> rcases hunit with rfl | rfl <;> omega

/-- A number with a sign is dated as it should be. -/
theorem ofUnits_dates (hunit : IsBlockUnit unit) (n : Int) : (ofUnits unit n).Dates unit n := by
  by_cases h : Timestamp.isRepresentable (n / unit) = true
  · exact Or.inl (ofUnits_isAt hunit h)
  · exact Or.inr ⟨if_neg h, fun t' hat => h (hat.isRepresentable hunit)⟩

/-! ## Numbers without a sign -/

/-- How many units the calendar starts before the epoch. -/
def unitsBefore (unit : Nat) : Nat :=
  (-first.seconds).toNat * unit

theorem unitsBefore_eq (unit : Nat) : unitsBefore unit = 8334601228800 * unit := by
  have hfirst : (-first.seconds).toNat = 8334601228800 := by decide
  rw [unitsBefore, hfirst]

/-- What becomes of a number of 64 bits, which is read as a signed one. The instant is the one for
`n` units after the epoch, and not before it, unless the calendar goes back `2 ^ 64 - n` units from
the epoch. -/
structure IsDatedBy (unit : Nat) (n : UInt64) (t : Timestamp) : Prop where
  signed : t.Dates unit n.toInt64.toInt
  dates_iff : t.Dates unit n.toNat ↔ n.toNat < 2 ^ 64 - unitsBefore unit
  before_iff : t.nanoseconds < 0 ↔ 2 ^ 64 - unitsBefore unit ≤ n.toNat

/-- In the upper half of the numbers the sign makes a difference. -/
theorem toInt_toInt64 (n : UInt64) :
    n.toInt64.toInt = if n.toNat < 2 ^ 63 then (n.toNat : Int) else n.toNat - 2 ^ 64 := by
  have hbits : n.toInt64.toInt = n.toBitVec.toInt := rfl
  have hnat : n.toBitVec.toNat = n.toNat := rfl
  rw [hbits, BitVec.toInt_eq_toNat_cond, hnat]
  split_ifs <;> omega

/-- So many units after the epoch the calendar is over. -/
theorem dates_upper_iff (hunit : IsBlockUnit unit) {n : Nat} (hn : 2 ^ 63 ≤ n) :
    t.Dates unit n ↔ t = epoch := by
  have hnone (t' : Timestamp) : ¬t'.IsAt unit n := by
    intro h
    have hrange := (isRepresentable_iff _).mp (h.isRepresentable hunit)
    rcases hunit with rfl | rfl <;> omega
  exact ⟨fun h => h.elim (fun hat => absurd hat (hnone t)) And.left, fun h => Or.inr ⟨h, hnone⟩⟩

/-- A signed number is dated before the epoch if it is negative and the calendar goes back to it. -/
theorem Dates.nanoseconds_lt_iff (hunit : IsBlockUnit unit) (h : t.Dates unit n) :
    t.nanoseconds < 0 ↔ -(unitsBefore unit : Int) ≤ n ∧ n < 0 := by
  rcases h with h | ⟨rfl, hnone⟩
  · have hrange := (isRepresentable_iff _).mp (h.isRepresentable hunit)
    have heq := h.nanoseconds_eq
    rw [unitsBefore_eq]
    rcases hunit with rfl | rfl <;> omega
  · refine iff_of_false (by decide) fun ⟨hstart, hneg⟩ => ?_
    have hin : Timestamp.isRepresentable (n / unit) = true := by
      rw [isRepresentable_iff]
      rw [unitsBefore_eq] at hstart
      rcases hunit with rfl | rfl <;> omega
    exact hnone _ (ofUnits_isAt hunit hin)

/-- A negative number is dated to the epoch or to an instant before it. -/
theorem Dates.eq_epoch (hunit : IsBlockUnit unit) (h : t.Dates unit n) (hn : n < 0)
    (ht : ¬t.nanoseconds < 0) : t = epoch := by
  rcases h with h | ⟨hepoch, -⟩
  · have heq := h.nanoseconds_eq
    rcases hunit with rfl | rfl <;> omega
  · exact hepoch

/-- A number of 64 bits is read with a sign. -/
theorem isDatedBy_ofUnits (hunit : IsBlockUnit unit) (n : UInt64) :
    (ofUnits unit n.toInt64.toInt).IsDatedBy unit n := by
  have hsigned := ofUnits_dates hunit n.toInt64.toInt
  have hlt := n.toNat_lt
  have hstart : unitsBefore unit ≤ 2 ^ 63 := by
    rw [unitsBefore_eq]
    rcases hunit with rfl | rfl <;> decide
  generalize ofUnits unit n.toInt64.toInt = t at hsigned
  have hbefore : t.nanoseconds < 0 ↔ 2 ^ 64 - unitsBefore unit ≤ n.toNat := by
    rw [hsigned.nanoseconds_lt_iff hunit, toInt_toInt64]
    split_ifs <;> omega
  refine ⟨hsigned, ?_, hbefore⟩
  rw [toInt_toInt64] at hsigned
  by_cases hhalf : n.toNat < 2 ^ 63
  · rw [if_pos hhalf] at hsigned
    exact iff_of_true hsigned (by omega)
  · rw [if_neg hhalf] at hsigned
    rw [dates_upper_iff hunit (by omega), ← not_le, ← hbefore]
    constructor
    · rintro rfl
      decide
    · exact hsigned.eq_epoch hunit (by omega)

end Units

end Timestamp

/-! ## Redemptions -/

namespace Evm.Source

/-- All redemptions of a block are dated alike. -/
theorem extract_timestamp {s : Source} {b : Block} {log : Log Endpoint.interface}
    {cs : List Candidate} (h : (s.extract b).Gives log (.ok cs)) :
    ∀ c ∈ cs, c.timestamp = .ofSeconds ((Text.Hex.uint64? b.timestamp).getD 0) := by
  unfold extract at h
  split at h
  · exact nomatch (Endpoint.Fetch.gives_throw.mp h).2
  · cases candidatesOf_inquires h with
    | all hall hhad hfound =>
      clear h hall hhad
      induction hfound with
      | nil => exact fun c hc => absurd hc List.not_mem_nil
      | cons hyields _ ih => exact List.forall_mem_cons.mpr ⟨hyields.timestamp, ih⟩

end Evm.Source

/-- A redemption of a page is dated by its own transaction. -/
theorem Ankr.Transaction.candidate?_timestamp {chainId : ChainId} {methods : Evm.MethodTable}
    {tx : Transaction} {c : Candidate} (h : tx.candidate? chainId methods = some c) :
    c.timestamp = .ofSeconds ((tx.timestamp.bind Text.Hex.uint64?).getD 0) := by
  unfold candidate? at h
  simp only [Option.bind_eq_bind, Option.bind_eq_some_iff, Option.pure_def, Option.some.injEq] at h
  obtain ⟨-, -, -, -, rfl⟩ := h
  rfl

namespace Aptos.Source

theorem candidatesOf_timestamp {s : Source} {height : UInt64} {timestamp : Timestamp}
    {txs : List Transaction} {log : Log Endpoint.interface} {cs : List Candidate}
    (h : (s.candidatesOf height timestamp txs).Gives log (.ok cs)) :
    ∀ c ∈ cs, c.timestamp = timestamp := by
  induction txs generalizing log cs with
  | nil =>
    cases (Endpoint.Fetch.gives_pure.mp h).2
    exact fun c hc => absurd hc List.not_mem_nil
  | cons tx txs ih =>
    rw [candidatesOf] at h
    split at h
    · exact ih h
    · obtain ⟨status, first, rest, rfl, -, hrest⟩ := Endpoint.Fetch.gives_bind_ok.mp h
      obtain ⟨others, second, last, rfl, hothers, hlast⟩ := Endpoint.Fetch.gives_bind_ok.mp hrest
      cases (Endpoint.Fetch.gives_pure.mp hlast).2
      exact List.forall_mem_cons.mpr ⟨rfl, ih hothers⟩

end Aptos.Source

/-- The redemption comes of a time that is given as `n` units, of which `unit` make a second: that
of an EVM block (0 if it cannot be read), of a transaction of the aggregator (0 if there is none
that can be read) or of an Aptos block. -/
inductive Candidate.IsTimedBy (c : Candidate) : Nat → UInt64 → Prop
  | evm {s : Evm.Source} {b : Evm.Block} {log : Log Endpoint.interface} {cs : List Candidate}
    (hextract : (s.extract b).Gives log (.ok cs)) (hmem : c ∈ cs) :
    c.IsTimedBy 1 ((Text.Hex.uint64? b.timestamp).getD 0)
  | ankr {chainId : ChainId} {methods : Evm.MethodTable} {tx : Ankr.Transaction}
    (hcandidate : tx.candidate? chainId methods = some c) :
    c.IsTimedBy 1 ((tx.timestamp.bind Text.Hex.uint64?).getD 0)
  | aptos {s : Aptos.Source} {b : Aptos.Block} {log : Log Endpoint.interface} {cs : List Candidate}
    (hextract : (s.extract b).Gives log (.ok cs)) (hmem : c ∈ cs) : c.IsTimedBy 1000000 b.time

/-- **When redemptions are dated.** A redemption that comes of `n` units is dated by `n` as it is
read with a sign:

* to the instant `n` units after the epoch, or to the epoch if the calendar ends before, just if
  `n` is less than `2 ^ 64` by more than the units that the calendar starts before the epoch;
* for the other numbers to an instant before the epoch, `2 ^ 64 - n` units earlier. -/
theorem candidates_dated {c : Candidate} {unit : Nat} {n : UInt64} (h : c.IsTimedBy unit n) :
    c.timestamp.IsDatedBy unit n := by
  cases h with
  | evm hextract hmem =>
    rw [Evm.Source.extract_timestamp hextract c hmem]
    exact Timestamp.isDatedBy_ofUnits (.inl rfl) _
  | ankr hcandidate =>
    rw [Ankr.Transaction.candidate?_timestamp hcandidate]
    exact Timestamp.isDatedBy_ofUnits (.inl rfl) _
  | aptos hextract hmem =>
    rw [Aptos.Source.candidatesOf_timestamp hextract c hmem]
    exact Timestamp.isDatedBy_ofUnits (.inr rfl) _

namespace Ankr

/-- The block of the sample chain that names the second 16 has one redemption. -/
theorem gives_sampleReceipted :
    (sampleEvmSource.extract ⟨"0x96", "0x10", [sampleReceipted.toTransaction]⟩).Gives
      [sampleReceipted.call sampleEvmSource.url]
      (.ok [{ Source.sampleCandidate with timestamp := .ofSeconds 16 }]) := by
  have hn : Text.Hex.uint64? "0x96" = some 150 := by decide +kernel
  have hgives := Receipted.gives_candidatesOf sampleEvmSource "0x10" hn [sampleReceipted]
  rw [List.filter_cons_of_pos isRedeeming_sampleReceipted] at hgives
  simp only [List.map_cons, List.map_nil] at hgives
  rw [List.filterMap_cons_some candidate?_sampleReceipted] at hgives
  unfold Evm.Source.extract
  rw [hn]
  exact hgives

theorem candidates_dated_sampleReceipted :
    (sampleEvmSource.extract ⟨"0x96", "0x10", [sampleReceipted.toTransaction]⟩).Gives
      [sampleReceipted.call sampleEvmSource.url]
      (.ok [{ Source.sampleCandidate with timestamp := .ofSeconds 16 }]) ∧
    (Timestamp.ofSeconds 16).IsDatedBy 1 ((Text.Hex.uint64? "0x10").getD 0) :=
  ⟨gives_sampleReceipted,
    candidates_dated (.evm gives_sampleReceipted (List.mem_singleton_self _))⟩

/-- The sample transaction in the last second that a number of 64 bits can name. -/
def sampleLate : Transaction :=
  { Source.sampleTransaction with timestamp := some "0xffffffffffffffff" }

theorem candidate?_sampleLate :
    sampleLate.candidate? Source.sampleSource.chainId Source.sampleSource.methods =
      some { Source.sampleCandidate with timestamp := ⟨-1, 0⟩ } := by
  have hblock : sampleLate.block? = some 150 := Source.block?_sampleTransaction
  have hredeeming : sampleLate.redeeming? Source.sampleSource.methods =
    some Source.sampleRedeeming := Source.redeeming?_sampleTransaction
  have hseconds : Text.Hex.uint64? "0xffffffffffffffff" = some 18446744073709551615 := by
    decide +kernel
  have htime : Timestamp.ofSeconds 18446744073709551615 = ⟨-1, 0⟩ := by decide +kernel
  unfold Transaction.candidate?
  rw [hblock, hredeeming]
  have hnamed : sampleLate.timestamp.bind Text.Hex.uint64? = some 18446744073709551615 := hseconds
  rw [hnamed]
  exact congrArg some (congrArg (fun t => { Source.sampleCandidate with timestamp := t }) htime)

/-- A page is dated before the epoch: the aggregator names the second `2 ^ 64 - 1` and the
redemption is dated to the last second of 1969. -/
theorem last_second_before_epoch :
    (Page.activity Source.sampleSource.chainId Source.sampleSource.methods
      ⟨[sampleLate], none⟩).candidates = [{ Source.sampleCandidate with timestamp := ⟨-1, 0⟩ }] ∧
    sampleLate.timestamp.bind Text.Hex.uint64? = some 18446744073709551615 ∧
    (Timestamp.mk (-1) 0).text = "1969-12-31T23:59:59Z" ∧
    (Timestamp.mk (-1) 0).nanoseconds < Timestamp.epoch.nanoseconds ∧
    ¬(Timestamp.mk (-1) 0).Dates 1 (18446744073709551615 : UInt64).toNat := by
  have hpage : (Page.activity Source.sampleSource.chainId Source.sampleSource.methods
      ⟨[sampleLate], none⟩).candidates =
      [{ Source.sampleCandidate with timestamp := ⟨-1, 0⟩ }] := by
    unfold Page.activity
    rw [List.filterMap_cons_some candidate?_sampleLate, List.filterMap_nil]
  refine ⟨hpage, by decide +kernel, by decide +kernel, by decide, fun h => ?_⟩
  have hupper : 2 ^ 63 ≤ (18446744073709551615 : UInt64).toNat := by decide +kernel
  exact absurd ((Timestamp.dates_upper_iff (.inl rfl) hupper).mp h) (by decide)

end Ankr

end RedemptionWatch
