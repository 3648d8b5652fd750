import Mathlib.Data.Nat.Digits.Lemmas
import RedemptionWatch.Text.Base58

/-!
# Bytes in base 58 are read back

What `Base58.encode` writes, `Base58.decode` reads (`decode_encode`). Both ways go over the number
that the bytes are, so leading zero bytes are lost to it and are carried by leading ones.
-/

namespace RedemptionWatch.Text.Base58

/-! ## Digits -/

/-- The digits, from the least one on, are those of the library. -/
theorem digits_eq (base : Nat) (hbase : 1 < base) (n : Nat) :
    digits base hbase n = (Nat.digits base n).reverse := by
  induction n using Nat.strong_induction_on with
  | _ n ih =>
    rw [digits]
    split
    next hn => simp [hn]
    next hn =>
      have hpos := Nat.pos_of_ne_zero hn
      rw [Nat.digits_def' hbase hpos, List.reverse_cons, ih _ (Nat.div_lt_self hpos hbase)]

/-- The number that digits are, the most significant one first. -/
def valueOf (base : Nat) (ds : List Nat) : Nat :=
  ds.foldl (fun n d => n * base + d) 0

theorem valueOf_eq (base : Nat) (ds : List Nat) :
    valueOf base ds = Nat.ofDigits base ds.reverse := by
  rw [valueOf, Nat.ofDigits_eq_foldr, List.foldr_reverse]
  congr 1
  funext n d
  simp only [Nat.cast_id]
  ring

theorem valueOf_digits (base : Nat) (hbase : 1 < base) (n : Nat) :
    valueOf base (digits base hbase n) = n := by
  rw [valueOf_eq, digits_eq, List.reverse_reverse, Nat.ofDigits_digits]

/-- Digits that do not start with a zero are those of their number. -/
theorem digits_valueOf (base : Nat) (hbase : 1 < base) {ds : List Nat} (hlt : ∀ d ∈ ds, d < base)
    (hhead : ∀ d ∈ ds.head?, d ≠ 0) : digits base hbase (valueOf base ds) = ds := by
  rw [digits_eq, valueOf_eq, Nat.digits_ofDigits base hbase, List.reverse_reverse]
  · intro d hmem
    exact hlt d (List.mem_reverse.mp hmem)
  · intro hne
    rw [List.getLast_reverse]
    exact hhead _ (List.head?_eq_some_head _)

theorem head?_digits (base : Nat) (hbase : 1 < base) (n : Nat) :
    ∀ d ∈ (digits base hbase n).head?, d ≠ 0 := by
  intro d hd
  rw [digits_eq, List.head?_reverse] at hd
  obtain ⟨hne, rfl⟩ := List.mem_getLast?_eq_getLast hd
  exact Nat.getLast_digit_ne_zero base (Nat.digits_ne_nil_iff_ne_zero.mp hne)

theorem digits_lt (base : Nat) (hbase : 1 < base) (n : Nat) :
    ∀ d ∈ digits base hbase n, d < base := by
  intro d hd
  rw [digits_eq, List.mem_reverse] at hd
  exact Nat.digits_lt_base hbase hd

theorem valueOf_replicate_append (base k : Nat) (ds : List Nat) :
    valueOf base (List.replicate k 0 ++ ds) = valueOf base ds := by
  induction k with
  | zero => rfl
  | succ k ih => simpa [valueOf, List.replicate_succ] using ih

/-! ## Characters -/

/-- The character of a digit. -/
def digitChar (d : Nat) : Char :=
  alphabet.getD d '1'

theorem value?_digitChar : ∀ d < 58, value? (digitChar d) = some d := by
  decide +kernel

theorem digitChar_eq_one {d : Nat} (hd : d < 58) (h : digitChar d = '1') : d = 0 := by
  have hvalue := value?_digitChar d hd
  rw [h, show '1' = digitChar 0 from rfl, value?_digitChar 0 (by decide)] at hvalue
  exact (Option.some_inj.mp hvalue).symm

theorem numberFrom?_map_digitChar {ds : List Nat} (h : ∀ d ∈ ds, d < 58) (n : Nat) :
    numberFrom? n (ds.map digitChar) = some (ds.foldl (fun n d => n * 58 + d) n) := by
  induction ds generalizing n with
  | nil => rfl
  | cons d ds ih =>
    rw [List.map_cons, numberFrom?, value?_digitChar d (h d List.mem_cons_self)]
    exact ih (fun d hd => h d (List.mem_cons_of_mem _ hd)) _

theorem head?_map_digitChar {ds : List Nat} (hlt : ∀ d ∈ ds, d < 58)
    (hhead : ∀ d ∈ ds.head?, d ≠ 0) : ∀ c ∈ (ds.map digitChar).head?, c ≠ '1' := by
  cases ds with
  | nil => nofun
  | cons d ds =>
    rintro c ⟨⟩ hc
    exact hhead d rfl (digitChar_eq_one (hlt d List.mem_cons_self) hc)

/-- Leading ones change nothing. -/
theorem numberFrom?_replicate_append {ds : List Nat} (hlt : ∀ d ∈ ds, d < 58) (k : Nat) :
    numberFrom? 0 (List.replicate k '1' ++ ds.map digitChar) = some (valueOf 58 ds) := by
  have hmap : List.replicate k '1' ++ ds.map digitChar =
      (List.replicate k 0 ++ ds).map digitChar := by
    simp [show digitChar 0 = '1' from rfl]
  have hall : ∀ d ∈ List.replicate k 0 ++ ds, d < 58 := by
    intro d hd
    rcases List.mem_append.mp hd with hd | hd
    · rw [List.eq_of_mem_replicate hd]
      decide
    · exact hlt d hd
  rw [hmap, numberFrom?_map_digitChar hall]
  exact congrArg some (valueOf_replicate_append 58 k ds)

/-! ## Leading zeros -/

theorem takeWhile_eq_nil {α : Type} [BEq α] [LawfulBEq α] {a : α} {l : List α}
    (h : ∀ b ∈ l.head?, b ≠ a) : l.takeWhile (· == a) = [] := by
  cases l with
  | nil => rfl
  | cons b l => simp [h b rfl]

theorem length_takeWhile_replicate_append {α : Type} [BEq α] [LawfulBEq α] {a : α} (k : Nat)
    {l : List α} (h : ∀ b ∈ l.head?, b ≠ a) :
    ((List.replicate k a ++ l).takeWhile (· == a)).length = k := by
  rw [List.takeWhile_append_of_pos (by simp), takeWhile_eq_nil h]
  simp

/-- Bytes are zeros and then bytes that do not start with a zero. -/
theorem exists_zeros (bs : List UInt8) :
    ∃ k rest, bs = List.replicate k 0 ++ rest ∧ ∀ b ∈ rest.head?, b ≠ 0 := by
  induction bs with
  | nil => exact ⟨0, [], rfl, nofun⟩
  | cons b bs ih =>
    by_cases hb : b = 0
    · obtain ⟨k, rest, rfl, hrest⟩ := ih
      exact ⟨k + 1, rest, by simp [hb, List.replicate_succ], hrest⟩
    · refine ⟨0, b :: bs, rfl, fun b' hb' => ?_⟩
      cases hb'
      exact hb

/-! ## The round trip -/

/-- Leading zeros are as many leading ones, and the other bytes the digits of their number. -/
theorem encodeChars_replicate_append (k : Nat) {rest : List UInt8}
    (hrest : ∀ b ∈ rest.head?, b ≠ 0) : encodeChars (List.replicate k 0 ++ rest) =
      List.replicate k '1' ++
        (digits 58 (by decide) (valueOf 256 (rest.map UInt8.toNat))).map digitChar := by
  have hvalue : (List.replicate k 0 ++ rest).foldl (fun n (b : UInt8) => n * 256 + b.toNat) 0 =
      valueOf 256 (rest.map UInt8.toNat) := by
    have hmap : List.replicate k 0 ++ rest.map UInt8.toNat =
        (List.replicate k 0 ++ rest).map UInt8.toNat := by simp
    rw [← valueOf_replicate_append 256 k, hmap, valueOf, List.foldl_map]
  rw [encodeChars, length_takeWhile_replicate_append k hrest, hvalue]
  rfl

/-- The digits of the number of bytes are the bytes, but for leading zeros. -/
theorem map_ofNat_digits {rest : List UInt8} (hrest : ∀ b ∈ rest.head?, b ≠ 0) :
    (digits 256 (by decide) (valueOf 256 (rest.map UInt8.toNat))).map UInt8.ofNat = rest := by
  rw [digits_valueOf 256 (by decide)]
  · rw [List.map_map]
    exact List.map_id'' (fun b => UInt8.ofNat_toNat) rest
  · simp only [List.mem_map]
    rintro d ⟨b, -, rfl⟩
    exact b.toNat_lt
  · simp only [List.head?_map, Option.mem_def, Option.map_eq_some_iff]
    rintro d ⟨b, hb, rfl⟩ hzero
    exact hrest b hb (UInt8.toNat_inj.mp hzero)

theorem decodeChars_encodeChars (bs : List UInt8) : decodeChars (encodeChars bs) = some bs := by
  obtain ⟨k, rest, rfl, hrest⟩ := exists_zeros bs
  rw [encodeChars_replicate_append k hrest, decodeChars,
    numberFrom?_replicate_append (digits_lt _ _ _) k, valueOf_digits, Option.map_some,
    length_takeWhile_replicate_append k
      (head?_map_digitChar (digits_lt _ _ _) (head?_digits _ _ _)), map_ofNat_digits hrest]

/-- What is written is read back. -/
theorem decode_encode (bs : List UInt8) : decode (encode bs) = some bs := by
  rw [decode, encode, String.toList_ofList, decodeChars_encodeChars]

end RedemptionWatch.Text.Base58
