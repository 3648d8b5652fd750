import Mathlib.Data.List.Basic
import RedemptionWatch.Text.Hex

/-!
# Bytes in hexadecimal are read back

Bytes have many spellings: each digit in either case, with or without a leading `0x` (`Spells`).
`Hex.decode` reads them all (`Hex.decode_of_spells`), so in particular what `Hex.encodeChars` writes
after `0x` (`Hex.decode_marked`). Every digit is one byte in UTF-8, and two of them make up a byte;
an even number of digits always spells bytes (`Hex.exists_areDigitsOf`).
-/

namespace RedemptionWatch.Text.Hex

variable {bs : List UInt8} {c : Char} {n : Nat} {digits cs : List Char} {s : String}

/-- The bytes in hexadecimal, in digits of either case. -/
def AreDigitsOf (digits : List Char) (bs : List UInt8) : Prop :=
  digits.map Char.toLower = encodeChars bs

/-- What may stand before the digits. -/
def marks : List (List Char) := [[], ['0', 'x'], ['0', 'X']]

/-- The text is the bytes in hexadecimal, in digits of either case, with or without a leading `0x`
or `0X`. -/
def Spells (s : String) (bs : List UInt8) : Prop :=
  ∃ mark ∈ marks, ∃ digits, AreDigitsOf digits bs ∧ s.toList = mark ++ digits

/-! ## Digits -/

theorem toLower_digitChar : ∀ n < 16, (digitChar n).toLower = digitChar n := by
  decide

theorem areDigitsOf_encodeChars (bs : List UInt8) : AreDigitsOf (encodeChars bs) bs := by
  unfold AreDigitsOf
  induction bs with
  | nil => rfl
  | cons b bs ih =>
    have hb := b.toNat_lt
    rw [encodeChars, List.map_cons, List.map_cons, toLower_digitChar _ (by omega),
      toLower_digitChar _ (by omega), ih]

/-- What holds of the ASCII characters one by one. -/
theorem ascii_forall {P : Char → Prop} (h : ∀ k < 128, P (Char.ofNat k)) (hc : c.toNat < 128) :
    P c := by
  have hk := h c.toNat hc
  rwa [Char.ofNat_toNat] at hk

theorem digitChar_ne_toLower : ∀ n < 16,
    digitChar n ≠ Char.toLower 'x' ∧ digitChar n ≠ Char.toLower 'X' := by
  decide

theorem toNat_digitChar_lt : ∀ n < 16, (digitChar n).toNat < 128 := by
  decide

theorem toNat_lt_of_toLower (hn : n < 16) (h : c.toLower = digitChar n) : c.toNat < 128 := by
  unfold Char.toLower at h
  split at h
  case isTrue hupper =>
    have hle : c.toNat ≤ 90 := UInt32.le_iff_toNat_le.mp hupper.2
    omega
  case isFalse =>
    rw [h]
    exact toNat_digitChar_lt n hn

/-- A digit of either case is one byte, which has the value of the digit. -/
theorem byteValue?_of_toLower (hn : n < 16) (h : c.toLower = digitChar n) :
    String.utf8EncodeChar c = [c.toUInt8] ∧ byteValue? c.toUInt8 = some n :=
  ascii_forall
    (P := fun c => ∀ n < 16, c.toLower = digitChar n →
      String.utf8EncodeChar c = [c.toUInt8] ∧ byteValue? c.toUInt8 = some n)
    (by decide) (toNat_lt_of_toLower hn h) n hn h

/-- Two digits for every byte. -/
theorem AreDigitsOf.cases_cons {b : UInt8} (h : AreDigitsOf digits (b :: bs)) :
    ∃ high low rest, digits = high :: low :: rest ∧ high.toLower = digitChar (b.toNat / 16) ∧
      low.toLower = digitChar (b.toNat % 16) ∧ AreDigitsOf rest bs := by
  obtain ⟨high, digits, rfl, hhigh, h⟩ := List.map_eq_cons_iff.mp h
  obtain ⟨low, rest, rfl, hlow, h⟩ := List.map_eq_cons_iff.mp h
  exact ⟨high, low, rest, rfl, hhigh, hlow, h⟩

theorem length_utf8_digits (h : AreDigitsOf digits bs) :
    (digits.flatMap String.utf8EncodeChar).length = 2 * bs.length := by
  induction bs generalizing digits with
  | nil =>
    rw [List.map_eq_nil_iff.mp h]
    rfl
  | cons b bs ih =>
    have hb := b.toNat_lt
    obtain ⟨high, low, rest, rfl, hhigh, hlow, hrest⟩ := h.cases_cons
    obtain ⟨hhigh, -⟩ := byteValue?_of_toLower (by omega) hhigh
    obtain ⟨hlow, -⟩ := byteValue?_of_toLower (by omega) hlow
    simp only [List.flatMap_cons, hhigh, hlow, List.length_append, ih hrest, List.length_cons,
      List.length_nil]
    omega

theorem decodePairs_digits (h : AreDigitsOf digits bs) (index : Nat) :
    decodePairs index (digits.flatMap String.utf8EncodeChar) = .ok bs := by
  induction bs generalizing digits index with
  | nil =>
    rw [List.map_eq_nil_iff.mp h]
    rfl
  | cons b bs ih =>
    have hb := b.toNat_lt
    obtain ⟨high, low, rest, rfl, hhigh, hlow, hrest⟩ := h.cases_cons
    obtain ⟨hhi, hhigh⟩ := byteValue?_of_toLower (by omega) hhigh
    obtain ⟨hlo, hlow⟩ := byteValue?_of_toLower (by omega) hlow
    have hbyte : UInt8.ofNat (b.toNat / 16 * 16 + b.toNat % 16) = b := by
      rw [Nat.div_add_mod', UInt8.ofNat_toNat]
    simp only [List.flatMap_cons, hhi, hlo, List.cons_append, List.nil_append, decodePairs, hhigh,
      hlow, ih hrest, hbyte]
    rfl

theorem AreDigitsOf.length_eq (h : AreDigitsOf digits bs) : digits.length = 2 * bs.length := by
  rw [← length_encodeChars, ← h, List.length_map]

theorem toNat_lt_of_digit? (h : Numeral.digit? c = some n) : c.toNat < 128 := by
  have hle {d : Char} (hd : c ≤ d) : c.toNat ≤ d.toNat := UInt32.le_iff_toNat_le.mp hd
  unfold Numeral.digit? at h
  split_ifs at h with hdecimal hlower hupper
  · exact Nat.lt_of_le_of_lt (hle hdecimal.2) (by decide)
  · exact Nat.lt_of_le_of_lt (hle hlower.2) (by decide)
  · exact Nat.lt_of_le_of_lt (hle hupper.2) (by decide)

/-- A digit is below 16, and in lower case it is the digit that is written for its value. -/
theorem toLower_of_digit? (h : Numeral.digit? c = some n) : n < 16 ∧ c.toLower = digitChar n := by
  have hall := ascii_forall
    (P := fun c => (Numeral.digit? c).all fun n => n < 16 ∧ c.toLower = digitChar n)
    (by decide) (toNat_lt_of_digit? h)
  rw [h] at hall
  exact of_decide_eq_true hall

theorem isDigit_of_toLower (hn : n < 16) (h : c.toLower = digitChar n) : isDigit c = true :=
  ascii_forall (P := fun c => ∀ n < 16, c.toLower = digitChar n → isDigit c = true)
    (by decide) (toNat_lt_of_toLower hn h) n hn h

theorem AreDigitsOf.exists_of_mem (h : AreDigitsOf digits bs) (hc : c ∈ digits) :
    ∃ n < 16, c.toLower = digitChar n := by
  induction bs generalizing digits with
  | nil =>
    rw [List.map_eq_nil_iff.mp h] at hc
    exact absurd hc List.not_mem_nil
  | cons b bs ih =>
    have hb := b.toNat_lt
    obtain ⟨high, low, rest, rfl, hhigh, hlow, hrest⟩ := h.cases_cons
    rcases List.mem_cons.mp hc with rfl | hc
    · exact ⟨_, by omega, hhigh⟩
    · rcases List.mem_cons.mp hc with rfl | hc
      · exact ⟨_, by omega, hlow⟩
      · exact ih hrest hc

theorem AreDigitsOf.all_isDigit (h : AreDigitsOf digits bs) : digits.all isDigit = true := by
  refine List.all_eq_true.mpr fun c hc => ?_
  obtain ⟨n, hn, hc⟩ := h.exists_of_mem hc
  exact isDigit_of_toLower hn hc

theorem AreDigitsOf.utf8Size_eq (h : AreDigitsOf digits bs) (hc : c ∈ digits) : c.utf8Size = 1 := by
  obtain ⟨n, hn, hc⟩ := h.exists_of_mem hc
  rw [← String.length_utf8EncodeChar, (byteValue?_of_toLower hn hc).1]
  rfl

/-- Digits of an even number are digits of bytes. -/
theorem exists_areDigitsOf {size : Nat} (hdigits : digits.all isDigit = true)
    (hlength : digits.length = 2 * size) : ∃ bs, bs.length = size ∧ AreDigitsOf digits bs := by
  induction size generalizing digits with
  | zero => exact ⟨[], rfl, by rw [List.length_eq_zero_iff.mp hlength]; rfl⟩
  | succ size ih =>
    match digits, hlength with
    | high :: low :: rest, hlength =>
      rw [List.all_cons, List.all_cons, Bool.and_eq_true, Bool.and_eq_true] at hdigits
      obtain ⟨hhigh, hlow, hrest⟩ := hdigits
      obtain ⟨m, hm⟩ := Option.isSome_iff_exists.mp hhigh
      obtain ⟨n, hn⟩ := Option.isSome_iff_exists.mp hlow
      obtain ⟨hm16, hm⟩ := toLower_of_digit? hm
      obtain ⟨hn16, hn⟩ := toLower_of_digit? hn
      obtain ⟨bs, hbs, hrest⟩ := ih hrest (by simp only [List.length_cons] at hlength; omega)
      have hbyte : (UInt8.ofNat (m * 16 + n)).toNat = m * 16 + n := by
        rw [UInt8.toNat_ofNat']
        exact Nat.mod_eq_of_lt (by omega)
      refine ⟨UInt8.ofNat (m * 16 + n) :: bs, congrArg (· + 1) hbs, ?_⟩
      rw [AreDigitsOf, List.map_cons, List.map_cons, encodeChars, hbyte, hm, hn, hrest,
        show (m * 16 + n) / 16 = m by omega, show (m * 16 + n) % 16 = n by omega]

/-! ## Marks -/

/-- Digits do not look like a mark, whatever stands after them. -/
theorem withoutMarkChars_digits_append {b : UInt8} (h : AreDigitsOf digits (b :: bs))
    (rest : List Char) : withoutMarkChars (digits ++ rest) = digits ++ rest := by
  obtain ⟨high, low, digits, rfl, -, hlow, -⟩ := h.cases_cons
  obtain ⟨hx, hX⟩ := digitChar_ne_toLower (b.toNat % 16) (by omega)
  rw [← hlow] at hx hX
  rw [List.cons_append, List.cons_append, withoutMarkChars]
  · rintro _ ⟨⟩
    exact hx rfl
  · rintro _ ⟨⟩
    exact hX rfl

/-- No mark is a row of digits. -/
theorem withoutMarkChars_of_isDigit (h : ∀ c ∈ cs, isDigit c = true) :
    withoutMarkChars cs = cs := by
  unfold withoutMarkChars
  split
  · exact absurd (h 'x' (by simp)) (by decide)
  · exact absurd (h 'X' (by simp)) (by decide)
  · rfl

theorem withoutMarkChars_digits (h : AreDigitsOf digits bs) : withoutMarkChars digits = digits :=
  withoutMarkChars_of_isDigit (List.all_eq_true.mp h.all_isDigit)

theorem withoutMarkChars_mark_append {mark : List Char} (hmark : mark ∈ marks)
    (h : withoutMarkChars cs = cs) : withoutMarkChars (mark ++ cs) = cs := by
  simp only [marks, List.mem_cons, List.not_mem_nil, or_false] at hmark
  obtain rfl | rfl | rfl := hmark
  · exact h
  · rfl
  · rfl

/-- What is taken off a text is a mark. -/
theorem exists_mark (cs : List Char) : ∃ mark ∈ marks, cs = mark ++ withoutMarkChars cs := by
  unfold withoutMarkChars
  split
  · exact ⟨['0', 'x'], by decide, rfl⟩
  · exact ⟨['0', 'X'], by decide, rfl⟩
  · exact ⟨[], by decide, rfl⟩

/-! ## Texts -/

/-- A text spells the bytes if what is left without a mark are their digits. -/
theorem spells_iff : Spells s bs ↔ AreDigitsOf (withoutMarkChars s.toList) bs := by
  constructor
  · rintro ⟨mark, hmark, digits, hdigits, hs⟩
    rwa [hs, withoutMarkChars_mark_append hmark (withoutMarkChars_digits hdigits)]
  · intro h
    obtain ⟨mark, hmark, hs⟩ := exists_mark s.toList
    exact ⟨mark, hmark, _, h, hs⟩

/-- Every spelling of the bytes is read. -/
theorem decode_of_spells (h : Spells s bs) : decode s = .ok bs := by
  have hdigits := spells_iff.mp h
  have heven : ¬(2 * bs.length) % 2 = 1 := by omega
  unfold decode withoutMark Octets.ofText decodeDigits
  rw [String.toList_ofList, length_utf8_digits hdigits, if_neg heven, decodePairs_digits hdigits]

theorem decode_marked (bs : List UInt8) :
    decode (String.ofList ('0' :: 'x' :: encodeChars bs)) = .ok bs :=
  decode_of_spells ⟨['0', 'x'], List.mem_cons_of_mem _ (List.mem_cons_self ..), _,
    areDigitsOf_encodeChars bs, String.toList_ofList⟩

end RedemptionWatch.Text.Hex
