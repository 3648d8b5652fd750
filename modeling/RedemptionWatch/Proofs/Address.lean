import RedemptionWatch.Address
import RedemptionWatch.Proofs.Text.Blank
import RedemptionWatch.Proofs.Text.Numeral

/-!
# Addresses stand for bytes or numbers

Blanks, prefix and letter case of an address do not count, so one address has many spellings
(`Address.Denotes`), and a text is a spelling of one address only (`Address.Denotes.unique`). All
spellings have the same canonical form, different bytes have different ones
(`Address.canonical_injective`), and a text without a canonical form spells no bytes of the size
(`Address.fixed?_eq_some_iff`).

In a Move address zeros in front do not count either: it stands for a number below `2 ^ 256`
(`Address.DenotesNumber`). The same holds of numbers and their canonical forms
(`Address.move?_eq_some_iff`), and the canonical form is itself a spelling of the number
(`Address.denotesNumber_canonicalNumber`).
-/

namespace RedemptionWatch.Address

open Text Text.Hex

variable {s t : String} {bs bs' : List UInt8} {m n : ℕ} {digits : List Char}

/-! ## Bytes -/

/-- The text is the bytes in hexadecimal, in digits of either case, with or without a leading `0x`
or `0X`, and with any blanks around it. -/
def Denotes (s : String) (bs : List UInt8) : Prop :=
  Spells (trim s) bs

/-- The bytes in lower-case hexadecimal after `0x`. -/
def canonical (bs : List UInt8) : String :=
  String.ofList ('0' :: 'x' :: encodeChars bs)

theorem Denotes.unique (h : Denotes s bs) (h' : Denotes s bs') : bs = bs' :=
  Except.ok.inj ((decode_of_spells h).symm.trans (decode_of_spells h'))

theorem canonical_injective : Function.Injective canonical := fun bs bs' h =>
  Except.ok.inj ((decode_marked bs).symm.trans ((congrArg decode h).trans (decode_marked bs')))

theorem denotes_iff : Denotes s bs ↔ AreDigitsOf (hexDigits s) bs := by
  rw [Denotes, spells_iff, trim, String.toList_ofList]
  rfl

theorem marked_eq_canonical_iff : marked digits = canonical bs ↔ AreDigitsOf digits bs := by
  unfold marked canonical AreDigitsOf
  rw [String.ofList_inj, List.cons.injEq, List.cons.injEq, eq_self_iff_true, eq_self_iff_true,
    true_and, true_and]

/-- The canonical form of a text is that of the bytes for which it stands. -/
theorem fixed?_eq_some_iff (size : ℕ) :
    fixed? (2 * size) s = some t ↔ ∃ bs, bs.length = size ∧ Denotes s bs ∧ t = canonical bs := by
  unfold fixed?
  constructor
  · intro h
    obtain ⟨⟨hlength, hdigits⟩, ht⟩ := Option.ite_none_right_eq_some.mp h
    obtain ⟨bs, hbs, hspells⟩ := exists_areDigitsOf hdigits hlength
    exact ⟨bs, hbs, denotes_iff.mpr hspells,
      (Option.some.inj ht).symm.trans (marked_eq_canonical_iff.mpr hspells)⟩
  · rintro ⟨bs, rfl, hdenotes, rfl⟩
    have hspells := denotes_iff.mp hdenotes
    rw [if_pos ⟨hspells.length_eq, hspells.all_isDigit⟩, marked_eq_canonical_iff.mpr hspells]

theorem account?_eq_some_iff :
    account? s = some t ↔ ∃ bs, bs.length = 20 ∧ Denotes s bs ∧ t = canonical bs :=
  fixed?_eq_some_iff 20

theorem selector?_eq_some_iff :
    selector? s = some t ↔ ∃ bs, bs.length = 4 ∧ Denotes s bs ∧ t = canonical bs :=
  fixed?_eq_some_iff 4

/-! ## Numbers -/

/-- The text is the number in hexadecimal, in 1 to 64 digits of either case, with or without a
leading `0x` or `0X`, and with any blanks around it. -/
def DenotesNumber (s : String) (n : ℕ) : Prop :=
  ∃ mark ∈ Hex.marks, ∃ digits, (trim s).toList = mark ++ digits ∧ digits.length ≤ 64 ∧
    Numeral.digits? 16 digits = some n

/-- The number in lower-case hexadecimal after `0x`, without zeros in front. -/
def canonicalNumber (n : ℕ) : String :=
  String.ofList ('0' :: 'x' :: Nat.toDigits 16 n)

theorem isBlank_of_isDigit {c : Char} (h : isDigit c = true) : isBlank c = false := by
  obtain ⟨d, hd⟩ := Option.isSome_iff_exists.mp h
  exact ascii_forall (P := fun c => isDigit c = true → isBlank c = false) (by decide)
    (toNat_lt_of_digit? hd) h

/-- What is left of a text without blanks and mark, if it is a mark and digits. -/
theorem hexDigits_of_mark {mark : List Char} (hmark : mark ∈ Hex.marks)
    (hdigits : ∀ c ∈ digits, isDigit c = true) (hs : (trim s).toList = mark ++ digits) :
    hexDigits s = digits := by
  rw [trim, String.toList_ofList] at hs
  rw [hexDigits, hs, withoutMarkChars_mark_append hmark (withoutMarkChars_of_isDigit hdigits)]

/-- A text is a mark and what is left of it, and blanks around them. -/
theorem exists_mark_hexDigits (s : String) :
    ∃ mark ∈ Hex.marks, (trim s).toList = mark ++ hexDigits s := by
  rw [trim, String.toList_ofList]
  exact exists_mark _

theorem denotesNumber_iff : DenotesNumber s n ↔
    (hexDigits s).length ≤ 64 ∧ Numeral.digits? 16 (hexDigits s) = some n := by
  constructor
  · rintro ⟨mark, hmark, digits, hs, hlength, hvalue⟩
    have hdigits := Numeral.exists_digitsFrom?_iff.mp
      ⟨n, (Numeral.digits?_eq_some_iff.mp hvalue).2⟩
    rw [hexDigits_of_mark hmark hdigits hs]
    exact ⟨hlength, hvalue⟩
  · rintro ⟨hlength, hvalue⟩
    obtain ⟨mark, hmark, hs⟩ := exists_mark_hexDigits s
    exact ⟨mark, hmark, _, hs, hlength, hvalue⟩

theorem DenotesNumber.unique (h : DenotesNumber s m) (h' : DenotesNumber s n) : m = n :=
  Option.some.inj ((denotesNumber_iff.mp h).2.symm.trans (denotesNumber_iff.mp h').2)

/-- A Move address has 32 bytes. -/
theorem DenotesNumber.lt (h : DenotesNumber s n) : n < 2 ^ 256 := by
  obtain ⟨-, -, digits, -, hlength, hvalue⟩ := h
  calc
    n < (0 + 1) * 16 ^ digits.length :=
      Numeral.lt_of_digitsFrom? (Numeral.digits?_eq_some_iff.mp hvalue).2
    _ ≤ (0 + 1) * 16 ^ 64 := Nat.mul_le_mul_left _ (Nat.pow_le_pow_right (by decide) hlength)
    _ = 2 ^ 256 := by decide

theorem canonicalNumber_injective : Function.Injective canonicalNumber := by
  intro m n h
  unfold canonicalNumber at h
  rw [String.ofList_inj, List.cons.injEq, List.cons.injEq] at h
  exact Numeral.toDigits_injective h.2.2

/-- The digits of a number do not look like blanks, so there is nothing to take off. -/
theorem hexDigits_canonicalNumber (n : ℕ) : hexDigits (canonicalNumber n) = Nat.toDigits 16 n := by
  have hdigits : ∀ c ∈ Nat.toDigits 16 n, isDigit c = true :=
    Numeral.exists_digitsFrom?_iff.mp ⟨n, Numeral.digitsFrom?_toDigits n⟩
  have hblank : ∀ c ∈ '0' :: 'x' :: Nat.toDigits 16 n, isBlank c = false := by
    refine List.forall_mem_cons.mpr ⟨by decide, List.forall_mem_cons.mpr ⟨by decide, ?_⟩⟩
    exact fun c hc => isBlank_of_isDigit (hdigits c hc)
  rw [hexDigits, canonicalNumber, String.toList_ofList, trimChars_of_forall hblank]
  rfl

/-- The canonical form of a number is one of its spellings. -/
theorem denotesNumber_canonicalNumber (h : n < 2 ^ 256) : DenotesNumber (canonicalNumber n) n := by
  rw [denotesNumber_iff, hexDigits_canonicalNumber, Numeral.digits?_eq_some_iff]
  exact ⟨(Nat.length_toDigits_le_iff (by decide) (by decide)).mpr h, Nat.toDigits_ne_nil,
    Numeral.digitsFrom?_toDigits n⟩

/-- The canonical form of a text is that of the number for which it stands. -/
theorem move?_eq_some_iff :
    move? s = some t ↔ ∃ n, DenotesNumber s n ∧ t = canonicalNumber n := by
  have hmarked {n : ℕ} (hvalue : Numeral.digits? 16 (hexDigits s) = some n) :
      marked (if (hexDigits s).dropWhile (· == '0') = [] then ['0']
        else (hexDigits s).dropWhile (· == '0')) = canonicalNumber n := by
    unfold marked canonicalNumber
    rw [Numeral.significant_of_digitsFrom? (Numeral.digits?_eq_some_iff.mp hvalue).2]
  unfold move?
  simp only [denotesNumber_iff]
  constructor
  · intro h
    obtain ⟨⟨hpos, hlength, hdigits⟩, ht⟩ := Option.ite_none_right_eq_some.mp h
    obtain ⟨n, hn⟩ := Numeral.exists_digitsFrom?_iff.mpr (List.all_eq_true.mp hdigits)
    have hvalue := Numeral.digits?_eq_some_iff.mpr ⟨List.ne_nil_of_length_pos hpos, hn⟩
    exact ⟨n, ⟨hlength, hvalue⟩, (Option.some.inj ht).symm.trans (hmarked hvalue)⟩
  · rintro ⟨n, ⟨hlength, hvalue⟩, rfl⟩
    obtain ⟨hne, hn⟩ := Numeral.digits?_eq_some_iff.mp hvalue
    rw [if_pos ⟨List.length_pos_iff.mpr hne, hlength,
      List.all_eq_true.mpr (Numeral.exists_digitsFrom?_iff.mp ⟨n, hn⟩)⟩, hmarked hvalue]

theorem exists_move?_iff : (∃ t, move? s = some t) ↔ ∃ n, DenotesNumber s n := by
  simp only [move?_eq_some_iff]
  constructor
  · rintro ⟨_, n, hn, -⟩
    exact ⟨n, hn⟩
  · rintro ⟨n, hn⟩
    exact ⟨_, n, hn, rfl⟩

/-- Two canonical forms are equal if the texts stand for the same number. -/
theorem eq_iff_of_move? {s' t' : String} (h : move? s = some t) (h' : move? s' = some t') :
    t = t' ↔ ∃ n, n < 2 ^ 256 ∧ DenotesNumber s n ∧ DenotesNumber s' n := by
  obtain ⟨m, hm, rfl⟩ := move?_eq_some_iff.mp h
  obtain ⟨n, hn, rfl⟩ := move?_eq_some_iff.mp h'
  constructor
  · intro heq
    rw [← canonicalNumber_injective heq] at hn
    exact ⟨m, hm.lt, hm, hn⟩
  · rintro ⟨k, -, hk, hk'⟩
    rw [hm.unique hk, hn.unique hk']

theorem move?_of_move? (h : move? s = some t) : move? t = some t := by
  obtain ⟨n, hn, rfl⟩ := move?_eq_some_iff.mp h
  exact move?_eq_some_iff.mpr ⟨n, denotesNumber_canonicalNumber hn.lt, rfl⟩

/-- Exactly the texts of 1 to 64 digits, with a mark and blanks or without, stand for a number. -/
theorem exists_denotesNumber_iff : (∃ n, DenotesNumber s n) ↔
    ∃ mark ∈ Hex.marks, ∃ digits, (trim s).toList = mark ++ digits ∧ 1 ≤ digits.length ∧
      digits.length ≤ 64 ∧ ∀ c ∈ digits, isDigit c = true := by
  constructor
  · rintro ⟨n, mark, hmark, digits, hs, hlength, hvalue⟩
    obtain ⟨hne, hn⟩ := Numeral.digits?_eq_some_iff.mp hvalue
    exact ⟨mark, hmark, digits, hs, List.length_pos_iff.mpr hne, hlength,
      Numeral.exists_digitsFrom?_iff.mp ⟨n, hn⟩⟩
  · rintro ⟨mark, hmark, digits, hs, hpos, hlength, hdigits⟩
    obtain ⟨n, hn⟩ := Numeral.exists_digitsFrom?_iff.mpr hdigits
    exact ⟨n, mark, hmark, digits, hs, hlength,
      Numeral.digits?_eq_some_iff.mpr ⟨List.ne_nil_of_length_pos hpos, hn⟩⟩

end RedemptionWatch.Address
