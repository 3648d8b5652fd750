import Mathlib.Algebra.Group.Nat.Defs
import RedemptionWatch.Proofs.Text.Hex

/-!
# Rows of hexadecimal digits

A row of digits has a value (`Numeral.digits?`), whatever the letter case of the digits and however
many zeros stand first. One of the rows of a number is the one that `Nat.toDigits` writes. It is
read back (`digitsFrom?_toDigits`), and what is left of any other row without the zeros in front is
the same in lower case (`significant_of_digitsFrom?`). So two rows are alike without these zeros if
and only if they have one value.
-/

namespace RedemptionWatch.Text.Numeral

open Hex

variable {base k n d : ℕ} {c : Char} {cs : List Char}

/-! ## Digits -/

theorem lt_of_digitOf? (h : digitOf? base c = some d) : d < base :=
  of_decide_eq_true (Option.filter_eq_some_iff.mp h).2

theorem digitOf?_sixteen (c : Char) : digitOf? 16 c = digit? c := by
  unfold digitOf?
  cases h : digit? c with
  | none => rfl
  | some d => exact Option.filter_eq_some_iff.mpr ⟨rfl, decide_eq_true (toLower_of_digit? h).1⟩

theorem digit?_digitChar : ∀ d < 16, digit? (Nat.digitChar d) = some d := by
  decide

theorem digitChar_eq : ∀ d < 16, Nat.digitChar d = Hex.digitChar d := by
  decide

/-- A digit in lower case is the one that is written for its value. -/
theorem toDigits_of_digit? (h : digit? c = some d) : Nat.toDigits 16 d = [c.toLower] := by
  obtain ⟨hd, hlower⟩ := toLower_of_digit? h
  rw [Nat.toDigits_of_lt_base hd, digitChar_eq d hd, hlower]

theorem digit?_eq_zero (h : digit? c = some 0) : c = '0' := by
  unfold digit? at h
  split_ifs at h with hdecimal
  · have hle : '0'.toNat ≤ c.toNat := UInt32.le_iff_toNat_le.mp hdecimal.1
    have hzero : c.toNat - '0'.toNat = 0 := Option.some.inj h
    exact Char.toNat_inj.mp (by omega)
  · exact absurd (Option.some.inj h) (Nat.succ_ne_zero _)
  · exact absurd (Option.some.inj h) (Nat.succ_ne_zero _)

/-! ## Rows -/

theorem digitsFrom?_cons_eq_some_iff : digitsFrom? base k (c :: cs) = some n ↔
    ∃ d, digitOf? base c = some d ∧ digitsFrom? base (k * base + d) cs = some n :=
  Option.bind_eq_some_iff

theorem digitsFrom?_append (base k : ℕ) (cs ds : List Char) :
    digitsFrom? base k (cs ++ ds) =
      (digitsFrom? base k cs).bind fun m => digitsFrom? base m ds := by
  induction cs generalizing k with
  | nil => rfl
  | cons c cs ih =>
    rw [List.cons_append, digitsFrom?, digitsFrom?, Option.bind_assoc]
    exact congrArg (Option.bind _) (funext fun _ => ih _)

/-- Exactly the rows of digits have a value. -/
theorem exists_digitsFrom?_iff :
    (∃ n, digitsFrom? 16 k cs = some n) ↔ ∀ c ∈ cs, isDigit c = true := by
  induction cs generalizing k with
  | nil => exact iff_of_true ⟨k, rfl⟩ (List.forall_mem_nil _)
  | cons c cs ih =>
    rw [List.forall_mem_cons]
    simp only [digitsFrom?_cons_eq_some_iff, digitOf?_sixteen]
    constructor
    · rintro ⟨n, d, hd, hrest⟩
      exact ⟨Option.isSome_iff_exists.mpr ⟨d, hd⟩, ih.mp ⟨n, hrest⟩⟩
    · rintro ⟨hc, hcs⟩
      obtain ⟨d, hd⟩ := Option.isSome_iff_exists.mp hc
      obtain ⟨n, hn⟩ := ih.mpr hcs
      exact ⟨n, d, hd, hn⟩

theorem digits?_of_ne_nil (base : ℕ) (h : cs ≠ []) : digits? base cs = digitsFrom? base 0 cs := by
  cases cs with
  | nil => exact absurd rfl h
  | cons c cs => rfl

theorem ne_nil_of_digits? (h : digits? base cs = some n) : cs ≠ [] := by
  rintro rfl
  exact nomatch h

theorem digits?_eq_some_iff :
    digits? base cs = some n ↔ cs ≠ [] ∧ digitsFrom? base 0 cs = some n := by
  constructor
  · intro h
    have hne := ne_nil_of_digits? h
    exact ⟨hne, digits?_of_ne_nil base hne ▸ h⟩
  · rintro ⟨hne, h⟩
    rwa [digits?_of_ne_nil base hne]

/-- So many digits stay below the power of the base. -/
theorem lt_of_digitsFrom? (h : digitsFrom? base k cs = some n) :
    n < (k + 1) * base ^ cs.length := by
  induction cs generalizing k with
  | nil =>
    cases h
    simp
  | cons c cs ih =>
    obtain ⟨d, hd, hrest⟩ := digitsFrom?_cons_eq_some_iff.mp h
    have hle : k * base + d + 1 ≤ (k + 1) * base := by
      have hlt := lt_of_digitOf? hd
      rw [Nat.add_one_mul]
      omega
    calc
      n < (k * base + d + 1) * base ^ cs.length := ih hrest
      _ ≤ (k + 1) * base * base ^ cs.length := Nat.mul_le_mul_right _ hle
      _ = (k + 1) * base ^ (c :: cs).length := by rw [Nat.mul_assoc, ← Nat.pow_succ']; rfl

/-! ## The row that is written -/

/-- The digits of a number are read back. -/
theorem digitsFrom?_toDigits (n : ℕ) : digitsFrom? 16 0 (Nat.toDigits 16 n) = some n := by
  induction n using Nat.strongRecOn with
  | ind n ih =>
    by_cases hn : n < 16
    · rw [Nat.toDigits_of_lt_base hn, digitsFrom?, digitOf?_sixteen, digit?_digitChar n hn]
      exact congrArg some (Nat.zero_add n)
    · have hlast : digitOf? 16 (Nat.digitChar (n % 16)) = some (n % 16) := by
        rw [digitOf?_sixteen]
        exact digit?_digitChar _ (Nat.mod_lt n (by decide))
      rw [Nat.toDigits_of_base_le (by decide) (Nat.le_of_not_lt hn), digitsFrom?_append,
        ih _ (Nat.div_lt_self (by omega) (by decide)), Option.bind_some, digitsFrom?, hlast]
      exact congrArg some (Nat.div_add_mod' n 16)

theorem toDigits_injective : Function.Injective (Nat.toDigits 16) := fun m n h =>
  Option.some.inj ((digitsFrom?_toDigits m).symm.trans (h ▸ digitsFrom?_toDigits n))

/-- The digits of a positive number and a row after them are the digits of the whole. -/
theorem toDigits_append_of_digitsFrom? (hk : 0 < k) (h : digitsFrom? 16 k cs = some n) :
    Nat.toDigits 16 k ++ cs.map Char.toLower = Nat.toDigits 16 n := by
  induction cs generalizing k with
  | nil =>
    cases h
    exact List.append_nil _
  | cons c cs ih =>
    obtain ⟨d, hd, hrest⟩ := digitsFrom?_cons_eq_some_iff.mp h
    rw [digitOf?_sixteen] at hd
    have hstep : Nat.toDigits 16 k ++ [c.toLower] = Nat.toDigits 16 (k * 16 + d) := by
      rw [← toDigits_of_digit? hd, Nat.mul_comm,
        Nat.toDigits_append_toDigits (by decide) hk (toLower_of_digit? hd).1]
    rw [List.map_cons, List.append_cons, hstep, ih (by omega) hrest]

/-- Without the zeros in front, and in lower case, a row is the one that is written for its
value. -/
theorem significant_of_digitsFrom? (h : digitsFrom? 16 0 cs = some n) :
    (if cs.dropWhile (· == '0') = [] then ['0'] else cs.dropWhile (· == '0')).map Char.toLower =
      Nat.toDigits 16 n := by
  induction cs with
  | nil =>
    cases h
    rfl
  | cons c cs ih =>
    obtain ⟨d, hd, hrest⟩ := digitsFrom?_cons_eq_some_iff.mp h
    rw [digitOf?_sixteen] at hd
    rw [Nat.zero_mul, Nat.zero_add] at hrest
    by_cases hc : c = '0'
    · obtain rfl : 0 = d := Option.some.inj (by rw [← hd, hc]; rfl)
      rw [List.dropWhile_cons_of_pos (by simpa using hc)]
      exact ih hrest
    · have hpos : 0 < d := Nat.pos_of_ne_zero fun h0 => hc (digit?_eq_zero (h0 ▸ hd))
      rw [List.dropWhile_cons_of_neg (by simpa using hc), if_neg (List.cons_ne_nil _ _),
        List.map_cons, ← List.singleton_append, ← toDigits_of_digit? hd,
        toDigits_append_of_digitsFrom? hpos hrest]

end RedemptionWatch.Text.Numeral
