import Mathlib

/-!
# Rounding to doubles

A positive number is rounded to a double in two steps: it is cut off at the unit of the doubles of
its size, where two residual bits say what was cut off, and the mantissa that is left may be raised
by one. Here one property of this matters: rounding does not cross a double (`Double.IsRounding`).
`Double.isRounding_of_truncates` says so of all numbers that are given by a mantissa, an exponent
and what was cut off, and from it follow differences (`Double.isRounding_round`) and quotients
(`Double.isRounding_div`).
-/

namespace RedemptionWatch.Double

open Float.Model (Format totalExponent UnpackedFloat)
open Float.Model.Format (binary64)
open Float.Model.UnpackedFloat

variable {em : ExtendedMantissa} {m n : ℕ} {e j : ℤ} {x : ℚ} {s : Sign}

theorem unit_pos (e : ℤ) : (0 : ℚ) < 2 ^ e :=
  zpow_pos two_pos e

theorem unit_add (e : ℤ) (k : ℕ) : (2 : ℚ) ^ (e + k) = 2 ^ k * 2 ^ e := by
  rw [zpow_add₀ two_ne_zero, zpow_natCast, mul_comm]

/-! ## Mantissas that were cut off -/

/-- The mantissa is that of `x` cut off at the unit `2 ^ e`, and no residual bit is set if nothing
was cut off. -/
structure Truncates (em : ExtendedMantissa) (e : ℤ) (x : ℚ) : Prop where
  le : em.mantissa * 2 ^ e ≤ x
  lt : x < (em.mantissa + 1) * 2 ^ e
  exact : x = em.mantissa * 2 ^ e → em.roundBit = false ∧ em.stickyBit = false

theorem truncates_exact (m : ℕ) (e : ℤ) :
    Truncates (.ofMantissaAndAccuracy m .exact) e (m * 2 ^ e) where
  le := le_refl _
  lt := mul_lt_mul_of_pos_right (lt_add_one _) (unit_pos e)
  exact _ := ⟨rfl, rfl⟩

theorem Truncates.shiftRightOne (h : Truncates em e x) : Truncates em.shiftRightOne (e + 1) x := by
  obtain ⟨m, roundBit, stickyBit⟩ := em
  obtain ⟨hle, hlt, hexact⟩ := h
  have hpos := unit_pos e
  have hunit : (2 : ℚ) ^ (e + 1) = 2 * 2 ^ e := by rw [zpow_add_one₀ two_ne_zero, mul_comm]
  have hsplit : (m : ℚ) = 2 * (m / 2 : ℕ) + (m % 2 : ℕ) := by
    exact_mod_cast (Nat.div_add_mod m 2).symm
  unfold ExtendedMantissa.shiftRightOne
  dsimp only at hle hlt hexact ⊢
  rcases Nat.mod_two_eq_zero_or_one m with hbit | hbit
  · rw [hbit, Nat.cast_zero, add_zero] at hsplit
    refine ⟨?_, ?_, fun hx => ?_⟩
    · rw [hunit]
      linarith [hsplit ▸ hle]
    · rw [hunit]
      linarith [hsplit ▸ hlt]
    · rw [hunit] at hx
      obtain ⟨rfl, rfl⟩ := hexact (by rw [hsplit, hx]; ring)
      simp [hbit]
  · rw [hbit, Nat.cast_one] at hsplit
    refine ⟨?_, ?_, fun hx => ?_⟩
    · rw [hunit]
      linarith [hsplit ▸ hle]
    · rw [hunit]
      linarith [hsplit ▸ hlt]
    · rw [hunit] at hx
      linarith [hsplit ▸ hle]

theorem Truncates.shiftRight (h : Truncates em e x) (k : ℕ) : Truncates (em >>> k) (e + k) x := by
  induction k with
  | zero =>
    rw [Nat.cast_zero, add_zero]
    exact h
  | succ k ih =>
    have hshift := ih.shiftRightOne
    rwa [add_assoc, ← Nat.cast_succ] at hshift

theorem mantissa_le_roundedMantissa (em : ExtendedMantissa) : em.mantissa ≤ em.roundedMantissa := by
  obtain ⟨m, _ | _, _ | _⟩ := em
  · exact Nat.le_refl m
  · exact Nat.le_refl m
  · exact Nat.le_add_right m _
  · exact Nat.le_succ m

theorem roundedMantissa_le_succ (em : ExtendedMantissa) :
    em.roundedMantissa ≤ em.mantissa + 1 := by
  obtain ⟨m, _ | _, _ | _⟩ := em
  · exact Nat.le_succ m
  · exact Nat.le_succ m
  · exact Nat.add_le_add_left (Nat.le_of_lt_succ (Nat.mod_lt m two_pos)) m
  · exact Nat.le_refl _

theorem Truncates.roundedMantissa_le (h : Truncates em e x) (hn : x ≤ n * 2 ^ e) :
    em.roundedMantissa ≤ n := by
  have hle : em.mantissa ≤ n :=
    Nat.cast_le.mp (le_of_mul_le_mul_right (h.le.trans hn) (unit_pos e))
  rcases hle.lt_or_eq with hlt | rfl
  · exact (roundedMantissa_le_succ em).trans hlt
  · obtain ⟨hround, hsticky⟩ := h.exact (le_antisymm hn h.le)
    obtain ⟨m, roundBit, stickyBit⟩ := em
    cases hround
    cases hsticky
    exact Nat.le_refl m

theorem Truncates.le_roundedMantissa (h : Truncates em e x) (hn : n * 2 ^ e ≤ x) :
    n ≤ em.roundedMantissa := by
  have hlt : (n : ℚ) < (em.mantissa + 1 : ℕ) :=
    lt_of_mul_lt_mul_right ((hn.trans_lt h.lt).trans_eq (by push_cast; rfl)) (unit_pos e).le
  exact (Nat.le_of_lt_succ (Nat.cast_lt.mp hlt)).trans (mantissa_le_roundedMantissa em)

/-! ## Doubles -/

/-- The mantissa has 53 bits, of which the first is set unless the exponent is the least one. -/
structure IsShape (m : ℕ) (e : ℤ) : Prop where
  lt : m < 2 ^ 53
  le : -1074 ≤ e
  full : 2 ^ 52 ≤ m ∨ e = -1074

/-- A double is less than every number with a higher exponent. -/
theorem IsShape.lt_of_exponent_lt (h : IsShape m e) (hlt : e < j) (hx : 2 ^ 52 * 2 ^ j ≤ x) :
    m * 2 ^ e < x := by
  have hm : (m : ℚ) < 2 ^ 53 := by exact_mod_cast h.lt
  calc (m : ℚ) * 2 ^ e < 2 ^ 53 * 2 ^ e := mul_lt_mul_of_pos_right hm (unit_pos e)
    _ = 2 ^ 52 * 2 ^ (e + 1) := by rw [zpow_add_one₀ two_ne_zero]; ring
    _ ≤ 2 ^ 52 * 2 ^ j := by gcongr; exacts [one_le_two, hlt]
    _ ≤ x := hx

/-- Between two doubles there is room for a unit of the lower one. -/
theorem IsShape.succ_le_of_lt (h : IsShape n j) (h' : IsShape m e)
    (hlt : (n : ℚ) * 2 ^ j < m * 2 ^ e) : ((n + 1 : ℕ) : ℚ) * 2 ^ j ≤ m * 2 ^ e := by
  rcases lt_trichotomy e j with hej | rfl | hje
  · have hn : 2 ^ 52 ≤ n := h.full.resolve_right (by have := h'.le; omega)
    have hbelow : (m : ℚ) * 2 ^ e < n * 2 ^ j := by
      refine h'.lt_of_exponent_lt hej ?_
      gcongr
      exact_mod_cast hn
    exact absurd hbelow hlt.not_gt
  · have hnm : n < m := Nat.cast_lt.mp (lt_of_mul_lt_mul_right hlt (unit_pos e).le)
    gcongr
    exact hnm
  · have hm : 2 ^ 52 ≤ m := h'.full.resolve_right (by have := h.le; omega)
    calc ((n + 1 : ℕ) : ℚ) * 2 ^ j ≤ (2 ^ 53 : ℕ) * 2 ^ j := by gcongr; exact h.lt
      _ = (2 ^ 52 : ℕ) * 2 ^ (j + 1) := by rw [zpow_add_one₀ two_ne_zero]; push_cast; ring
      _ ≤ (2 ^ 52 : ℕ) * 2 ^ e := by gcongr; exacts [one_le_two, hje]
      _ ≤ m * 2 ^ e := by gcongr

/-- The distance of a finite double from 0. -/
def magnitude : UnpackedFloat → ℚ
  | .finite _ m e _ => m * 2 ^ e
  | _ => 0

/-- A double of the sign `s`, with the exponent not bounded above, that is not on the other side of
any double than `x` is. -/
structure IsRounding (s : Sign) (x : ℚ) (u : UnpackedFloat) : Prop where
  shape : u = .zero s ∨ ∃ m e hm, u = .finite s m e hm ∧ IsShape m e
  le : ∀ n j, IsShape n j → x ≤ n * 2 ^ j → magnitude u ≤ n * 2 ^ j
  ge : ∀ n j, IsShape n j → n * 2 ^ j ≤ x → n * 2 ^ j ≤ magnitude u

/-! ## Rounding -/

theorem targetExponent_eq (m : ℕ) (e : ℤ) :
    binary64.targetExponent (totalExponent m e) = max (m.log2 + e - 52) (-1074) := by
  simp only [Format.targetExponent, totalExponent, Format.mantissaBits, Format.minExponent]
  norm_num
  omega

theorem shiftToTargetExponent_eq {k : ℕ}
    (hk : (binary64.targetExponent (totalExponent m e) - e).toNat = k) (accuracy : Accuracy) :
    shiftToTargetExponent binary64 m e accuracy =
      (ExtendedMantissa.ofMantissaAndAccuracy m accuracy >>> k, e + k) := by
  subst hk
  rfl

/-- The double with a mantissa that may have been raised to 54 bits. -/
def carry (s : Sign) (r : ℕ) (t : ℤ) : UnpackedFloat :=
  let mantissa := (shiftToTargetExponent binary64 r t .exact).1.mantissa
  if h : mantissa = 0 then .zero s
  else .finite s mantissa (shiftToTargetExponent binary64 r t .exact).2 (Nat.pos_of_ne_zero h)

theorem roundWithAccuracy_eq (s : Sign) (m : ℕ) (e : ℤ) (accuracy : Accuracy) :
    roundWithAccuracy binary64 s m e accuracy =
      carry s (shiftToTargetExponent binary64 m e accuracy).1.roundedMantissa
        (shiftToTargetExponent binary64 m e accuracy).2 :=
  rfl

/-- A mantissa that was raised to 54 bits is a power of two, and nothing is cut off. -/
theorem carry_spec (s : Sign) {r : ℕ} {t : ℤ} (hr : r ≤ 2 ^ 53) (ht : -1074 ≤ t)
    (hfull : 2 ^ 52 ≤ r ∨ t = -1074) :
    magnitude (carry s r t) = r * 2 ^ t ∧
      (carry s r t = .zero s ∨ ∃ m e hm, carry s r t = .finite s m e hm ∧ IsShape m e) := by
  rcases hr.lt_or_eq with hlt | rfl
  · have hbits : r.log2 ≤ 52 := by
      rcases eq_or_ne r 0 with rfl | hne
      · decide
      · exact Nat.le_of_lt_succ ((Nat.log2_lt hne).mpr hlt)
    have hsame := shiftToTargetExponent_eq (m := r) (e := t) (k := 0)
      (by rw [targetExponent_eq]; omega) .exact
    have hcarry : carry s r t = if h : r = 0 then .zero s
        else .finite s r t (Nat.pos_of_ne_zero h) := by
      unfold carry
      simp only [hsame, Nat.cast_zero, add_zero]
      rfl
    rw [hcarry]
    split
    · next hzero =>
      subst hzero
      exact ⟨by simp [magnitude], Or.inl rfl⟩
    · next hne => exact ⟨rfl, Or.inr ⟨r, t, Nat.pos_of_ne_zero hne, rfl, hlt, ht, hfull⟩⟩
  · have htarget : binary64.targetExponent (totalExponent (2 ^ 53) t) = t + 1 := by
      rw [targetExponent_eq, Nat.log2_two_pow]
      omega
    have hshift := shiftToTargetExponent_eq (m := 2 ^ 53) (e := t) (k := 1)
      (by rw [htarget]; omega) .exact
    have hcarry : carry s (2 ^ 53) t = .finite s (2 ^ 52) (t + 1) (by decide) := by
      unfold carry
      simp only [hshift]
      rfl
    rw [hcarry]
    refine ⟨?_, Or.inr ⟨_, _, _, rfl, by decide, by omega, Or.inl (Nat.le_refl _)⟩⟩
    rw [magnitude, zpow_add_one₀ two_ne_zero]
    push_cast
    ring

/-- **Rounding does not cross a double.** It is enough that the number is given at a unit that is
not coarser than the one of the doubles of its size. -/
theorem isRounding_of_truncates (s : Sign) {accuracy : Accuracy}
    (h : Truncates (ExtendedMantissa.ofMantissaAndAccuracy m accuracy) e x)
    (he : e ≤ binary64.targetExponent (totalExponent m e)) :
    IsRounding s x (roundWithAccuracy binary64 s m e accuracy) := by
  rw [targetExponent_eq] at he
  obtain ⟨k, hk⟩ : ∃ k : ℕ, e + k = max (m.log2 + e - 52 : ℤ) (-1074) :=
    ⟨(max (m.log2 + e - 52 : ℤ) (-1074) - e).toNat, by omega⟩
  obtain ⟨t, ht⟩ : ∃ t, e + k = t := ⟨_, rfl⟩
  rw [ht] at hk
  -- the first shift
  have hmantissa : (ExtendedMantissa.ofMantissaAndAccuracy m accuracy).mantissa = m := by
    rcases accuracy with _ | (_ | _ | _) <;> rfl
  have hle : (m : ℚ) * 2 ^ e ≤ x := by rw [← hmantissa]; exact h.le
  have hlt : x < (m + 1 : ℕ) * 2 ^ e := by
    push_cast
    rw [← hmantissa]
    exact h.lt
  have hshift := ht ▸ h.shiftRight k
  have hfirst := shiftToTargetExponent_eq (m := m) (e := e) (k := k)
    (by rw [targetExponent_eq]; omega) accuracy
  rw [roundWithAccuracy_eq, hfirst, ht]
  dsimp only
  generalize ExtendedMantissa.ofMantissaAndAccuracy m accuracy >>> k = em at hshift
  -- 53 bits are left, all of them used unless the unit is the least one
  have hupper : x ≤ (2 ^ 53 : ℕ) * 2 ^ t := by
    have hbits : m + 1 ≤ 2 ^ (53 + k) :=
      Nat.lt_log2_self.trans_le (Nat.pow_le_pow_right two_pos (by omega))
    calc x ≤ (m + 1 : ℕ) * 2 ^ e := hlt.le
      _ ≤ (2 ^ (53 + k) : ℕ) * 2 ^ e := by gcongr
      _ = (2 ^ 53 : ℕ) * 2 ^ t := by rw [← ht, unit_add, pow_add]; push_cast; ring
  have hlower (hleast : t ≠ -1074) : (2 ^ 52 : ℕ) * 2 ^ t ≤ x := by
    have hlog : m.log2 = 52 + k := by omega
    have hbits : 2 ^ (52 + k) ≤ m := by
      rw [← hlog]
      refine Nat.log2_self_le fun hzero => ?_
      rw [hzero, Nat.log2_zero] at hlog
      omega
    calc ((2 ^ 52 : ℕ) : ℚ) * 2 ^ t = (2 ^ (52 + k) : ℕ) * 2 ^ e := by
          rw [← ht, unit_add, pow_add]; push_cast; ring
      _ ≤ m * 2 ^ e := by gcongr
      _ ≤ x := hle
  have hfull : 2 ^ 52 ≤ em.roundedMantissa ∨ t = -1074 :=
    or_iff_not_imp_right.mpr fun hleast => hshift.le_roundedMantissa (hlower hleast)
  obtain ⟨hmagnitude, hshape⟩ := carry_spec s (hshift.roundedMantissa_le hupper) (by omega) hfull
  have hmultiple (n i : ℕ) : (n : ℚ) * 2 ^ (t + i) = (n * 2 ^ i : ℕ) * 2 ^ t := by
    rw [unit_add]
    push_cast
    ring
  refine ⟨hshape, fun n j hn hx => ?_, fun n j hn hx => ?_⟩
  · rw [hmagnitude]
    rcases le_or_gt t j with htj | hjt
    · obtain ⟨i, rfl⟩ : ∃ i : ℕ, j = t + i := ⟨(j - t).toNat, by omega⟩
      rw [hmultiple] at hx ⊢
      gcongr
      exact hshift.roundedMantissa_le hx
    · have hbelow := hlower (by have := hn.le; omega)
      exact absurd hx (not_le.mpr (hn.lt_of_exponent_lt hjt (by exact_mod_cast hbelow)))
  · rw [hmagnitude]
    rcases le_or_gt t j with htj | hjt
    · obtain ⟨i, rfl⟩ : ∃ i : ℕ, j = t + i := ⟨(j - t).toNat, by omega⟩
      rw [hmultiple] at hx ⊢
      gcongr
      exact hshift.le_roundedMantissa hx
    · refine (hn.lt_of_exponent_lt hjt ?_).le
      gcongr
      exact_mod_cast hfull.resolve_right (by have := hn.le; omega)

/-! ## Differences and quotients -/

theorem log2_shiftLeft (hm : m ≠ 0) (k : ℕ) : (m <<< k).log2 = m.log2 + k := by
  have hne : m * 2 ^ k ≠ 0 := Nat.mul_ne_zero hm (Nat.two_pow_pos k).ne'
  rw [Nat.shiftLeft_eq, Nat.log2_eq_iff hne]
  refine ⟨?_, ?_⟩
  · rw [pow_add]
    exact Nat.mul_le_mul_right _ (Nat.log2_self_le hm)
  · rw [add_right_comm, pow_add]
    exact Nat.mul_lt_mul_of_pos_right Nat.lt_log2_self (Nat.two_pow_pos k)

theorem isRounding_round (s : Sign) (hm : m ≠ 0) (e : ℤ) :
    IsRounding s (m * 2 ^ e) (round binary64 s m e) := by
  obtain ⟨k, hk⟩ : ∃ k, (e - binary64.targetExponent (totalExponent m e)).toNat = k := ⟨_, rfl⟩
  have hround : round binary64 s m e =
      roundWithAccuracy binary64 s (m <<< k) (e - k) .exact := by
    subst hk
    rfl
  have hvalue : (m : ℚ) * 2 ^ e = (m <<< k : ℕ) * 2 ^ (e - k) := by
    have hunit := unit_add (e - k) k
    rw [sub_add_cancel] at hunit
    rw [Nat.shiftLeft_eq, hunit]
    push_cast
    ring
  rw [hround, hvalue]
  refine isRounding_of_truncates s (truncates_exact _ _) ?_
  rw [targetExponent_eq] at hk
  rw [targetExponent_eq, log2_shiftLeft hm]
  push_cast
  omega

/-- A quotient may have one bit less than its numerator and denominator let expect. -/
theorem log2_le_log2_div (m : ℕ) (hn : n ≠ 0) : m.log2 ≤ n.log2 + (m / n).log2 + 1 := by
  rcases eq_or_ne m 0 with rfl | hm
  · exact Nat.zero_le _
  refine Nat.le_of_lt_succ ((Nat.log2_lt hm).mpr ?_)
  calc m < n * (m / n + 1) := Nat.lt_mul_div_succ m (Nat.pos_of_ne_zero hn)
    _ ≤ 2 ^ (n.log2 + 1) * 2 ^ ((m / n).log2 + 1) :=
      Nat.mul_le_mul Nat.lt_log2_self.le Nat.lt_log2_self
    _ = 2 ^ (n.log2 + (m / n).log2 + 1 + 1) := by rw [← pow_add]; congr 1; omega

theorem truncates_div (m : ℕ) (hn : n ≠ 0) (e : ℤ) :
    Truncates (ExtendedMantissa.ofMantissaAndAccuracy (m / n) (accuracyOfFraction (m % n) n)) e
      (m / n * 2 ^ e) := by
  have hpos : (0 : ℚ) < n := by exact_mod_cast Nat.pos_of_ne_zero hn
  have hmantissa : (ExtendedMantissa.ofMantissaAndAccuracy (m / n)
      (accuracyOfFraction (m % n) n)).mantissa = m / n := by
    rcases accuracyOfFraction (m % n) n with _ | (_ | _ | _) <;> rfl
  refine ⟨?_, ?_, fun hexact => ?_⟩
  · rw [hmantissa]
    gcongr
    exact Nat.cast_div_le
  · rw [hmantissa]
    gcongr
    rw [div_lt_iff₀ hpos]
    exact_mod_cast (Nat.lt_mul_div_succ m (Nat.pos_of_ne_zero hn)).trans_eq (mul_comm _ _)
  · rw [hmantissa] at hexact
    have hquotient : (m : ℚ) / n = (m / n : ℕ) := mul_right_cancel₀ (unit_pos e).ne' hexact
    rw [div_eq_iff hpos.ne'] at hquotient
    have hm : m = m / n * n := by exact_mod_cast hquotient
    have hmod : m % n = 0 := by
      have hdiv := Nat.div_add_mod m n
      rw [mul_comm] at hdiv
      omega
    rw [accuracyOfFraction, if_pos hmod]
    exact ⟨rfl, rfl⟩

theorem isRounding_div (s : Sign) (hm : m ≠ 0) (hn : n ≠ 0) (e j : ℤ) :
    IsRounding s (m * 2 ^ e / (n * 2 ^ j))
      (roundWithAccuracy binary64 s (divCore binary64 m e n j).1 (divCore binary64 m e n j).2.1
        (divCore binary64 m e n j).2.2) := by
  obtain ⟨t, ht⟩ : ∃ t, min (e - j)
      (binary64.targetExponent (totalExponent m e - totalExponent n j)) = t := ⟨_, rfl⟩
  obtain ⟨k, hk⟩ : ∃ k : ℕ, e = t + j + k := ⟨(e - j - t).toNat, by omega⟩
  have hcore : divCore binary64 m e n j =
      ((m <<< k) / n, t, accuracyOfFraction ((m <<< k) % n) n) := by
    unfold divCore
    simp only [ht, show (e - j - t).toNat = k by omega]
  have hvalue : (m : ℚ) * 2 ^ e / (n * 2 ^ j) = (m <<< k : ℕ) / n * 2 ^ t := by
    have hpos : (0 : ℚ) < n := by exact_mod_cast Nat.pos_of_ne_zero hn
    rw [hk, unit_add, zpow_add₀ two_ne_zero, Nat.shiftLeft_eq]
    have := unit_pos j
    push_cast
    field_simp
  rw [hcore, hvalue]
  refine isRounding_of_truncates s (truncates_div _ hn t) ?_
  -- the quotient has the bits that its exponent asks for
  have hbits := log2_le_log2_div (m <<< k) hn
  rw [log2_shiftLeft hm] at hbits
  have htarget : t ≤ max (m.log2 + e - (n.log2 + j) - 53 : ℤ) (-1074) := by
    rw [← ht]
    refine (min_le_right _ _).trans_eq ?_
    simp only [Format.targetExponent, totalExponent, Format.mantissaBits, Format.minExponent]
    norm_num
    omega
  rw [targetExponent_eq]
  dsimp only
  omega

end RedemptionWatch.Double
