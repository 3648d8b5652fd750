import RedemptionWatch.Proofs.Double.Rounding

/-!
# Arithmetic of doubles that are not negative

A double is computed with by its `parts`, and packed into its bits again (`ofParts`). Packing
changes nothing but a number that is too large, which becomes infinite. `Denotes` ties the parts to
their value. Doubles that have one are compared by it, and differences and quotients of them are
rounded (`Rounds`): they are on the same side of every double as the exact results. Where operands
may also be infinite or no numbers, it is only their signs that are followed (`IsUnsigned`).
-/

namespace RedemptionWatch.Double

open Float.Model (Format UnpackedFloat)
open Float.Model.Format (binary64)
open Float.Model.UnpackedFloat

variable {m n : ℕ} {e j : ℤ} {p q r : ℚ} {u v : UnpackedFloat} {x y a b t : Float} {s : Sign}

/-! ## Packing -/

/-- Sign, mantissa and exponent of a double. -/
def parts (x : Float) : UnpackedFloat :=
  x.toModel.unpack

/-- The double with these parts, if it has them. -/
def ofParts (u : UnpackedFloat) : Float :=
  .ofModel (.pack u)

theorem add_eq_ofParts (a b : Float) : a + b = ofParts (.add binary64 (parts a) (parts b)) :=
  rfl

theorem sub_eq_ofParts (a b : Float) : a - b = ofParts (.sub binary64 (parts a) (parts b)) :=
  rfl

theorem mul_eq_ofParts (a b : Float) : a * b = ofParts (.mul binary64 (parts a) (parts b)) :=
  rfl

theorem div_eq_ofParts (a b : Float) : a / b = ofParts (.div binary64 (parts a) (parts b)) :=
  rfl

theorem toNat_implicit_append (b : BitVec 52) : (1#1 ++ b).toNat = 2 ^ 52 + b.toNat := by
  rw [BitVec.toNat_append, ← Nat.shiftLeft_add_eq_or_of_lt b.isLt]
  rfl

theorem isShape_parts {hm : 0 < m} (h : parts x = .finite s m e hm) : IsShape m e ∧ e ≤ 971 := by
  have hmantissa := (@unpackMantissa binary64 x.toModel.toBits.toBitVec).isLt
  have hexponent := (@unpackExponent binary64 x.toModel.toBits.toBitVec).isLt
  have hbias : binary64.exponentBias = 1023 := rfl
  unfold parts Float.Model.unpack UnpackedFloat.unpack at h
  dsimp only at h hmantissa hexponent
  rw [hbias] at h
  split at h
  · split at h <;> cases h
  next hlast =>
  rw [← BitVec.toNat_inj] at hlast
  have hlast : (@unpackExponent binary64 x.toModel.toBits.toBitVec).toNat ≠ 2047 := hlast
  split at h
  · next hfirst =>
    split at h
    · cases h
    · cases h
      rw [hfirst]
      exact ⟨⟨by omega, by simp, Or.inr rfl⟩, by simp⟩
  · next hfirst =>
    rw [← BitVec.toNat_inj] at hfirst
    have hfirst : (@unpackExponent binary64 x.toModel.toBits.toBitVec).toNat ≠ 0 := hfirst
    cases h
    rw [toNat_implicit_append]
    exact ⟨⟨by omega, by omega, Or.inl (by omega)⟩, by omega⟩

@[simp]
theorem parts_ofParts_zero (s : Sign) : parts (ofParts (.zero s)) = .zero s := by
  cases s <;> rfl

@[simp]
theorem parts_ofParts_infinity (s : Sign) : parts (ofParts (.infinity s)) = .infinity s := by
  cases s <;> rfl

theorem parts_ofParts_overflow (s : Sign) (hm : 0 < m) (he : 971 < e) :
    parts (ofParts (.finite s m e hm)) = .infinity s := by
  have hpack : UnpackedFloat.pack binary64 (.finite s m e hm) = packedInfinity binary64 s := by
    unfold UnpackedFloat.pack
    dsimp only
    rw [if_pos]
    norm_num [Format.exponentBias]
    omega
  unfold parts ofParts Float.Model.pack Float.Model.unpack
  simp only [hpack]
  cases s <;> rfl

theorem parts_ofParts_finite (s : Sign) (hm : 0 < m) (h : IsShape m e) (he : e ≤ 971) :
    parts (ofParts (.finite s m e hm)) = .finite s m e hm := by
  have hle := h.le
  obtain ⟨biased, hbiased⟩ : ∃ biased : ℕ, e = biased - 1075 := ⟨(e + 1075).toNat, by omega⟩
  subst hbiased
  have hbias : binary64.exponentBias = 1023 := rfl
  have hbiased : ((biased - 1075 : ℤ) + 1023 + 52).toNat = biased := by omega
  have hbits : m.log2 + 1 = 53 ↔ 2 ^ 52 ≤ m := by
    rw [← Nat.le_log2 hm.ne']
    have := (Nat.log2_lt hm.ne').mpr h.lt
    omega
  unfold parts ofParts Float.Model.pack Float.Model.unpack UnpackedFloat.pack
  simp only [hbias, Nat.cast_ofNat, hbiased, Format.mantissaBits, Nat.reduceAdd, hbits]
  rw [if_neg (by omega)]
  split
  · next hfull =>
    have hfield : (BitVec.ofNat 11 biased).toNat = biased := Nat.mod_eq_of_lt (by omega)
    have hlast : BitVec.ofNat 11 biased ≠ -1#11 := by
      rw [ne_eq, ← BitVec.toNat_inj, hfield]
      exact (show biased ≠ 2047 by omega)
    have hfirst : BitVec.ofNat 11 biased ≠ 0#11 := by
      rw [ne_eq, ← BitVec.toNat_inj, hfield]
      exact (show biased ≠ 0 by omega)
    have hmantissa : (1#1 ++ BitVec.ofNat 52 m).toNat = m := by
      have := h.lt
      rw [toNat_implicit_append, BitVec.toNat_ofNat]
      omega
    unfold UnpackedFloat.unpack
    simp only [unpackMantissa_packComponents, unpackExponent_packComponents,
      unpackSign_packComponents, Sign.ofBitVec_toBitVec, hlast, hfirst, if_false, hfield, hmantissa]
    congr 1
  · next hfull =>
    have hleast := h.full.resolve_left hfull
    have hmantissa : (BitVec.ofNat 52 m).toNat = m := Nat.mod_eq_of_lt (by omega)
    have hfirst : BitVec.ofNat 52 m ≠ 0#52 := by
      rw [ne_eq, ← BitVec.toNat_inj, hmantissa]
      exact hm.ne'
    unfold UnpackedFloat.unpack
    simp only [unpackMantissa_packComponents, unpackExponent_packComponents,
      unpackSign_packComponents, Sign.ofBitVec_toBitVec, hfirst, hmantissa]
    obtain rfl : biased = 1 := by omega
    rfl

/-! ## Values -/

/-- The parts are those of the finite double `q`, which is not negative. -/
inductive Denotes : UnpackedFloat → ℚ → Prop
  | zero (s : Sign) : Denotes (.zero s) 0
  | finite {m : ℕ} {e : ℤ} (hm : 0 < m) (h : IsShape m e) (he : e ≤ 971) :
    Denotes (.finite .positive m e hm) (m * 2 ^ e)

theorem Denotes.nonneg (h : Denotes u p) : 0 ≤ p := by
  cases h with
  | zero => exact le_refl _
  | finite => positivity

theorem Denotes.parts_ofParts (h : Denotes u p) : parts (ofParts u) = u := by
  cases h with
  | zero s => exact parts_ofParts_zero s
  | finite hm hshape he => exact parts_ofParts_finite .positive hm hshape he

/-- Doubles are compared by their exponents, and by their mantissas if these are the same. -/
theorem compare_shapes (h : IsShape m e) (h' : IsShape n j) :
    (compare e j).then (compare m n) = compare ((m : ℚ) * 2 ^ e) (n * 2 ^ j) := by
  have hbelow {m n : ℕ} {e j : ℤ} (h : IsShape m e) (h' : IsShape n j) (hlt : e < j) :
      (m : ℚ) * 2 ^ e < n * 2 ^ j := by
    refine h.lt_of_exponent_lt hlt ?_
    gcongr
    exact_mod_cast h'.full.resolve_right (by have := h.le; omega)
  rcases lt_trichotomy e j with hlt | rfl | hgt
  · rw [compare_lt_iff_lt.mpr hlt, compare_lt_iff_lt.mpr (hbelow h h' hlt)]
    rfl
  · rw [compare_eq_iff_eq.mpr rfl]
    rcases lt_trichotomy m n with hlt | rfl | hgt
    · rw [Ordering.then, compare_lt_iff_lt.mpr hlt, compare_lt_iff_lt.mpr]
      gcongr
    · rw [compare_eq_iff_eq.mpr rfl, compare_eq_iff_eq.mpr rfl]
      rfl
    · rw [Ordering.then, compare_gt_iff_gt.mpr hgt, compare_gt_iff_gt.mpr]
      gcongr
  · rw [compare_gt_iff_gt.mpr hgt, compare_gt_iff_gt.mpr (hbelow h' h hgt)]
    rfl

theorem Denotes.pos_of_finite {hm : 0 < m} (h : Denotes (.finite s m e hm) p) : 0 < p := by
  cases h
  have := unit_pos e
  positivity

theorem Denotes.compare_eq (h : Denotes u p) (h' : Denotes v q) :
    u.compare v = some (compare p q) := by
  cases h with
  | zero =>
    cases h' with
    | zero => rfl
    | finite hn hshape' he' =>
      exact congrArg some (compare_lt_iff_lt.mpr (Denotes.finite hn hshape' he').pos_of_finite).symm
  | finite hm hshape he =>
    cases h' with
    | zero =>
      exact congrArg some (compare_gt_iff_gt.mpr (Denotes.finite hm hshape he).pos_of_finite).symm
    | finite hn hshape' => exact congrArg some (compare_shapes hshape hshape')

theorem le_iff_compare : x ≤ y ↔ ((parts x).compare (parts y)).any (·.isLE) = true :=
  decide_eq_true_iff

theorem lt_iff_compare : x < y ↔ (parts x).compare (parts y) = some .lt :=
  decide_eq_true_iff.trans beq_iff_eq

theorem le_iff (hx : Denotes (parts x) p) (hy : Denotes (parts y) q) : x ≤ y ↔ p ≤ q := by
  rw [le_iff_compare, hx.compare_eq hy, Option.any_some, Ordering.isLE_iff_ne_gt]
  exact compare_le_iff_le

theorem lt_iff (hx : Denotes (parts x) p) (hy : Denotes (parts y) q) : x < y ↔ p < q := by
  rw [lt_iff_compare, hx.compare_eq hy, Option.some_inj]
  exact compare_lt_iff_lt

theorem denotes_of_parts (hm : 0 < m) (h : parts x = .finite .positive m e hm) :
    Denotes (parts x) (m * 2 ^ e) := by
  obtain ⟨hshape, he⟩ := isShape_parts h
  exact h ▸ .finite hm hshape he

theorem denotes_zero : Denotes (parts 0) 0 :=
  .zero .positive

theorem denotes_one : Denotes (parts 1) 1 := by
  have hone : Denotes (parts 1) ((2 ^ 52 : ℕ) * 2 ^ (-52 : ℤ)) :=
    denotes_of_parts (by decide) rfl
  norm_num at hone
  exact hone

/-- A double that is not negative is infinite or has a value. -/
theorem cases_of_nonneg (h : 0 ≤ x) :
    parts x = .infinity .positive ∨ ∃ q, Denotes (parts x) q := by
  have hle : ((UnpackedFloat.zero .positive).compare (parts x)).any (·.isLE) = true :=
    le_iff_compare.mp h
  cases hparts : parts x with
  | infinity s =>
    rw [hparts] at hle
    cases s with
    | negative => exact nomatch hle
    | positive => exact Or.inl rfl
  | notANumber => exact nomatch hparts ▸ hle
  | zero s => exact Or.inr ⟨0, .zero s⟩
  | finite s m e hm =>
    obtain ⟨hshape, he⟩ := isShape_parts hparts
    rw [hparts] at hle
    cases s with
    | negative => exact nomatch hle
    | positive => exact Or.inr ⟨_, .finite hm hshape he⟩

/-- All doubles that have a value are less than the infinite one. -/
theorem lt_of_infinity (hx : Denotes (parts x) p) (hy : parts y = .infinity .positive) : x < y := by
  rw [lt_iff_compare, hy]
  generalize parts x = u at hx
  cases hx <;> rfl

theorem lt_imp_le (h : x < y) : x ≤ y := by
  rw [le_iff_compare, lt_iff_compare.mp h]
  rfl

/-- What is at most a double that has a value has one. -/
theorem exists_denotes_of_le (hx : 0 ≤ x) (hle : x ≤ t) (ht : Denotes (parts t) r) :
    ∃ q, Denotes (parts x) q ∧ q ≤ r := by
  rcases cases_of_nonneg hx with hinfinity | ⟨q, hq⟩
  · have hnot := le_iff_compare.mp hle
    rw [hinfinity] at hnot
    generalize parts t = v at ht hnot
    cases ht <;> exact nomatch hnot
  · exact ⟨q, hq, (le_iff hq ht).mp hle⟩

theorem cases_of_pos (h : 0 < x) :
    parts x = .infinity .positive ∨ ∃ q, Denotes (parts x) q ∧ 0 < q :=
  (cases_of_nonneg (lt_imp_le h)).imp_right fun ⟨q, hq⟩ => ⟨q, hq, (lt_iff denotes_zero hq).mp h⟩

theorem exists_denotes_of_lt (hx : 0 ≤ x) (hlt : x < t) (ht : Denotes (parts t) r) :
    ∃ q, Denotes (parts x) q ∧ q < r := by
  obtain ⟨q, hq, -⟩ := exists_denotes_of_le hx (lt_imp_le hlt) ht
  exact ⟨q, hq, (lt_iff hq ht).mp hlt⟩

/-! ## Rounded values -/

/-- The double is the rounding of a number that is not negative. -/
structure Rounds (x : Float) (q : ℚ) : Prop where
  le : ∀ t r, Denotes (parts t) r → q ≤ r → x ≤ t
  ge : ∀ t r, Denotes (parts t) r → r ≤ q → t ≤ x

theorem Denotes.rounds (h : Denotes (parts x) q) : Rounds x q :=
  ⟨fun _ _ ht hq => (le_iff h ht).mpr hq, fun _ _ ht hq => (le_iff ht h).mpr hq⟩

theorem rounds_zero (s : Sign) : Rounds (ofParts (.zero s)) 0 := by
  refine Denotes.rounds ?_
  rw [parts_ofParts_zero]
  exact .zero s

/-- A rounding that is too large for a double is infinite. -/
theorem rounds_ofParts (h : IsRounding .positive q u) : Rounds (ofParts u) q := by
  have hzero : IsShape 0 (-1074) := ⟨by decide, le_refl _, Or.inr rfl⟩
  have hle {v : UnpackedFloat} {r : ℚ} (hv : Denotes v r) (hq : q ≤ r) : magnitude u ≤ r := by
    cases hv with
    | zero => simpa using h.le 0 (-1074) hzero (by simpa using hq)
    | finite hm hshape => exact h.le _ _ hshape hq
  have hge {v : UnpackedFloat} {r : ℚ} (hv : Denotes v r) (hq : r ≤ q) : r ≤ magnitude u := by
    cases hv with
    | zero => simpa using h.ge 0 (-1074) hzero (by simpa using hq)
    | finite hm hshape => exact h.ge _ _ hshape hq
  have hdenotes (hu : Denotes u (magnitude u)) : Rounds (ofParts u) q := by
    have hu : Denotes (parts (ofParts u)) (magnitude u) := hu.parts_ofParts.symm ▸ hu
    exact ⟨fun t r ht hq => (le_iff hu ht).mpr (hle ht hq),
      fun t r ht hq => (le_iff ht hu).mpr (hge ht hq)⟩
  rcases h.shape with rfl | ⟨m, e, hm, rfl, hshape⟩
  · exact hdenotes (.zero .positive)
  rcases le_or_gt e 971 with he | he
  · exact hdenotes (.finite hm hshape he)
  · have hinfinity := parts_ofParts_overflow .positive hm he
    refine ⟨fun t r ht hq => ?_, fun t r ht _ => ?_⟩
    · have habove : r < m * 2 ^ e := by
        generalize parts t = v at ht
        cases ht with
        | zero =>
          have := unit_pos e
          positivity
        | finite hn hshape' he' =>
          refine hshape'.lt_of_exponent_lt (j := e) (by omega) ?_
          gcongr
          exact_mod_cast hshape.full.resolve_right (by omega)
      exact absurd (hle ht hq) (not_le.mpr habove)
    · exact lt_imp_le (lt_of_infinity ht hinfinity)

theorem rounds_normalize {k : ℤ} (hk : 0 ≤ k) (e : ℤ) :
    Rounds (ofParts (UnpackedFloat.normalize binary64 k e .positive)) (k * 2 ^ e) := by
  obtain ⟨n, rfl⟩ := Int.eq_ofNat_of_zero_le hk
  unfold UnpackedFloat.normalize
  rcases Nat.eq_zero_or_pos n with rfl | hn
  · simpa using rounds_zero .positive
  · rw [compare_gt_iff_gt.mpr (by exact_mod_cast hn)]
    exact rounds_ofParts (isRounding_round .positive hn.ne' e)

theorem finite_le_zero (hm : 0 < m) (h : IsShape m e) :
    ofParts (.finite .negative m e hm) ≤ 0 := by
  rw [le_iff_compare]
  rcases le_or_gt e 971 with he | he
  · rw [parts_ofParts_finite .negative hm h he]
    rfl
  · rw [parts_ofParts_overflow .negative hm he]
    rfl

theorem normalize_le_zero {k : ℤ} (hk : k ≤ 0) (e : ℤ) :
    ofParts (UnpackedFloat.normalize binary64 k e .positive) ≤ 0 := by
  unfold UnpackedFloat.normalize
  split
  · next hlt =>
    have hk : (-k).toNat ≠ 0 := by have := compare_lt_iff_lt.mp hlt; omega
    rcases (isRounding_round .negative hk e).shape with hzero | ⟨m, e', hm, hfinite, hshape⟩
    · rw [hzero]
      decide
    · rw [hfinite]
      exact finite_le_zero hm hshape
  · decide
  · next hgt => exact absurd (compare_gt_iff_gt.mp hgt) (not_lt.mpr hk)

theorem fst_decreaseExponent (m : ℕ) {e t : ℤ} (h : t ≤ e) :
    ((decreaseExponent m e t).1 : ℚ) * 2 ^ t = m * 2 ^ e := by
  obtain ⟨k, rfl⟩ : ∃ k : ℕ, e = t + k := ⟨(e - t).toNat, by omega⟩
  rw [decreaseExponent, add_sub_cancel_left, Int.toNat_natCast, Nat.shiftLeft_eq, unit_add]
  push_cast
  ring

theorem sub_finite (hm : 0 < m) (hn : 0 < n) (e j : ℤ) : ∃ k : ℤ,
    UnpackedFloat.sub binary64 (.finite .positive m e hm) (.finite .positive n j hn) =
      UnpackedFloat.normalize binary64 k (min e j) .positive ∧
    (k : ℚ) * 2 ^ min e j = m * 2 ^ e - n * 2 ^ j := by
  refine ⟨(decreaseExponent m e (min e j)).1 - (decreaseExponent n j (min e j)).1, rfl, ?_⟩
  rw [← fst_decreaseExponent m (min_le_left e j), ← fst_decreaseExponent n (min_le_right e j)]
  push_cast
  ring

/-- Differences are rounded. -/
theorem rounds_sub (ha : Denotes (parts a) p) (hb : Denotes (parts b) q) (hle : q ≤ p) :
    Rounds (a - b) (p - q) := by
  rw [sub_eq_ofParts]
  generalize parts a = u at ha
  generalize parts b = v at hb
  cases hb with
  | zero s' =>
    rw [sub_zero]
    cases ha with
    | zero s =>
      have hzero : UnpackedFloat.sub binary64 (.zero s) (.zero s') =
          if s == -s' then .zero s else .zero .positive := rfl
      rw [hzero]
      split <;> exact rounds_zero _
    | finite hm hshape he =>
      have hu := Denotes.finite hm hshape he
      exact Denotes.rounds (hu.parts_ofParts.symm ▸ hu)
  | @finite n j hn hshape' he' =>
    cases ha with
    | zero s => exact absurd (Denotes.finite hn hshape' he').pos_of_finite (not_lt.mpr hle)
    | @finite m e hm hshape he =>
      obtain ⟨k, hk, hvalue⟩ := sub_finite hm hn e j
      rw [hk, ← hvalue]
      refine rounds_normalize ?_ _
      have hnonneg : (0 : ℚ) ≤ k * 2 ^ min e j := hvalue ▸ sub_nonneg.mpr hle
      exact_mod_cast nonneg_of_mul_nonneg_left hnonneg (unit_pos _)

/-- A difference has a sign. -/
theorem sub_le_zero (ha : Denotes (parts a) p) (hb : Denotes (parts b) q) (hle : p ≤ q) :
    a - b ≤ 0 := by
  rw [sub_eq_ofParts]
  generalize parts a = u at ha
  generalize parts b = v at hb
  cases ha with
  | zero s =>
    cases hb with
    | zero s' => cases s <;> cases s' <;> decide
    | finite hn hshape' he' => exact finite_le_zero hn hshape'
  | @finite m e hm hshape he =>
    cases hb with
    | zero s' => exact absurd (Denotes.finite hm hshape he).pos_of_finite (not_lt.mpr hle)
    | @finite n j hn hshape' he' =>
      obtain ⟨k, hk, hvalue⟩ := sub_finite hm hn e j
      rw [hk]
      refine normalize_le_zero ?_ _
      have hnonpos : (k : ℚ) * 2 ^ min e j ≤ 0 := hvalue ▸ sub_nonpos.mpr hle
      exact_mod_cast nonpos_of_mul_nonpos_left hnonpos (unit_pos _)

theorem parts_sub_of_infinity (ha : parts a = .infinity .positive) (hb : Denotes (parts b) q) :
    parts (a - b) = .infinity .positive := by
  rw [sub_eq_ofParts, ha]
  generalize parts b = v at hb
  cases hb <;> exact parts_ofParts_infinity .positive

/-- Quotients are rounded. -/
theorem rounds_div (ha : Denotes (parts a) p) (hb : Denotes (parts b) q) (hq : 0 < q) :
    Rounds (a / b) (p / q) := by
  rw [div_eq_ofParts]
  generalize parts a = u at ha
  generalize parts b = v at hb
  cases hb with
  | zero => exact absurd hq (lt_irrefl 0)
  | finite hn =>
    cases ha with
    | zero s =>
      rw [zero_div]
      exact rounds_zero _
    | finite hm => exact rounds_ofParts (isRounding_div .positive hm.ne' hn.ne' _ _)

theorem denotes_div_infinity (ha : Denotes (parts a) p) (hb : parts b = .infinity .positive) :
    Denotes (parts (a / b)) 0 := by
  rw [div_eq_ofParts, hb]
  generalize parts a = u at ha
  cases ha with
  | zero s => cases s <;> exact .zero _
  | finite hm =>
    have hzero : parts (ofParts (.zero .positive)) = .zero .positive := parts_ofParts_zero .positive
    exact hzero ▸ .zero _

theorem zero_mul_of_pos (hb : Denotes (parts b) q) (hq : 0 < q) : 0 * b = 0 := by
  rw [mul_eq_ofParts]
  generalize parts b = v at hb
  cases hb with
  | zero => exact absurd hq (lt_irrefl 0)
  | finite => rfl

/-! ## Signs -/

/-- The parts are not those of a double less than 0. -/
inductive IsUnsigned : UnpackedFloat → Prop
  | infinity : IsUnsigned (.infinity .positive)
  | notANumber : IsUnsigned .notANumber
  | zero (s : Sign) : IsUnsigned (.zero s)
  | finite {m : ℕ} {e : ℤ} (hm : 0 < m) : IsUnsigned (.finite .positive m e hm)

theorem not_lt_zero_iff : ¬x < 0 ↔ IsUnsigned (parts x) := by
  have hlt : x < 0 ↔ (parts x).compare (.zero .positive) = some .lt := lt_iff_compare
  rw [hlt]
  rcases parts x with (_ | _) | _ | s | ⟨_ | _, m, e, hm⟩
  · exact ⟨fun h => absurd rfl h, nofun⟩
  · exact ⟨fun _ => .infinity, nofun⟩
  · exact ⟨fun _ => .notANumber, nofun⟩
  · exact ⟨fun _ => .zero s, nofun⟩
  · exact ⟨fun h => absurd rfl h, nofun⟩
  · exact ⟨fun _ => .finite hm, nofun⟩

theorem not_lt_zero_of_nonneg (h : 0 ≤ x) : ¬x < 0 := by
  rw [not_lt_zero_iff]
  rcases cases_of_nonneg h with hinfinity | ⟨q, hq⟩
  · exact hinfinity ▸ .infinity
  · generalize parts x = u at hq
    cases hq with
    | zero s => exact .zero s
    | finite hm => exact .finite hm

theorem nonneg_of_not_lt_zero (h : ¬x < 0) (hle : x ≤ y) : 0 ≤ x := by
  have hcompare := le_iff_compare.mp hle
  rw [not_lt_zero_iff] at h
  rw [le_iff_compare]
  generalize parts x = u at h hcompare
  cases h with
  | notANumber => exact nomatch hcompare
  | infinity | zero | finite => rfl

theorem IsUnsigned.parts_ofParts (h : IsUnsigned u) : IsUnsigned (parts (ofParts u)) := by
  cases h with
  | infinity => exact .infinity
  | notANumber => exact .notANumber
  | zero s => exact (parts_ofParts_zero s).symm ▸ .zero s
  | @finite m e hm =>
    have hsign : unpackSign (UnpackedFloat.pack binary64 (.finite .positive m e hm)) =
        Sign.positive.toBitVec := by
      unfold UnpackedFloat.pack
      dsimp only
      split_ifs <;> exact unpackSign_packComponents ..
    unfold parts ofParts Float.Model.pack Float.Model.unpack UnpackedFloat.unpack
    dsimp only
    rw [hsign, Sign.ofBitVec_toBitVec]
    split_ifs
    · exact .infinity
    · exact .notANumber
    · exact .zero _
    · exact .finite _
    · exact .finite _

theorem isUnsigned_roundWithAccuracy (m : ℕ) (e : ℤ) (accuracy : Accuracy) :
    IsUnsigned (roundWithAccuracy binary64 .positive m e accuracy) := by
  unfold roundWithAccuracy
  dsimp only
  split
  · exact .zero _
  · exact .finite _

theorem isUnsigned_normalize {k : ℤ} (hk : 0 ≤ k) (e : ℤ) :
    IsUnsigned (UnpackedFloat.normalize binary64 k e .positive) := by
  unfold UnpackedFloat.normalize
  split
  · next hlt => exact absurd hk (not_le.mpr (compare_lt_iff_lt.mp hlt))
  · exact .zero _
  · exact isUnsigned_roundWithAccuracy ..

/-- The sum of doubles that are not less than 0 is not either. -/
theorem not_lt_zero_add (ha : ¬a < 0) (hb : ¬b < 0) : ¬a + b < 0 := by
  rw [not_lt_zero_iff] at ha hb ⊢
  rw [add_eq_ofParts]
  refine IsUnsigned.parts_ofParts ?_
  generalize parts a = u at ha
  generalize parts b = v at hb
  cases ha with
  | infinity => cases hb <;> first | exact .infinity | exact .notANumber
  | notANumber => cases hb <;> exact .notANumber
  | zero s =>
    cases hb with
    | infinity => exact .infinity
    | notANumber => exact .notANumber
    | zero s' => cases s <;> cases s' <;> exact .zero _
    | finite hn => exact .finite hn
  | finite hm =>
    cases hb with
    | infinity => exact .infinity
    | notANumber => exact .notANumber
    | zero s' => exact .finite hm
    | finite hn =>
      have hsum (m n : ℕ) : 0 ≤ (m : ℤ) + n := by positivity
      exact isUnsigned_normalize (hsum _ _) _

/-- The product of doubles that are not less than 0 is not either. -/
theorem not_lt_zero_mul (ha : ¬a < 0) (hb : ¬b < 0) : ¬a * b < 0 := by
  rw [not_lt_zero_iff] at ha hb ⊢
  rw [mul_eq_ofParts]
  refine IsUnsigned.parts_ofParts ?_
  generalize parts a = u at ha
  generalize parts b = v at hb
  cases ha with
  | infinity => cases hb <;> first | exact .infinity | exact .notANumber
  | notANumber => cases hb <;> exact .notANumber
  | zero s => cases hb <;> first | exact .notANumber | exact .zero _
  | finite hm =>
    cases hb with
    | infinity => exact .infinity
    | notANumber => exact .notANumber
    | zero s' => exact .zero _
    | finite hn => exact isUnsigned_roundWithAccuracy ..

/-- The quotient of a double that is not less than 0 by a positive one is not either. -/
theorem not_lt_zero_div (ha : ¬a < 0) (hb : Denotes (parts b) q) (hq : 0 < q) : ¬a / b < 0 := by
  rw [not_lt_zero_iff] at ha ⊢
  rw [div_eq_ofParts]
  refine IsUnsigned.parts_ofParts ?_
  generalize parts a = u at ha
  generalize parts b = v at hb
  cases hb with
  | zero => exact absurd hq (lt_irrefl 0)
  | finite hn =>
    cases ha with
    | infinity => exact .infinity
    | notANumber => exact .notANumber
    | zero s => exact .zero _
    | finite hm => exact isUnsigned_roundWithAccuracy ..

theorem isUnsigned_ofScientific (m : ℕ) (e : ℤ) :
    IsUnsigned (UnpackedFloat.ofScientific binary64 m e) := by
  unfold UnpackedFloat.ofScientific
  split_ifs
  · exact .zero _
  · exact .infinity
  · exact .zero _
  · exact isUnsigned_roundWithAccuracy ..
  · exact isUnsigned_roundWithAccuracy ..

theorem not_lt_zero_ofNat (n : ℕ) : ¬n.toFloat < 0 := by
  have hofNat : n.toFloat = Float.ofScientific n false 0 := rfl
  rw [hofNat, Float.ofScientific]
  split
  · have hpower : ¬Float.exactlyRepresentablePowersOfTen[0] < 0 := by decide
    refine not_lt_zero_mul ?_ hpower
    rw [not_lt_zero_iff]
    exact (isUnsigned_normalize (Int.natCast_nonneg _) 0).parts_ofParts
  · rw [not_lt_zero_iff]
    exact (isUnsigned_ofScientific n 0).parts_ofParts

end RedemptionWatch.Double
