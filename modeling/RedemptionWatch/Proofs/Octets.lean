import Mathlib.Algebra.Group.Nat.Defs
import Mathlib.Data.List.Induction
import Mathlib.Data.Nat.Basic
import Mathlib.Tactic.Ring
import RedemptionWatch.Octets

/-!
# Numbers in bytes

In either byte order a number is read back as it was written, if its bytes can hold it
(`ByteOrder.read_write`), and every row of bytes is what is written for the number that is read from
it (`ByteOrder.write_read`). So a byte string that is long enough starts with the writing of a
number (`ByteOrder.exists_write`), and two numbers that are written alike are equal
(`ByteOrder.write_inj`).
-/

namespace RedemptionWatch

variable {width m n : Nat} {bs : List UInt8}

namespace Octets

theorem ofBigEndian_snoc (bs : List UInt8) (b : UInt8) :
    ofBigEndian (bs ++ [b]) = ofBigEndian bs * 256 + b.toNat := by
  simp [ofBigEndian]

theorem ofBigEndian_lt (bs : List UInt8) : ofBigEndian bs < 256 ^ bs.length := by
  induction bs using List.reverseRecOn with
  | nil => decide
  | append_singleton bs b ih =>
    have hb := b.toNat_lt
    rw [ofBigEndian_snoc, List.length_append, List.length_singleton, Nat.pow_succ]
    omega

theorem ofBigEndian_append (bs cs : List UInt8) :
    ofBigEndian (bs ++ cs) = ofBigEndian bs * 256 ^ cs.length + ofBigEndian cs := by
  induction cs using List.reverseRecOn with
  | nil => simp [ofBigEndian]
  | append_singleton cs c ih =>
    rw [← List.append_assoc, ofBigEndian_snoc, ih, ofBigEndian_snoc, List.length_append,
      List.length_singleton]
    ring

/-- Only zeros hold the number zero. -/
theorem ofBigEndian_eq_zero_iff : ofBigEndian bs = 0 ↔ ∀ b ∈ bs, b = 0 := by
  induction bs using List.reverseRecOn with
  | nil => simp [ofBigEndian]
  | append_singleton bs b ih =>
    have hb : b.toNat = 0 ↔ b = 0 := UInt8.toNat_inj (b := 0)
    have hbs : ofBigEndian bs * 256 = 0 ↔ ofBigEndian bs = 0 := by omega
    rw [ofBigEndian_snoc, Nat.add_eq_zero_iff, hbs, ih, hb]
    simp only [List.mem_append, List.mem_singleton, or_imp, forall_and, forall_eq]

theorem ofBigEndian_bigEndian (h : n < 256 ^ width) : ofBigEndian (bigEndian width n) = n := by
  induction width generalizing n with
  | zero =>
    rw [Nat.pow_zero, Nat.lt_one_iff] at h
    rw [h]
    rfl
  | succ width ih =>
    rw [Nat.pow_succ] at h
    have hbyte : (UInt8.ofNat n).toNat = n % 256 := UInt8.toNat_ofNat'
    rw [bigEndian, ofBigEndian_snoc, ih (by omega), hbyte]
    omega

/-- Bytes in front of those that hold a number are zero. -/
theorem bigEndian_add (padding : Nat) (h : n < 256 ^ width) :
    bigEndian (padding + width) n = List.replicate padding 0 ++ bigEndian width n := by
  induction width generalizing n with
  | zero =>
    rw [Nat.pow_zero, Nat.lt_one_iff] at h
    rw [h, bigEndian, List.append_nil]
    induction padding with
    | zero => rfl
    | succ padding ih => exact (congrArg (· ++ [0]) ih).trans List.replicate_succ'.symm
  | succ width ih =>
    rw [Nat.pow_succ] at h
    rw [← Nat.add_assoc, bigEndian, bigEndian, ih (by omega), List.append_assoc]

theorem bigEndian_ofBigEndian (bs : List UInt8) : bigEndian bs.length (ofBigEndian bs) = bs := by
  induction bs using List.reverseRecOn with
  | nil => rfl
  | append_singleton bs b ih =>
    have hb := b.toNat_lt
    have hrest : (ofBigEndian bs * 256 + b.toNat) / 256 = ofBigEndian bs := by omega
    have hbyte : UInt8.ofNat (ofBigEndian bs * 256 + b.toNat) = b := by
      rw [UInt8.ofNat_eq_iff_mod_eq_toNat]
      omega
    rw [ofBigEndian_snoc, List.length_append, List.length_singleton, bigEndian, hrest, hbyte, ih]

end Octets

namespace ByteOrder

theorem read_lt (o : ByteOrder) (bs : List UInt8) : o.read bs < 256 ^ bs.length := by
  cases o with
  | big => exact Octets.ofBigEndian_lt bs
  | little =>
    have h := Octets.ofBigEndian_lt bs.reverse
    rw [List.length_reverse] at h
    exact h

theorem read_write (o : ByteOrder) (h : n < 256 ^ width) : o.read (o.write width n) = n := by
  cases o with
  | big => exact Octets.ofBigEndian_bigEndian h
  | little =>
    simp only [read, write, Octets.ofLittleEndian, Octets.littleEndian, List.reverse_reverse]
    exact Octets.ofBigEndian_bigEndian h

theorem write_read (o : ByteOrder) (bs : List UInt8) : o.write bs.length (o.read bs) = bs := by
  cases o with
  | big => exact Octets.bigEndian_ofBigEndian bs
  | little =>
    have h := Octets.bigEndian_ofBigEndian bs.reverse
    rw [List.length_reverse] at h
    simp only [read, write, Octets.ofLittleEndian, Octets.littleEndian, h, List.reverse_reverse]

theorem write_inj (o : ByteOrder) (hm : m < 256 ^ width) (hn : n < 256 ^ width)
    (h : o.write width m = o.write width n) : m = n := by
  rw [← o.read_write hm, h, o.read_write hn]

/-- Whatever bytes there are, the first ones are the writing of a number. -/
theorem exists_write (o : ByteOrder) (h : width ≤ bs.length) :
    ∃ n rest, n < 256 ^ width ∧ bs = o.write width n ++ rest := by
  have hlength : (bs.take width).length = width := List.length_take_of_le h
  refine ⟨o.read (bs.take width), bs.drop width, ?_, ?_⟩
  · simpa only [hlength] using o.read_lt (bs.take width)
  · have hwrite := o.write_read (bs.take width)
    rw [hlength] at hwrite
    rw [hwrite, List.take_append_drop]

end ByteOrder

end RedemptionWatch
