/-!
# Octets

Byte strings as lists of bytes, and the two ways a number is written in a fixed number of them:
most significant byte first (`bigEndian`) and least significant byte first (`littleEndian`).
-/

namespace RedemptionWatch

/-- The order in which the bytes of a number are written. -/
inductive ByteOrder where
  | big
  | little
  deriving DecidableEq, Repr

namespace Octets

/-- The last `width` bytes of `n`, most significant first. -/
def bigEndian : Nat → Nat → List UInt8
  | 0, _ => []
  | width + 1, n => bigEndian width (n / 256) ++ [UInt8.ofNat n]

/-- The number whose bytes are `bs`, most significant first. -/
def ofBigEndian (bs : List UInt8) : Nat :=
  bs.foldl (fun n b => n * 256 + b.toNat) 0

/-- The last `width` bytes of `n`, least significant first. -/
def littleEndian (width n : Nat) : List UInt8 :=
  (bigEndian width n).reverse

/-- The number whose bytes are `bs`, least significant first. -/
def ofLittleEndian (bs : List UInt8) : Nat :=
  ofBigEndian bs.reverse

/-- The bytes of a text in UTF-8. -/
def ofText (s : String) : List UInt8 :=
  s.toList.flatMap String.utf8EncodeChar

/-- The text whose UTF-8 form is `bs`, if there is one. -/
def text? (bs : List UInt8) : Option String :=
  String.fromUTF8? ⟨bs.toArray⟩

theorem length_bigEndian (width n : Nat) : (bigEndian width n).length = width := by
  induction width generalizing n with
  | zero => rfl
  | succ width ih => simp [bigEndian, ih]

theorem length_littleEndian (width n : Nat) : (littleEndian width n).length = width := by
  simp [littleEndian, length_bigEndian]

end Octets

namespace ByteOrder

/-- `n` in `width` bytes of the given order. -/
def write : ByteOrder → Nat → Nat → List UInt8
  | big => Octets.bigEndian
  | little => Octets.littleEndian

/-- The number written as `bs` in the given order. -/
def read : ByteOrder → List UInt8 → Nat
  | big => Octets.ofBigEndian
  | little => Octets.ofLittleEndian

theorem length_write (o : ByteOrder) (width n : Nat) : (o.write width n).length = width := by
  cases o <;> simp [write, Octets.length_bigEndian, Octets.length_littleEndian]

end ByteOrder

end RedemptionWatch
