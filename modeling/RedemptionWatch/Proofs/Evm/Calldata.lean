import Mathlib.Data.Option.Basic
import RedemptionWatch.Evm.Calldata
import RedemptionWatch.Proofs.Octets

/-!
# Calldata carry their argument

`Calldata.encode` is the standard encoding of a call with one argument of type `bytes`: the
selector, the offset of the argument, its length, its bytes, and zeros up to a whole number of
words. What `Calldata.vaa` finds in it is the argument, byte for byte, be it an attestation or not
(`Calldata.vaa_encode`).

The encoding is read word by word. Whatever stands around a word, it is read as its number
(`Calldata.word?_append`), and whatever stands around a slice, it is cut out
(`Calldata.slice?_append`).
-/

namespace RedemptionWatch.Evm

/-- The selector of a method. -/
abbrev Selector := { bs : List UInt8 // bs.length = Calldata.selectorSize }

namespace Calldata

/-- A number as a word. -/
def word (n : Nat) : List UInt8 :=
  Octets.bigEndian wordSize n

/-- Zeros up to a whole number of words. -/
def padding (length : Nat) : List UInt8 :=
  List.replicate ((wordSize - length % wordSize) % wordSize) 0

/-- The arguments of a call whose only argument is `bs`, of type `bytes`. -/
def encodeArguments (bs : List UInt8) : List UInt8 :=
  word wordSize ++ (word bs.length ++ (bs ++ padding bs.length))

/-- The calldata of a call whose only argument is `bs`, of type `bytes`. -/
def encode (selector : Selector) (bs : List UInt8) : List UInt8 :=
  selector.val ++ encodeArguments bs

theorem length_word (n : Nat) : (word n).length = wordSize :=
  Octets.length_bigEndian wordSize n

/-- The encoding is the selector and a whole number of words. -/
theorem length_encode (selector : Selector) (bs : List UInt8) :
    (encode selector bs).length =
      selectorSize + wordSize * (2 + (bs.length + wordSize - 1) / wordSize) := by
  simp only [encode, encodeArguments, padding, List.length_append, List.length_replicate,
    length_word, selector.property, wordSize]
  omega

/-- A slice is cut out of what stands around it. -/
theorem slice?_append (before bs after : List UInt8) :
    slice? (before ++ (bs ++ after)) before.length bs.length = some bs := by
  have hle : before.length + bs.length ≤ (before ++ (bs ++ after)).length := by
    simp only [List.length_append]
    omega
  unfold slice?
  rw [if_pos hle, List.drop_left, List.take_left]

/-- A word is read as its number, whatever stands around it. -/
theorem word?_append {n : Nat} (h : n < 2 ^ 64) (before after : List UInt8) :
    word? (before ++ (word n ++ after)) before.length = some n := by
  have hslice := slice?_append before (word n) after
  rw [length_word] at hslice
  have hbytes : n < 256 ^ 8 := by omega
  have hword : word n = List.replicate 24 0 ++ Octets.bigEndian 8 n := by
    have hadd := Octets.bigEndian_add 24 hbytes
    exact hadd
  have htake : (word n).take 24 = List.replicate 24 0 := by
    rw [hword]
    exact List.take_left' List.length_replicate
  have hdrop : (word n).drop 24 = Octets.bigEndian 8 n := by
    rw [hword]
    exact List.drop_left' List.length_replicate
  have hzeros : (List.replicate 24 (0 : UInt8)).all (· == 0) = true := by decide
  have hguard : (guard ((List.replicate 24 (0 : UInt8)).all (· == 0) = true) : Option Unit) =
      some () := if_pos hzeros
  unfold word?
  rw [hslice]
  simp only [Option.bind_eq_bind, Option.bind_some, htake, hdrop, hguard,
    Octets.ofBigEndian_bigEndian hbytes, Option.pure_def]

theorem argument?_encodeArguments {bs : List UInt8} (h : bs.length < 2 ^ 64) :
    argument? (encodeArguments bs) = some bs := by
  have hwordSize : wordSize < 2 ^ 64 := by
    rw [wordSize]
    omega
  have hoffset : word? (encodeArguments bs) 0 = some wordSize := by
    have hread := word?_append hwordSize [] (word bs.length ++ (bs ++ padding bs.length))
    exact hread
  have hlength : word? (encodeArguments bs) wordSize = some bs.length := by
    have hread := word?_append h (word wordSize) (bs ++ padding bs.length)
    rwa [length_word] at hread
  have hbytes : slice? (encodeArguments bs) (wordSize + wordSize) bs.length = some bs := by
    have hread := slice?_append (word wordSize ++ word bs.length) bs (padding bs.length)
    rwa [List.length_append, length_word, length_word, List.append_assoc] at hread
  unfold argument?
  rw [hoffset, Option.bind_eq_bind, Option.bind_some, hlength]
  exact hbytes

/-- Whatever bytes a call carries, they are what its calldata are read as. -/
theorem vaa_encode (selector : Selector) {bs : List UInt8} (h : bs.length < 2 ^ 64) :
    vaa (encode selector bs) = (SignedVaa.parse bs).mapError .vaa := by
  have hlong : ¬(encode selector bs).length < selectorSize + wordSize + wordSize := by
    rw [length_encode, wordSize]
    omega
  have harguments : (encode selector bs).drop selectorSize = encodeArguments bs :=
    List.drop_left' selector.property
  unfold vaa
  rw [if_neg hlong, harguments, argument?_encodeArguments h]
  cases hparse : SignedVaa.parse bs <;> simp only [hparse] <;> rfl

theorem vaaOfText_of_decode {input : String} {data : List UInt8}
    (h : Text.Hex.decode input = .ok data) : vaaOfText input = vaa data := by
  unfold vaaOfText
  rw [h]

end Calldata

end RedemptionWatch.Evm
