/-!
# Base58

Bytes as a number in base 58, over the digits and letters without `0`, `O`, `I` and `l`. Every
leading zero byte is written as one leading `1`.
-/

namespace RedemptionWatch.Text.Base58

/-- The digits in ascending order. -/
def alphabet : List Char :=
  "123456789ABCDEFGHJKLMNPQRSTUVWXYZabcdefghijkmnopqrstuvwxyz".toList

/-- The value of a digit. -/
def value? (c : Char) : Option Nat :=
  alphabet.findIdx? (· == c)

/-- The number that `cs` stands for after a number `n`. -/
def numberFrom? (n : Nat) : List Char → Option Nat
  | [] => some n
  | c :: cs => (value? c).bind fun d => numberFrom? (n * 58 + d) cs

/-- The digits of `n` in the given base, most significant first, none for zero. -/
def digits (base : Nat) (hbase : 1 < base) (n : Nat) : List Nat :=
  if _hn : n = 0 then [] else digits base hbase (n / base) ++ [n % base]
termination_by n
decreasing_by exact Nat.div_lt_self (Nat.pos_of_ne_zero _hn) hbase

/-- The bytes whose written form is `cs`. -/
def decodeChars (cs : List Char) : Option (List UInt8) :=
  (numberFrom? 0 cs).map fun n =>
    List.replicate (cs.takeWhile (· == '1')).length 0 ++
      (digits 256 (by decide) n).map UInt8.ofNat

/-- The bytes whose written form is `s`. -/
def decode (s : String) : Option (List UInt8) :=
  decodeChars s.toList

/-- The written form of `bs`. -/
def encodeChars (bs : List UInt8) : List Char :=
  List.replicate (bs.takeWhile (· == 0)).length '1' ++
    (digits 58 (by decide) (bs.foldl (fun n b => n * 256 + b.toNat) 0)).map
      fun d => alphabet.getD d '1'

/-- The written form of `bs`. -/
def encode (bs : List UInt8) : String :=
  String.ofList (encodeChars bs)

end RedemptionWatch.Text.Base58
