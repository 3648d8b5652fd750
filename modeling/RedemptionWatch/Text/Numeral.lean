/-!
# Numerals

Unsigned numbers in decimal and hexadecimal text. A numeral may start with one `+`, has at least one
digit, has ASCII digits only, and its value lies below a given bound.
-/

namespace RedemptionWatch.Text.Numeral

/-- The value of an ASCII digit below base 16, in either letter case. -/
def digit? (c : Char) : Option Nat :=
  if '0' ≤ c ∧ c ≤ '9' then some (c.toNat - '0'.toNat)
  else if 'a' ≤ c ∧ c ≤ 'f' then some (c.toNat - 'a'.toNat + 10)
  else if 'A' ≤ c ∧ c ≤ 'F' then some (c.toNat - 'A'.toNat + 10)
  else none

/-- The value of an ASCII digit of the given base. -/
def digitOf? (base : Nat) (c : Char) : Option Nat :=
  (digit? c).filter (· < base)

/-- The value of `cs` read as digits after a number `n`. -/
def digitsFrom? (base : Nat) (n : Nat) : List Char → Option Nat
  | [] => some n
  | c :: cs => (digitOf? base c).bind fun d => digitsFrom? base (n * base + d) cs

/-- The value of a non-empty row of digits. -/
def digits? (base : Nat) : List Char → Option Nat
  | [] => none
  | cs => digitsFrom? base 0 cs

/-- The value of a numeral below `bound`. -/
def parse? (base bound : Nat) (cs : List Char) : Option Nat :=
  let ds := match cs with
    | '+' :: rest => rest
    | _ => cs
  (digits? base ds).filter (· < bound)

/-- A decimal number below `2 ^ 16`. -/
def uint16? (s : String) : Option UInt16 :=
  (parse? 10 UInt16.size s.toList).map UInt16.ofNat

/-- A decimal number below `2 ^ 64`. -/
def uint64? (s : String) : Option UInt64 :=
  (parse? 10 UInt64.size s.toList).map UInt64.ofNat

/-- The decimal digits of a number, without leading zeros. -/
def decimal (n : Nat) : List Char :=
  Nat.toDigits 10 n

end RedemptionWatch.Text.Numeral
