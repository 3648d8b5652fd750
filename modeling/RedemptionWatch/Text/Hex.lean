import RedemptionWatch.Octets
import RedemptionWatch.Text.Numeral
import RedemptionWatch.Text.Quoted

/-!
# Hexadecimal text

Bytes as pairs of hexadecimal digits. `decode` reads the UTF-8 bytes of a text, so a character
outside ASCII is reported as the first of its bytes. A text may start with `0x` or `0X`, which
`withoutMark` takes off.
-/

namespace RedemptionWatch.Text.Hex

/-- Why a text is no hexadecimal form of bytes. -/
inductive Error where
  /-- The number of digits is odd. -/
  | oddLength
  /-- The byte at this index is no digit. -/
  | invalidByte (byte : UInt8) (index : Nat)
  deriving DecidableEq, Repr

/-- The text of an error. The byte is shown as the character with its number. -/
def Error.message : Error → String
  | oddLength => "Odd number of digits"
  | invalidByte byte index =>
    "Invalid character " ++ Quoted.character (Char.ofNat byte.toNat) ++ " at position " ++
      toString index

/-- `cs` without a leading `0x` or `0X`. -/
def withoutMarkChars : List Char → List Char
  | '0' :: 'x' :: rest => rest
  | '0' :: 'X' :: rest => rest
  | cs => cs

/-- `s` without a leading `0x` or `0X`. -/
def withoutMark (s : String) : String :=
  String.ofList (withoutMarkChars s.toList)

/-- Is `c` an ASCII hexadecimal digit? -/
def isDigit (c : Char) : Bool :=
  (Numeral.digit? c).isSome

/-- The lower-case digit of a number below 16. -/
def digitChar (n : Nat) : Char :=
  if n < 10 then Char.ofNat ('0'.toNat + n) else Char.ofNat ('a'.toNat + (n - 10))

/-- Two lower-case digits for every byte. -/
def encodeChars : List UInt8 → List Char
  | [] => []
  | b :: bs => digitChar (b.toNat / 16) :: digitChar (b.toNat % 16) :: encodeChars bs

/-- Two lower-case digits for every byte. -/
def encode (bs : List UInt8) : String :=
  String.ofList (encodeChars bs)

/-- The value of a digit written as one byte. -/
def byteValue? (b : UInt8) : Option Nat :=
  Numeral.digit? (Char.ofNat b.toNat)

/-- Reads pairs of digits, the first of which stands at `index`. -/
def decodePairs (index : Nat) : List UInt8 → Except Error (List UInt8)
  | [] => .ok []
  | [_] => .error .oddLength
  | hi :: lo :: rest =>
    match byteValue? hi, byteValue? lo with
    | none, _ => .error (.invalidByte hi index)
    | _, none => .error (.invalidByte lo (index + 1))
    | some h, some l => (decodePairs (index + 2) rest).map (UInt8.ofNat (h * 16 + l) :: ·)

/-- The bytes that `digits` stand for. -/
def decodeDigits (digits : List UInt8) : Except Error (List UInt8) :=
  if digits.length % 2 = 1 then .error .oddLength else decodePairs 0 digits

/-- The bytes of a text with or without a leading `0x`. -/
def decode (s : String) : Except Error (List UInt8) :=
  decodeDigits (Octets.ofText (withoutMark s))

/-- A number below `2 ^ 64` in hexadecimal, with or without a leading `0x`. -/
def uint64? (s : String) : Option UInt64 :=
  (Numeral.parse? 16 UInt64.size (withoutMarkChars s.toList)).map UInt64.ofNat

/-- A number in lower-case hexadecimal after `0x`, without leading zeros. -/
def quantity (n : UInt64) : String :=
  "0x" ++ String.ofList (Nat.toDigits 16 n.toNat)

theorem length_encodeChars (bs : List UInt8) : (encodeChars bs).length = 2 * bs.length := by
  induction bs with
  | nil => rfl
  | cons b bs ih => simp [encodeChars, ih]; omega

end RedemptionWatch.Text.Hex
