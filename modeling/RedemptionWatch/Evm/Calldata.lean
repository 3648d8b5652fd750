import RedemptionWatch.Vaa

/-!
# Calldata

The input of a redeeming call is a method selector of four bytes and one argument of type `bytes`,
which is the attestation. The argument is written as its offset, and there as its length and its
bytes; all words have 32 bytes and offsets count from the end of the selector.
-/

namespace RedemptionWatch.Evm

/-- Why calldata holds no attestation. -/
inductive CalldataError where
  | invalidHex
  /-- There is not even room for the selector, an offset and a length. -/
  | tooShort (length : Nat)
  /-- The offset or the length leads out of the calldata. -/
  | outOfBounds
  | vaa (reason : VaaError)
  deriving DecidableEq, Repr

/-- The text of an error. -/
def CalldataError.message : CalldataError → String
  | invalidHex => "invalid hex calldata"
  | tooShort length => "calldata too short (" ++ toString length ++ " bytes)"
  | outOfBounds => "bytes argument out of bounds"
  | vaa reason => reason.message

namespace Calldata

/-- The number of bytes of a selector. -/
def selectorSize : Nat := 4

/-- The number of bytes of a word. -/
def wordSize : Nat := 32

/-- `length` bytes from `offset` on, if there are so many. -/
def slice? (bs : List UInt8) (offset length : Nat) : Option (List UInt8) :=
  if offset + length ≤ bs.length then some ((bs.drop offset).take length) else none

/-- The word at `offset`, if there is one and it is below `2 ^ 64`. -/
def word? (bs : List UInt8) (offset : Nat) : Option Nat := do
  let word ← slice? bs offset wordSize
  guard ((word.take 24).all (· == 0))
  return Octets.ofBigEndian (word.drop 24)

/-- The argument of type `bytes` after the selector. -/
def argument? (arguments : List UInt8) : Option (List UInt8) := do
  let offset ← word? arguments 0
  let length ← word? arguments offset
  slice? arguments (offset + wordSize) length

/-- The attestation that calldata carry. -/
def vaa (data : List UInt8) : Except CalldataError SignedVaa :=
  if data.length < selectorSize + wordSize + wordSize then .error (.tooShort data.length)
  else match argument? (data.drop selectorSize) with
    | none => .error .outOfBounds
    | some bs =>
      match SignedVaa.parse bs with
      | .ok v => .ok v
      | .error reason => .error (.vaa reason)

/-- The attestation that the input of a call carries. -/
def vaaOfText (input : String) : Except CalldataError SignedVaa :=
  match Text.Hex.decode input with
  | .ok data => vaa data
  | .error _ => .error .invalidHex

end Calldata

end RedemptionWatch.Evm
