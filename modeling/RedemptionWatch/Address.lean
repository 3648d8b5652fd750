import RedemptionWatch.Text.Blank
import RedemptionWatch.Text.Hex

/-!
# Addresses

Canonical spellings of the hexadecimal addresses that configurations and endpoints use: lower case
after `0x`, whatever blanks, prefix and letter case the given text has.
-/

namespace RedemptionWatch.Address

/-- The digits of a hexadecimal text, without the blanks around it and its prefix. -/
def hexDigits (s : String) : List Char :=
  Text.Hex.withoutMarkChars (Text.trimChars s.toList)

/-- Lower-case `cs` after `0x`. -/
def marked (cs : List Char) : String :=
  String.ofList ('0' :: 'x' :: cs.map Char.toLower)

/-- The canonical form of a text of exactly `width` hexadecimal digits. -/
def fixed? (width : Nat) (s : String) : Option String :=
  let ds := hexDigits s
  if ds.length = width ∧ ds.all Text.Hex.isDigit then some (marked ds) else none

/-- The canonical form of a 20-byte account address. -/
def account? (s : String) : Option String :=
  fixed? 40 s

/-- The canonical form of a 4-byte method selector. -/
def selector? (s : String) : Option String :=
  fixed? 8 s

/-- The canonical form of a Move address, a number of up to 64 digits: no leading zeros. -/
def move? (s : String) : Option String :=
  let ds := hexDigits s
  if 1 ≤ ds.length ∧ ds.length ≤ 64 ∧ ds.all Text.Hex.isDigit then
    let significant := ds.dropWhile (· == '0')
    some (marked (if significant = [] then ['0'] else significant))
  else none

end RedemptionWatch.Address
