import RedemptionWatch.Text.Printable

/-!
# Quoted text

A text between quotes with the characters that would not show written as escapes: `\n`, `\r`, `\t`,
`\0`, `\\`, the quote itself, and `\u` with the code point in braces for everything else that is
unprintable or would join the character before it.
-/

namespace RedemptionWatch.Text.Quoted

/-- The code point of `c` in hexadecimal between braces. -/
def codePoint (c : Char) : List Char :=
  '\\' :: 'u' :: '\x7b' :: (Nat.toDigits 16 c.toNat ++ ['\x7d'])

/-- One character inside quotes of the given kind. -/
def escape (quote c : Char) : List Char :=
  if c = '\x00' then ['\\', '0']
  else if c = '\t' then ['\\', 't']
  else if c = '\r' then ['\\', 'r']
  else if c = '\n' then ['\\', 'n']
  else if c = '\\' ∨ c = quote then ['\\', c]
  else if isExtender c ∨ ¬isPrintable c then codePoint c
  else [c]

/-- A text between double quotes. -/
def text (s : String) : String :=
  String.ofList ('"' :: (s.toList.flatMap (escape '"') ++ ['"']))

/-- A character between single quotes. -/
def character (c : Char) : String :=
  String.ofList ('\'' :: (escape '\'' c ++ ['\'']))

end RedemptionWatch.Text.Quoted
