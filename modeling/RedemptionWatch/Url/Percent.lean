import RedemptionWatch.Octets
import RedemptionWatch.Text.Numeral

/-!
# Percent encoding

The bytes of a text that may not stand in a part of a URL are written as `%` and two upper-case
hexadecimal digits. Which bytes these are depends on the part.
-/

namespace RedemptionWatch.Percent

/-- Is the byte one of these ASCII characters? -/
def isOneOf (cs : String) (b : UInt8) : Bool :=
  cs.toList.any fun c => c.toNat = b.toNat

/-- Controls and everything outside ASCII. -/
def isControl (b : UInt8) : Bool :=
  b < 0x20 || 0x7E < b

/-- What is encoded in a fragment. -/
def inFragment (b : UInt8) : Bool :=
  isControl b || isOneOf " \"<>\x60" b

/-- What is encoded in a query. -/
def inQuery (b : UInt8) : Bool :=
  isControl b || isOneOf " \"#<>" b

/-- What is encoded in the query of a special URL. -/
def inSpecialQuery (b : UInt8) : Bool :=
  inQuery b || isOneOf "'" b

/-- What is encoded in a path. -/
def inPath (b : UInt8) : Bool :=
  inFragment b || isOneOf "#?\x7b\x7d" b

/-- What is encoded in a user name or a password. -/
def inUserInfo (b : UInt8) : Bool :=
  inPath b || isOneOf "/:;=@[\\]^|" b

/-- An upper-case hexadecimal digit. -/
def digitChar (n : Nat) : Char :=
  if n < 10 then Char.ofNat ('0'.toNat + n) else Char.ofNat ('A'.toNat + (n - 10))

/-- A byte as `%` and two digits. -/
def byte (b : UInt8) : List Char :=
  ['%', digitChar (b.toNat / 16), digitChar (b.toNat % 16)]

/-- A text with some of its bytes encoded, among them all outside ASCII. -/
def encode (isEncoded : UInt8 → Bool) (cs : List Char) : List Char :=
  cs.flatMap fun c => (String.utf8EncodeChar c).flatMap fun b =>
    if isEncoded b then byte b else [Char.ofNat b.toNat]

/-- The bytes that a text stands for. A `%` without two digits after it stands for itself. -/
def decode : List UInt8 → List UInt8
  | 0x25 :: h :: l :: rest =>
    match Text.Numeral.digit? (Char.ofNat h.toNat), Text.Numeral.digit? (Char.ofNat l.toNat) with
    | some a, some b => UInt8.ofNat (a * 16 + b) :: decode rest
    | _, _ => 0x25 :: decode (h :: l :: rest)
  | b :: rest => b :: decode rest
  | [] => []

/-! ## Forms -/

/-- A name or a value of a form: letters, digits and `*-._` stay, a space becomes `+`. -/
def formText (s : String) : List Char :=
  (Octets.ofText s).flatMap fun b =>
    let c := Char.ofNat b.toNat
    if b < 0x80 && (c.isAlphanum || "*-._".toList.contains c) then [c]
    else if c = ' ' then ['+']
    else byte b

/-- The pairs of a form with `&` between them. -/
def form (pairs : List (String × String)) : String :=
  String.ofList (['&'].intercalate (pairs.map fun (k, v) => formText k ++ '=' :: formText v))

/-- The text of a name or a value of a form. -/
def readFormText (cs : List Char) : String :=
  let spaced := cs.map fun c => if c = '+' then ' ' else c
  (Octets.text? (decode (Octets.ofText (String.ofList spaced)))).getD "\uFFFD"

/-- The pairs of a form. A name without `=` has an empty value, and nothing between two `&` is no
pair. -/
def readForm (cs : List Char) : List (String × String) :=
  ((cs.splitOn '&').filter (· ≠ [])).map fun pair =>
    (readFormText (pair.takeWhile (· ≠ '=')), readFormText ((pair.dropWhile (· ≠ '=')).drop 1))

end RedemptionWatch.Percent
