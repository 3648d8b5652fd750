import RedemptionWatch.Text.Hex
import RedemptionWatch.Url.DomainName
import RedemptionWatch.Url.Percent

/-!
# Hosts

The hosts of URLs: domain names in ASCII, IPv4 addresses as four decimal numbers however they were
written, and IPv6 addresses in brackets with the longest run of zeros left out.
-/

namespace RedemptionWatch

/-- Why a text is no URL. -/
inductive UrlError where
  | emptyHost
  /-- The host is no domain name. -/
  | invalidName
  | invalidPort
  | invalidIpv4
  | invalidIpv6
  /-- A host that is kept as it is has a character that may not stand there. -/
  | invalidCharacter
  /-- A reference has nothing to be relative to. -/
  | noBase
  /-- The base of a reference has no path of segments. -/
  | plainBase
  deriving DecidableEq, Repr

/-- The text of an error. -/
def UrlError.message : UrlError → String
  | emptyHost => "empty host"
  | invalidName => "invalid international domain name"
  | invalidPort => "invalid port number"
  | invalidIpv4 => "invalid IPv4 address"
  | invalidIpv6 => "invalid IPv6 address"
  | invalidCharacter => "invalid domain character"
  | noBase => "relative URL without a base"
  | plainBase => "relative URL with a cannot-be-a-base base"

/-- The host of a URL. -/
inductive Host where
  /-- A name; the empty one is a host too. -/
  | domain (name : String)
  | ipv4 (address : Nat)
  /-- Eight numbers of 16 bits. -/
  | ipv6 (pieces : List Nat)
  deriving DecidableEq, Repr

namespace Host

/-! ## IPv4 -/

/-- A part of an IPv4 address: decimal, octal after `0`, hexadecimal after `0x`. -/
def ipv4Number? (part : List Char) : Option Nat :=
  match part with
  | [] => none
  | '0' :: 'x' :: rest => Text.Numeral.digitsFrom? 16 0 rest
  | '0' :: 'X' :: rest => Text.Numeral.digitsFrom? 16 0 rest
  | '0' :: c :: rest => Text.Numeral.digitsFrom? 8 0 (c :: rest)
  | _ => Text.Numeral.digitsFrom? 10 0 part

/-- The parts of a name without an empty last one. -/
def partsOf (cs : List Char) : List (List Char) :=
  let parts := cs.splitOn '.'
  if parts.getLast? = some [] then parts.dropLast else parts

/-- Is a name to be read as an IPv4 address? -/
def endsInNumber (cs : List Char) : Bool :=
  match (partsOf cs).getLast? with
  | some last => last ≠ [] && (last.all Char.isDigit || (ipv4Number? last).isSome)
  | none => false

/-- The IPv4 address that a name denotes: all parts but the last are bytes, the last one holds what
is left. -/
def ipv4? (cs : List Char) : Option Nat := do
  let parts := partsOf cs
  guard (1 ≤ parts.length ∧ parts.length ≤ 4)
  let numbers ← parts.mapM ipv4Number?
  let last ← numbers.getLast?
  let bytes := numbers.dropLast
  guard (bytes.all (· ≤ 255) ∧ last < Nat.pow 256 (4 - bytes.length))
  return bytes.zipIdx.foldl (fun n (b, i) => n + b * Nat.pow 256 (3 - i)) last

/-- Four decimal numbers. -/
def ipv4Text (n : Nat) : List Char :=
  ['.'].intercalate ([n / 16777216, n / 65536 % 256, n / 256 % 256, n % 256].map
    Text.Numeral.decimal)

/-! ## IPv6 -/

/-- Up to four hexadecimal digits. -/
def piece? (cs : List Char) : Option Nat :=
  if cs.length ≤ 4 then Text.Numeral.digits? 16 cs else none

/-- A byte in decimal, without leading zeros. -/
def decimalByte? (cs : List Char) : Option Nat := do
  guard (cs.length = 1 ∨ cs.head? ≠ some '0')
  let n ← Text.Numeral.digits? 10 cs
  guard (n ≤ 255)
  return n

/-- Pieces with `:` between them; the last two may be written as an IPv4 address. -/
def pieces? : List (List Char) → Option (List Nat)
  | [] => some []
  | [last] =>
    match (last.splitOn '.').mapM decimalByte? with
    | some [a, b, c, d] => some [a * 256 + b, c * 256 + d]
    | _ => (piece? last).map ([·])
  | part :: rest => do
    let p ← piece? part
    let ps ← pieces? rest
    return p :: ps

/-- Pieces on one side of the gap; there may be none. -/
def side? (cs : List Char) : Option (List Nat) :=
  if cs = [] then some [] else pieces? (cs.splitOn ':')

/-- The text before the first `::` and the text after it. -/
def gap? : List Char → Option (List Char × List Char)
  | ':' :: ':' :: rest => some ([], rest)
  | c :: rest => (gap? rest).map fun (a, b) => (c :: a, b)
  | [] => none

/-- An IPv6 address without its brackets: eight pieces, or fewer around one `::`. -/
def ipv6? (cs : List Char) : Option (List Nat) :=
  match gap? cs with
  | some (before, after) => do
    guard (¬before.contains '.')
    let a ← side? before
    let b ← side? after
    guard (a.length + b.length ≤ 7)
    return a ++ List.replicate (8 - a.length - b.length) 0 ++ b
  | none => do
    let ps ← pieces? (cs.splitOn ':')
    guard (ps.length = 8)
    return ps

/-- The number of zeros at the front. -/
def zeros (ps : List Nat) : Nat := (ps.takeWhile (· == 0)).length

/-- The place and length of the first longest run of zeros. -/
def longestZeros (ps : List Nat) : Nat × Nat :=
  (List.range ps.length).foldl (fun best i =>
    let n := zeros (ps.drop i)
    if best.2 < n then (i, n) else best) (0, 0)

/-- Pieces in hexadecimal with `:` between them. -/
def piecesText (ps : List Nat) : List Char :=
  [':'].intercalate (ps.map (Nat.toDigits 16))

/-- An IPv6 address in brackets. -/
def ipv6Text (ps : List Nat) : List Char :=
  let (start, length) := longestZeros ps
  let inner :=
    if 2 ≤ length then
      piecesText (ps.take start) ++ ':' :: ':' :: piecesText (ps.drop (start + length))
    else piecesText ps
  '[' :: (inner ++ [']'])

/-! ## Names -/

/-- Characters that may not stand in a host that is kept as it is. -/
def isForbidden (c : Char) : Bool :=
  "\x00\t\n\r #/:<>?@[\\]^|".toList.contains c

/-- An IPv6 address after its opening bracket. -/
def bracketed (cs : List Char) : Except UrlError Host :=
  if cs.getLast? = some ']' then
    match ipv6? cs.dropLast with
    | some pieces => .ok (ipv6 pieces)
    | none => .error .invalidIpv6
  else .error .invalidIpv6

/-- A domain name, or the IPv4 address that it denotes if it ends in a number. -/
def ofName (cs : List Char) : Except UrlError Host :=
  match DomainName.ofChars? cs with
  | none => .error .invalidName
  | some [] => .error .emptyHost
  | some name =>
    if endsInNumber name then
      match ipv4? name with
      | some address => .ok (ipv4 address)
      | none => .error .invalidIpv4
    else .ok (domain (String.ofList name))

/-- The host in a special URL. Its bytes may be percent-encoded. -/
def ofSpecial (cs : List Char) : Except UrlError Host :=
  match cs with
  | [] => .error .emptyHost
  | '[' :: rest => bracketed rest
  | _ =>
    match Octets.text? (Percent.decode (Octets.ofText (String.ofList cs))) with
    | none => .error .invalidName
    | some decoded => ofName decoded.toList

/-- The host in any other URL. -/
def ofGeneric (cs : List Char) : Except UrlError Host :=
  match cs with
  | '[' :: rest => bracketed rest
  | _ =>
    if cs.any isForbidden then .error .invalidCharacter
    else .ok (domain (String.ofList (Percent.encode Percent.isControl cs)))

/-- The host as it stands in a URL. -/
def text : Host → List Char
  | domain name => name.toList
  | ipv4 address => ipv4Text address
  | ipv6 pieces => ipv6Text pieces

end Host

end RedemptionWatch
