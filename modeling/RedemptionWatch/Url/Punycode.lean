/-!
# Punycode

Labels of domain names with characters outside ASCII, written in letters and digits: the ASCII
characters first, then the places and code points of the others as numbers of variable length.
`encode` writes a label, and `decode?` reads one.
-/

namespace RedemptionWatch.Punycode

/-- The digit of a number below 36. -/
def digitChar (n : Nat) : Char :=
  if n < 26 then Char.ofNat ('a'.toNat + n) else Char.ofNat ('0'.toNat + (n - 26))

/-- The bias after a delta of a text that then has `count` characters. -/
def adapt (delta count : Nat) (first : Bool) : Nat :=
  let delta := if first then delta / 700 else delta / 2
  let rec shrink (fuel delta k : Nat) : Nat :=
    match fuel with
    | 0 => k
    | fuel + 1 =>
      if 455 < delta then shrink fuel (delta / 35) (k + 36) else k + 36 * delta / (delta + 38)
  shrink 32 (delta + delta / count) 0

/-- The least digit that is followed by another one, for the digit at `k`. -/
def threshold (bias k : Nat) : Nat :=
  if k ≤ bias then 1 else if bias + 26 ≤ k then 26 else k - bias

/-! ## Writing -/

/-- A number as digits whose weights depend on the bias. -/
def variableLength (bias : Nat) : Nat → Nat → Nat → List Char
  | 0, _, _ => []
  | fuel + 1, q, k =>
    let t := threshold bias k
    if q < t then [digitChar q]
    else digitChar (t + (q - t) % (36 - t)) ::
      variableLength bias fuel ((q - t) / (36 - t)) (k + 36)

/-- Where the encoding of a label stands. -/
structure State where
  delta : Nat
  bias : Nat
  handled : Nat
  output : List Char

/-- Goes through the label for the occurrences of one code point. -/
def occurrences (basic n : Nat) (s : State) : List Nat → State
  | [] => s
  | c :: rest =>
    let s :=
      if c < n then { s with delta := s.delta + 1 }
      else if c = n then {
        delta := 0
        bias := adapt s.delta (s.handled + 1) (s.handled = basic)
        handled := s.handled + 1
        output := s.output ++ variableLength s.bias 32 s.delta 36 }
      else s
    occurrences basic n s rest

/-- Encodes the code points from `n` on. -/
def codePoints (label : List Nat) (basic : Nat) : Nat → Nat → State → State
  | 0, _, s => s
  | fuel + 1, n, s =>
    match (label.filter (n ≤ ·)).min? with
    | none => s
    | some m =>
      let s := { s with delta := s.delta + (m - n) * (s.handled + 1) }
      let s := occurrences basic m s label
      codePoints label basic fuel (m + 1) { s with delta := s.delta + 1 }

/-- The written form of a label. -/
def encode (label : List Char) : List Char :=
  let ascii := label.filter fun c => c.toNat < 128
  let start : List Char := if ascii = [] then [] else ascii ++ ['-']
  (codePoints (label.map Char.toNat) ascii.length label.length 128
    ⟨0, 72, ascii.length, start⟩).output

/-! ## Reading -/

/-- The number of a digit, in either letter case. -/
def digit? (c : Char) : Option Nat :=
  if c.isDigit then some (c.toNat - '0'.toNat + 26)
  else if c.isAlpha then some (c.toLower.toNat - 'a'.toNat)
  else none

/-- Numbers have at most 32 bits. -/
def bounded (n : Nat) : Option Nat :=
  if n < UInt32.size then some n else none

/-- Reads one number and adds it to `n`; the digit at `k` has the given weight. -/
def number? (bias : Nat) : Nat → Nat → Nat → List Char → Option (Nat × List Char)
  | _, _, _, [] => none
  | k, weight, n, c :: rest => do
    let d ← digit? c
    let n ← bounded (n + (← bounded (d * weight)))
    let t := threshold bias k
    if d < t then return (n, rest)
    number? bias (k + 36) (← bounded (weight * (36 - t))) n rest

/-- Is this the number of a character? -/
def isCodePoint (n : Nat) : Bool :=
  n < 0xD800 || (0xDFFF < n && n < 0x110000)

/-- Reads the characters outside ASCII into a label. Of `n` and `i`, `n` is the last code point that
was read and `i` the place after it. Each character takes at least one digit, so that there are at
most as many as there are digits at first. -/
def insertions? : Nat → Nat → Nat → Nat → List Char → List Char → Option (List Char)
  | _, _, _, _, label, [] => some label
  | 0, _, _, _, _, _ :: _ => none
  | fuel + 1, bias, n, i, label, digits => do
    let (j, rest) ← number? bias 36 1 i digits
    let size := label.length + 1
    let n := n + j / size
    if isCodePoint n then
      insertions? fuel (adapt (j - i) size (i = 0)) n (j % size + 1)
        (label.insertIdx (j % size) (Char.ofNat n)) rest
    else none

/-- The label with a written form, its ASCII characters in lower case. -/
def decode? (cs : List Char) : Option (List Char) :=
  let digits := (cs.reverse.takeWhile (· ≠ '-')).reverse
  let ascii := (cs.take (cs.length - digits.length - 1)).map Char.toLower
  if digits.length < cs.length ∧ ascii = [] then none
  else insertions? digits.length 72 128 0 ascii digits

end RedemptionWatch.Punycode
