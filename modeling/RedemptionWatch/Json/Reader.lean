import RedemptionWatch.Json.Basic
import RedemptionWatch.Text.Numeral

/-!
# Reading JSON

`Json.ofText?` reads a text as one JSON value: at most 127 arrays and objects inside each other, no
number beyond the range of a double, no escape that stands for half a surrogate pair.

The functions it is made of read from the front of a list of characters and return what follows, so
that other readers can stop in the middle of a value.
-/

namespace RedemptionWatch.Json.Reader

/-- How much a reader checks. Members that nobody asks for are skipped under `shape` alone: neither
depth nor range of numbers matters, nor whether the halves of surrogate pairs come together. -/
inductive Rigor where
  | shape
  | full
  deriving DecidableEq, Repr

/-- How many arrays and objects may stand inside each other. -/
def maxDepth : Nat := 127

/-- White space between tokens. -/
def isSpace (c : Char) : Bool :=
  c = ' ' || c = '\n' || c = '\t' || c = '\r'

/-- `cs` from its first character that is no white space. -/
def skipSpace (cs : List Char) : List Char :=
  cs.dropWhile isSpace

/-- `cs` after a word that it must start with. -/
def word? (w cs : List Char) : Option (List Char) :=
  if w.isPrefixOf cs then some (cs.drop w.length) else none

/-! ## Strings -/

/-- The number of four hexadecimal digits. -/
def unit? (a b c d : Char) : Option Nat :=
  (Text.Numeral.digits? 16 [a, b, c, d])

/-- The character of an escape of one letter. -/
def escaped? (c : Char) : Option Char :=
  match c with
  | '"' => some '"'
  | '\\' => some '\\'
  | '/' => some '/'
  | 'b' => some '\x08'
  | 'f' => some '\x0c'
  | 'n' => some '\n'
  | 'r' => some '\r'
  | 't' => some '\t'
  | _ => none

/-- The characters up to the closing quote, and what follows it. -/
def stringRest? : List Char → Option (List Char × List Char)
  | [] => none
  | '"' :: rest => some ([], rest)
  | '\\' :: 'u' :: a :: b :: c :: d :: rest =>
    match unit? a b c d with
    | none => none
    | some u =>
      if 0xD800 ≤ u ∧ u < 0xDC00 then
        match rest with
        | '\\' :: 'u' :: e :: f :: g :: h :: rest =>
          match unit? e f g h with
          | none => none
          | some v =>
            if 0xDC00 ≤ v ∧ v < 0xE000 then
              (stringRest? rest).map fun (cs, rest) =>
                (Char.ofNat (0x10000 + (u - 0xD800) * 0x400 + (v - 0xDC00)) :: cs, rest)
            else none
        | _ => none
      else if 0xDC00 ≤ u ∧ u < 0xE000 then none
      else (stringRest? rest).map fun (cs, rest) => (Char.ofNat u :: cs, rest)
  | '\\' :: c :: rest =>
    match escaped? c with
    | none => none
    | some e => (stringRest? rest).map fun (cs, rest) => (e :: cs, rest)
  | c :: rest =>
    if c.toNat < 0x20 ∨ c = '\\' then none
    else (stringRest? rest).map fun (cs, rest) => (c :: cs, rest)

/-- What follows an opening quote. -/
def opened? : List Char → Option (List Char)
  | '"' :: rest => some rest
  | _ => none

/-- A string, its opening quote included. -/
def string? (cs : List Char) : Option (String × List Char) :=
  (opened? cs).bind fun cs => (stringRest? cs).map fun (s, rest) => (String.ofList s, rest)

/-- What follows the closing quote of a string that nobody asks for. -/
def skipString? : List Char → Option (List Char)
  | [] => none
  | '"' :: rest => some rest
  | '\\' :: 'u' :: a :: b :: c :: d :: rest =>
    match unit? a b c d with
    | none => none
    | some _ => skipString? rest
  | '\\' :: c :: rest =>
    match escaped? c with
    | none => none
    | some _ => skipString? rest
  | c :: rest => if c.toNat < 0x20 ∨ c = '\\' then none else skipString? rest

/-- A string after its opening quote. Under `shape` one that cannot be read is empty. -/
def stringUnder? (rigor : Rigor) (cs : List Char) : Option (String × List Char) :=
  match stringRest? cs, rigor with
  | some (s, rest), _ => some (String.ofList s, rest)
  | none, .shape => (skipString? cs).map fun rest => ("", rest)
  | none, .full => none

/-! ## Numbers -/

/-- A row of digits and what follows it. -/
def digits (cs : List Char) : List Char × List Char :=
  (cs.takeWhile Char.isDigit, cs.dropWhile Char.isDigit)

/-- The value of a row of digits. -/
def digitsValue (ds : List Char) : Nat :=
  ds.foldl (fun n d => n * 10 + (d.toNat - '0'.toNat)) 0

/-- A fraction, if there is one. -/
def fraction? : List Char → Option (List Char × List Char)
  | '.' :: rest =>
    let (ds, rest) := digits rest
    if ds = [] then none else some (ds, rest)
  | cs => some ([], cs)

/-- An exponent, if there is one. -/
def exponent? (cs : List Char) : Option (Option Int × List Char) :=
  match cs with
  | e :: rest =>
    if e = 'e' ∨ e = 'E' then
      let (negative, rest) := match rest with
        | '-' :: rest => (true, rest)
        | '+' :: rest => (false, rest)
        | _ => (false, rest)
      let (ds, rest) := digits rest
      if ds = [] then none
      else
        let n : Int := digitsValue ds
        some (some (if negative then -n else n), rest)
    else some (none, cs)
  | [] => some (none, [])

/-- A number of any size. -/
def number? (cs : List Char) : Option (JsonNumber × List Char) := do
  let (negative, cs) := match cs with
    | '-' :: rest => (true, rest)
    | _ => (false, cs)
  let (whole, cs) := digits cs
  guard (whole ≠ [] ∧ (whole.head? = some '0' → whole.length = 1))
  let (fraction, cs) ← fraction? cs
  let (exponent, cs) ← exponent? cs
  return ({
    negative
    digits := digitsValue (whole ++ fraction)
    exponent := exponent.getD 0 - fraction.length
    integral := fraction = [] ∧ exponent = none }, cs)

/-! ## Values -/

mutual

/-- A value after optional white space. `fuel` bounds the number of characters that are read. -/
def value? (rigor : Rigor) : Nat → Nat → List Char → Option (Json × List Char)
  | 0, _, _ => none
  | fuel + 1, depth, cs =>
    match skipSpace cs with
    | 'n' :: rest => (word? ['u', 'l', 'l'] rest).map fun rest => (.null, rest)
    | 't' :: rest => (word? ['r', 'u', 'e'] rest).map fun rest => (.bool true, rest)
    | 'f' :: rest => (word? ['a', 'l', 's', 'e'] rest).map fun rest => (.bool false, rest)
    | '"' :: rest => (stringUnder? rigor rest).map fun (s, rest) => (.string s, rest)
    | '[' :: rest =>
      if depth = 0 ∧ rigor = .full then none
      else match skipSpace rest with
        | ']' :: rest => some (.array [], rest)
        | rest => (items? rigor fuel (depth - 1) rest).map fun (xs, rest) => (.array xs, rest)
    | '{' :: rest =>
      if depth = 0 ∧ rigor = .full then none
      else match skipSpace rest with
        | '}' :: rest => some (.object [], rest)
        | rest => (members? rigor fuel (depth - 1) rest).map fun (ms, rest) => (.object ms, rest)
    | rest =>
      match number? rest with
      | some (n, rest) => if rigor = .full ∧ ¬n.isFinite then none else some (.number n, rest)
      | none => none

/-- The items of an array from its first one to the closing bracket. -/
def items? (rigor : Rigor) : Nat → Nat → List Char → Option (List Json × List Char)
  | 0, _, _ => none
  | fuel + 1, depth, cs =>
    match value? rigor fuel depth cs with
    | none => none
    | some (x, rest) =>
      match skipSpace rest with
      | ',' :: rest => (items? rigor fuel depth rest).map fun (xs, rest) => (x :: xs, rest)
      | ']' :: rest => some ([x], rest)
      | _ => none

/-- The members of an object from its first one to the closing brace. -/
def members? (rigor : Rigor) : Nat → Nat → List Char → Option (List (String × Json) × List Char)
  | 0, _, _ => none
  | fuel + 1, depth, cs =>
    match opened? (skipSpace cs) with
    | none => none
    | some cs =>
    match stringUnder? rigor cs with
    | none => none
    | some (key, rest) =>
      match skipSpace rest with
      | ':' :: rest =>
        match value? rigor fuel depth rest with
        | none => none
        | some (x, rest) =>
          match skipSpace rest with
          | ',' :: rest =>
            (members? rigor fuel depth rest).map fun (ms, rest) => ((key, x) :: ms, rest)
          | '}' :: rest => some ([(key, x)], rest)
          | _ => none
      | _ => none

end

/-- A value at the front of `cs` inside `depth` levels that are already open, and what follows. -/
def valueAt? (rigor : Rigor) (open_ : Nat) (cs : List Char) : Option (Json × List Char) :=
  value? rigor (2 * cs.length + 2) (maxDepth - open_) cs

end RedemptionWatch.Json.Reader

namespace RedemptionWatch.Json

/-- The value that a text holds, with white space around it. -/
def ofText? (s : String) : Option Json :=
  match Reader.valueAt? .full 0 s.toList with
  | some (value, rest) => if Reader.skipSpace rest = [] then some value else none
  | none => none

end RedemptionWatch.Json
