import RedemptionWatch.Text.Numeral

/-!
# Ranges of code points

Character properties are kept as lines of text: ranges in hexadecimal, `300-36F` or `5BF` alone,
with one space between two of them. Where a property has values, the value of a range follows it
after a sign. All tables of this library are those of Unicode 17.
-/

namespace RedemptionWatch.Text

/-- The code points from `first` to `last`. -/
structure CodeRange where
  first : Nat
  last : Nat
  deriving DecidableEq, Repr

namespace CodeRange

/-- Does the range hold the character? -/
def contains (r : CodeRange) (c : Char) : Bool :=
  r.first ≤ c.toNat && c.toNat ≤ r.last

/-- A range as it is written. -/
def ofChars? (cs : List Char) : Option CodeRange :=
  match cs.splitOn '-' with
  | [a] => (Numeral.digits? 16 a).map fun n => ⟨n, n⟩
  | [a, b] => (Numeral.digits? 16 a).bind fun m => (Numeral.digits? 16 b).map fun n => ⟨m, n⟩
  | _ => none

/-- What the words of some lines say. -/
def words {α : Type} (word? : List Char → Option α) (lines : List String) : List α :=
  lines.flatMap fun line => (line.toList.splitOn ' ').filterMap word?

/-- The ranges of a table. -/
def table (lines : List String) : List CodeRange :=
  words ofChars? lines

/-- A range with what follows it after a sign. -/
def withValue? {α : Type} (value? : List Char → Option α) (sign : Char) (cs : List Char) :
    Option (CodeRange × α) :=
  (ofChars? (cs.takeWhile (· ≠ sign))).bind fun r =>
    (value? ((cs.dropWhile (· ≠ sign)).drop 1)).map fun v => (r, v)

/-- The ranges of a table with the values after `:`. -/
def tableOf {α : Type} (value? : List Char → Option α) (lines : List String) :
    List (CodeRange × α) :=
  words (withValue? value? ':') lines

/-- Does a range of the table hold the character? -/
def holds (t : List CodeRange) (c : Char) : Bool :=
  t.any (·.contains c)

/-- The value of the range that holds the character. -/
def value? {α : Type} (t : List (CodeRange × α)) (c : Char) : Option α :=
  (t.find? (·.1.contains c)).map (·.2)

end CodeRange

end RedemptionWatch.Text
