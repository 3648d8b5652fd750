import RedemptionWatch.Json.Basic
import RedemptionWatch.Text.Blank
import RedemptionWatch.Text.Numeral

/-!
# Decimal text as doubles

A number in decimal is a sign, digits with at most one point among them or at either end, and an
exponent; or one of the words for infinity and for no number at all. There is at least one digit.
-/

namespace RedemptionWatch.Text.Real

/-- The double of a number, infinite if it is too large. -/
def finite (n : JsonNumber) : Float :=
  if n.isFinite then n.toFloat
  else if n.negative then -(1 / 0) else 1 / 0

/-- An exponent after `e`, 0 if there is none. -/
def exponent? (cs : List Char) : Option Int :=
  match cs with
  | [] => some 0
  | e :: rest =>
    if e = 'e' ∨ e = 'E' then
      match rest with
      | '-' :: ds => (Numeral.digits? 10 ds).map fun n => -(n : Int)
      | '+' :: ds => (Numeral.digits? 10 ds).map fun n => (n : Int)
      | ds => (Numeral.digits? 10 ds).map fun n => (n : Int)
    else none

/-- A number without its sign. -/
def magnitude? (negative : Bool) (cs : List Char) : Option Float := do
  let whole := cs.takeWhile Char.isDigit
  let rest := cs.dropWhile Char.isDigit
  let (fraction, rest) := match rest with
    | '.' :: rest => (rest.takeWhile Char.isDigit, rest.dropWhile Char.isDigit)
    | _ => ([], rest)
  let digits ← Numeral.digits? 10 (whole ++ fraction)
  let exponent ← exponent? rest
  return finite { negative, digits, exponent := exponent - fraction.length, integral := false }

/-- The double that a text denotes. -/
def parse? (s : String) : Option Float :=
  let (negative, cs) := match s.toList with
    | '-' :: rest => (true, rest)
    | '+' :: rest => (false, rest)
    | cs => (false, cs)
  let sign : Float := if negative then -1 else 1
  match asciiLower (String.ofList cs) with
  | "inf" => some (sign * (1 / 0))
  | "infinity" => some (sign * (1 / 0))
  | "nan" => some (0 / 0)
  | _ => magnitude? negative cs

end RedemptionWatch.Text.Real
