import RedemptionWatch.Decimal.Shortest
import RedemptionWatch.Json.Basic

/-!
# Writing JSON

`Json.text` writes a value without white space, with characters outside ASCII as they are. Numbers
that are no integers of 64 bits are written as the shortest decimal of their double, in positional
notation from `1e-5` to `1e16`.
-/

namespace RedemptionWatch.Json

/-- A double in decimal notation. -/
def floatText (x : Float) : String :=
  let sign := if x.toBits.toNat < Nat.pow 2 63 then "" else "-"
  if x == 0 then sign ++ "0.0"
  else
    let d := Decimal.shortest x.abs
    let ds := Nat.toDigits 10 d.digits
    let point := (ds.length : Int) + d.exponent
    let zeros (n : Int) : String := String.ofList (List.replicate n.toNat '0')
    let all := String.ofList ds
    let before (n : Nat) := String.ofList (ds.take n)
    let after (n : Nat) := String.ofList (ds.drop n)
    sign ++
      if 0 ≤ d.exponent ∧ point ≤ 16 then all ++ zeros d.exponent ++ ".0"
      else if 0 < point ∧ point ≤ 16 then before point.toNat ++ "." ++ after point.toNat
      else if -5 < point ∧ point ≤ 0 then "0." ++ zeros (-point) ++ all
      else before 1 ++ (if ds.length = 1 then "" else "." ++ after 1) ++ "e" ++ toString (point - 1)

/-- A number: an integer of 64 bits digit for digit, any other as a double. -/
def numberText (n : JsonNumber) : String :=
  match n.int? with
  | some i =>
    if Int64.minValue.toInt ≤ i ∧ i < UInt64.size then toString i else floatText n.toFloat
  | none => floatText n.toFloat

/-- A character inside a string. -/
def escape (c : Char) : String :=
  match c with
  | '"' => "\\\""
  | '\\' => "\\\\"
  | '\n' => "\\n"
  | '\r' => "\\r"
  | '\t' => "\\t"
  | '\x08' => "\\b"
  | '\x0c' => "\\f"
  | c =>
    if c.toNat < 0x20 then
      "\\u00" ++ String.ofList [Nat.digitChar (c.toNat / 16), Nat.digitChar (c.toNat % 16)]
    else c.toString

/-- A string between quotes. -/
def quoted (s : String) : String :=
  s.foldl (fun out c => out ++ escape c) "\"" ++ "\""

mutual

/-- Adds the text of a value to `out`. -/
def write (out : String) : Json → String
  | null => out ++ "null"
  | bool true => out ++ "true"
  | bool false => out ++ "false"
  | number n => out ++ numberText n
  | string s => out ++ quoted s
  | array items => writeItems (out ++ "[") true items ++ "]"
  | object members => writeMembers (out ++ "\x7b") true members ++ "\x7d"

/-- Adds the texts of items with commas between them. -/
def writeItems (out : String) (first : Bool) : List Json → String
  | [] => out
  | x :: rest => writeItems (write (if first then out else out ++ ",") x) false rest

/-- Adds the texts of members with commas between them. -/
def writeMembers (out : String) (first : Bool) : List (String × Json) → String
  | [] => out
  | (key, x) :: rest =>
    writeMembers (write ((if first then out else out ++ ",") ++ quoted key ++ ":") x) false rest

end

/-- The text of a value without white space. -/
def text (j : Json) : String :=
  write "" j

end RedemptionWatch.Json
