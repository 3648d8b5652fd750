/-!
# JSON values

A JSON value keeps its object members in the order and number in which they were written.
`Json.canonical` sorts them by key and keeps the last of each key, which is how a value is compared
and printed.
-/

namespace RedemptionWatch

/-- A number as it is written: `digits · 10 ^ exponent` with a sign. It is `integral` if it has
neither a fraction nor an exponent. -/
structure JsonNumber where
  negative : Bool
  digits : Nat
  exponent : Int
  integral : Bool
  deriving DecidableEq, Repr, Inhabited

/-- A JSON value. -/
inductive Json where
  | null
  | bool (value : Bool)
  | number (value : JsonNumber)
  | string (value : String)
  | array (items : List Json)
  | object (members : List (String × Json))
  deriving Repr, Inhabited, BEq

namespace JsonNumber

/-- The number `n`. -/
def ofNat (n : Nat) : JsonNumber := ⟨false, n, 0, true⟩

/-- The number `i`. -/
def ofInt (i : Int) : JsonNumber := ⟨i < 0, i.natAbs, 0, true⟩

/-- The natural number that is written, if it is one: no sign, no fraction, no exponent. -/
def nat? (n : JsonNumber) : Option Nat :=
  if n.integral ∧ ¬n.negative then some n.digits else none

/-- The integer that is written. A negative zero is none. -/
def int? (n : JsonNumber) : Option Int :=
  if n.integral then
    if n.negative then (if n.digits = 0 then none else some (-n.digits)) else some n.digits
  else none

/-- The number of decimal digits of `n`. -/
def width (n : Nat) : Nat := (Nat.toDigits 10 n).length

/-- Numbers from here on round to infinity. -/
def overflow : Nat := Nat.pow 2 1024 - Nat.pow 2 970

/-- Does the number round to a finite double? -/
def isFinite (n : JsonNumber) : Bool :=
  if n.digits = 0 then true
  else if (width n.digits : Int) + n.exponent > 310 then false
  else if 0 ≤ n.exponent then n.digits * Nat.pow 10 n.exponent.toNat < overflow
  else if (width n.digits : Int) + n.exponent ≤ 300 then true
  else n.digits < overflow * Nat.pow 10 n.exponent.natAbs

/-- The double that is nearest to the number. -/
def toFloat (n : JsonNumber) : Float :=
  let magnitude : Float :=
    if n.digits = 0 ∨ (width n.digits : Int) + n.exponent < -400 then 0
    else Float.ofScientific n.digits (n.exponent < 0) n.exponent.natAbs
  if n.negative then -magnitude else magnitude

end JsonNumber

namespace Json

/-- The number `n` as a value. -/
def ofNat (n : Nat) : Json := number (.ofNat n)

/-- The number `n` as a value. -/
def ofUInt64 (n : UInt64) : Json := ofNat n.toNat

/-- The value of the last member with this key. -/
def get? (key : String) : Json → Option Json
  | object members => (members.reverse.find? (·.1 = key)).map (·.2)
  | _ => none

/-- The text of a string. -/
def string? : Json → Option String
  | string s => some s
  | _ => none

/-- The items of an array. -/
def items? : Json → Option (List Json)
  | array xs => some xs
  | _ => none

/-- Puts a member into a list that is sorted by key, in place of one with the same key. -/
def insertMember (key : String) (value : Json) : List (String × Json) → List (String × Json)
  | [] => [(key, value)]
  | (k, v) :: rest =>
    if key < k then (key, value) :: (k, v) :: rest
    else if key = k then (key, value) :: rest
    else (k, v) :: insertMember key value rest

mutual

/-- The value with its members sorted by key and only the last one of every key. -/
def canonical : Json → Json
  | array items => array (canonicalItems items)
  | object members => object (canonicalMembers members [])
  | value => value

/-- `canonical` on every item. -/
def canonicalItems : List Json → List Json
  | [] => []
  | x :: rest => canonical x :: canonicalItems rest

/-- Adds the canonical members of a list to a sorted list. -/
def canonicalMembers : List (String × Json) → List (String × Json) → List (String × Json)
  | [], sorted => sorted
  | (key, value) :: rest, sorted =>
    canonicalMembers rest (insertMember key (canonical value) sorted)

end

end Json

end RedemptionWatch
