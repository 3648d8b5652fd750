import RedemptionWatch.Json.Basic
import RedemptionWatch.Table

/-!
# Records in JSON

A record is written as an object with its fields by name, or as an array with its fields in order.
Unknown names are ignored, a known name may stand there once, and trailing items of the array form
may be left out if their fields have a default. Types are strict: no value is converted, and `null`
is a value of optional fields only.
-/

namespace RedemptionWatch.Json

/-- A field of a record: its name, and whether the array form may end before it. -/
structure Field where
  name : String
  hasDefault : Bool
  deriving DecidableEq, Repr

/-- A field that has to be there. -/
def Field.required (name : String) : Field := ⟨name, false⟩

/-- A field that may be left out. -/
def Field.defaulted (name : String) : Field := ⟨name, true⟩

/-- Does a key stand more than once in `members`? -/
def repeats (members : List (String × Json)) (key : String) : Bool :=
  1 < (members.filter (·.1 = key)).length

/-- The values of the fields in order, `none` for those that are left out. -/
def fields? (fields : List Field) : Json → Option (List (Option Json))
  | object members =>
    if fields.any (fun f => repeats members f.name) then none
    else some (fields.map fun f => (members.find? (·.1 = f.name)).map (·.2))
  | array items =>
    if fields.length < items.length then none
    else if (fields.drop items.length).all (·.hasDefault) then
      some (items.map some ++ List.replicate (fields.length - items.length) none)
    else none
  | _ => none

/-! ## Values of fields -/

/-- A value that has to be there. -/
def required {α : Type} (read : Json → Option α) : Option Json → Option α
  | some j => read j
  | none => none

/-- A value that is `default` if it is left out. -/
def defaulted {α : Type} (default : α) (read : Json → Option α) : Option Json → Option α
  | some j => read j
  | none => some default

/-- A value that may be left out or `null`. -/
def optional {α : Type} (read : Json → Option α) : Option Json → Option (Option α)
  | some .null => some none
  | some j => (read j).map some
  | none => some none

/-! ## Types of values -/

/-- A natural number below `bound`. -/
def natBelow? (bound : Nat) : Json → Option Nat
  | number n => n.nat?.filter (· < bound)
  | _ => none

/-- An unsigned number of 16 bits. -/
def uint16? (j : Json) : Option UInt16 := (natBelow? UInt16.size j).map UInt16.ofNat

/-- An unsigned number of 32 bits. -/
def uint32? (j : Json) : Option UInt32 := (natBelow? UInt32.size j).map UInt32.ofNat

/-- An unsigned number of 64 bits. -/
def uint64? (j : Json) : Option UInt64 := (natBelow? UInt64.size j).map UInt64.ofNat

/-- A signed number of 64 bits. -/
def int64? : Json → Option Int64
  | number n =>
    (n.int?.filter fun i => Int64.minValue.toInt ≤ i ∧ i ≤ Int64.maxValue.toInt).map Int64.ofInt
  | _ => none

/-- A number of any kind as a double. -/
def float? : Json → Option Float
  | number n => some n.toFloat
  | _ => none

/-- A truth value. -/
def bool? : Json → Option Bool
  | bool b => some b
  | _ => none

/-- An array of values of one type. -/
def list? {α : Type} (read : Json → Option α) : Json → Option (List α)
  | array items => items.mapM read
  | _ => none

/-- An object as a table. -/
def table? {α : Type} (read : Json → Option α) : Json → Option (Table α)
  | object members => do
    let entries ← members.mapM fun (key, j) => (read j).map fun v => (key, v)
    return .ofList entries
  | _ => none

/-- Any value at all. -/
def any? (j : Json) : Option Json := some j

end RedemptionWatch.Json
