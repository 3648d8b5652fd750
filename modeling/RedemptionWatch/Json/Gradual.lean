import RedemptionWatch.Json.Reader
import RedemptionWatch.Json.Record

/-!
# Reading records from text as it comes

A record is read member by member, and the first fault ends the reading: the text may be no JSON
there (`Fault.malformed`), or a value may not be of the type that its field asks for
(`Fault.misshapen`). Which of the two is found first matters where they are answered differently.
What follows the record is not looked at.
-/

namespace RedemptionWatch.Json

/-- What is wrong with the text of a record. -/
inductive Fault where
  /-- The text is no JSON. -/
  | malformed
  /-- The record has the wrong fields, or a field has a value of the wrong type. -/
  | misshapen
  deriving DecidableEq, Repr

namespace Gradual

open Reader

/-- Reads a value at the front of a text and returns what follows it. -/
abbrev Reading (α : Type) := List Char → Except Fault (α × List Char)

/-- What is read, or text that is no JSON. -/
def orMalformed {α : Type} : Option α → Except Fault α
  | some a => .ok a
  | none => .error .malformed

/-- The fault of a value that is of the wrong type, if it is a value at all. Arrays and objects show
their type by their bracket. -/
def wrongType (cs : List Char) : Fault :=
  match skipSpace cs with
  | '[' :: _ => .misshapen
  | '{' :: _ => .misshapen
  | cs => if (valueAt? .full 0 cs).isSome then .misshapen else .malformed

/-- A value that is no array and no object, read whole before its type is looked at. -/
def scalar (read : Json → Option Json) : Reading Json := fun cs =>
  match skipSpace cs with
  | '[' :: _ => .error .misshapen
  | '{' :: _ => .error .misshapen
  | cs => do
    let (j, rest) ← orMalformed (valueAt? .full 0 cs)
    match read j with
    | some j => return (j, rest)
    | none => throw .misshapen

/-- A value that passes a test. -/
def checked {α : Type} (test : Json → Option α) (j : Json) : Option Json :=
  (test j).map fun _ => j

/-- A string. -/
def text : Reading Json := scalar (checked Json.string?)

/-- A truth value. -/
def bool : Reading Json := scalar (checked Json.bool?)

/-- An unsigned number of 64 bits. -/
def uint64 : Reading Json := scalar (checked Json.uint64?)

/-- An unsigned number of 64 bits or `null`. -/
def uint64OrNull : Reading Json := scalar (checked fun j => Json.optional Json.uint64? (some j))

/-- A field and how its value is read. -/
structure TypedField where
  field : Field
  read : Reading Json

/-- The value of a member nobody asks for is skipped. -/
def skip (cs : List Char) : Except Fault (List Char) :=
  (orMalformed (valueAt? .shape 0 cs)).map (·.2)

/-- The members of an object from one key on. `members` are those that have been read. -/
def membersFrom (fields : List TypedField) :
    Nat → List (String × Json) → Reading (List (String × Json))
  | 0, _, _ => .error .malformed
  | fuel + 1, members, cs => do
    let (key, rest) ← orMalformed (Reader.string? (skipSpace cs))
    let (members, rest) ← match fields.find? (·.field.name = key) with
      | some f => do
        if members.any (·.1 = key) then throw .misshapen
        let rest ← orMalformed (word? [':'] (skipSpace rest))
        let (j, rest) ← f.read rest
        pure (members ++ [(key, j)], rest)
      | none => do
        let rest ← orMalformed (word? [':'] (skipSpace rest))
        let rest ← skip rest
        pure (members, rest)
    match skipSpace rest with
    | ',' :: rest => membersFrom fields fuel members rest
    | '}' :: rest => return (members, rest)
    | _ => throw .malformed

/-- The items of an array, one for every field. The array may end before fields that have a default.
-/
def itemsFrom : List TypedField → Bool → Reading (List (String × Json))
  | [], first, cs =>
    match skipSpace cs with
    | ']' :: rest => .ok ([], rest)
    | _ => if first then .error .misshapen else .error .malformed
  | f :: fields, first, cs => do
    let ended := match skipSpace cs with
      | ']' :: rest => some rest
      | _ => none
    match ended with
    | some rest =>
      if (f :: fields).all (·.field.hasDefault) then return ([], rest) else throw .misshapen
    | none =>
      let rest ← if first then pure cs else orMalformed (word? [','] (skipSpace cs))
      let (j, rest) ← f.read rest
      let (members, rest) ← itemsFrom fields false rest
      return ((f.field.name, j) :: members, rest)

/-- A record as an object or an array. All fields without a default have to be there. -/
def record (fields : List TypedField) (cs : List Char) : Except Fault (List (String × Json)) := do
  match skipSpace cs with
  | '{' :: rest =>
    let (members, _) ← match skipSpace rest with
      | '}' :: rest => pure ([], rest)
      | rest => membersFrom fields (rest.length + 1) [] rest
    let isSettled (f : TypedField) : Bool :=
      f.field.hasDefault || members.any (·.1 = f.field.name)
    if fields.all isSettled then return members else throw .misshapen
  | '[' :: rest => return (← itemsFrom fields true rest).1
  | cs => throw (wrongType cs)

end Gradual

end RedemptionWatch.Json
