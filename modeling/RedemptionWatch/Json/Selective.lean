import RedemptionWatch.Json.Reader

/-!
# Reading parts of a value

Where only some members of a value are asked for, the others need to be well-formed and no more:
they may be nested to any depth and hold numbers of any size. An `Interest` says which parts are
asked for.
-/

namespace RedemptionWatch.Json

/-- Which parts of a value are asked for. -/
inductive Interest where
  /-- The whole value, checked as it says. -/
  | whole (rigor : Reader.Rigor)
  /-- The items of an array. -/
  | list (item : Interest)
  /-- Members of an object by key, or items of an array in the order of the keys, and how all other
  members are checked. -/
  | record (fields : List (String × Interest)) (others : Reader.Rigor)

namespace Interest

/-- The interest in a member with this key. -/
def member (fields : List (String × Interest)) (others : Reader.Rigor) (key : String) : Interest :=
  (fields.lookup key).getD (.whole others)

mutual

/-- A value at the front of `cs` inside which `depth` levels may be opened, and what follows. -/
def value? : Nat → Nat → Interest → List Char → Option (Json × List Char)
  | 0, _, _, _ => none
  | fuel + 1, depth, interest, cs =>
    let plain (rigor : Reader.Rigor) := Reader.value? rigor (2 * cs.length + 2) depth cs
    match interest, Reader.skipSpace cs, depth with
    | .whole rigor, _, _ => plain rigor
    | .list item, '[' :: rest, depth + 1 =>
      match Reader.skipSpace rest with
      | ']' :: rest => some (.array [], rest)
      | rest => (items? fuel depth [] item rest).map fun (xs, rest) => (.array xs, rest)
    | .record fields others, '\x7b' :: rest, depth + 1 =>
      match Reader.skipSpace rest with
      | '\x7d' :: rest => some (.object [], rest)
      | rest =>
        (members? fuel depth fields others rest).map fun (ms, rest) => (.object ms, rest)
    | .record fields _, '[' :: rest, depth + 1 =>
      match Reader.skipSpace rest with
      | ']' :: rest => some (.array [], rest)
      | rest =>
        (items? fuel depth (fields.map (·.2)) (.whole .full) rest).map fun (xs, rest) =>
          (.array xs, rest)
    | _, _, _ => plain .full

/-- The items of an array from its first one on. The first ones have an interest of their own. -/
def items? : Nat → Nat → List Interest → Interest → List Char → Option (List Json × List Char)
  | 0, _, _, _, _ => none
  | fuel + 1, depth, own, others, cs => do
    let (x, rest) ← value? fuel depth (own.headD others) cs
    match Reader.skipSpace rest with
    | ',' :: rest =>
      let (xs, rest) ← items? fuel depth own.tail others rest
      return (x :: xs, rest)
    | ']' :: rest => return ([x], rest)
    | _ => none

/-- The members of an object from its first one on. -/
def members? : Nat → Nat → List (String × Interest) → Reader.Rigor → List Char →
    Option (List (String × Json) × List Char)
  | 0, _, _, _, _ => none
  | fuel + 1, depth, fields, others, cs => do
    let (key, rest) ← Reader.string? (Reader.skipSpace cs)
    let rest ← Reader.word? [':'] (Reader.skipSpace rest)
    let (x, rest) ← value? fuel depth (member fields others key) rest
    match Reader.skipSpace rest with
    | ',' :: rest =>
      let (ms, rest) ← members? fuel depth fields others rest
      return ((key, x) :: ms, rest)
    | '\x7d' :: rest => return ([(key, x)], rest)
    | _ => none

end

/-- The value that a text holds, with white space around it. -/
def read? (interest : Interest) (s : String) : Option Json :=
  let cs := s.toList
  match value? (2 * cs.length + 2) Reader.maxDepth interest cs with
  | some (x, rest) => if Reader.skipSpace rest = [] then some x else none
  | none => none

end Interest

end RedemptionWatch.Json
