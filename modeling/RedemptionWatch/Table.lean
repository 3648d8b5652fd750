/-!
# Tables

Values by text keys. A key stands at most once, at the place where it was put first.
-/

namespace RedemptionWatch

/-- Values by their keys. -/
structure Table (α : Type) where
  entries : List (String × α)
  deriving DecidableEq, Repr, Inhabited

namespace Table

variable {α β : Type}

/-- The table without entries. -/
def empty : Table α := ⟨[]⟩

/-- The value of a key. -/
def get? (t : Table α) (key : String) : Option α :=
  t.entries.lookup key

/-- The table with this value under a key. -/
def insert (t : Table α) (key : String) (value : α) : Table α :=
  if t.entries.any (·.1 = key) then
    ⟨t.entries.map fun e => if e.1 = key then (key, value) else e⟩
  else ⟨t.entries ++ [(key, value)]⟩

/-- The table of a list, in which the last value of a key counts. -/
def ofList (entries : List (String × α)) : Table α :=
  entries.foldl (fun t e => t.insert e.1 e.2) empty

/-- The keys in order. -/
def keys (t : Table α) : List String :=
  t.entries.map (·.1)

/-- Does the table have no entries? -/
def isEmpty (t : Table α) : Bool :=
  t.entries.isEmpty

end Table

end RedemptionWatch
