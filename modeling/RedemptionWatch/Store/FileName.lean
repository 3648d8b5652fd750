import RedemptionWatch.Store.Disk
import RedemptionWatch.Url.Percent

/-!
# Database files

A database file is opened by its name in one of three modes, or a database is kept in memory
instead. A name that begins with `file:` is a URI: its path is percent-encoded, and its query may
change how the file is opened, though never to more than was allowed without it.
-/

namespace RedemptionWatch

/-- What may be done with a file. -/
inductive FileMode where
  | read
  | write
  /-- The file is made if it is not there. -/
  | create
  deriving DecidableEq, Repr

/-- Later modes allow more. -/
def FileMode.rank : FileMode → Nat
  | read => 0
  | write => 1
  | create => 2

/-- The mode of a setting. -/
def FileMode.ofText? : String → Option FileMode
  | "ro" => some read
  | "rw" => some write
  | "rwc" => some create
  | _ => none

/-- Why a database cannot be used. -/
inductive DatabaseFault where
  /-- The directory of its file cannot be made. -/
  | directory (path : String)
  /-- It cannot be opened. -/
  | unreachable
  /-- Its file holds something else. -/
  | otherContent
  /-- Its tables cannot be made. -/
  | readOnly
  /-- The file that guards its changes cannot be made. -/
  | journal
  deriving DecidableEq, Repr

/-- The text of a fault. -/
def DatabaseFault.message : DatabaseFault → String
  | directory path => "Failed to create directory: " ++ path
  | unreachable => "Failed to connect to watcher database"
  | otherContent => "error returned from database: (code: 26) file is not a database"
  | journal => "error returned from database: (code: 14) unable to open database file"
  | readOnly => "Failed to execute SQL: CREATE TABLE IF NOT EXISTS watcher_cursors ("

/-- How a database is opened. -/
structure DatabaseFile where
  name : List UInt8
  mode : FileMode
  /-- No file is touched. -/
  inMemory : Bool
  /-- The file is taken not to change, and so cannot be written. -/
  immutable : Bool
  /-- What files are reached through. -/
  layer : String
  deriving DecidableEq, Repr

namespace DatabaseFile

/-- The layer that keeps files in memory. -/
def memoryLayer : String := "memdb"

/-- What files can be reached through. -/
def layers : List String :=
  ["unix", "unix-none", "unix-dotfile", "unix-excl", memoryLayer]

/-- Does a setting of a URI say yes? -/
def saysYes (value : String) : Bool :=
  let value := value.map Char.toLower
  if value.front.isDigit then value.front ≠ '0' else value ∈ ["on", "yes", "true"]

/-- Applies one setting in the query of a URI. Unknown settings do nothing. -/
def withSetting? (f : DatabaseFile) (name value : String) : Option DatabaseFile :=
  match name with
  | "vfs" => some { f with layer := value }
  | "immutable" => some { f with immutable := saysYes value }
  | "cache" => if value ∈ ["shared", "private"] then some f else none
  | "mode" =>
    if value = "memory" then some { f with mode := .write, inMemory := true } else do
      let mode ← FileMode.ofText? value
      if f.inMemory || mode.rank ≤ f.mode.rank then
        some { f with mode, inMemory := false }
      else none
  | _ => some f

/-- A percent-encoded part of a URI, which ends at its first zero byte. -/
def uriPart (bs : List UInt8) : List UInt8 :=
  (Percent.decode bs).takeWhile (· ≠ 0)

/-- Applies the settings in the query of a URI, in their order. -/
def withSettings? (f : DatabaseFile) : List (List UInt8) → Option DatabaseFile
  | [] => some f
  | setting :: rest => do
    let text (bs : List UInt8) : String := (Octets.text? (uriPart bs)).getD ""
    let name := setting.takeWhile (· ≠ '='.toUInt8)
    let value := setting.drop (name.length + 1)
    (← f.withSetting? (text name) (text value)).withSettings? rest

/-- The path after the host of a URI, which is this one or none. -/
def afterHost? (bs : List UInt8) : Option (List UInt8) :=
  match (Octets.ofText "//").isPrefixOf bs, bs.drop 2 with
  | false, _ => some bs
  | true, rest =>
    let host := rest.takeWhile (· ≠ '/'.toUInt8)
    if host = [] ∨ host = Octets.ofText "localhost" then some (rest.drop host.length) else none

/-- The file that a name stands for: itself, or what its URI says. -/
def resolve? (f : DatabaseFile) : Option DatabaseFile := do
  if ¬(Octets.ofText "file:").isPrefixOf f.name then return f
  let rest ← afterHost? (f.name.drop "file:".length)
  let rest := rest.takeWhile (· ≠ '#'.toUInt8)
  let path := rest.takeWhile (· ≠ '?'.toUInt8)
  let query := rest.drop (path.length + 1)
  { f with name := uriPart path }.withSettings? (query.splitOn '&'.toUInt8)

/-- How many bytes longer than the name of a file is that of the journal beside it. -/
def journalSuffix : Nat := "-journal".length

/-- The most bytes of the path of a journal. -/
def pathLimit : Nat := 512

/-- Where the file lies, if its path can be followed. -/
def location? (f : DatabaseFile) (d : Disk) : Option Location := do
  let l ← d.plan? (d.start f.name) (Disk.steps f.name)
  let length := (l.flatMap ('/'.toUInt8 :: ·)).length
  if l = [] ∨ pathLimit < length + journalSuffix then none else some l

/-- Prepares a new database. -/
def fill (f : DatabaseFile) : Except DatabaseFault Unit :=
  if f.mode = .read ∨ f.immutable then .error .readOnly else .ok ()

/-- Opens a database and makes its tables. No file that is there already holds a database. -/
def prepare (f : DatabaseFile) (d : Disk) : Except DatabaseFault Unit :=
  if f.layer ∉ layers then .error .unreachable
  else if f.inMemory ∨ f.name = [] ∨ f.name = Octets.ofText ":memory:" then
    { f with immutable := false }.fill
  else if f.layer = memoryLayer then f.fill
  else match f.location? d with
    | none => .error .unreachable
    | some l =>
      if d.isDirectory l then .error .unreachable
      else if d.files.contains l then .error .otherContent
      else if ¬(f.mode = .create ∧ d.canMake l) then .error .unreachable
      else do
        f.fill
        let isTooLong (name : List UInt8) : Bool := Disk.nameLimit < name.length + journalSuffix
        if l.getLast?.any isTooLong then throw .journal

end DatabaseFile

end RedemptionWatch
