import RedemptionWatch.Store.FileName
import RedemptionWatch.Url.Parser

/-!
# Where databases lie

A database is kept in memory, in a file or by a server, and its place is said in one text. A file
may be given by its path, and is then made if it is not there, with the directories on the way to
it. It may also be given by a URL whose query says how it is opened. Either way the place ends up as
a URL, which has to be readable.
-/

namespace RedemptionWatch

/-- What the query of a URL says about a file. -/
structure FileSettings where
  readOnly : Bool
  creates : Bool
  inMemory : Bool
  immutable : Bool
  layer : Option String
  deriving DecidableEq, Repr

namespace FileSettings

/-- What holds where nothing is said. -/
def usual : FileSettings := ⟨false, false, false, false, none⟩

/-- Applies one setting of the query, unless it is unknown. -/
def withSetting? (s : FileSettings) (name value : String) : Option FileSettings :=
  match name, value with
  | "mode", "ro" => some { s with readOnly := true }
  | "mode", "rw" => some s
  | "mode", "rwc" => some { s with creates := true }
  | "mode", "memory" => some { s with inMemory := true }
  | "cache", value => if value ∈ ["private", "shared"] then some s else none
  | "immutable", value =>
    if value ∈ ["true", "1"] then some { s with immutable := true }
    else if value ∈ ["false", "0"] then some { s with immutable := false }
    else none
  | "vfs", value => some { s with layer := some value }
  | _, _ => none

/-- The settings of a query, `none` if it says anything unknown. -/
def ofQuery? (s : FileSettings) : List (String × String) → Option FileSettings
  | [] => some s
  | (name, value) :: rest => do (← s.withSetting? name value).ofQuery? rest

/-- What may be done with the file. A wish for reading alone wins. -/
def mode (s : FileSettings) : FileMode :=
  if s.readOnly then .read else if s.creates then .create else .write

/-- The file of a name. Where a setting asks for a URI the name is made a part of one, and ends at
its first zero byte. Elsewhere it may hold none. -/
def file? (s : FileSettings) (name : List UInt8) : Option DatabaseFile :=
  let file : DatabaseFile := {
    name, mode := s.mode, inMemory := s.inMemory, immutable := s.immutable
    layer := s.layer.getD "unix" }
  if s.immutable ∨ s.layer.isSome then some { file with name := name.takeWhile (· ≠ 0) }
  else if name.contains 0 then none
  else file.resolve?

end FileSettings

/-- A text without all the repetitions of a word at its start. -/
def DatabaseFile.withoutLeading (word : List Char) (cs : List Char) : List Char :=
  if h : word ≠ [] ∧ word.length ≤ cs.length ∧ word.isPrefixOf cs then
    have : 0 < word.length := List.length_pos_iff.2 h.1
    DatabaseFile.withoutLeading word (cs.drop word.length)
  else cs
termination_by cs.length
decreasing_by simp only [List.length_drop]; omega

/-- The file in the text of a URL. -/
def DatabaseFile.ofUrl? (text : String) : Option DatabaseFile := do
  let rest := withoutLeading "sqlite:".toList (withoutLeading "sqlite://".toList text.toList)
  let name := rest.takeWhile (· ≠ '?')
  let query := Percent.readForm (rest.drop (name.length + 1))
  if name = ":memory:".toList then
    ({ FileSettings.usual with inMemory := true }.ofQuery? query).bind (·.file? (Octets.ofText "x"))
  else
    let name := Percent.decode (Octets.ofText (String.ofList name))
    let _ ← Octets.text? name
    (FileSettings.usual.ofQuery? query).bind (·.file? name)

/-- Where a database lies. -/
inductive DatabasePlace where
  | memory
  | file (path : String)
  /-- A file by its URL. -/
  | url (text : String)
  | server (text : String)
  deriving DecidableEq, Repr

namespace DatabasePlace

/-- The place that a text says. -/
def of (s : String) : DatabasePlace :=
  if s = ":memory:" ∨ s = "sqlite::memory:" then memory
  else if s.startsWith "postgres://" ∨ s.startsWith "postgresql://" then server s
  else if s.startsWith "sqlite:" then url s
  else file s

/-- The URL of a place. -/
def address : DatabasePlace → String
  | memory => "sqlite::memory:"
  | file path => "sqlite://" ++ path ++ "?mode=rwc"
  | url s => s
  | server s => s

/-- Makes the directories on the way to a file that is given by its path. -/
def withDirectory (p : DatabasePlace) (d : Disk) : Except DatabaseFault Disk :=
  match p with
  | file path =>
    let parent := Disk.parentPath path
    match d.withDirectory? parent with
    | some d => .ok d
    | none => .error (.directory parent)
  | _ => .ok d

/-- Prepares the database, of which there is no trace yet, neither on this disk nor at a server. -/
def prepare (p : DatabasePlace) (d : Disk) : Except DatabaseFault Unit := do
  let d ← p.withDirectory d
  match p, Url.ofText p.address with
  | server _, _ => throw .unreachable
  | _, .error _ => throw .unreachable
  | _, .ok u =>
    match DatabaseFile.ofUrl? u.text with
    | some f => f.prepare d
    | none => throw .unreachable

end DatabasePlace

end RedemptionWatch
