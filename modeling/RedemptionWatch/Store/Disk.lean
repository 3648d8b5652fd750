import RedemptionWatch.Octets

/-!
# Disks

What lies on a disk, as far as it decides whether a file can be found or made: directories, files
and the working directory, where relative paths start. There are no links, so that a path leads to
one location, whichever way it takes. Names are bytes.
-/

namespace RedemptionWatch

/-- The names on the way from the root. -/
abbrev Location := List (List UInt8)

/-- One step along a path: nowhere, up, or down to a name. There is no way up from the root. -/
def Location.enter (l : Location) (step : List UInt8) : Location :=
  if step = [] ∨ step = Octets.ofText "." then l
  else if step = Octets.ofText ".." then l.dropLast
  else l ++ [step]

/-- What lies on a disk. -/
structure Disk where
  /-- The working directory, which is there with all that lead to it. -/
  here : Location
  directories : List Location
  files : List Location
  /-- Directories in which nothing can be made. -/
  guarded : List Location
  deriving DecidableEq, Repr

namespace Disk

/-- The most bytes of a name. -/
def nameLimit : Nat := 255

/-- A disk whose working directory holds these files alone. -/
def holding (names : List String) : Disk :=
  let here := [Octets.ofText "tmp", Octets.ofText "here"]
  let dev := [Octets.ofText "dev"]
  let proc := [Octets.ofText "proc"]
  { here
    directories := [dev, proc]
    files := (dev ++ [Octets.ofText "null"]) :: names.map fun name => here ++ [Octets.ofText name]
    guarded := [proc] }

/-- The steps of a path. -/
def steps (path : List UInt8) : List (List UInt8) :=
  path.splitOn '/'.toUInt8

/-- Where a path starts. -/
def start (d : Disk) (path : List UInt8) : Location :=
  if path.head? = some '/'.toUInt8 then [] else d.here

/-- Is there a directory at a location? -/
def isDirectory (d : Disk) (l : Location) : Bool :=
  l.isPrefixOf d.here || d.directories.contains l

/-- Where steps from a location lead. Whatever is stepped from has to be a directory. -/
def follow? (d : Disk) (l : Location) : List (List UInt8) → Option Location
  | [] => some l
  | step :: rest => if d.isDirectory l then d.follow? (l.enter step) rest else none

/-- Does a path lead to a file? -/
def hasFile (d : Disk) (path : List UInt8) : Bool :=
  (d.follow? (d.start path) (steps path)).any d.files.contains

/-- Can a file or directory be made at a location? -/
def canMake (d : Disk) (l : Location) : Bool :=
  d.isDirectory l.dropLast && !d.isDirectory l && !d.files.contains l &&
    !d.guarded.contains l.dropLast && l.all fun name => name.length ≤ nameLimit

/-- The disk once every directory along the steps is there, if they can be made. -/
def withDirectories? (d : Disk) (l : Location) : List (List UInt8) → Option Disk
  | [] => some d
  | step :: rest =>
    let next := l.enter step
    if d.isDirectory next then d.withDirectories? next rest
    else if d.canMake next then
      { d with directories := next :: d.directories }.withDirectories? next rest
    else none

/-- The disk once there is a directory at the end of a path, if it can be made. -/
def withDirectory? (d : Disk) (path : String) : Option Disk :=
  let path := Octets.ofText path
  d.withDirectories? (d.start path) (steps path)

/-- Where steps from a location lead if directories that are not there are stepped through too. No
step leads through a file. -/
def plan? (d : Disk) (l : Location) : List (List UInt8) → Option Location
  | [] => some l
  | step :: rest =>
    let next := l.enter step
    if d.files.contains next.dropLast || nameLimit < step.length then none else d.plan? next rest

/-- A path without the empty steps and dots at its end, given and returned last step first. -/
def trimSteps : List (List Char) → List (List Char)
  | step :: next :: rest =>
    if step = [] ∨ step = ['.'] then trimSteps (next :: rest) else step :: next :: rest
  | short => short

/-- The path of the directory that a path leads into, empty if it is the root or the one where the
path starts. -/
def parentPath (path : String) : String :=
  let steps := trimSteps (path.toList.splitOn '/').reverse
  String.ofList (List.intercalate ['/'] (trimSteps steps.tail).reverse)

end Disk

end RedemptionWatch
