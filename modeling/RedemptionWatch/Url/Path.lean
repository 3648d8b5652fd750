import RedemptionWatch.Url.Percent

/-!
# Paths of URLs

A path is read segment by segment into the text that stands in the URL: `.` is left out, `..` takes
the segment before it away, all else is written behind what is there. A path below a drive letter
such as `C:` stays below it. In URLs of the scheme `file`, a drive letter at the start of the path
takes the place of the host.

Tabs and line breaks inside a text count for nothing. Only paths are read with them, since in a URL
of the scheme `file` a drive letter before one of them is a segment of its own.
-/

namespace RedemptionWatch

/-- How URLs are read depends on their scheme. -/
inductive SchemeKind where
  /-- The scheme `file`. -/
  | file
  /-- A scheme with a usual port. -/
  | special
  /-- Any other scheme. -/
  | generic
  deriving DecidableEq, Repr

/-- Does this character separate segments? -/
def SchemeKind.isSlash (kind : SchemeKind) (c : Char) : Bool :=
  c = '/' || (kind ≠ .generic && c = '\\')

namespace UrlPath

/-- Is this a tab or a line break? -/
def isIgnored (c : Char) : Bool :=
  c = '\t' || c = '\n' || c = '\r'

/-- The characters that count. -/
def visible (cs : List Char) : List Char :=
  cs.filter (!isIgnored ·)

/-! ## Drive letters -/

/-- Is this a letter with `:` or `|`? -/
def isDriveLetter : List Char → Bool
  | [a, b] => a.isAlpha && (b = ':' || b = '|')
  | _ => false

/-- Is this a letter with `:`? -/
def isProperDriveLetter (cs : List Char) : Bool :=
  isDriveLetter cs && cs.getLast? = some ':'

/-- Does a text start with a drive letter that ends where the text or a part of the URL ends? -/
def startsWithDriveLetter (cs : List Char) : Bool :=
  isDriveLetter (cs.take 2) && (cs[2]?.all fun c => "/\\?#".toList.contains c)

/-! ## Segments -/

/-- Is a segment `.`? -/
def isSingleDot (cs : List Char) : Bool :=
  [".", "%2e"].contains (String.ofList (cs.map Char.toLower))

/-- Is a segment `..`? -/
def isDoubleDot (cs : List Char) : Bool :=
  ["..", ".%2e", "%2e.", "%2e%2e"].contains (String.ofList (cs.map Char.toLower))

/-- Does a path end in a slash? -/
def isClosed (path : List Char) : Bool :=
  path.getLast? = some '/'

/-- A path with a slash at its end. -/
def closed (path : List Char) : List Char :=
  if isClosed path then path else path ++ ['/']

/-- What follows the last slash. -/
def lastSegment (path : List Char) : List Char :=
  (path.reverse.takeWhile (· ≠ '/')).reverse

/-- A path up to its last slash. A drive letter at its end stays. -/
def parent (kind : SchemeKind) (path : List Char) : List Char :=
  if kind = .file && isProperDriveLetter (lastSegment path) then path
  else (path.reverse.dropWhile (· ≠ '/')).reverse

/-- A path without its last segment. The slash at its end goes too, unless it is the only one or
follows a drive letter. -/
def up (kind : SchemeKind) (path : List Char) : List Char :=
  let inner := path.dropLast
  if isClosed path && inner.contains '/' && !startsWithDriveLetter (lastSegment inner ++ ['/']) then
    parent kind inner
  else parent kind path

/-- A path while it is being read. -/
structure Walk where
  path : List Char
  /-- Has a drive letter taken the place of the host? -/
  dropsHost : Bool
  deriving DecidableEq, Repr

namespace Walk

/-- Writes a piece without tabs and line breaks behind a path. Behind a lone drive letter it starts
a segment. The number is the place where the segment starts. -/
def write (kind : SchemeKind) (s : List Char × Nat) (piece : List Char) : List Char × Nat :=
  let (path, start) :=
    if kind = .file && isProperDriveLetter (s.1.drop 1) then (s.1 ++ ['/'], s.2 + 1) else s
  (path ++ Percent.encode Percent.inPath piece, start)

/-- Goes on by a segment, which a slash may follow. -/
def step (kind : SchemeKind) (slash : Bool) (w : Walk) (segment : List Char) : Walk :=
  let pieces := (segment.map fun c => if isIgnored c then '\n' else c).splitOn '\n'
  let (path, start) := (pieces.filter (· ≠ [])).foldl (write kind) (w.path, w.path.length)
  let before := path.take start
  let written := path.drop start
  if isDoubleDot written then
    let path := up kind before
    { w with path := if slash then closed path else path }
  else if isSingleDot written then { w with path := closed before }
  else
    let drive := kind = .file && start = 1 && isDriveLetter written
    let path := if drive then before ++ written.take 1 ++ [':'] else path
    ⟨if slash then path ++ ['/'] else path, w.dropsHost || drive⟩

/-- Goes on by segments. The last one is not followed by a slash. -/
def steps (kind : SchemeKind) (w : Walk) : List (List Char) → Walk
  | [] => w
  | [last] => step kind false w last
  | s :: rest => steps kind (step kind true w s) rest

end Walk

/-- Reads a path behind what is there. In URLs of the scheme `file` no empty segment stands at the
front. -/
def read (kind : SchemeKind) (start cs : List Char) : Walk :=
  let segments := (cs.map fun c => if kind.isSlash c then '/' else c).splitOn '/'
  let w := Walk.steps kind ⟨start, false⟩ segments
  if kind = .file then { w with path := '/' :: w.path.dropWhile (· = '/') } else w

/-- What follows the first slash, if nothing that counts stands before it. -/
def afterSlash? (kind : SchemeKind) (cs : List Char) : Option (List Char) :=
  match cs.dropWhile isIgnored with
  | c :: rest => if kind.isSlash c then some rest else none
  | [] => none

/-- Reads the path of a URL with a host. It starts with a slash, unless it is empty and the scheme
is generic. -/
def readBehindHost (kind : SchemeKind) (cs : List Char) : Walk :=
  match afterSlash? kind cs with
  | some rest => read kind ['/'] rest
  | none => if kind = .generic && visible cs = [] then ⟨[], false⟩ else read kind ['/'] cs

end UrlPath

end RedemptionWatch
