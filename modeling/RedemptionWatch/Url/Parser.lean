import RedemptionWatch.Url.Basic

/-!
# Reading URLs

`Url.ofText` reads an absolute URL, and `Url.join` a URL or a reference relative to a base. Blanks
and controls at either end and all tabs and line breaks are dropped. In special URLs a backslash
counts as a slash, and any number of slashes may stand before the host. Texts keep their tabs and
line breaks until a part of the URL is taken from them.
-/

namespace RedemptionWatch.Url

open UrlPath (isIgnored visible)

/-- Is this a control of ASCII or a space? -/
def isC0OrSpace (c : Char) : Bool :=
  c.toNat ≤ 0x20

/-- A text without blanks and controls at either end. -/
def stripped (s : String) : List Char :=
  ((s.toList.dropWhile isC0OrSpace).reverse.dropWhile isC0OrSpace).reverse

/-- Characters of schemes after the first one. -/
def isSchemeChar (c : Char) : Bool :=
  c.isAlphanum || c = '+' || c = '-' || c = '.'

/-- A scheme in lower case, and what follows its colon. -/
def scheme? (cs : List Char) : Option (String × List Char) :=
  let scheme := visible (cs.takeWhile fun c => isIgnored c || isSchemeChar c)
  match cs.dropWhile fun c => isIgnored c || isSchemeChar c with
  | ':' :: rest =>
    if scheme.head?.any Char.isAlpha then some (String.ofList (scheme.map Char.toLower), rest)
    else none
  | _ => none

/-- Is this a slash or a backslash? -/
def isEitherSlash (c : Char) : Bool :=
  c = '/' || c = '\\'

/-- The number of slashes and backslashes at the front, and what follows them. -/
def slashes (cs : List Char) : Nat × List Char :=
  ((visible (cs.takeWhile fun c => isIgnored c || isEitherSlash c)).length,
    cs.dropWhile fun c => isIgnored c || isEitherSlash c)

/-- What follows a text that stands at the front. -/
def after? : List Char → List Char → Option (List Char)
  | [], cs => some cs
  | a :: sign, cs =>
    match cs.dropWhile isIgnored with
    | c :: rest => if c = a then after? sign rest else none
    | [] => none

/-! ## Query and fragment -/

/-- The text before `?` and `#`, the query and the fragment. -/
def cutTail (cs : List Char) : List Char × Option (List Char) × Option (List Char) :=
  let beforeFragment := cs.takeWhile (· ≠ '#')
  let fragment := (cs.dropWhile (· ≠ '#')).tail?
  (beforeFragment.takeWhile (· ≠ '?'), (beforeFragment.dropWhile (· ≠ '?')).tail?, fragment)

/-- A query as it is written. -/
def queryText (kind : SchemeKind) (cs : List Char) : String :=
  let encoded := if kind = .generic then Percent.inQuery else Percent.inSpecialQuery
  String.ofList (Percent.encode encoded (visible cs))

/-- A fragment as it is written. -/
def fragmentText (cs : List Char) : String :=
  String.ofList (Percent.encode Percent.inFragment (visible cs))

/-- The URL with this path and with the query and the fragment of a text. -/
def withParts (u : Url) (path query fragment : Option (List Char)) : Url :=
  { u with
    path := (path.map String.ofList).getD u.path
    query := query.map (queryText u.kind)
    fragment := fragment.map fragmentText }

/-- The URL with what a reference without a path changes: its query stays unless there is a new
one. -/
def withTail (u : Url) (query fragment : Option (List Char)) : Url :=
  let changed := u.withParts none query fragment
  { changed with query := if query.isNone then u.query else changed.query }

/-- The URL of a scheme and a host without anything else. -/
def ofHost (scheme : String) (host : Option Host) : Url :=
  { scheme, username := "", password := "", host, port := none, path := "", query := none,
    fragment := none }

/-! ## Authorities -/

/-- Does the authority end before this character? -/
def endsAuthority (kind : SchemeKind) (c : Char) : Bool :=
  kind.isSlash c || c = '?' || c = '#'

/-- The text before the last `@` and the text after it. -/
def lastAt? (cs : List Char) : Option (List Char × List Char) :=
  let host := (cs.reverse.takeWhile (· ≠ '@')).reverse
  if host.length = cs.length then none else some (cs.take (cs.length - host.length - 1), host)

/-- The text before the colon that separates host and port, and the text after it. -/
def portColon : Bool → List Char → List Char × Option (List Char)
  | _, [] => ([], none)
  | bracketed, c :: rest =>
    if c = ':' ∧ ¬bracketed then ([], some rest)
    else
      let bracketed := if c = '[' then true else if c = ']' then false else bracketed
      let (host, port) := portColon bracketed rest
      (c :: host, port)

/-- A port, `none` if it is left out or the usual one, and what follows it. -/
def port? (scheme : String) (cs : List Char) : Except UrlError (Option Nat × List Char) :=
  let digits := visible (cs.takeWhile fun c => isIgnored c || c.isDigit)
  let rest := cs.dropWhile fun c => isIgnored c || c.isDigit
  if rest.head?.any fun c => !"/\\?#".toList.contains c then .error .invalidPort
  else match Text.Numeral.digits? 10 digits with
    | none => .ok (none, rest)
    | some n =>
      if n < 65536 then .ok (if usualPort? scheme = some n then none else some n, rest)
      else .error .invalidPort

/-- The user name and the password in front of a host. -/
def userInfo (cs : List Char) : String × String :=
  let encode := fun part => String.ofList (Percent.encode Percent.inUserInfo part)
  (encode (cs.takeWhile (· ≠ ':')), encode ((cs.dropWhile (· ≠ ':')).drop 1))

/-- The URL of a scheme whose authority starts `cs`. -/
def afterSlashes (scheme : String) (cs : List Char) : Except UrlError Url := do
  let kind := kindOf scheme
  let authority := cs.takeWhile fun c => !endsAuthority kind c
  let tail := cs.dropWhile fun c => !endsAuthority kind c
  let (user, place) := (lastAt? authority).getD ([], authority)
  let user := visible user
  if (lastAt? authority).isSome ∧ user = [] ∧ visible place = [] ∧ tail ≠ [] then throw .emptyHost
  let (username, password) := userInfo user
  let (host, number) := portColon false place
  let host := visible host
  let host ← if kind = .generic then Host.ofGeneric host else Host.ofSpecial host
  if host = .domain "" ∧ number ≠ none then throw .emptyHost
  let (port, tail) ← match number with
    | some digits => port? scheme (digits ++ tail)
    | none => pure (none, tail)
  if host = .domain "" ∧ (username ≠ "" ∨ password ≠ "") then throw .emptyHost
  let (path, query, fragment) := cutTail tail
  let u := { ofHost scheme (some host) with username, password, port }
  return u.withParts (some (UrlPath.readBehindHost kind path).path) query fragment

/-! ## References -/

/-- The URL that a reference denotes relative to a base whose scheme is not `file`. -/
def relativeTo (base : Url) (cs : List Char) : Except UrlError Url := do
  let (path, query, fragment) := cutTail cs
  match visible path with
  | [] => return base.withTail query fragment
  | c :: _ =>
    if isEitherSlash c then
      let (count, rest) := slashes cs
      if 2 ≤ count then afterSlashes base.scheme ((after? ['/', '/'] cs).getD rest)
      else
        let below := UrlPath.read base.kind ['/'] (slashes path).2
        return base.withParts (some below.path) query fragment
    else
      let start := if base.path = "" then ['/'] else UrlPath.parent base.kind base.path.toList
      return base.withParts (some (UrlPath.read base.kind start path).path) query fragment

/-- Does a path of the scheme `file` start with a drive letter? -/
def startsWithDrive (path : List Char) : Bool :=
  UrlPath.startsWithDriveLetter (visible path)

/-- The host of a URL of the scheme `file`, and the path behind it. A drive letter is no host, and
this computer needs none. -/
def fileHost (path : List Char) : Except UrlError (Host × UrlPath.Walk) := do
  let host := visible (path.takeWhile (!isEitherSlash ·))
  let rest := path.dropWhile (!isEitherSlash ·)
  if UrlPath.isDriveLetter host then return (.domain "", UrlPath.read .file ['/'] path)
  let host ← if host = [] then pure (.domain "") else Host.ofSpecial host
  if host = .domain "" ∨ host = .domain "localhost" then
    return (.domain "", UrlPath.read .file ['/'] rest)
  else return (host, UrlPath.readBehindHost .file rest)

/-- Where the path of a reference with one slash in front starts: on the drive or the host of the
base, unless it names a drive. -/
def fileRoot (base : Option Url) (path : List Char) : Option Host × List Char :=
  match base with
  | none => (none, [])
  | some b =>
    if startsWithDrive (slashes path).2 then (none, [])
    else if UrlPath.isProperDriveLetter b.firstSegment then (none, '/' :: b.firstSegment)
    else (b.host, [])

/-- A URL with the scheme `file`, relative to a base of this scheme if there is one. -/
def ofFile (base : Option Url) (cs : List Char) : Except UrlError Url := do
  let (path, query, fragment) := cutTail cs
  let ofPath := fun (host : Host) (path : List Char) =>
    (ofHost "file" (some host)).withParts (some path) query fragment
  if 2 ≤ (slashes path).1 then
    let rest := ((UrlPath.afterSlash? .file path).bind (UrlPath.afterSlash? .file)).getD []
    let (host, walk) ← fileHost rest
    return ofPath (if walk.dropsHost then .domain "" else host) walk.path
  else if (slashes path).1 = 1 then
    let (host, start) := fileRoot base path
    return ofPath (host.getD (.domain "")) (UrlPath.read .file start path).path
  else
    match base with
    | some b =>
      if visible path = [] then return b.withTail query fragment
      else if startsWithDrive path then
        return ofPath (.domain "") (UrlPath.read .file ['/'] path).path
      else
        let start := UrlPath.parent .file b.path.toList
        return b.withParts (some (UrlPath.read .file start path).path) query fragment
    | none => return ofPath (.domain "") (UrlPath.read .file ['/'] path).path

/-- The URL of a scheme without a host. -/
def withoutHost (scheme : String) (cs : List Char) : Url :=
  let (path, query, fragment) := cutTail cs
  let path := match UrlPath.afterSlash? .generic path with
    | some rest => (UrlPath.read .generic ['/'] rest).path
    | none => Percent.encode Percent.isControl (visible path)
  (ofHost scheme none).withParts (some path) query fragment

/-- Reads a text, relative to a base if there is one. -/
def read (base : Option Url) (s : String) : Except UrlError Url :=
  let cs := stripped s
  match scheme? cs with
  | some (scheme, rest) =>
    let sameScheme := base.filter (·.scheme = scheme)
    match kindOf scheme with
    | .file => ofFile sameScheme rest
    | .special =>
      let (count, behind) := slashes rest
      match sameScheme with
      | some b => if count < 2 then relativeTo b rest else afterSlashes scheme behind
      | none => afterSlashes scheme behind
    | .generic =>
      match after? ['/', '/'] rest with
      | some behind => afterSlashes scheme behind
      | none => .ok (withoutHost scheme rest)
  | none =>
    match base with
    | none => .error .noBase
    | some b =>
      match after? ['#'] cs with
      | some fragment => .ok (b.withTail none (some fragment))
      | none =>
        if b.isPlain then .error .plainBase
        else if b.kind = .file then ofFile base cs
        else relativeTo b cs

/-- The URL that a text denotes on its own. -/
def ofText (s : String) : Except UrlError Url :=
  read none s

/-- The URL that a text denotes relative to a base. -/
def join (base : Url) (s : String) : Except UrlError Url :=
  read (some base) s

end RedemptionWatch.Url
