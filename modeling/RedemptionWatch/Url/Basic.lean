import RedemptionWatch.Url.Host
import RedemptionWatch.Url.Path

/-!
# URLs

A URL in its parts, each in the form in which it is written, and the text made of them.
-/

namespace RedemptionWatch

/-- A URL. -/
structure Url where
  scheme : String
  username : String
  password : String
  host : Option Host
  /-- The port, unless it is the usual one of the scheme. -/
  port : Option Nat
  /-- Segments with a slash before each of them, or any text where there is no host. -/
  path : String
  query : Option String
  fragment : Option String
  deriving DecidableEq, Repr

namespace Url

/-- The usual port of a scheme. -/
def usualPort? (scheme : String) : Option Nat :=
  match scheme with
  | "http" => some 80
  | "ws" => some 80
  | "https" => some 443
  | "wss" => some 443
  | "ftp" => some 21
  | _ => none

/-- How URLs of a scheme are read. -/
def kindOf (scheme : String) : SchemeKind :=
  if scheme = "file" then .file
  else if (usualPort? scheme).isSome then .special
  else .generic

/-- How the URL is read. -/
def kind (u : Url) : SchemeKind :=
  kindOf u.scheme

/-- Has the URL a path without structure? Nothing is relative to such a URL. -/
def isPlain (u : Url) : Bool :=
  u.host.isNone && u.path.toList.head? ≠ some '/'

/-- The user name and the password before the host. -/
def credentials (u : Url) : String :=
  if u.username = "" ∧ u.password = "" then ""
  else u.username ++ (if u.password = "" then "" else ":" ++ u.password) ++ "@"

/-- The host and what goes with it. Without a host, `/.` keeps a path that starts with two slashes
from being read as one. -/
def authority (u : Url) : String :=
  match u.host with
  | some h =>
    "//" ++ u.credentials ++ String.ofList h.text ++
      ((u.port.map fun p => ":" ++ toString p).getD "")
  | none => if ['/', '/'].isPrefixOf u.path.toList then "/." else ""

/-- The URL as text. -/
def text (u : Url) : String :=
  u.scheme ++ ":" ++ u.authority ++ u.path ++ ((u.query.map ("?" ++ ·)).getD "") ++
    ((u.fragment.map ("#" ++ ·)).getD "")

/-- The first segment of the path. -/
def firstSegment (u : Url) : List Char :=
  (u.path.toList.drop 1).takeWhile (· ≠ '/')

/-- The URL with a path that ends in `/`, so that paths joined to it go below it. The path is read
anew. An empty plain path becomes an encoded slash, since it would not be plain with a bare one. -/
def asDirectory (u : Url) : Url :=
  let path := u.path.toList
  if UrlPath.isClosed path then u
  else if u.isPlain then { u with path := if path = [] then "%2F" else u.path ++ "/" }
  else
    { u with path := String.ofList (UrlPath.readBehindHost u.kind (path ++ ['/'])).path }

/-- The URL with this form as its query, if the form has any pairs. -/
def withForm (u : Url) (pairs : List (String × String)) : Url :=
  if pairs = [] then u
  else
    let form := Percent.form pairs
    { u with query := some (match u.query with
        | some q => if q = "" then form else q ++ "&" ++ form
        | none => form) }

end Url

end RedemptionWatch
