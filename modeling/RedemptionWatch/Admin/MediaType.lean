import RedemptionWatch.Text.Blank

/-!
# Media types

The form `type/subtype+suffix; name=value`, as far as it takes to tell JSON from everything else.
-/

namespace RedemptionWatch.Admin.MediaType

/-- The characters of names. -/
def isToken (c : Char) : Bool :=
  c.isAlphanum || "!#$%&'*+-.^_\x60|~".toList.contains c

/-- Is `cs` a non-empty name? -/
def isName (cs : List Char) : Bool :=
  cs ≠ [] && cs.all isToken

/-- The characters inside a quoted value. -/
def isQuotable (c : Char) : Bool :=
  c = '\t' || (32 ≤ c.toNat && c.toNat ≠ 127)

/-- What follows a quoted value: nothing, or the next parameter. -/
def afterQuoted : List Char → Option (List Char)
  | [] => some []
  | ' ' :: rest => afterQuoted rest
  | ';' :: rest => some rest
  | _ => none

/-- What follows the value of a parameter. A quoted value has at least one character, so that a
quote right after the first one belongs to it. -/
def afterValue? (cs : List Char) : Option (List Char) :=
  match cs with
  | '"' :: first :: rest =>
    if ¬isQuotable first then none else
    match rest.dropWhile fun c => c ≠ '"' && isQuotable c with
    | '"' :: after => afterQuoted after
    | _ => none
  | ['"'] => none
  | _ =>
    match cs.takeWhile isToken, cs.dropWhile isToken with
    | _, [] => some []
    | _ :: _, ';' :: rest => some rest
    | _, _ => none

/-- Are these well-formed parameters? `fuel` bounds their number. -/
def areParameters : Nat → List Char → Bool
  | 0, _ => false
  | fuel + 1, cs =>
    match cs.dropWhile (· == ' ') with
    | [] => true
    | cs =>
      match cs.takeWhile isToken, cs.dropWhile isToken with
      | _ :: _, '=' :: rest =>
        match afterValue? rest with
        | some rest => areParameters fuel rest
        | none => false
      | _, _ => false

/-- A subtype without its suffix, and the suffix, which follows the last `+` that is not the first
character. -/
def suffixed (cs : List Char) : List Char × Option (List Char) :=
  match cs with
  | [] => ([], none)
  | first :: rest =>
    let suffix := (rest.reverse.takeWhile (· ≠ '+')).reverse
    if suffix.length = rest.length then (cs, none)
    else (first :: rest.take (rest.length - suffix.length - 1), some suffix)

/-- Does a text name JSON, `application/json` or `application/` with the suffix `json`? -/
def isJson (s : String) : Bool :=
  let cs := (Text.asciiLower s).toList
  let kind := cs.takeWhile isToken
  match cs.dropWhile isToken with
  | '/' :: rest =>
    let subtype := rest.takeWhile isToken
    let parameters := match rest.dropWhile isToken with
      | [] => true
      | ';' :: rest => areParameters (rest.length + 1) rest
      | _ => false
    let (base, suffix) := suffixed subtype
    String.ofList kind = "application" && isName subtype && parameters &&
      (String.ofList base = "json" || suffix.map String.ofList = some "json")
  | _ => false

end RedemptionWatch.Admin.MediaType
