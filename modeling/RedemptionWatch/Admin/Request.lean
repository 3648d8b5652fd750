import RedemptionWatch.Admin.MediaType
import RedemptionWatch.Json.Gradual
import RedemptionWatch.Watch.Watcher

/-!
# Administration requests

What may be asked of a running service: its health, the states of its watchers, and a backfill. A
request is refused by where it goes, how, and what its body is, in this order.
-/

namespace RedemptionWatch.Admin

/-- A request as it arrives. Its target is a path with an optional query, or an absolute address. -/
structure Request where
  method : String
  target : String
  contentType : Option String
  body : String
  deriving DecidableEq, Repr

/-- What a request asks for. -/
inductive Call where
  | health
  | watchers
  | backfill (chain : String) (request : BackfillRequest)
  deriving DecidableEq, Repr

/-- Why a request is refused. -/
inductive Refusal where
  | notFound
  | methodNotAllowed
  | unsupportedMediaType
  /-- The body is no JSON. -/
  | malformed
  /-- The body is another record. -/
  | misshapen
  deriving DecidableEq, Repr

/-- The status code of a refusal. -/
def Refusal.code : Refusal → Nat
  | notFound => 404
  | methodNotAllowed => 405
  | unsupportedMediaType => 415
  | malformed => 400
  | misshapen => 422

/-- The refusal of a body with this fault. -/
def Refusal.ofFault : Json.Fault → Refusal
  | .malformed => malformed
  | .misshapen => misshapen

/-- The fields of the body of a backfill. -/
def backfillFields : List Json.Gradual.TypedField := [
  ⟨.required "blockchain", Json.Gradual.text⟩,
  ⟨.required "fromBlock", Json.Gradual.uint64⟩,
  ⟨.required "toBlock", Json.Gradual.uint64⟩,
  ⟨.defaulted "pageSize", Json.Gradual.uint64OrNull⟩,
  ⟨.defaulted "persist", Json.Gradual.bool⟩]

/-- The backfill that a body asks for. -/
def readBackfill (body : String) : Except Json.Fault Call := do
  let members ← Json.Gradual.record backfillFields body.toList
  let value (name : String) : Option Json := (members.find? (·.1 = name)).map (·.2)
  let read : Option Call := do
    let chain ← Json.required Json.string? (value "blockchain")
    let first ← Json.required Json.uint64? (value "fromBlock")
    let last ← Json.required Json.uint64? (value "toBlock")
    let pageSize ← Json.optional Json.uint64? (value "pageSize")
    let persist ← Json.defaulted false Json.bool? (value "persist")
    return .backfill chain ⟨⟨first, last⟩, pageSize, persist⟩
  match read with
  | some call => return call
  | none => throw .misshapen

namespace Request

/-- The characters of the scheme of an absolute address. -/
def isSchemeChar (c : Char) : Bool :=
  c.isAlphanum || c = '+' || c = '-' || c = '.'

/-- Where a target leads: its path, which is `/` where an absolute address has none. The host of an
absolute address and the query do not matter. -/
def route (r : Request) : String :=
  let path (cs : List Char) := cs.takeWhile fun c => c ≠ '?' && c ≠ '#'
  let cs := r.target.toList
  match cs.dropWhile isSchemeChar with
  | ':' :: '/' :: '/' :: rest =>
    match path (rest.dropWhile fun c => c ≠ '/' && c ≠ '?' && c ≠ '#') with
    | [] => "/"
    | found => String.ofList found
  | _ => String.ofList (path cs)

/-- What a request asks for. A `HEAD` stands for a `GET` whose answer has no body. -/
def call (r : Request) : Except Refusal Call := do
  let reads := r.method = "GET" ∨ r.method = "HEAD"
  match r.route with
  | "/health" => if reads then return .health else throw .methodNotAllowed
  | "/watchers" => if reads then return .watchers else throw .methodNotAllowed
  | "/backfill" =>
    if r.method ≠ "POST" then throw .methodNotAllowed
    if ¬(r.contentType.map MediaType.isJson).getD false then throw .unsupportedMediaType
    match readBackfill r.body with
    | .ok call => return call
    | .error fault => throw (.ofFault fault)
  | _ => throw .notFound

end Request

end RedemptionWatch.Admin
