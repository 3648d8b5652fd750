import RedemptionWatch.Fetch
import RedemptionWatch.Json.Basic
import RedemptionWatch.Plan
import RedemptionWatch.Url.Basic

/-!
# Endpoints

An endpoint answers questions about a chain over the network. What is asked of it is a plan over
`Endpoint.interface`, so the network stays outside: a reply is a status with a text, or none at all.
-/

namespace RedemptionWatch.Endpoint

/-- What is sent to an endpoint. -/
inductive Request where
  /-- Calls a method. -/
  | post (url : Url) (method : String) (params : Json)
  /-- Reads a resource. -/
  | get (url : Url)
  deriving Repr, BEq

/-- What comes back. -/
inductive Reply where
  /-- The connection broke before there was an answer. -/
  | lost
  | answered (status : Nat) (body : String)
  deriving DecidableEq, Repr, Inhabited

/-- Endpoints as the surroundings of a plan. -/
def interface : Interface := ⟨Request, fun _ => Reply⟩

/-- A plan that asks endpoints and ends with a value or an error. -/
abbrev Fetch (α : Type) := ExceptT FetchError (Plan interface) α

/-- Sends one request. -/
def send (q : Request) : Fetch Reply :=
  ExceptT.lift (Plan.request (P := interface) q)

/-- An endpoint that cannot be reached. -/
def unreachable : Request → Reply := fun _ => .lost

end RedemptionWatch.Endpoint
