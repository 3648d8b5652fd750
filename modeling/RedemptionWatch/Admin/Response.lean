import RedemptionWatch.Admin.Request
import RedemptionWatch.Watch.Summary

/-!
# Administration responses
-/

namespace RedemptionWatch.Admin

/-- A response: its status code, and its body if that is JSON. -/
structure Response where
  status : Nat
  body : Option Json
  deriving Repr

namespace Response

/-- The version that the service reports. -/
def version : String := "0.1.0"

/-- The response to a refused request. -/
def refused (r : Refusal) : Response := ⟨r.code, none⟩

/-- The service is up. -/
def health : Response :=
  ⟨200, some (.object [("status", .string "healthy"), ("version", .string version)])⟩

/-- The watchers and the states that their loops show. -/
def watchers (ws : List (Watcher × WatchState)) : Response :=
  ⟨200, some (.array (ws.map fun (w, state) => .object [
    ("chain", .string w.chain),
    ("chain_id", .ofNat w.chainId.number.toNat),
    ("family", .string w.family),
    ("state", .string state.text)]))⟩

/-- The status code of an error. -/
def errorCode : WatchError → Nat
  | .unknownChain _ => 404
  | .invalidRange _ => 400
  | _ => 500

/-- How a backfill ended. One that broke off is left without a response. -/
def backfill : Except WatchError ScanReport → Except Breakdown Response
  | .ok report => .ok ⟨200, some report.json⟩
  | .error (.broken reason) => .error reason
  | .error e => .ok ⟨errorCode e, some (.object [("error", .string e.message)])⟩

/-- The response without its body if the request was a `HEAD`. -/
def answering (r : Request) (response : Response) : Response :=
  if r.method = "HEAD" then { response with body := none } else response

end Response

end RedemptionWatch.Admin
