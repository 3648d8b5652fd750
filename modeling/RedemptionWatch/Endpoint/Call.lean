import RedemptionWatch.Endpoint.Basic
import RedemptionWatch.Endpoint.Refusal
import RedemptionWatch.Json.Reader
import RedemptionWatch.Json.Record
import RedemptionWatch.Url.Parser

/-!
# Asking endpoints

Method calls (`call`, `callAllowing`) and reading of resources (`getJson`). An error object in an
answer to a method call counts before the status that it came with, for some endpoints send both.
-/

namespace RedemptionWatch.Endpoint

/-- The error object of an answer. A missing code is 0, a missing message is empty. -/
def rpcError? (answer : Json) : Option RpcError :=
  match answer.get? "error" with
  | none => none
  | some .null => none
  | some e => some {
      code := ((e.get? "code").bind Json.int64?).getD 0
      message := ((e.get? "message").bind Json.string?).getD "" }

/-- A text as a value whose members are sorted by key. -/
def readJson? (body : String) : Option Json :=
  (Json.ofText? body).map Json.canonical

/-- What a reply to a method call says: a result, an error object, or why there is neither. -/
def rpcAnswer (method : String) : Reply → Except FetchError (Except RpcError Json)
  | .lost => .error (.remote method)
  | .answered status body =>
    match readJson? body with
    | none => .error (if isSuccess status then .decode method else httpRefusal status body)
    | some answer =>
      match rpcError? answer with
      | some e => .ok (.error e)
      | none =>
        if isSuccess status then .ok (.ok ((answer.get? "result").getD .null))
        else .error (httpRefusal status body)

/-- The result of a method call, `none` for an error whose code is among those that stand for an
empty answer. -/
def callAllowing (url : Url) (method : String) (params : Json) (emptyCodes : List Int64) :
    Fetch (Option Json) := do
  match rpcAnswer method (← send (.post url method params)) with
  | .error e => throw e
  | .ok (.ok result) => return some result
  | .ok (.error e) => if e.code ∈ emptyCodes then return none else throw e.refusal

/-- The result of a method call. -/
def call (url : Url) (method : String) (params : Json) : Fetch Json := do
  match rpcAnswer method (← send (.post url method params)) with
  | .error e => throw e
  | .ok (.ok result) => return result
  | .ok (.error e) => throw e.refusal

/-- What a reply to the reading of a resource says. -/
def resource (url : Url) : Reply → Except FetchError Json
  | .lost => .error (.remote ("GET " ++ url.text))
  | .answered status body =>
    if isSuccess status then
      match readJson? body with
      | some answer => .ok answer
      | none => .error (.decode ("GET " ++ url.text))
    else .error (httpRefusal status body)

/-- The resource below `base` at this path, with a form as its query. -/
def getJson (base : Url) (path : String) (form : List (String × String)) : Fetch Json := do
  match base.asDirectory.join path with
  | .error reason => throw (.decode ("bad path " ++ path ++ ": " ++ reason.message))
  | .ok url =>
    let url := url.withForm form
    match resource url (← send (.get url)) with
    | .error e => throw e
    | .ok answer => return answer

end RedemptionWatch.Endpoint
