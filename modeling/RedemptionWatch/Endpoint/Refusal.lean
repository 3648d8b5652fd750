import RedemptionWatch.Endpoint.StatusCode
import RedemptionWatch.Fetch
import RedemptionWatch.Text.Blank

/-!
# Refusals

What an error answer of an endpoint means: that it is to be asked less often, or that it failed.
-/

namespace RedemptionWatch.Endpoint

/-- The error object of an answer to a method call. -/
structure RpcError where
  code : Int64
  message : String
  deriving DecidableEq, Repr

/-- The code for a limit that was exceeded. -/
def limitExceeded : Int64 := -32005

/-- The words by which a text says that a limit was exceeded. -/
def limitWords : List String := ["rate limit", "rate-limit", "too many requests"]

/-- Does a text say, in any letter case, that a limit was exceeded? -/
def isLimitText (s : String) : Bool :=
  let cs := (Text.asciiLower s).toList
  limitWords.any fun w => (Text.cut? w.toList cs).isSome

/-- What an error object means. -/
def RpcError.refusal (e : RpcError) : FetchError :=
  let text := toString e.code.toInt ++ ": " ++ e.message
  if e.code = limitExceeded ∨ isLimitText e.message then .throttled text
  else .remote ("rpc error " ++ text)

/-- What a status means that is no success. -/
def httpRefusal (status : Nat) (body : String) : FetchError :=
  let text := "HTTP " ++ statusText status
  if status = 429 ∨ isLimitText body then .throttled text
  else .remote (text ++ ": " ++ String.ofList (body.toList.take 200))

end RedemptionWatch.Endpoint
