import Mathlib.Tactic.SplitIfs
import RedemptionWatch.Proofs.Endpoint.Answers

/-!
# Answers with status 429

With status 429 an endpoint asks for fewer requests. A resource that is answered so is throttled,
whatever the body is. A method call is throttled too, unless the body holds an error object: this
counts before the status, and is throttled only if it says itself that a limit was exceeded. If its
code is among those that are allowed, the answer is even taken to be empty.
`Endpoint.tooManyRequests_isThrottled_iff` says exactly when an answer with status 429 is throttled.

Only what is throttled is tried again. So an endpoint that sends status 429 along with any other
error is not asked again (`Endpoint.tooManyRequests_not_isThrottled`).
-/

namespace RedemptionWatch.Endpoint

variable {α : Type}

/-- It failed since the endpoint asked for fewer requests. -/
def IsThrottled (result : Except FetchError α) : Prop :=
  ∃ reason, result = .error (.throttled reason)

/-- The error object that a body holds. -/
def rpcErrorOf? (body : String) : Option RpcError :=
  (readJson? body).bind rpcError?

/-- It says that a limit was exceeded, by its code or in words. -/
def RpcError.SaysLimit (e : RpcError) : Prop :=
  e.code = -32005 ∨ isLimitText e.message = true

/-! ## What a reply comes to -/

theorem not_isThrottled_ok (a : α) : ¬IsThrottled (.ok a) :=
  nofun

/-- Exactly what is throttled is tried again. -/
theorem isThrottled_error_iff {e : FetchError} :
    IsThrottled (.error e : Except FetchError α) ↔ e.action = .retryThenSkip := by
  cases e <;> simp [IsThrottled, FetchError.action]

theorem RpcError.action_refusal (e : RpcError) :
    e.refusal.action = .retryThenSkip ↔ e.SaysLimit := by
  unfold refusal SaysLimit limitExceeded
  dsimp only
  split_ifs with h <;> simp [h, FetchError.action]

theorem httpRefusal_tooManyRequests (body : String) :
    httpRefusal 429 body = .throttled ("HTTP " ++ statusText 429) := by
  unfold httpRefusal
  exact if_pos (Or.inl rfl)

/-- The status counts only if the body holds no error object. -/
theorem rpcAnswer_tooManyRequests (method body : String) :
    rpcAnswer method (.answered 429 body) = match rpcErrorOf? body with
      | some e => .ok (.error e)
      | none => .error (.throttled ("HTTP " ++ statusText 429)) := by
  have hsuccess : isSuccess 429 = false := rfl
  unfold rpcAnswer rpcErrorOf?
  simp only [hsuccess, httpRefusal_tooManyRequests]
  cases readJson? body with
  | none => rfl
  | some answer =>
    dsimp only [Option.bind_some]
    cases rpcError? answer <;> rfl

theorem resource_tooManyRequests (url : Url) (body : String) :
    resource url (.answered 429 body) = .error (.throttled ("HTTP " ++ statusText 429)) := by
  have hsuccess : ¬isSuccess 429 = true := by decide
  unfold resource
  dsimp only
  rw [if_neg hsuccess, httpRefusal_tooManyRequests]

/-- **Status 429.** A method call that is answered with this status is throttled if and only if an
error object in the body, if there is one, says that a limit was exceeded, and is not taken for an
empty answer. A resource is always throttled, once its address is known. What is throttled is what a
retry policy tries again. -/
theorem tooManyRequests_isThrottled_iff (body : String) :
    (∀ url method params,
      IsThrottled ((call url method params).against fun _ => .answered 429 body) ↔
        ∀ e, rpcErrorOf? body = some e → e.SaysLimit) ∧
    (∀ url method params emptyCodes,
      IsThrottled ((callAllowing url method params emptyCodes).against
          fun _ => .answered 429 body) ↔
        ∀ e, rpcErrorOf? body = some e → e.SaysLimit ∧ e.code ∉ emptyCodes) ∧
    (∀ base path form,
      IsThrottled ((getJson base path form).against fun _ => .answered 429 body) ↔
        ∃ url, base.asDirectory.join path = .ok url) ∧
    ∀ e : FetchError, IsThrottled (.error e : Except FetchError Json) ↔
      e.action = .retryThenSkip := by
  have hstatus : (FetchError.throttled ("HTTP " ++ statusText 429)).action = .retryThenSkip := rfl
  refine ⟨fun url method params => ?_, fun url method params emptyCodes => ?_,
    fun base path form => ?_, fun e => isThrottled_error_iff⟩
  · rw [call_against, rpcAnswer_tooManyRequests]
    cases rpcErrorOf? body with
    | none => simp [isThrottled_error_iff, hstatus]
    | some e => simp [isThrottled_error_iff, e.action_refusal]
  · rw [callAllowing_against, rpcAnswer_tooManyRequests]
    cases rpcErrorOf? body with
    | none => simp [isThrottled_error_iff, hstatus]
    | some e =>
      by_cases hempty : e.code ∈ emptyCodes
      · simp [hempty, not_isThrottled_ok]
      · simp [hempty, isThrottled_error_iff, e.action_refusal]
  · rw [getJson_against]
    cases base.asDirectory.join path with
    | error reason => simp [isThrottled_error_iff, FetchError.action]
    | ok url => simp [resource_tooManyRequests, isThrottled_error_iff, hstatus]

/-- An error that is none of the endpoint's limits. -/
def sampleRefusal : String :=
  "\x7b\"error\": \x7b\"code\": -32603, \"message\": \"internal error\"\x7d\x7d"

/-- The node that sends it. -/
def sampleNode : Url := ⟨"http", "", "", some (.domain "rpc.test"), none, "/", none, none⟩

/-- With status 429 it is a failure that is not tried again, or no failure at all. -/
theorem tooManyRequests_not_isThrottled :
    ((call sampleNode "eth_blockNumber" (.array [])).against
      fun _ => .answered 429 sampleRefusal) = .error (.remote "rpc error -32603: internal error") ∧
    ((callAllowing sampleNode "getBlock" (.array []) [-32603]).against
      fun _ => .answered 429 sampleRefusal) = .ok none ∧
    ¬∀ url method params body,
      IsThrottled ((call url method params).against fun _ => .answered 429 body) := by
  have hbody : rpcErrorOf? sampleRefusal = some ⟨-32603, "internal error"⟩ := by
    decide +kernel
  have hrefusal : (⟨-32603, "internal error"⟩ : RpcError).refusal =
      .remote "rpc error -32603: internal error" := by
    decide +kernel
  have hcall : ((call sampleNode "eth_blockNumber" (.array [])).against
      fun _ => .answered 429 sampleRefusal) =
        .error (.remote "rpc error -32603: internal error") := by
    rw [call_against, rpcAnswer_tooManyRequests, hbody, ← hrefusal]
  refine ⟨hcall, ?_, fun h => ?_⟩
  · rw [callAllowing_against, rpcAnswer_tooManyRequests, hbody]
    rfl
  · obtain ⟨reason, hreason⟩ := h sampleNode "eth_blockNumber" (.array []) sampleRefusal
    rw [hcall] at hreason
    nomatch hreason

end RedemptionWatch.Endpoint
