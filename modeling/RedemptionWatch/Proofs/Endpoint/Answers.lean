import Mathlib.Tactic.SplitIfs
import RedemptionWatch.Endpoint.Call
import RedemptionWatch.Proofs.Endpoint.FetchLog
import RedemptionWatch.Proofs.Json.RoundTrip
import RedemptionWatch.Proofs.Plan.Ends

/-!
# Fixed answers

What plans come to if the answer to every request is fixed (`Fetch.against`): one lemma for each way
to put plans together, and one for each way to ask. `replyOf` is the reply of an endpoint that
answers a method call with some result, and the result is what comes of it. `recording` answers in
the same way and takes down what is asked.
-/

namespace RedemptionWatch

namespace Endpoint

variable {α β : Type}

/-- What a plan gives if every request is answered as `answer` says. -/
def Fetch.against (plan : Fetch α) (answer : Request → Reply) : Except FetchError α :=
  Plan.run (m := Id) (P := interface) answer plan.run

variable (answer : Request → Reply)

/-! ## Putting plans together -/

theorem run_bind (p : Plan interface α) (f : α → Plan interface β) :
    Plan.run (m := Id) (P := interface) answer (p.bind f) =
      Plan.run (m := Id) (P := interface) answer
        (f (Plan.run (m := Id) (P := interface) answer p)) := by
  induction p with
  | done a => rfl
  | ask q next ih => exact ih (answer q)

@[simp] theorem pure_against (a : α) : (pure a : Fetch α).against answer = .ok a := rfl

theorem bind_against (plan : Fetch α) (next : α → Fetch β) :
    (plan >>= next).against answer = match plan.against answer with
      | .ok a => (next a).against answer
      | .error e => .error e := by
  refine (run_bind answer plan.run _).trans ?_
  unfold Fetch.against
  cases Plan.run (m := Id) (P := interface) answer plan.run <;> rfl

theorem tryCatch_against (plan : Fetch α) (handle : FetchError → Fetch α) :
    (tryCatch plan handle).against answer = match plan.against answer with
      | .ok a => .ok a
      | .error e => (handle e).against answer := by
  refine (run_bind answer plan.run _).trans ?_
  unfold Fetch.against
  cases Plan.run (m := Id) (P := interface) answer plan.run <;> rfl

/-! ## Asking -/

theorem send_bind_against (q : Request) (next : Reply → Fetch β) :
    (send q >>= next).against answer = (next (answer q)).against answer :=
  rfl

theorem call_against (url : Url) (method : String) (params : Json) :
    (call url method params).against answer =
      match rpcAnswer method (answer (.post url method params)) with
      | .error e => .error e
      | .ok (.ok result) => .ok result
      | .ok (.error e) => .error e.refusal := by
  unfold call
  rw [send_bind_against]
  rcases rpcAnswer method (answer (.post url method params)) with e | (e | result) <;> rfl

theorem callAllowing_against (url : Url) (method : String) (params : Json)
    (emptyCodes : List Int64) :
    (callAllowing url method params emptyCodes).against answer =
      match rpcAnswer method (answer (.post url method params)) with
      | .error e => .error e
      | .ok (.ok result) => .ok (some result)
      | .ok (.error e) => if e.code ∈ emptyCodes then .ok none else .error e.refusal := by
  unfold callAllowing
  rw [send_bind_against]
  rcases rpcAnswer method (answer (.post url method params)) with e | (e | result)
  · rfl
  · dsimp only
    split_ifs <;> rfl
  · rfl

theorem getJson_against (base : Url) (path : String) (form : List (String × String)) :
    (getJson base path form).against answer =
      match base.asDirectory.join path with
      | .error reason => .error (.decode ("bad path " ++ path ++ ": " ++ reason.message))
      | .ok url => resource (url.withForm form) (answer (.get (url.withForm form))) := by
  unfold getJson
  cases base.asDirectory.join path with
  | error reason => rfl
  | ok url =>
    dsimp only
    rw [send_bind_against]
    cases resource (url.withForm form) (answer (.get (url.withForm form))) <;> rfl

/-! ## Answering -/

/-- A text that is read as a resource gives its value, the members sorted by key. -/
theorem resource_text (url : Url) {answer : Json} (h : answer.isPlain Json.Reader.maxDepth) :
    resource url (.answered 200 answer.text) = .ok answer.canonical := by
  have hread : readJson? answer.text = some answer.canonical := by
    unfold readJson?
    rw [Json.ofText?_text h]
    rfl
  unfold resource
  dsimp only
  rw [hread]
  rfl

/-- The reply of an endpoint that answers a method call with this result. -/
def replyOf (result : Json) : Reply :=
  .answered 200 (Json.object [("result", result)]).text

/-- Such a reply gives the result, its members sorted by key. -/
theorem rpcAnswer_replyOf (method : String) {result : Json} (h : result.isPlain 126) :
    rpcAnswer method (replyOf result) = .ok (.ok result.canonical) := by
  have hplain : (Json.object [("result", result)]).isPlain Json.Reader.maxDepth := by
    simpa [Json.isPlain, Json.membersArePlain, Json.Reader.maxDepth] using h
  have hread : readJson? (Json.object [("result", result)]).text =
      some (.object [("result", result.canonical)]) := by
    unfold readJson?
    rw [Json.ofText?_text hplain]
    simp [Json.canonical, Json.canonicalMembers, Json.insertMember]
  unfold rpcAnswer replyOf
  dsimp only
  rw [hread]
  rfl

theorem outcome_replyOf (method : String) {result : Json} (h : result.isPlain 126) :
    outcome method (replyOf result) = .ok result.canonical := by
  unfold outcome
  rw [rpcAnswer_replyOf _ h]

/-! ## Taking down what is asked -/

/-- Answers as `answer` says, and takes down what is asked. -/
def recording (q : interface.Request) : StateM (List Request) (interface.Answer q) :=
  fun asked => (answer q, asked ++ ([q] : List Request))

variable {answer} {asked : List Request}

/-- What a plan comes to does not depend on what is taken down. -/
theorem ends_recording_against (plan : Fetch α) :
    Plan.Ends (recording answer) plan.run asked fun result _ => result = plan.against answer := by
  unfold Fetch.against
  generalize plan.run = p
  induction p generalizing asked with
  | done a => rfl
  | ask q next ih => exact Plan.ends_ask.mpr (ih (answer q))

theorem send_bind_ends {q : Request} {next : Reply → Fetch β}
    {post : Except FetchError β → List Request → Prop} :
    Plan.Ends (recording answer) (send q >>= next).run asked post ↔
      Plan.Ends (recording answer) (next (answer q)).run (asked ++ [q]) post :=
  Iff.rfl

/-- Reading a resource asks for it once, if there is a path to it. -/
theorem ends_recording_getJson (base : Url) (path : String) (form : List (String × String)) :
    Plan.Ends (recording answer) (getJson base path form).run asked fun _ asked' =>
      asked' = asked ++
        ((base.asDirectory.join path).toOption.map fun url => .get (url.withForm form)).toList := by
  unfold getJson
  cases base.asDirectory.join path with
  | error reason => exact (List.append_nil asked).symm
  | ok url =>
    refine send_bind_ends.mpr ?_
    cases resource (url.withForm form) (answer (.get (url.withForm form))) <;> exact rfl

end Endpoint

end RedemptionWatch
