import RedemptionWatch.Endpoint.Call
import RedemptionWatch.Proofs.Plan.Log

/-!
# Calls and their failures

`Fetch.Gives` says which calls a fetch makes and what it comes to, whatever replies come in. It is
read along the fetch, one lemma for each way to put fetches together.

A call fails if its reply is no result (`failure?`). What becomes of that is up to the fetch:
`Fetch.Heeds` says that a failure for a fatal reason ends it and is its error, and that it has no
other errors but some of its own. A fetch that catches no errors heeds all failures. One that
catches all but the fatal ones heeds those (`Fetch.Heeds.catches`), and passes over the others.
-/

namespace RedemptionWatch.Endpoint

variable {α β : Type}

/-! ## Fetches with their calls -/

/-- The fetch makes these calls, if they are answered as in the log, and comes to this result. -/
def Fetch.Gives (plan : Fetch α) (log : Log interface) (result : Except FetchError α) : Prop :=
  plan.run.Logs log (.done result)

namespace Fetch

variable {log log' : Log interface}

theorem gives_pure {a : α} {result : Except FetchError α} :
    (pure a : Fetch α).Gives log result ↔ log = [] ∧ result = .ok a := by
  constructor
  · intro h
    cases h
    exact ⟨rfl, rfl⟩
  · rintro ⟨rfl, rfl⟩
    exact .nil _

theorem gives_throw {reason : FetchError} {result : Except FetchError α} :
    (throw reason : Fetch α).Gives log result ↔ log = [] ∧ result = .error reason := by
  constructor
  · intro h
    cases h
    exact ⟨rfl, rfl⟩
  · rintro ⟨rfl, rfl⟩
    exact .nil _

theorem gives_ofExcept {x result : Except FetchError α} :
    (MonadExcept.ofExcept x : Fetch α).Gives log result ↔ log = [] ∧ result = x := by
  cases x
  · exact gives_throw
  · exact gives_pure

theorem gives_send {q : Request} {result : Except FetchError Reply} :
    (send q).Gives log result ↔ ∃ reply, log = [⟨q, reply⟩] ∧ result = .ok reply := by
  constructor
  · intro h
    cases h with
    | ask hrest =>
      cases hrest
      exact ⟨_, rfl, rfl⟩
  · rintro ⟨reply, rfl, rfl⟩
    exact .ask (.nil _)

theorem gives_bind {plan : Fetch α} {next : α → Fetch β} {result : Except FetchError β} :
    (plan >>= next).Gives log result ↔
      (∃ reason, result = .error reason ∧ plan.Gives log (.error reason)) ∨
      ∃ a first rest, log = first ++ rest ∧ plan.Gives first (.ok a) ∧
        (next a).Gives rest result := by
  constructor
  · intro h
    obtain ⟨reason | a, first, rest, rfl, hfirst, hrest⟩ := Plan.Logs.of_bind h
    · cases hrest
      rw [List.append_nil]
      exact Or.inl ⟨reason, rfl, hfirst⟩
    · exact Or.inr ⟨a, first, rest, rfl, hfirst, hrest⟩
  · rintro (⟨reason, rfl, h⟩ | ⟨a, first, rest, rfl, hfirst, hrest⟩)
    · rw [← List.append_nil log]
      exact Plan.Logs.bind h (.nil _)
    · exact Plan.Logs.bind hfirst hrest

theorem gives_map {f : α → β} {plan : Fetch α} {result : Except FetchError β} :
    (f <$> plan).Gives log result ↔
      ∃ outcome : Except FetchError α, plan.Gives log outcome ∧ result = f <$> outcome := by
  have hmap : f <$> plan = plan >>= fun a => pure (f a) := by
    refine congrArg (Plan.bind plan.run) (funext fun outcome => ?_)
    cases outcome <;> rfl
  rw [hmap, gives_bind]
  constructor
  · rintro (⟨reason, rfl, h⟩ | ⟨a, first, rest, rfl, hfirst, hrest⟩)
    · exact ⟨.error reason, h, rfl⟩
    · obtain ⟨rfl, rfl⟩ := gives_pure.mp hrest
      rw [List.append_nil]
      exact ⟨.ok a, hfirst, rfl⟩
  · rintro ⟨reason | a, h, rfl⟩
    · exact Or.inl ⟨reason, rfl, h⟩
    · exact Or.inr ⟨a, log, [], (List.append_nil log).symm, h, gives_pure.mpr ⟨rfl, rfl⟩⟩

theorem gives_bind_ok {plan : Fetch α} {next : α → Fetch β} {b : β} :
    (plan >>= next).Gives log (.ok b) ↔ ∃ a first rest, log = first ++ rest ∧
      plan.Gives first (.ok a) ∧ (next a).Gives rest (.ok b) := by
  rw [gives_bind]
  exact or_iff_right fun ⟨_, h, _⟩ => nomatch h

theorem gives_tryCatch {plan : Fetch α} {handle : FetchError → Fetch α}
    {result : Except FetchError α} : (tryCatch plan handle).Gives log result ↔
      (∃ a, result = .ok a ∧ plan.Gives log (.ok a)) ∨
      ∃ reason first rest, log = first ++ rest ∧ plan.Gives first (.error reason) ∧
        (handle reason).Gives rest result := by
  constructor
  · intro h
    obtain ⟨reason | a, first, rest, rfl, hfirst, hrest⟩ := Plan.Logs.of_bind h
    · exact Or.inr ⟨reason, first, rest, rfl, hfirst, hrest⟩
    · cases hrest
      rw [List.append_nil]
      exact Or.inl ⟨a, rfl, hfirst⟩
  · rintro (⟨a, rfl, h⟩ | ⟨reason, first, rest, rfl, hfirst, hrest⟩)
    · rw [← List.append_nil log]
      exact Plan.Logs.bind h (.nil _)
    · exact Plan.Logs.bind hfirst hrest

/-- What the one fetch comes to, the other one comes to as well, but for a fixed value in place of
an error that is not fatal. -/
def Catches (fatal : FetchError → Prop) (instead : α) (plan caught : Fetch α) : Prop :=
  ∀ {log result}, caught.Gives log result →
    (plan.Gives log result ∧ ∀ reason, result = .error reason → fatal reason) ∨
    ∃ reason, ¬fatal reason ∧ plan.Gives log (.error reason) ∧ result = .ok instead

theorem catches_tryCatch {fatal : FetchError → Prop} {instead : α} {plan : Fetch α}
    {handle : FetchError → Fetch α} (hthrow : ∀ reason, fatal reason → handle reason = throw reason)
    (hpure : ∀ reason, ¬fatal reason → handle reason = pure instead) :
    Catches fatal instead plan (tryCatch plan handle) := by
  intro log result h
  rcases gives_tryCatch.mp h with ⟨a, rfl, hends⟩ | ⟨reason, first, rest, rfl, hfirst, hrest⟩
  · exact Or.inl ⟨hends, nofun⟩
  · by_cases hfatal : fatal reason
    · rw [hthrow reason hfatal] at hrest
      obtain ⟨rfl, rfl⟩ := gives_throw.mp hrest
      rw [List.append_nil]
      refine Or.inl ⟨hfirst, fun reason' h => ?_⟩
      cases h
      exact hfatal
    · rw [hpure reason hfatal] at hrest
      obtain ⟨rfl, rfl⟩ := gives_pure.mp hrest
      rw [List.append_nil]
      exact Or.inr ⟨reason, hfatal, hfirst, rfl⟩

end Fetch

/-! ## Calls -/

/-- What a method call comes to by its reply. -/
def outcome (method : String) (reply : Reply) : Except FetchError Json :=
  match rpcAnswer method reply with
  | .error reason => .error reason
  | .ok (.ok result) => .ok result
  | .ok (.error e) => .error e.refusal

/-- Why there is no value. -/
def errorOf? : Except FetchError α → Option FetchError
  | .error reason => some reason
  | .ok _ => none

theorem errorOf?_eq_some {result : Except FetchError α} {reason : FetchError} :
    errorOf? result = some reason ↔ result = .error reason := by
  cases result <;> simp [errorOf?]

/-- Why a call failed. An error object is a failure, whatever its code stands for. -/
def failure? : Event interface → Option FetchError
  | ⟨.post _ method _, reply⟩ => errorOf? (outcome method reply)
  | ⟨.get url, reply⟩ => errorOf? (resource url reply)

theorem RpcError.refusal_ne_cancelled (e : RpcError) : e.refusal ≠ .cancelled := by
  unfold RpcError.refusal
  dsimp only
  split <;> nofun

theorem httpRefusal_ne_cancelled (status : Nat) (body : String) :
    httpRefusal status body ≠ .cancelled := by
  unfold httpRefusal
  dsimp only
  split <;> nofun

theorem rpcAnswer_ne_cancelled (method : String) (reply : Reply) :
    rpcAnswer method reply ≠ .error .cancelled := by
  unfold rpcAnswer
  split
  · nofun
  · split
    · split
      · nofun
      · exact fun h => httpRefusal_ne_cancelled _ _ (Except.error.inj h)
    · split
      · nofun
      · split
        · nofun
        · exact fun h => httpRefusal_ne_cancelled _ _ (Except.error.inj h)

theorem resource_ne_cancelled (url : Url) (reply : Reply) :
    resource url reply ≠ .error .cancelled := by
  unfold resource
  split
  · nofun
  · split
    · split <;> nofun
    · exact fun h => httpRefusal_ne_cancelled _ _ (Except.error.inj h)

/-- No call is answered by a cancellation. -/
theorem failure?_ne_cancelled (e : Event interface) : failure? e ≠ some .cancelled := by
  intro h
  rcases e with ⟨⟨url, method, params⟩ | url, reply⟩
  · have hcancelled : outcome method reply = .error .cancelled := errorOf?_eq_some.mp h
    unfold outcome at hcancelled
    split at hcancelled
    case h_1 hanswer =>
      cases hcancelled
      exact rpcAnswer_ne_cancelled method reply hanswer
    case h_2 => exact nomatch hcancelled
    case h_3 e _ => exact e.refusal_ne_cancelled (Except.error.inj hcancelled)
  · exact resource_ne_cancelled url reply (errorOf?_eq_some.mp h)

theorem call_eq (url : Url) (method : String) (params : Json) :
    call url method params = (do
      let reply ← send (.post url method params)
      MonadExcept.ofExcept (outcome method reply)) := by
  unfold call
  congr 1
  funext reply
  unfold outcome
  rcases rpcAnswer method reply with e | (e | result) <;> rfl

/-- A request is sent once, and its reply says what comes of it. -/
theorem Fetch.gives_send_bind_ofExcept {q : Request} (f : Reply → Except FetchError α)
    {log : Log interface} {result : Except FetchError α} :
    (send q >>= fun reply => MonadExcept.ofExcept (f reply) : Fetch α).Gives log result ↔
      ∃ reply, log = [⟨q, reply⟩] ∧ result = f reply := by
  rw [gives_bind]
  constructor
  · rintro (⟨reason, -, h⟩ | ⟨reply, first, rest, rfl, hfirst, hrest⟩)
    · obtain ⟨reply, -, h⟩ := gives_send.mp h
      exact nomatch h
    · obtain ⟨_, rfl, h⟩ := gives_send.mp hfirst
      cases h
      obtain ⟨rfl, rfl⟩ := gives_ofExcept.mp hrest
      exact ⟨reply, rfl, rfl⟩
  · rintro ⟨reply, rfl, rfl⟩
    exact Or.inr ⟨reply, _, [], rfl, gives_send.mpr ⟨reply, rfl, rfl⟩,
      gives_ofExcept.mpr ⟨rfl, rfl⟩⟩

theorem Fetch.gives_call {url : Url} {method : String} {params : Json} {log : Log interface}
    {result : Except FetchError Json} : (call url method params).Gives log result ↔
      ∃ reply, log = [⟨.post url method params, reply⟩] ∧ result = outcome method reply := by
  rw [call_eq]
  exact gives_send_bind_ofExcept _

/-- Reading a resource asks for it once, if there is a path to it. -/
theorem Fetch.gives_getJson {base url : Url} {path : String} {form : List (String × String)}
    (hpath : base.asDirectory.join path = .ok url) {log : Log interface}
    {result : Except FetchError Json} : (getJson base path form).Gives log result ↔
      ∃ reply, log = [⟨.get (url.withForm form), reply⟩] ∧
        result = resource (url.withForm form) reply := by
  have heq : getJson base path form = (do
      let reply ← send (.get (url.withForm form))
      MonadExcept.ofExcept (resource (url.withForm form) reply)) := by
    unfold getJson
    rw [hpath]
    refine bind_congr fun reply => ?_
    cases resource (url.withForm form) reply <;> rfl
  rw [heq]
  exact gives_send_bind_ofExcept _

/-! ## Fetches that end with failures -/

/-- A call that fails for a fatal reason ends the fetch, which has this reason as its error, and
every error of the fetch is one of its own or comes about so. -/
structure Fetch.Heeds (fatal own : FetchError → Prop) (plan : Fetch α) : Prop where
  ends : ∀ {log result before e after reason}, plan.Gives log result → log = before ++ e :: after →
    failure? e = some reason → fatal reason → after = [] ∧ result = .error reason
  cause : ∀ {log reason}, plan.Gives log (.error reason) →
    own reason ∨ fatal reason ∧ ∃ before e, log = before ++ [e] ∧ failure? e = some reason

namespace Fetch.Heeds

variable {fatal own : FetchError → Prop}

theorem pure (a : α) : (pure a : Fetch α).Heeds fatal own where
  ends h hlog := by
    obtain ⟨rfl, -⟩ := gives_pure.mp h
    exact absurd hlog (by simp)
  cause h := nomatch (gives_pure.mp h).2

theorem throw {reason : FetchError} (hown : own reason) :
    (throw reason : Fetch α).Heeds fatal own where
  ends h hlog := by
    obtain ⟨rfl, -⟩ := gives_throw.mp h
    exact absurd hlog (by simp)
  cause h := by
    cases (gives_throw.mp h).2
    exact Or.inl hown

theorem bind {plan : Fetch α} {next : α → Fetch β} (hplan : plan.Heeds fatal own)
    (hnext : ∀ a, (next a).Heeds fatal own) : (plan >>= next).Heeds fatal own where
  ends h hlog hfailure hfatal := by
    rcases gives_bind.mp h with ⟨reason, rfl, hends⟩ | ⟨a, first, rest, rfl, hfirst, hrest⟩
    · obtain ⟨hnil, hreason⟩ := hplan.ends hends hlog hfailure hfatal
      cases hreason
      exact ⟨hnil, rfl⟩
    · rcases Log.append_eq_append_cons hlog with ⟨before, -, hrest'⟩ | ⟨after, hfirst', -⟩
      · exact (hnext a).ends hrest hrest' hfailure hfatal
      · exact nomatch (hplan.ends hfirst hfirst' hfailure hfatal).2
  cause h := by
    rcases gives_bind.mp h with ⟨reason, hreason, hends⟩ | ⟨a, first, rest, rfl, -, hrest⟩
    · cases hreason
      exact hplan.cause hends
    · rcases (hnext a).cause hrest with hown | ⟨hfatal, before, e, rfl, hfailure⟩
      · exact Or.inl hown
      · exact Or.inr ⟨hfatal, first ++ before, e, (List.append_assoc ..).symm, hfailure⟩

/-- A method call heeds all failures. -/
theorem call (url : Url) (method : String) (params : Json) :
    (call url method params).Heeds (fun _ => True) own where
  ends h hlog hfailure _ := by
    obtain ⟨reply, rfl, rfl⟩ := gives_call.mp h
    obtain ⟨rfl, hlast⟩ | ⟨-, hnil⟩ := List.append_eq_singleton_iff.mp hlog.symm
    · cases hlast
      exact ⟨rfl, errorOf?_eq_some.mp hfailure⟩
    · exact nomatch hnil
  cause h := by
    obtain ⟨reply, rfl, hresult⟩ := gives_call.mp h
    exact Or.inr ⟨trivial, [], _, rfl, errorOf?_eq_some.mpr hresult.symm⟩

/-- Failures that no longer count as fatal are errors of its own. -/
theorem mono {plan : Fetch α} {fatal' own' : FetchError → Prop} (h : plan.Heeds fatal own)
    (hfatal : ∀ reason, fatal' reason → fatal reason)
    (hown : ∀ reason, own reason ∨ ¬fatal' reason → own' reason) : plan.Heeds fatal' own' where
  ends hgives hlog hfailure hreason := h.ends hgives hlog hfailure (hfatal _ hreason)
  cause {log reason} hgives := by
    rcases h.cause hgives with hreason | ⟨-, hfailure⟩
    · exact Or.inl (hown reason (Or.inl hreason))
    · by_cases hreason : fatal' reason
      · exact Or.inr ⟨hreason, hfailure⟩
      · exact Or.inl (hown reason (Or.inr hreason))

theorem map {f : α → β} {plan : Fetch α} (h : plan.Heeds fatal own) :
    (f <$> plan).Heeds fatal own where
  ends hgives hlog hfailure hfatal := by
    obtain ⟨outcome, hplan, rfl⟩ := gives_map.mp hgives
    obtain ⟨hnil, rfl⟩ := h.ends hplan hlog hfailure hfatal
    exact ⟨hnil, rfl⟩
  cause hgives := by
    obtain ⟨outcome, hplan, houtcome⟩ := gives_map.mp hgives
    cases outcome with
    | ok a => exact nomatch houtcome
    | error reason =>
      cases houtcome
      exact h.cause hplan

/-- If all errors but the fatal ones are caught, the fatal failures are heeded. -/
theorem catches {plan caught : Fetch α} {instead : α} (hcatches : Catches fatal instead plan caught)
    (hplan : plan.Heeds (fun _ => True) own) (hown : ∀ reason, own reason → ¬fatal reason) :
    caught.Heeds fatal (fun _ => False) where
  ends h hlog hfailure hfatal := by
    rcases hcatches h with ⟨hends, -⟩ | ⟨reason, hmild, hends, -⟩
    · exact hplan.ends hends hlog hfailure trivial
    · cases (hplan.ends hends hlog hfailure trivial).2
      exact absurd hfatal hmild
  cause h := by
    rcases hcatches h with ⟨hends, hfatal⟩ | ⟨-, -, -, hresult⟩
    · rcases hplan.cause hends with hreason | ⟨-, hfailure⟩
      · exact absurd (hfatal _ rfl) (hown _ hreason)
      · exact Or.inr ⟨hfatal _ rfl, hfailure⟩
    · exact nomatch hresult

end Fetch.Heeds

end RedemptionWatch.Endpoint
