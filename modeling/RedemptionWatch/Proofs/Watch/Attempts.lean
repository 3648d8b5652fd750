import Mathlib.Data.List.Basic
import RedemptionWatch.Proofs.Endpoint.Throttling
import RedemptionWatch.Proofs.Plan.Log
import RedemptionWatch.Watch.Retry

/-!
# Calls under a retry policy

An operation under a retry policy is called, and called again after a pause as long as its outcome
is throttled and calls are left. For any row of outcomes the number of calls is
`Watch.CallsFor`: up to the first outcome that is not throttled, or as many as the policy has.
`RetryPolicy.execute_spec` says what is asked then, event by event, and what comes of it, whether
the pauses elapse or one of them is interrupted; and that there is no other run.

The policy counts its calls downwards. Counted upwards in 32 bits, as failures come in, they are
`Watch.countedAttempt`, which has no result if the counter overflows. It never does
(`RetryPolicy.countedAttempt_eq`).
-/

namespace RedemptionWatch

open Endpoint (IsThrottled)

variable {α : Type}

namespace Watch

/-- A pause that has ended. -/
def paused (delay : Nat) (pauseEnd : PauseEnd) : Event interface :=
  ⟨.pause delay, pauseEnd⟩

/-- So many calls, each of which asked what it did, with a pause between each two. -/
def callsLog (delay : Nat) (asked : ℕ → Log interface) (calls : ℕ) : Log interface :=
  [paused delay .elapsed].intercalate ((List.range calls).map asked)

/-- The calls that are made if they have these outcomes, in this order: all but the last are
throttled, and the last is not, or no call is left. -/
structure CallsFor (most : ℕ) (outcomes : ℕ → Except FetchError α) (calls : ℕ) : Prop where
  pos : 1 ≤ calls
  le : calls ≤ most
  throttled : ∀ i, i + 1 < calls → IsThrottled (outcomes i)
  settled : calls = most ∨ ¬IsThrottled (outcomes (calls - 1))

theorem callsLog_one (delay : Nat) (asked : ℕ → Log interface) :
    callsLog delay asked 1 = asked 0 := by
  simp [callsLog, List.intercalate]

/-- After the first call come a pause and the other calls. -/
theorem callsLog_succ (delay : Nat) (asked : ℕ → Log interface) {calls : ℕ} (h : 1 ≤ calls) :
    callsLog delay asked (calls + 1) =
      asked 0 ++ paused delay .elapsed :: callsLog delay (fun i => asked (i + 1)) calls := by
  have hne : (List.range calls).map (fun i => asked (i + 1)) ≠ [] := by
    rw [Ne, List.map_eq_nil_iff, List.range_eq_nil]
    omega
  have hmap : (List.range (calls + 1)).map asked =
      asked 0 :: (List.range calls).map fun i => asked (i + 1) := by
    rw [List.range_succ_eq_map, List.map_cons, List.map_map]
    rfl
  unfold callsLog
  rw [hmap, List.intercalate_cons_of_ne_nil hne, List.append_assoc]
  rfl

namespace CallsFor

variable {most calls : ℕ} {outcomes : ℕ → Except FetchError α}

theorem one (h : most = 1 ∨ ¬IsThrottled (outcomes 0)) (hmost : 1 ≤ most) :
    CallsFor most outcomes 1 where
  pos := Nat.le_refl 1
  le := hmost
  throttled i hi := absurd hi (by omega)
  settled := h.imp_left Eq.symm

theorem succ (hfirst : IsThrottled (outcomes 0))
    (h : CallsFor most (fun i => outcomes (i + 1)) calls) :
    CallsFor (most + 1) outcomes (calls + 1) where
  pos := Nat.le_add_left 1 calls
  le := Nat.succ_le_succ h.le
  throttled i hi := by
    cases i with
    | zero => exact hfirst
    | succ i => exact h.throttled i (by omega)
  settled := by
    have hlast : calls - 1 + 1 = calls := Nat.sub_add_cancel h.pos
    have hsettled := h.settled
    rw [hlast] at hsettled
    exact hsettled.imp_left (congrArg (· + 1))

end CallsFor

/-! ## Runs of attempts -/

section Runs

variable {ask more : Act (Except FetchError α)} {delay retries : Nat}
  {log asked rest : Log interface} {outcome result : Except FetchError α}

/-- What follows a call that is not the last one: its outcome, or a pause and then `more`. -/
def afterCall (delay : Nat) (more : Act (Except FetchError α)) :
    Except FetchError α → Act (Except FetchError α)
  | .error (.throttled _) => do
    match ← pause delay with
    | .interrupted => return .error .cancelled
    | .elapsed => more
  | outcome => return outcome

theorem attempt_succ (ask : Act (Except FetchError α)) (delay retries : Nat) :
    attempt ask delay (retries + 1) = ask >>= afterCall delay (attempt ask delay retries) := by
  refine congrArg (ask >>= ·) (funext fun outcome => ?_)
  cases outcome with
  | ok a => rfl
  | error e => cases e <;> rfl

theorem afterCall_settled (h : ¬IsThrottled outcome) :
    afterCall delay more outcome = .done outcome := by
  cases outcome with
  | ok a => rfl
  | error e =>
    cases e with
    | throttled reason => exact absurd ⟨reason, rfl⟩ h
    | remote reason => rfl
    | decode reason => rfl
    | cancelled => rfl

/-- A throttled call is followed by a pause; if it elapses, `more` follows. -/
theorem afterCall_logs_iff (h : IsThrottled outcome) :
    (afterCall delay more outcome).Logs log (.done result) ↔
      (log = [paused delay .interrupted] ∧ result = .error .cancelled) ∨
        ∃ rest, log = paused delay .elapsed :: rest ∧ more.Logs rest (.done result) := by
  obtain ⟨reason, rfl⟩ := h
  constructor
  · intro h
    cases h with
    | @ask _ _ pauseEnd _ _ h =>
      cases pauseEnd with
      | elapsed => exact .inr ⟨_, rfl, h⟩
      | interrupted =>
        cases h
        exact .inl ⟨rfl, rfl⟩
  · rintro (⟨rfl, rfl⟩ | ⟨rest, rfl, hrest⟩)
    · exact .ask (.nil _)
    · exact .ask hrest

/-- What is not throttled is passed on. -/
theorem attempt_settled (h : ask.Logs asked (.done outcome)) (hsettled : ¬IsThrottled outcome) :
    (attempt ask delay retries).Logs asked (.done outcome) := by
  cases retries with
  | zero => exact h
  | succ retries =>
    have hafter :
        (afterCall delay (attempt ask delay retries) outcome).Logs [] (.done outcome) := by
      rw [afterCall_settled hsettled]
      exact .nil _
    have hlog := h.bind hafter
    rwa [← attempt_succ, List.append_nil] at hlog

/-- After a throttled call and its pause, the attempts go on as if they began. -/
theorem attempt_elapsed (h : ask.Logs asked (.done outcome)) (hthrottled : IsThrottled outcome)
    (hrest : (attempt ask delay retries).Logs rest (.done result)) :
    (attempt ask delay (retries + 1)).Logs (asked ++ paused delay .elapsed :: rest)
      (.done result) := by
  rw [attempt_succ]
  exact h.bind ((afterCall_logs_iff hthrottled).mpr (.inr ⟨rest, rfl, hrest⟩))

/-- An interrupted pause ends the attempts. -/
theorem attempt_interrupted (h : ask.Logs asked (.done outcome))
    (hthrottled : IsThrottled outcome) :
    (attempt ask delay (retries + 1)).Logs (asked ++ [paused delay .interrupted])
      (.done (.error .cancelled)) := by
  rw [attempt_succ]
  exact h.bind ((afterCall_logs_iff hthrottled).mpr (.inl ⟨rfl, rfl⟩))

/-- With an attempt left, a run is a call, and after it either nothing more, or an interrupted
pause, or a pause that elapses and a run of one attempt less. -/
theorem attempt_succ_logs (h : (attempt ask delay (retries + 1)).Logs log (.done result)) :
    ∃ asked outcome, ask.Logs asked (.done outcome) ∧
      ((¬IsThrottled outcome ∧ log = asked ∧ result = outcome) ∨
        (IsThrottled outcome ∧ log = asked ++ [paused delay .interrupted] ∧
          result = .error .cancelled) ∨
        ∃ rest, IsThrottled outcome ∧ log = asked ++ paused delay .elapsed :: rest ∧
          (attempt ask delay retries).Logs rest (.done result)) := by
  rw [attempt_succ] at h
  obtain ⟨outcome, asked, after, rfl, hask, hafter⟩ := h.of_bind
  refine ⟨asked, outcome, hask, ?_⟩
  by_cases hthrottled : IsThrottled outcome
  · rcases (afterCall_logs_iff hthrottled).mp hafter with ⟨rfl, rfl⟩ | ⟨rest, rfl, hrest⟩
    · exact .inr (.inl ⟨hthrottled, rfl, rfl⟩)
    · exact .inr (.inr ⟨rest, hthrottled, rfl, hrest⟩)
  · rw [afterCall_settled hthrottled] at hafter
    cases hafter
    exact .inl ⟨hthrottled, List.append_nil asked, rfl⟩

end Runs

/-- However the outcomes are, there is a number of calls for them; these calls, with pauses that
elapse, are a run, and it may be cut short in any of its pauses. -/
theorem attempt_runs (ask : Act (Except FetchError α)) (delay retries : Nat)
    (outcomes : ℕ → Except FetchError α) :
    ∃ calls, CallsFor (retries + 1) outcomes calls ∧
      ∀ asked : ℕ → Log interface, (∀ i < calls, ask.Logs (asked i) (.done (outcomes i))) →
        (attempt ask delay retries).Logs (callsLog delay asked calls)
            (.done (outcomes (calls - 1))) ∧
          ∀ j, 1 ≤ j → j < calls →
            (attempt ask delay retries).Logs
              (callsLog delay asked j ++ [paused delay .interrupted])
              (.done (.error .cancelled)) := by
  induction retries generalizing outcomes with
  | zero =>
    refine ⟨1, .one (.inl rfl) (Nat.le_refl 1), fun asked h => ⟨?_, fun j hj hlt => by omega⟩⟩
    rw [callsLog_one]
    exact h 0 Nat.one_pos
  | succ retries ih =>
    by_cases hfirst : IsThrottled (outcomes 0)
    · obtain ⟨calls, hcalls, hruns⟩ := ih fun i => outcomes (i + 1)
      refine ⟨calls + 1, hcalls.succ hfirst, fun asked h => ?_⟩
      have hask := h 0 (Nat.succ_pos calls)
      obtain ⟨hend, hcut⟩ := hruns (fun i => asked (i + 1)) fun i hi => h (i + 1) (by omega)
      rw [Nat.sub_add_cancel hcalls.pos] at hend
      refine ⟨?_, fun j hj hlt => ?_⟩
      · rw [callsLog_succ delay asked hcalls.pos]
        exact attempt_elapsed hask hfirst hend
      · obtain rfl | hlater := Nat.eq_or_lt_of_le hj
        · rw [callsLog_one]
          exact attempt_interrupted hask hfirst
        · obtain ⟨j, rfl⟩ := Nat.exists_eq_add_of_le' hj
          rw [callsLog_succ delay asked (by omega), List.append_assoc]
          exact attempt_elapsed hask hfirst (hcut j (by omega) (by omega))
    · refine ⟨1, .one (.inr hfirst) (by omega), fun asked h => ⟨?_, fun j hj hlt => by omega⟩⟩
      rw [callsLog_one]
      exact attempt_settled (h 0 Nat.one_pos) hfirst

/-- A row with one more element in front. -/
def preceded {β : Type} (b : β) (row : ℕ → β) : ℕ → β
  | 0 => b
  | i + 1 => row i

/-- There are no other runs. -/
theorem exists_calls_of_logs {ask : Act (Except FetchError α)} {delay retries : Nat}
    {log : Log interface} {result : Except FetchError α}
    (h : (attempt ask delay retries).Logs log (.done result)) :
    ∃ (asked : ℕ → Log interface) (outcomes : ℕ → Except FetchError α) (calls : ℕ),
      (∀ i < calls, ask.Logs (asked i) (.done (outcomes i))) ∧
        ((CallsFor (retries + 1) outcomes calls ∧ log = callsLog delay asked calls ∧
            result = outcomes (calls - 1)) ∨
          (1 ≤ calls ∧ calls < retries + 1 ∧ (∀ i < calls, IsThrottled (outcomes i)) ∧
            log = callsLog delay asked calls ++ [paused delay .interrupted] ∧
            result = .error .cancelled)) := by
  induction retries generalizing log with
  | zero =>
    refine ⟨fun _ => log, fun _ => result, 1, fun i _ => h,
      .inl ⟨.one (.inl rfl) (Nat.le_refl 1), ?_, rfl⟩⟩
    rw [callsLog_one]
  | succ retries ih =>
    obtain ⟨first, outcome, hask, ⟨hsettled, rfl, rfl⟩ | ⟨hthrottled, rfl, rfl⟩ |
      ⟨rest, hthrottled, rfl, hrest⟩⟩ := attempt_succ_logs h
    · refine ⟨fun _ => log, fun _ => result, 1, fun i _ => hask,
        .inl ⟨.one (.inr hsettled) (by omega), ?_, rfl⟩⟩
      rw [callsLog_one]
    · refine ⟨fun _ => first, fun _ => outcome, 1, fun i _ => hask,
        .inr ⟨Nat.le_refl 1, by omega, fun i _ => hthrottled, ?_, rfl⟩⟩
      rw [callsLog_one]
    · obtain ⟨asked, outcomes, calls, hasks, hrun⟩ := ih hrest
      refine ⟨preceded first asked, preceded outcome outcomes, calls + 1, ?_, ?_⟩
      · intro i hi
        cases i with
        | zero => exact hask
        | succ i => exact hasks i (by omega)
      · rcases hrun with ⟨hcalls, rfl, rfl⟩ | ⟨hpos, hlt, hall, rfl, rfl⟩
        · refine .inl ⟨.succ hthrottled hcalls, ?_, ?_⟩
          · rw [callsLog_succ delay _ hcalls.pos]
            rfl
          · obtain ⟨calls, rfl⟩ := Nat.exists_eq_add_of_le' hcalls.pos
            rfl
        · refine .inr ⟨by omega, by omega, ?_, ?_, rfl⟩
          · intro i hi
            cases i with
            | zero => exact hthrottled
            | succ i => exact hall i (by omega)
          · rw [callsLog_succ delay _ hpos, List.append_assoc]
            rfl

/-! ## The counter -/

theorem toNat_add_one {n : UInt32} (h : n.toNat + 1 < UInt32.size) :
    (n + 1).toNat = n.toNat + 1 := by
  rw [UInt32.toNat_add]
  exact Nat.mod_eq_of_lt h

/-- Asks with a counter of 32 bits, which stands at the number of calls that have failed. After each
call it is asked for the next number; there is no result if that overflows. -/
def countedAttempt (ask : Act (Except FetchError α)) (delay : Nat) (most failed : UInt32) :
    Act (Option (Except FetchError α)) := do
  let outcome ← ask
  if _hfits : failed.toNat + 1 < UInt32.size then
    match outcome with
    | .error (.throttled reason) =>
      if failed + 1 < most then
        match ← pause delay with
        | .interrupted => return some (.error .cancelled)
        | .elapsed => countedAttempt ask delay most (failed + 1)
      else return some (.error (.throttled reason))
    | outcome => return some outcome
  else return none
termination_by UInt32.size - failed.toNat
decreasing_by
  rw [toNat_add_one _hfits]
  omega

/-- The counter stands at the calls that the policy has less those that are left, so it does not
overflow. -/
theorem countedAttempt_eq (ask : Act (Except FetchError α)) (delay : Nat) {most failed : UInt32}
    {retries : Nat} (h : failed.toNat + (retries + 1) = most.toNat) :
    countedAttempt ask delay most failed = some <$> attempt ask delay retries := by
  have hmost : most.toNat < UInt32.size := most.toNat_lt
  have hfits : failed.toNat + 1 < UInt32.size := by omega
  induction retries generalizing failed with
  | zero =>
    have hend : ¬failed + 1 < most := by
      rw [UInt32.lt_iff_toNat_lt, toNat_add_one hfits]
      omega
    rw [countedAttempt]
    refine congrArg (ask >>= ·) (funext fun outcome => ?_)
    rw [dif_pos hfits]
    split
    · exact if_neg hend
    · rfl
  | succ retries ih =>
    have hgo : failed + 1 < most := by
      rw [UInt32.lt_iff_toNat_lt, toNat_add_one hfits]
      omega
    have hmore : countedAttempt ask delay most (failed + 1) =
        some <$> attempt ask delay retries := by
      refine ih ?_ ?_ <;> rw [toNat_add_one hfits] <;> omega
    have hmap : some <$> attempt ask delay (retries + 1) =
        ask >>= fun outcome => some <$> afterCall delay (attempt ask delay retries) outcome := by
      rw [attempt_succ]
      exact Plan.bind_assoc ask _ _
    rw [countedAttempt, hmap]
    refine congrArg (ask >>= ·) (funext fun outcome => ?_)
    rw [dif_pos hfits]
    split
    · rw [if_pos hgo, hmore]
      refine congrArg (Plan.ask (P := interface) (.pause delay)) (funext fun pauseEnd => ?_)
      cases pauseEnd <;> rfl
    · next hsettled =>
      rw [afterCall_settled fun ⟨reason, h⟩ => hsettled reason h]
      rfl

end Watch

namespace RetryPolicy

/-- The most calls that are made: a policy of no attempts makes one, too. -/
def most (p : RetryPolicy) : UInt32 :=
  max p.attempts 1

theorem toNat_most (p : RetryPolicy) : p.most.toNat = p.retries + 1 := by
  have hmost : p.most = if p.attempts ≤ 1 then 1 else p.attempts := rfl
  have hone : (1 : UInt32).toNat = 1 := rfl
  rw [hmost, retries]
  split <;> next h =>
    rw [UInt32.le_iff_toNat_le] at h
    omega

/-- **Calls under a retry policy.** Whatever the outcomes of an operation are, it is called up to
the first outcome that is not throttled, or as often as the policy may, with a pause between each
two calls, and the last outcome is passed on. If one of these pauses is interrupted, no further call
is made and the outcome is that the run was cancelled. Every run is one of these, so only a
throttled outcome is followed by another call. A counter of 32 bits for the calls does not
overflow. -/
theorem execute_spec (p : RetryPolicy) (ask : Watch.Act (Except FetchError α)) :
    (∀ outcomes : ℕ → Except FetchError α, ∃ k, Watch.CallsFor p.most.toNat outcomes k ∧
      ∀ asked : ℕ → Log Watch.interface, (∀ i < k, ask.Logs (asked i) (.done (outcomes i))) →
        (p.execute ask).Logs (Watch.callsLog p.delay asked k) (.done (outcomes (k - 1))) ∧
          ∀ j, 1 ≤ j → j < k →
            (p.execute ask).Logs
              (Watch.callsLog p.delay asked j ++ [Watch.paused p.delay .interrupted])
              (.done (.error .cancelled))) ∧
      (∀ log result, (p.execute ask).Logs log (.done result) →
        ∃ (asked : ℕ → Log Watch.interface) (outcomes : ℕ → Except FetchError α) (k : ℕ),
          (∀ i < k, ask.Logs (asked i) (.done (outcomes i))) ∧
            ((Watch.CallsFor p.most.toNat outcomes k ∧ log = Watch.callsLog p.delay asked k ∧
                result = outcomes (k - 1)) ∨
              (1 ≤ k ∧ k < p.most.toNat ∧ (∀ i < k, IsThrottled (outcomes i)) ∧
                log = Watch.callsLog p.delay asked k ++ [Watch.paused p.delay .interrupted] ∧
                result = .error .cancelled))) ∧
      Watch.countedAttempt ask p.delay p.most 0 = some <$> p.execute ask := by
  rw [toNat_most]
  refine ⟨fun outcomes => Watch.attempt_runs ask p.delay p.retries outcomes,
    fun log result h => Watch.exists_calls_of_logs h, Watch.countedAttempt_eq ask p.delay ?_⟩
  rw [toNat_most]
  exact Nat.zero_add _

end RetryPolicy

end RedemptionWatch
