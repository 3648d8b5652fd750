/-!
# Redemption statuses

What is known of the execution of a redemption. Statuses are ordered by rank, and a stored status
only moves upwards: `reconcile` says whether an observed status may replace the stored one, and why
not where it may not.
-/

namespace RedemptionWatch

/-- What is known of the execution of a redemption. -/
inductive Status where
  | unknown
  | failed
  | confirmed
  deriving DecidableEq, Repr, Inhabited

namespace Status

/-- The place of a status in the order in which stored statuses move. -/
def rank : Status → Nat
  | unknown => 0
  | failed => 1
  | confirmed => 2

/-- The word for a status. -/
def text : Status → String
  | unknown => "unknown"
  | failed => "failed_to_process"
  | confirmed => "confirmed"

/-- The status of a word. -/
def ofText? (s : String) : Option Status :=
  [unknown, failed, confirmed].find? (·.text = s)

end Status

/-- Why an observed status is not accepted. -/
inductive Rejection where
  /-- A failure was observed of a confirmed redemption. -/
  | downgradeFromConfirmed
  /-- Nothing was learnt of a redemption whose status is known. -/
  | downgradeFromKnown (stored : Status)
  /-- The word is no status. -/
  | invalidStatus (word : String)
  deriving DecidableEq, Repr

/-- The text of a rejection. -/
def Rejection.message : Rejection → String
  | downgradeFromConfirmed => "cannot downgrade status from confirmed"
  | downgradeFromKnown stored => "cannot downgrade from known status " ++ stored.text
  | invalidStatus word => "invalid status '" ++ word ++ "'"

namespace Status

/-- Reads a word as a status. -/
def parse (s : String) : Except Rejection Status :=
  match ofText? s with
  | some status => .ok status
  | none => .error (.invalidStatus s)

/-- May `observed` replace the stored status, if any? -/
def reconcile (stored : Option Status) (observed : Status) : Except Rejection Unit :=
  match observed, stored with
  | confirmed, _ => .ok ()
  | failed, some confirmed => .error .downgradeFromConfirmed
  | failed, _ => .ok ()
  | unknown, some confirmed => .error (.downgradeFromKnown confirmed)
  | unknown, some failed => .error (.downgradeFromKnown failed)
  | unknown, _ => .ok ()

/-- The status that `word` stands for, if it may replace the stored one. -/
def reconcileText (stored : Option Status) (word : String) : Except Rejection Status := do
  let observed ← parse word
  reconcile stored observed
  return observed

/-- What each of `words` in turn does to the stored status. -/
def reconcileAll (stored : Option Status) :
    List Status → List (Except Rejection Unit × Option Status)
  | [] => []
  | observed :: rest =>
    match reconcile stored observed with
    | .ok () => (.ok (), some observed) :: reconcileAll (some observed) rest
    | .error reason => (.error reason, stored) :: reconcileAll stored rest

@[simp] theorem ofText?_text (s : Status) : ofText? s.text = some s := by
  cases s <;> decide

theorem rank_injective {s t : Status} (h : s.rank = t.rank) : s = t := by
  cases s <;> cases t <;> simp_all [rank]

/-- A status is accepted exactly if its rank is not below the stored one. -/
theorem reconcile_eq_ok_iff (stored : Option Status) (observed : Status) :
    reconcile stored observed = .ok () ↔ ∀ s, stored = some s → s.rank ≤ observed.rank := by
  cases observed <;> rcases stored with _ | (_ | _ | _) <;> simp [reconcile, rank]

end Status

end RedemptionWatch
