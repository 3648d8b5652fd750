import RedemptionWatch.Redemption

/-!
# Stores

What the writes of a store answer. Refusing a record that would lower a stored status is an outcome
of a write, not a failure of the store.
-/

namespace RedemptionWatch

/-- What became of a record that was to be written. -/
inductive UpsertOutcome where
  | written
  /-- The stored record stays as it was. -/
  | rejected (reason : Rejection)
  deriving DecidableEq, Repr

/-- Why a store gave no answer. -/
inductive StoreError where
  /-- The store cannot be reached. -/
  | unavailable (reason : String)
  /-- A stored status is no status. -/
  | invalidStatus (reason : Rejection)
  /-- A stored chain id is out of range. -/
  | invalidChainId
  /-- The write was refused again and again although nothing stored forbids it. -/
  | unsettled (id : MessageId) (attempts : Nat)
  deriving DecidableEq, Repr

/-- The text of a store error. -/
def StoreError.message : StoreError → String
  | unavailable reason => reason
  | invalidStatus reason => reason.message
  | invalidChainId => "chain_id out of range"
  | unsettled id attempts =>
    "Upsert of " ++ id.text ++ " did not settle after " ++ toString attempts ++ " attempts"

/-- Does this record replace a stored one? -/
def Record.outcome (stored : Option Status) (r : Record) : UpsertOutcome :=
  match Status.reconcile stored r.status with
  | .ok () => .written
  | .error reason => .rejected reason

/-- Of two records of one message, `later` coming after `earlier`: the one of higher rank, and of
equal ranks the later. -/
def Record.better (earlier later : Record) : Record :=
  if earlier.status.rank ≤ later.status.rank then later else earlier

end RedemptionWatch
