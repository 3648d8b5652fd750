import RedemptionWatch.Fetch
import RedemptionWatch.Pagination
import RedemptionWatch.Plan
import RedemptionWatch.Store.Basic

/-!
# What a watcher asks of its surroundings

A watcher is a plan over `Watch.interface`: it asks for cursors, blocks and activity pages, hands
candidates to a record store, moves its cursor, pauses, and looks whether it has been cancelled. The
surroundings know which chain it watches and what time it is.
-/

namespace RedemptionWatch

/-- The life of a watch loop. -/
inductive WatchState where
  | idle
  | polling
  | waiting
  | closed
  deriving DecidableEq, Repr, Inhabited

/-- The word for a state. -/
def WatchState.text : WatchState → String
  | idle => "idle"
  | polling => "polling"
  | waiting => "waiting"
  | closed => "closed"

/-- One page of an activity listing. -/
structure ActivityPage where
  candidates : List Candidate
  /-- The highest block of any transaction on the page. -/
  highest : Option UInt64
  /-- The token of the page that follows. -/
  next : Option String
  deriving DecidableEq, Repr, Inhabited

/-- How a pause ended. -/
inductive PauseEnd where
  | elapsed
  /-- The watcher was cancelled. -/
  | interrupted
  deriving DecidableEq, Repr, Inhabited

namespace Watch

/-- What a watcher may ask. -/
inductive Request where
  /-- The last processed block, or a fallback if none was written. -/
  | cursor (fallback : UInt64)
  | latestBlock
  /-- The candidates of a block; a number may have no block. -/
  | block (number : UInt64)
  /-- A page of the activity in a range of blocks. -/
  | activity (range : BlockRange) (token : Option String)
  /-- Write a candidate with the current time. -/
  | record (candidate : Candidate)
  | moveCursor (block : UInt64)
  /-- Let so many milliseconds pass. -/
  | pause (millis : Nat)
  | isCancelled
  | publish (state : WatchState)
  deriving DecidableEq, Repr

/-- What a request answers. -/
def Request.Answer : Request → Type
  | cursor _ => Except StoreError UInt64
  | latestBlock => Except FetchError UInt64
  | block _ => Except FetchError (Option (List Candidate))
  | activity _ _ => Except FetchError ActivityPage
  | record _ => Except StoreError UpsertOutcome
  | moveCursor _ => Except StoreError Unit
  | pause _ => PauseEnd
  | isCancelled => Bool
  | publish _ => Unit

/-- The surroundings of a watcher. -/
def interface : Interface := ⟨Request, Request.Answer⟩

/-- A plan of a watcher. -/
abbrev Act (α : Type) := Plan interface α

/-- Reads the cursor. -/
def cursor (fallback : UInt64) : Act (Except StoreError UInt64) :=
  Plan.request (P := interface) (.cursor fallback)

/-- Asks for the latest block. -/
def latestBlock : Act (Except FetchError UInt64) :=
  Plan.request (P := interface) .latestBlock

/-- Asks for the candidates of a block. -/
def block (number : UInt64) : Act (Except FetchError (Option (List Candidate))) :=
  Plan.request (P := interface) (.block number)

/-- Asks for a page of activity. -/
def activity (range : BlockRange) (token : Option String) : Act (Except FetchError ActivityPage) :=
  Plan.request (P := interface) (.activity range token)

/-- Writes a candidate. -/
def record (c : Candidate) : Act (Except StoreError UpsertOutcome) :=
  Plan.request (P := interface) (.record c)

/-- Moves the cursor. A failure is left to the next write of the cursor. -/
def moveCursor (block : UInt64) : Act Unit := do
  let _ : Except StoreError Unit ← Plan.request (P := interface) (.moveCursor block)
  return ()

/-- Lets time pass. -/
def pause (millis : Nat) : Act PauseEnd :=
  Plan.request (P := interface) (.pause millis)

/-- Has the watcher been cancelled? -/
def isCancelled : Act Bool :=
  Plan.request (P := interface) .isCancelled

/-- Shows the state of the loop. -/
def publish (state : WatchState) : Act Unit :=
  Plan.request (P := interface) (.publish state)

end Watch

end RedemptionWatch
