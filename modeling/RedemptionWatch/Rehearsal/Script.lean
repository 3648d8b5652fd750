import RedemptionWatch.Store.Backend
import RedemptionWatch.Watch.Interface

/-!
# Scripts

A script stands in for a chain and its endpoint: it lists the answers that requests get, errors
first. It keeps what it was asked. `Books` stand in for the stores that watchers share: they note
every cursor that was written, and fail where they are told to.
-/

namespace RedemptionWatch.Rehearsal

/-- A page of a scripted listing, with the errors that come before it. -/
structure ScriptedPage where
  token : Option String
  errors : List FetchError
  page : ActivityPage
  deriving Repr, Inhabited

/-- A request for data of a chain. -/
inductive Visit where
  | block (number : UInt64)
  | activity (range : BlockRange) (token : Option String)
  deriving DecidableEq, Repr

/-- What a chain answers from now on, and what it was asked. -/
structure Script where
  head : UInt64
  headErrors : List FetchError
  blocks : Std.TreeMap UInt64 (List Candidate)
  missing : List UInt64
  /-- Errors of fetching a block. -/
  blockErrors : Std.TreeMap UInt64 (List FetchError)
  /-- Errors of reading a block that was fetched. -/
  extractErrors : Std.TreeMap UInt64 (List FetchError)
  /-- The block, or the number of pages read, at which the run is cancelled. -/
  cancelAt : Option UInt64
  pages : List ScriptedPage
  visits : Array Visit
  headCalls : Nat

namespace Script

/-- A chain without blocks. -/
def empty : Script where
  head := 0
  headErrors := []
  blocks := ∅
  missing := []
  blockErrors := ∅
  extractErrors := ∅
  cancelAt := none
  pages := []
  visits := #[]
  headCalls := 0

/-- Takes the first of the errors that a table holds for a block. -/
def takeError (table : Std.TreeMap UInt64 (List FetchError)) (number : UInt64) :
    Option FetchError × Std.TreeMap UInt64 (List FetchError) :=
  match table[number]? with
  | some (e :: rest) => (some e, table.insert number rest)
  | _ => (none, table)

/-- The latest block. -/
def latestBlock (s : Script) : Except FetchError UInt64 × Script :=
  let s := { s with headCalls := s.headCalls + 1 }
  match s.headErrors with
  | e :: rest => (.error e, { s with headErrors := rest })
  | [] => (.ok s.head, s)

/-- The candidates of a block. -/
def block (s : Script) (number : UInt64) :
    Except FetchError (Option (List Candidate)) × Script :=
  let s := { s with visits := s.visits.push (.block number) }
  match takeError s.blockErrors number with
  | (some e, table) => (.error e, { s with blockErrors := table })
  | (none, _) =>
    if number ∈ s.missing then (.ok none, s)
    else match takeError s.extractErrors number with
      | (some e, table) => (.error e, { s with extractErrors := table })
      | (none, _) => (.ok (some (s.blocks.getD number [])), s)

/-- The answer that the page of this token gives, and the pages after that. -/
def readPage (token : Option String) :
    List ScriptedPage → Except FetchError ActivityPage × List ScriptedPage
  | [] => (.error (.remote "unknown token"), [])
  | p :: rest =>
    if p.token = token then
      match p.errors with
      | e :: errors => (.error e, { p with errors } :: rest)
      | [] => (.ok p.page, p :: rest)
    else
      let (answer, rest) := readPage token rest
      (answer, p :: rest)

/-- A page of activity. -/
def activity (s : Script) (range : BlockRange) (token : Option String) :
    Except FetchError ActivityPage × Script :=
  let (answer, pages) := readPage token s.pages
  (answer, { s with pages, visits := s.visits.push (.activity range token) })

/-- Does a request for this block cancel the run? -/
def cancelsAtBlock (s : Script) (number : UInt64) : Bool :=
  s.cancelAt = some number

/-- Does the next request for a page cancel the run? -/
def cancelsAtPage (s : Script) : Bool :=
  s.cancelAt = some (UInt64.ofNat s.visits.size)

end Script

/-! ## Stores -/

/-- The stores of all chains. -/
structure Books where
  backend : Backend
  /-- Cursor writes at these blocks fail. -/
  cursorErrors : List UInt64
  /-- Writes of records of these blocks fail. -/
  recordErrors : List UInt64
  /-- Why cursors cannot be read. -/
  readError : Option String
  /-- The cursors that were written, in order. -/
  cursorWrites : Array (String × UInt64)

namespace Books

/-- Books over a store that never fails. -/
def on (backend : Backend) : Books := ⟨backend, [], [], none, #[]⟩

/-- Reads a cursor. -/
def cursor (b : Books) (chain : String) (fallback : UInt64) : Except StoreError UInt64 :=
  match b.readError with
  | some reason => .error (.unavailable ("scripted: " ++ reason))
  | none => .ok (b.backend.currentBlock chain fallback)

/-- Writes a cursor. -/
def moveCursor (b : Books) (chain : String) (block : UInt64) (time : Timestamp) :
    Except StoreError Unit × Books :=
  if block ∈ b.cursorErrors then (.error (.unavailable "scripted"), b)
  else
    (.ok (), { b with
      backend := b.backend.updateCursor chain block time
      cursorWrites := b.cursorWrites.push (chain, block) })

/-- Writes a candidate. -/
def record (b : Books) (c : Candidate) (time : Timestamp) :
    Except StoreError UpsertOutcome × Books :=
  if c.blockNumber ∈ b.recordErrors then (.error (.unavailable "scripted"), b)
  else
    let (outcome, backend) := b.backend.upsert (c.at time)
    (outcome, { b with backend })

end Books

end RedemptionWatch.Rehearsal
