import RedemptionWatch.Endpoint.Call
import RedemptionWatch.Terra.Transaction

/-!
# Terra

Redemptions of Terra, block by block. One endpoint knows the blocks, another lists the transactions
of each in pages. A page names the offset of the next one; the listing ends where a page names none,
or its own offset. Nothing else bounds it, so a listing is a loop.
-/

namespace RedemptionWatch.Terra

/-- Terra with its endpoints and what is tracked there. -/
structure Source where
  chainId : ChainId
  url : Url
  /-- The endpoint that lists transactions. -/
  listing : Url
  contract : String
  methods : List String
  deriving DecidableEq, Repr

/-- A listing of which some pages have been read. -/
structure Pages where
  /-- The offset of the page to read. -/
  offset : Option UInt64
  transactions : List Transaction
  deriving Repr, BEq

/-- A listing before its first page. -/
def Pages.start : Pages := ⟨none, []⟩

/-- The number of transactions on a page. -/
def pageLimit : Nat := 100

/-- The form that asks for the page at an offset. -/
def pageForm (height : UInt64) (offset : Option UInt64) : List (String × String) :=
  [("block", toString height.toNat), ("limit", toString pageLimit)] ++
    (offset.map fun n => ("offset", toString n.toNat)).toList

namespace Source

variable (s : Source)

/-- The latest block. -/
def latestBlock : Endpoint.Fetch UInt64 := do
  let answer ← Endpoint.getJson s.url "blocks/latest" []
  let height := (follow? answer ["block", "header", "height"]).bind Json.string?
  match height.bind Text.Numeral.uint64? with
  | some n => return n
  | none => throw (.decode "blocks/latest: missing height")

/-- The page at an offset. -/
def page (height : UInt64) (offset : Option UInt64) : Endpoint.Fetch Page := do
  let answer ← Endpoint.getJson s.listing "v1/txs" (pageForm height offset)
  match Page.ofJson? answer with
  | some p => return p
  | none => throw (.decode ("txs of block " ++ toString height.toNat))

/-- Reads one page of a listing; ends with all transactions of the block. -/
def readPage (height : UInt64) (pages : Pages) : Endpoint.Fetch (Pages ⊕ List Transaction) := do
  let p ← s.page height pages.offset
  let transactions := pages.transactions ++ p.transactions
  match p.next with
  | some next =>
    if pages.offset = some next then return .inr transactions
    else return .inl ⟨some next, transactions⟩
  | none => return .inr transactions

/-- The redemptions among the transactions of a block. -/
def extract (height : UInt64) (transactions : List Transaction) : List Candidate :=
  transactions.filterMap fun tx => tx.candidate? s.chainId s.contract s.methods height

/-- Reads one page of a listing; ends with the redemptions of the block. -/
def candidates (height : UInt64) (pages : Pages) :
    Endpoint.Fetch (Pages ⊕ List Candidate) := do
  match ← s.readPage height pages with
  | .inl pages => return .inl pages
  | .inr transactions => return .inr (s.extract height transactions)

end Source

end RedemptionWatch.Terra
