import RedemptionWatch.Ankr.Page
import RedemptionWatch.Evm.Source

/-!
# EVM chains through the aggregator

Redemptions of an EVM chain as the Ankr aggregator lists the activity of the tracked contracts.
-/

namespace RedemptionWatch.Ankr

/-- An EVM chain, its name at the aggregator, and what is tracked there. -/
structure Source where
  chainId : ChainId
  url : Url
  blockchain : String
  methods : Evm.MethodTable
  /-- The number of transactions on a page. -/
  pageSize : UInt64
  deriving DecidableEq, Repr

/-- The usual number of transactions on a page. -/
def usualPageSize : UInt64 := 1000

namespace Source

variable (s : Source)

/-- The tracked contracts in the order of their addresses. -/
def addresses : List String :=
  s.methods.keys.mergeSort

/-- The parameters of the request for a page. -/
def parameters (range : BlockRange) (token : Option String) : Json :=
  .object ([
    ("address", .array (s.addresses.map Json.string)),
    ("blockchain", .string s.blockchain),
    ("descOrder", .bool false),
    ("fromBlock", .ofUInt64 range.first),
    ("includeLogs", .bool false),
    ("pageSize", .ofUInt64 s.pageSize)] ++
    (token.map fun t => ("pageToken", Json.string t)).toList ++
    [("toBlock", .ofUInt64 range.last)])

/-- A page of the activity in a range of blocks. -/
def activity (range : BlockRange) (token : Option String) : Endpoint.Fetch ActivityPage := do
  let method := "ankr_getTransactionsByAddress"
  let answer ← Endpoint.call s.url method (s.parameters range token)
  match Page.ofJson? answer with
  | some page => return page.activity s.chainId s.methods
  | none => throw (.decode method)

end Source

end RedemptionWatch.Ankr
