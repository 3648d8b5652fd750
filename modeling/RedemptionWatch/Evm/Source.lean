import RedemptionWatch.Endpoint.Call
import RedemptionWatch.Evm.Call
import RedemptionWatch.Json.Writer

/-!
# EVM chains

Redemptions of an EVM chain, block by block. The status of each is asked for by its receipt: one
that cannot be read leaves the status unknown, one that cannot be had makes the whole block fail.
-/

namespace RedemptionWatch.Evm

/-- A block as an endpoint answers it, its numbers as text. -/
structure Block where
  number : String
  timestamp : String
  transactions : List Transaction
  deriving DecidableEq, Repr

/-- A transaction of a block. -/
def Transaction.ofJson? (j : Json) : Option Transaction := do
  let fields := [.required "hash", .required "from", .defaulted "to", .required "input"]
  match ← Json.fields? fields j with
  | [hash, sender, target, input] => return {
      hash := ← Json.required Json.string? hash
      sender := ← Json.required Json.string? sender
      target := ← Json.optional Json.string? target
      input := ← Json.required Json.string? input }
  | _ => none

/-- A block. -/
def Block.ofJson? (j : Json) : Option Block := do
  match ← Json.fields? [.required "number", .required "timestamp", .defaulted "transactions"] j with
  | [number, timestamp, transactions] => return {
      number := ← Json.required Json.string? number
      timestamp := ← Json.required Json.string? timestamp
      transactions := ← Json.defaulted [] (Json.list? Transaction.ofJson?) transactions }
  | _ => none

/-- The latest block, asked for by method call. -/
def latestBlock (url : Url) : Endpoint.Fetch UInt64 := do
  let answer ← Endpoint.call url "eth_blockNumber" (.array [])
  match answer.string?.bind Text.Hex.uint64? with
  | some n => return n
  | none => throw (.decode ("eth_blockNumber: unexpected " ++ answer.text))

/-- An EVM chain with its endpoint and what is tracked there. -/
structure Source where
  chainId : ChainId
  url : Url
  methods : MethodTable
  deriving DecidableEq, Repr

namespace Source

variable (s : Source)

/-- The block with this number. -/
def block (number : UInt64) : Endpoint.Fetch Block := do
  let answer ← Endpoint.call s.url "eth_getBlockByNumber"
    (.array [.string (Text.Hex.quantity number), .bool true])
  let text := toString number.toNat
  match answer with
  | .null => throw (.remote ("block " ++ text ++ " not available yet"))
  | answer =>
    match Block.ofJson? answer with
    | some b => return b
    | none => throw (.decode ("block " ++ text))

/-- The status of a transaction by its receipt. -/
def status (hash : String) : Endpoint.Fetch Status :=
  tryCatch
    (statusOfReceipt <$>
      Endpoint.call s.url "eth_getTransactionReceipt" (.array [.string hash]))
    fun e => match e with
      | .decode _ => pure .unknown
      | e => throw e

/-- The redemptions among transactions of one block. -/
def candidatesOf (blockNumber : UInt64) (timestamp : Timestamp) :
    List Transaction → Endpoint.Fetch (List Candidate)
  | [] => return []
  | tx :: rest =>
    match tx.redeeming? s.methods with
    | none => candidatesOf blockNumber timestamp rest
    | some r => do
      let status ← s.status tx.hash
      let candidates ← candidatesOf blockNumber timestamp rest
      return r.candidate tx s.chainId blockNumber timestamp status :: candidates

/-- The redemptions of a block. A timestamp that cannot be read counts as 0. -/
def extract (b : Block) : Endpoint.Fetch (List Candidate) := do
  match Text.Hex.uint64? b.number with
  | none => throw (.decode ("block number " ++ b.number))
  | some number =>
    s.candidatesOf number (.ofSeconds ((Text.Hex.uint64? b.timestamp).getD 0)) b.transactions

/-- The redemptions of the block with this number. -/
def candidates (number : UInt64) : Endpoint.Fetch (List Candidate) := do
  s.extract (← s.block number)

end Source

end RedemptionWatch.Evm
