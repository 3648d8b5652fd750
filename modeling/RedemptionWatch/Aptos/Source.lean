import RedemptionWatch.Aptos.Block
import RedemptionWatch.Endpoint.Call
import RedemptionWatch.Redemption

/-!
# Aptos

Redemptions of Aptos, block by block. The status of each is read from the transaction itself, and
from its copy in the block if that fails.
-/

namespace RedemptionWatch.Aptos

/-- The status of a transaction by its success. -/
def statusOfSuccess : Option Bool → Status
  | some true => .confirmed
  | some false => .failed
  | none => .unknown

/-- Aptos with its endpoint and the tracked module. -/
structure Source where
  chainId : ChainId
  url : Url
  tracked : Module
  deriving DecidableEq, Repr

namespace Source

variable (s : Source)

/-- The latest block. -/
def latestBlock : Endpoint.Fetch UInt64 := do
  let answer ← Endpoint.getJson s.url "" []
  match ledgerHeight? answer with
  | some n => return n
  | none => throw (.decode "ledger info")

/-- The block at a height. -/
def block (height : UInt64) : Endpoint.Fetch Block := do
  let text := toString height.toNat
  let answer ← Endpoint.getJson s.url ("blocks/by_height/" ++ text) [("with_transactions", "true")]
  match Block.ofJson? answer with
  | some b => return b
  | none => throw (.decode ("block " ++ text))

/-- The status of a transaction. -/
def status (tx : Transaction) : Endpoint.Fetch Status :=
  tryCatch
    ((fun answer => statusOfSuccess ((answer.get? "success").bind Json.bool?)) <$>
      Endpoint.getJson s.url ("transactions/by_hash/" ++ tx.hash) [])
    fun _ => pure (statusOfSuccess tx.success)

/-- The redemptions among transactions of one block. -/
def candidatesOf (height : UInt64) (timestamp : Timestamp) :
    List Transaction → Endpoint.Fetch (List Candidate)
  | [] => return []
  | tx :: rest =>
    match tx.redeeming? s.tracked with
    | none => candidatesOf height timestamp rest
    | some (method, vaa) => do
      let status ← s.status tx
      let candidates ← candidatesOf height timestamp rest
      return {
        messageId := vaa.messageId
        chainId := s.chainId
        method
        txHash := tx.hash
        sender := tx.sender.getD ""
        target := s.tracked.address
        blockNumber := height
        timestamp
        status } :: candidates

/-- The redemptions of a block. -/
def extract (b : Block) : Endpoint.Fetch (List Candidate) :=
  s.candidatesOf b.height (.ofMicros b.time.toInt64) b.transactions

/-- The redemptions of the block at a height. -/
def candidates (height : UInt64) : Endpoint.Fetch (List Candidate) := do
  s.extract (← s.block height)

end Source

end RedemptionWatch.Aptos
