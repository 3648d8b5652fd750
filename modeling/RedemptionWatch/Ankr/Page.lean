import RedemptionWatch.Evm.Call
import RedemptionWatch.Watch.Interface

/-!
# Pages of the aggregator

The Ankr aggregator lists the transactions of addresses on EVM chains, in pages, each transaction
with its status. Every transaction whose block number can be read counts for the highest block of a
page, be it a redemption or not.
-/

namespace RedemptionWatch.Ankr

/-- A listed transaction. -/
structure Transaction extends Evm.Transaction where
  blockNumber : String
  status : Option String
  timestamp : Option String
  deriving DecidableEq, Repr

/-- A page as it is answered. -/
structure Page where
  transactions : List Transaction
  nextPageToken : Option String
  deriving DecidableEq, Repr

/-- A listed transaction. -/
def Transaction.ofJson? (j : Json) : Option Transaction := do
  let fields := [.required "hash", .required "blockNumber", .required "from", .defaulted "to",
    .defaulted "input", .defaulted "status", .defaulted "timestamp"]
  match ← Json.fields? fields j with
  | [hash, blockNumber, sender, target, input, status, timestamp] => return {
      hash := ← Json.required Json.string? hash
      blockNumber := ← Json.required Json.string? blockNumber
      sender := ← Json.required Json.string? sender
      target := ← Json.optional Json.string? target
      input := ← Json.defaulted "" Json.string? input
      status := ← Json.optional Json.string? status
      timestamp := ← Json.optional Json.string? timestamp }
  | _ => none

/-- A page. -/
def Page.ofJson? (j : Json) : Option Page := do
  match ← Json.fields? [.defaulted "transactions", .defaulted "nextPageToken"] j with
  | [transactions, nextPageToken] => return {
      transactions := ← Json.defaulted [] (Json.list? Transaction.ofJson?) transactions
      nextPageToken := ← Json.optional Json.string? nextPageToken }
  | _ => none

namespace Transaction

/-- The number of the block of a transaction, if it can be read. -/
def block? (tx : Transaction) : Option UInt64 :=
  Text.Hex.uint64? tx.blockNumber

/-- The redemption that a transaction is. -/
def candidate? (chainId : ChainId) (methods : Evm.MethodTable) (tx : Transaction) :
    Option Candidate := do
  let blockNumber ← tx.block?
  let r ← tx.redeeming? methods
  let seconds := (tx.timestamp.bind Text.Hex.uint64?).getD 0
  return r.candidate tx.toTransaction chainId blockNumber (.ofSeconds seconds)
    (Evm.statusOfWord tx.status)

end Transaction

/-- The highest of some numbers. -/
def highest? (numbers : List UInt64) : Option UInt64 :=
  numbers.foldl (fun m n => some (match m with
    | some m => max m n
    | none => n)) none

/-- What a page says about redemptions. An empty token is none. -/
def Page.activity (chainId : ChainId) (methods : Evm.MethodTable) (p : Page) : ActivityPage where
  candidates := p.transactions.filterMap (Transaction.candidate? chainId methods)
  highest := highest? (p.transactions.filterMap Transaction.block?)
  next := p.nextPageToken.filter (· ≠ "")

end RedemptionWatch.Ankr
