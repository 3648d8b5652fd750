import RedemptionWatch.Address
import RedemptionWatch.Evm.Calldata
import RedemptionWatch.Json.Record
import RedemptionWatch.Redemption

/-!
# Redeeming calls

Which transactions of an EVM chain redeem a message: those sent to a tracked contract with a tracked
method selector, whose calldata carry an attestation.
-/

namespace RedemptionWatch.Evm

/-- Method names by selector, by contract. -/
abbrev MethodTable := Table (Table String)

/-- A tracked method of a tracked contract. -/
structure MatchedCall where
  method : String
  contract : String
  deriving DecidableEq, Repr

/-- The characters that make up the first `size` bytes of a text, if a character ends there. -/
def firstBytes? : Nat → List Char → Option (List Char)
  | 0, _ => some []
  | _ + 1, [] => none
  | size + 1, c :: cs =>
    if c.utf8Size ≤ size + 1 then (firstBytes? (size + 1 - c.utf8Size) cs).map (c :: ·) else none

/-- The method selector at the front of the input of a call, as the tables spell it. -/
def selectorOf? (input : String) : Option String :=
  (firstBytes? 8 (Text.Hex.withoutMarkChars input.toList)).map Address.marked

/-- The tracked method that a call to `target` with this input is of. -/
def matchCall? (methods : MethodTable) (target : Option String) (input : String) :
    Option MatchedCall := do
  let contract ← Address.account? (← target)
  let selectors ← methods.get? contract
  let method ← selectors.get? (← selectorOf? input)
  return { method, contract }

/-- A transaction. One without a target creates a contract. -/
structure Transaction where
  hash : String
  sender : String
  target : Option String
  input : String
  deriving DecidableEq, Repr

/-- A tracked call and the attestation it carries. -/
structure Redeeming where
  call : MatchedCall
  vaa : SignedVaa
  deriving DecidableEq, Repr

/-- The redemption that a transaction is. A tracked call whose calldata cannot be read is none. -/
def Transaction.redeeming? (methods : MethodTable) (tx : Transaction) : Option Redeeming := do
  let call ← matchCall? methods tx.target tx.input
  match Calldata.vaaOfText tx.input with
  | .ok vaa => return { call, vaa }
  | .error _ => none

/-- The redemption as a candidate. -/
def Redeeming.candidate (r : Redeeming) (tx : Transaction) (chainId : ChainId)
    (blockNumber : UInt64) (timestamp : Timestamp) (status : Status) : Candidate where
  messageId := r.vaa.messageId
  chainId := chainId
  method := r.call.method
  txHash := Text.asciiLower tx.hash
  sender := (Address.account? tx.sender).getD tx.sender
  target := r.call.contract
  blockNumber := blockNumber
  timestamp := timestamp
  status := status

/-- The status that a receipt states. -/
def statusOfWord : Option String → Status
  | some "0x1" => .confirmed
  | some "0x0" => .failed
  | _ => .unknown

/-- The status of a transaction with this receipt. -/
def statusOfReceipt (receipt : Json) : Status :=
  statusOfWord ((receipt.get? "status").bind Json.string?)

end RedemptionWatch.Evm
