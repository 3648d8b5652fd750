import RedemptionWatch.Endpoint.Call
import RedemptionWatch.Json.Writer
import RedemptionWatch.Redemption
import RedemptionWatch.Solana.Transaction

/-!
# Solana

Redemptions of Solana, slot by slot. The attestation of each is looked up in the history of the
account that holds it, from the oldest transaction on. A redemption whose attestation is not found
is left out; so is one whose look-up fails, unless the endpoint is throttled or the run is
cancelled, which makes the whole block fail.
-/

namespace RedemptionWatch.Solana

/-- The token bridge, unless another program is tracked. -/
def tokenBridge : String := "wormDTUJ6AWPNvk59vGQbDvGJmqbDTdgWgAqcLBCgUb"

/-- The core bridge, unless another program is tracked. -/
def coreBridge : String := "worm2ZoG2kUd4vFXhvjh93UUH596ayRfgQ2MgjNMTth"

/-- The error codes of slots that hold no block: a slot that was skipped, and one that is also
missing in the archive. A block that is not there yet is an error and asked for again. -/
def emptySlotCodes : List Int64 := [-32007, -32009]

/-- A transaction in the history of an account. -/
structure HistoryEntry where
  signature : String
  failed : Bool
  deriving DecidableEq, Repr

/-- An entry of a history. -/
def HistoryEntry.ofJson? (j : Json) : Option HistoryEntry := do
  match ← Json.fields? [.required "signature", .defaulted "err"] j with
  | [signature, err] => return {
      signature := ← Json.required Json.string? signature
      failed := (← Json.optional Json.any? err).isSome }
  | _ => none

/-- Solana with its endpoint and the programs that are tracked. -/
structure Source where
  chainId : ChainId
  url : Url
  tokenBridge : String
  coreBridge : String
  deriving DecidableEq, Repr

namespace Source

variable (s : Source)

/-- The latest slot. -/
def latestBlock : Endpoint.Fetch UInt64 := do
  let answer ← Endpoint.call s.url "getSlot"
    (.array [.object [("commitment", .string "confirmed")]])
  match Json.uint64? answer with
  | some n => return n
  | none => throw (.decode ("getSlot: unexpected " ++ answer.text))

/-- The block of a slot, if it holds one. -/
def block? (slot : UInt64) : Endpoint.Fetch (Option Block) := do
  let answer ← Endpoint.callAllowing s.url "getBlock"
    (.array [.ofUInt64 slot, .object [
      ("commitment", .string "confirmed"),
      ("encoding", .string "json"),
      ("maxSupportedTransactionVersion", .ofNat 0),
      ("rewards", .bool false),
      ("transactionDetails", .string "full")]]) emptySlotCodes
  match answer with
  | none => return none
  | some .null => return none
  | some answer =>
    match Block.ofJson? answer with
    | some b => return some b
    | none => throw (.decode ("slot " ++ toString slot.toNat))

/-- The history of an account, newest first. -/
def history (account : String) : Endpoint.Fetch (List HistoryEntry) := do
  let method := "getSignaturesForAddress"
  let answer ← Endpoint.call s.url method
    (.array [.string account, .object [("commitment", .string "confirmed")]])
  match Json.list? HistoryEntry.ofJson? answer with
  | some entries => return entries
  | none => throw (.decode method)

/-- The transaction with this signature, if it is there and can be read. -/
def transaction? (signature : String) : Endpoint.Fetch (Option Transaction) := do
  let answer ← Endpoint.call s.url "getTransaction"
    (.array [.string signature, .object [
      ("commitment", .string "confirmed"),
      ("encoding", .string "json"),
      ("maxSupportedTransactionVersion", .ofNat 0)]])
  return Transaction.ofJson? answer

/-- The attestation that the first of the transactions with one posts. -/
def firstPosted : List String → Endpoint.Fetch (Option PostedVaa)
  | [] => return none
  | signature :: rest => do
    let tx ← s.transaction? signature
    match tx.bind (·.postedVaa? s.coreBridge) with
    | some vaa => return some vaa
    | none => firstPosted rest

/-- The attestation that an account holds, as far as its history shows. -/
def postedVaa (account : String) : Endpoint.Fetch (Option PostedVaa) := do
  let history ← s.history account
  s.firstPosted ((history.reverse.filter fun e => !e.failed).map (·.signature))

/-- The attestation of a redemption. Only a throttled endpoint and a cancelled run are errors. -/
def attestation (account : String) : Endpoint.Fetch (Option PostedVaa) :=
  tryCatch (s.postedVaa account) fun e => match e with
    | .throttled _ => throw e
    | .cancelled => throw e
    | _ => pure none

/-- A redemption of a transaction as a candidate. -/
def candidate (slot : UInt64) (timestamp : Timestamp) (tx : Transaction) (r : Redeeming)
    (vaa : PostedVaa) : Candidate where
  messageId := vaa.messageId
  chainId := s.chainId
  method := r.method
  txHash := tx.signatures.headD ""
  sender := tx.accountKeys.headD ""
  target := s.tokenBridge
  blockNumber := slot
  timestamp := timestamp
  status := .confirmed

/-- The candidates of redemptions of a transaction. -/
def candidatesOf (slot : UInt64) (timestamp : Timestamp) (tx : Transaction) :
    List Redeeming → Endpoint.Fetch (List Candidate)
  | [] => return []
  | r :: rest => do
    let vaa ← s.attestation r.account
    let candidates ← candidatesOf slot timestamp tx rest
    return (vaa.map (s.candidate slot timestamp tx r)).toList ++ candidates

/-- The candidates of transactions of a block. -/
def extractFrom (slot : UInt64) (timestamp : Timestamp) :
    List Transaction → Endpoint.Fetch (List Candidate)
  | [] => return []
  | tx :: rest => do
    let candidates ←
      if tx.execution.failed then pure []
      else s.candidatesOf slot timestamp tx (tx.redeemings s.tokenBridge)
    return candidates ++ (← extractFrom slot timestamp rest)

/-- The time of a block, the epoch where it is not stated. -/
def timestamp (b : Block) : Timestamp :=
  (b.time.map fun t => Timestamp.ofUnits 1 t.toInt).getD .epoch

/-- The redemptions of the block of a slot. -/
def extract (slot : UInt64) (b : Block) : Endpoint.Fetch (List Candidate) :=
  s.extractFrom slot (timestamp b) b.transactions

/-- The redemptions of a slot, if it holds a block. -/
def candidates? (slot : UInt64) : Endpoint.Fetch (Option (List Candidate)) := do
  match ← s.block? slot with
  | none => return none
  | some b => return some (← s.extract slot b)

end Source

end RedemptionWatch.Solana
