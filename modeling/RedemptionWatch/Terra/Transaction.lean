import RedemptionWatch.Json.Reader
import RedemptionWatch.Json.Record
import RedemptionWatch.Redemption
import RedemptionWatch.Text.Base64
import RedemptionWatch.Vaa

/-!
# Transactions of Terra

A transaction is a list of messages, in one of two envelopes. The message that redeems one of the
bridge calls the tracked contract with `submit_vaa`, its body being JSON or JSON in base 64, and the
contract logs which action that was. A transaction that failed has no logs and counts as
`submit_vaa`.
-/

namespace RedemptionWatch.Terra

/-- A logged attribute. -/
structure Attribute where
  key : String
  value : Option String
  deriving DecidableEq, Repr

/-- A transaction with its messages as they came, and all attributes that it logged. -/
structure Transaction where
  hash : String
  timestamp : Option String
  code : Option UInt64
  content : Json
  attributes : List Attribute
  deriving Repr, BEq

/-- A page of the transactions of a block. -/
structure Page where
  /-- The offset of the page that follows. -/
  next : Option UInt64
  transactions : List Transaction
  deriving Repr, BEq

/-! ## Reading -/

/-- An attribute. -/
def Attribute.ofJson? (j : Json) : Option Attribute := do
  match ← Json.fields? [.required "key", .defaulted "value"] j with
  | [key, value] => return {
      key := ← Json.required Json.string? key
      value := ← Json.optional Json.string? value }
  | _ => none

/-- The attributes of an event. -/
def event? (j : Json) : Option (List Attribute) := do
  match ← Json.fields? [.required "type", .defaulted "attributes"] j with
  | [kind, attributes] => do
    let _ ← Json.required Json.string? kind
    Json.defaulted [] (Json.list? Attribute.ofJson?) attributes
  | _ => none

/-- The attributes of a log. -/
def log? (j : Json) : Option (List Attribute) := do
  match ← Json.fields? [.defaulted "events"] j with
  | [events] => return (← Json.defaulted [] (Json.list? event?) events).flatten
  | _ => none

/-- A transaction. -/
def Transaction.ofJson? (j : Json) : Option Transaction := do
  match ← Json.fields? [.required "txhash", .defaulted "timestamp", .defaulted "code",
      .required "tx", .defaulted "logs"] j with
  | [hash, timestamp, code, content, logs] => return {
      hash := ← Json.required Json.string? hash
      timestamp := ← Json.optional Json.string? timestamp
      code := ← Json.optional Json.uint64? code
      content := ← Json.required Json.any? content
      attributes := (← Json.defaulted [] (Json.list? log?) logs).flatten }
  | _ => none

/-- A page. -/
def Page.ofJson? (j : Json) : Option Page := do
  match ← Json.fields? [.defaulted "next", .defaulted "txs"] j with
  | [next, transactions] => return {
      next := ← Json.optional Json.uint64? next
      transactions := ← Json.defaulted [] (Json.list? Transaction.ofJson?) transactions }
  | _ => none

/-! ## Messages -/

/-- The value that a path of keys leads to. -/
def follow? (j : Json) : List String → Option Json
  | [] => some j
  | key :: rest => (j.get? key).bind fun j => follow? j rest

/-- The messages of a transaction, out of their envelopes. -/
def Transaction.messages (tx : Transaction) : List Json :=
  let envelope := follow? tx.content ["value", "msg"] <|> follow? tx.content ["body", "messages"]
  ((envelope.bind Json.items?).getD []).map fun m => (m.get? "value").getD m

/-- What a message asks of a contract, be it JSON or JSON in base 64. -/
def messageBody? (m : Json) : Option Json := do
  match ← m.get? "execute_msg" <|> m.get? "msg" with
  | .string encoded => do
    let text ← Octets.text? (← Text.Base64.decode encoded)
    return (← Json.ofText? text).canonical
  | body => return body

/-- The attestation that a message submits, as it is written. -/
def submittedText? (m : Json) : Option String := do
  let body ← messageBody? m
  (← follow? body ["submit_vaa", "data"]).string?

/-- Is the message for this contract? -/
def isFor (contract : String) (m : Json) : Bool :=
  (m.get? "contract").bind Json.string? == some contract

/-- Why a text is no attestation. -/
inductive SubmitError where
  /-- The text is not base 64. -/
  | base64 (text : String)
  | vaa (reason : VaaError)
  deriving DecidableEq, Repr

/-- The text of an error, where `detail` says what keeps a text from being base 64. -/
def SubmitError.message (detail : String → String) : SubmitError → String
  | base64 text => "vaa base64: " ++ detail text
  | vaa reason => reason.message

/-- The attestation in base 64. -/
def vaaOfText (s : String) : Except SubmitError SignedVaa :=
  match Text.Base64.decode s with
  | none => .error (.base64 s)
  | some bs =>
    match SignedVaa.parse bs with
    | .ok v => .ok v
    | .error reason => .error (.vaa reason)

namespace Transaction

/-- The first attestation that is submitted to a contract, or why that one cannot be read. -/
def submitted? (tx : Transaction) (contract : String) : Option (Except SubmitError SignedVaa) :=
  ((tx.messages.filter (isFor contract)).findSome? submittedText?).map vaaOfText

/-- The first tracked method among the logged actions. -/
def action? (tx : Transaction) (methods : List String) : Option String :=
  (tx.attributes.filter (·.key = "action")).findSome? fun a =>
    a.value.filter (· ∈ methods)

/-- The first sender of a message, empty if there is none. -/
def sender (tx : Transaction) : String :=
  (tx.messages.findSome? fun m => (m.get? "sender").bind Json.string?).getD ""

/-- The status of a transaction: code 0, or none, stands for success. -/
def status (tx : Transaction) : Status :=
  match tx.code with
  | none => .confirmed
  | some code => if code = 0 then .confirmed else .failed

/-- The method by which a redemption goes, if it is a tracked one. -/
def method? (tx : Transaction) (methods : List String) : Option String :=
  match tx.action? methods with
  | some action => some action
  | none => if tx.status = .failed then some "submit_vaa" else none

/-- The redemption that a transaction is. -/
def candidate? (tx : Transaction) (chainId : ChainId) (contract : String) (methods : List String)
    (height : UInt64) : Option Candidate := do
  match ← tx.submitted? contract with
  | .error _ => none
  | .ok vaa => return {
      messageId := vaa.messageId
      chainId
      method := ← tx.method? methods
      txHash := tx.hash
      sender := tx.sender
      target := contract
      blockNumber := height
      timestamp := (tx.timestamp.bind Timestamp.ofText?).getD .epoch
      status := tx.status }

end Transaction

end RedemptionWatch.Terra
