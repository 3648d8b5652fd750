import RedemptionWatch.Address
import RedemptionWatch.Json.Record
import RedemptionWatch.Table
import RedemptionWatch.Vaa

/-!
# Blocks of Aptos

A transaction of Aptos that redeems a message calls a function of the tracked module, with the
attestation in hexadecimal as its first argument. Functions are named `address::module::function`,
and addresses are compared as numbers. Numbers of 64 bits may be written as strings.
-/

namespace RedemptionWatch.Aptos

/-- A call of a function. -/
structure Payload where
  function : Option String
  arguments : List Json
  deriving Repr, BEq

/-- A transaction. -/
structure Transaction where
  kind : String
  hash : String
  sender : Option String
  success : Option Bool
  payload : Option Payload
  deriving Repr, BEq

/-- A block, its time in microseconds after the epoch. -/
structure Block where
  height : UInt64
  time : UInt64
  transactions : List Transaction
  deriving Repr, BEq

/-! ## Reading -/

/-- An unsigned number of 64 bits, as a number or as decimal text. -/
def uint64? : Json → Option UInt64
  | .string s => Text.Numeral.uint64? s
  | j => Json.uint64? j

/-- A call of a function. -/
def Payload.ofJson? (j : Json) : Option Payload := do
  match ← Json.fields? [.defaulted "function", .defaulted "arguments"] j with
  | [function, arguments] => return {
      function := ← Json.optional Json.string? function
      arguments := ← Json.defaulted [] Json.items? arguments }
  | _ => none

/-- A transaction. -/
def Transaction.ofJson? (j : Json) : Option Transaction := do
  match ← Json.fields? [.required "type", .defaulted "hash", .defaulted "sender",
      .defaulted "success", .defaulted "payload"] j with
  | [kind, hash, sender, success, payload] => return {
      kind := ← Json.required Json.string? kind
      hash := ← Json.defaulted "" Json.string? hash
      sender := ← Json.optional Json.string? sender
      success := ← Json.optional Json.bool? success
      payload := ← Json.optional Payload.ofJson? payload }
  | _ => none

/-- A block. -/
def Block.ofJson? (j : Json) : Option Block := do
  match ← Json.fields? [.required "block_height", .required "block_timestamp",
      .defaulted "transactions"] j with
  | [height, time, transactions] => return {
      height := ← Json.required uint64? height
      time := ← Json.required uint64? time
      transactions := ← Json.defaulted [] (Json.list? Transaction.ofJson?) transactions }
  | _ => none

/-- The height of the ledger. -/
def ledgerHeight? (j : Json) : Option UInt64 := do
  match ← Json.fields? [.required "block_height"] j with
  | [height] => Json.required uint64? height
  | _ => none

/-! ## Redemptions -/

/-- The tracked module: its address in canonical form, and method names by `module::function`. -/
structure Module where
  address : String
  functions : Table String
  deriving DecidableEq, Repr

/-- The method that a function is tracked as. -/
def Module.method? (m : Module) (function : String) : Option String := do
  let (address, name) ← Text.cut? [':', ':'] function.toList
  if (← Address.move? (String.ofList address)) = m.address then
    m.functions.get? (String.ofList name)
  else none

/-- Why arguments carry no attestation. -/
inductive ArgumentError where
  | missing
  | vaa (reason : VaaError)
  deriving DecidableEq, Repr

/-- The text of an error. -/
def ArgumentError.message : ArgumentError → String
  | missing => "missing hex vaa argument"
  | vaa reason => reason.message

/-- The attestation that arguments carry. -/
def vaaOfArguments (arguments : List Json) : Except ArgumentError SignedVaa :=
  match arguments.head?.bind Json.string? with
  | none => .error .missing
  | some hex =>
    match SignedVaa.parseHex hex with
    | .ok v => .ok v
    | .error reason => .error (.vaa reason)

/-- The method and the attestation of a transaction that redeems a message. -/
def Transaction.redeeming? (m : Module) (tx : Transaction) : Option (String × SignedVaa) := do
  guard (tx.kind = "user_transaction")
  let payload ← tx.payload
  let method ← m.method? (← payload.function)
  let vaa ← (vaaOfArguments payload.arguments).toOption
  return (method, vaa)

end RedemptionWatch.Aptos
