import RedemptionWatch.Json.Record
import RedemptionWatch.Text.Base58
import RedemptionWatch.Vaa

/-!
# Transactions of Solana

Instructions name programs and accounts by their places in the list of account keys of their
transaction: the keys of the message, then the loaded ones. An instruction with a place beyond the
list or with data that cannot be read is passed over.

An instruction of the token bridge that completes a transfer names the account that holds the
attestation. The attestation itself is the data of an instruction of the core bridge, at the top
level or inside another instruction.
-/

namespace RedemptionWatch.Solana

/-- An instruction. -/
structure Instruction where
  program : Nat
  accounts : List Nat
  /-- Bytes in base 58. -/
  data : String
  deriving DecidableEq, Repr

/-- What is known of the execution of a transaction. -/
structure Meta where
  failed : Bool
  /-- Loaded keys that may be written. -/
  writable : List String
  /-- Loaded keys that are only read. -/
  readonly : List String
  /-- Instructions that instructions of the top level made. -/
  inner : List Instruction
  deriving DecidableEq, Repr

/-- A transaction. -/
structure Transaction where
  signatures : List String
  keys : List String
  instructions : List Instruction
  execution : Meta
  deriving DecidableEq, Repr

/-- A block, its time in seconds after the epoch. -/
structure Block where
  time : Option Int64
  transactions : List Transaction
  deriving DecidableEq, Repr

/-! ## Reading -/

/-- A place in a list. -/
def place? (j : Json) : Option Nat :=
  Json.natBelow? UInt64.size j

/-- A list of texts that may be left out. -/
def texts? : Option Json → Option (List String) :=
  Json.defaulted [] (Json.list? Json.string?)

/-- An instruction. -/
def Instruction.ofJson? (j : Json) : Option Instruction := do
  match ← Json.fields? [.required "programIdIndex", .defaulted "accounts", .required "data"] j with
  | [program, accounts, data] => return {
      program := ← Json.required place? program
      accounts := ← Json.defaulted [] (Json.list? place?) accounts
      data := ← Json.required Json.string? data }
  | _ => none

/-- A list of instructions that may be left out. -/
def instructions? : Option Json → Option (List Instruction) :=
  Json.defaulted [] (Json.list? Instruction.ofJson?)

/-- Loaded keys: those that may be written and those that are only read. -/
def loaded? (j : Json) : Option (List String × List String) := do
  match ← Json.fields? [.defaulted "writable", .defaulted "readonly"] j with
  | [writable, readonly] => return (← texts? writable, ← texts? readonly)
  | _ => none

/-- The instructions that one instruction made. -/
def innerGroup? (j : Json) : Option (List Instruction) := do
  match ← Json.fields? [.defaulted "instructions"] j with
  | [instructions] => instructions? instructions
  | _ => none

/-- What is known where nothing is stated. -/
def Meta.none : Meta where
  failed := false
  writable := []
  readonly := []
  inner := []

/-- What is known of an execution. -/
def Meta.ofJson? (j : Json) : Option Meta := do
  match ← Json.fields? [.defaulted "err", .defaulted "loadedAddresses",
      .defaulted "innerInstructions"] j with
  | [err, loaded, inner] => do
    let loaded ← Json.optional loaded? loaded
    let inner ← Json.optional (Json.list? innerGroup?) inner
    return {
      failed := (← Json.optional Json.any? err).isSome
      writable := (loaded.map (·.1)).getD []
      readonly := (loaded.map (·.2)).getD []
      inner := (inner.getD []).flatten }
  | _ => Option.none

/-- The keys and instructions of a message. -/
def message? (j : Json) : Option (List String × List Instruction) := do
  match ← Json.fields? [.required "accountKeys", .defaulted "instructions"] j with
  | [keys, instructions] =>
    return (← Json.required (Json.list? Json.string?) keys, ← instructions? instructions)
  | _ => none

/-- The signatures of a transaction and its message. -/
def body? (j : Json) : Option (List String × List String × List Instruction) := do
  match ← Json.fields? [.required "signatures", .required "message"] j with
  | [signatures, message] =>
    return (← Json.required (Json.list? Json.string?) signatures, ← Json.required message? message)
  | _ => none

/-- A transaction. -/
def Transaction.ofJson? (j : Json) : Option Transaction := do
  match ← Json.fields? [.required "transaction", .defaulted "meta"] j with
  | [body, execution] => do
    let (signatures, keys, instructions) ← Json.required body? body
    let execution := (← Json.optional Meta.ofJson? execution).getD .none
    return { signatures, keys, instructions, execution }
  | _ => none

/-- A block. -/
def Block.ofJson? (j : Json) : Option Block := do
  match ← Json.fields? [.defaulted "blockTime", .defaulted "transactions"] j with
  | [time, transactions] => return {
      time := ← Json.optional Json.int64? time
      transactions := ← Json.defaulted [] (Json.list? Transaction.ofJson?) transactions }
  | _ => none

/-! ## Instructions -/

namespace Transaction

/-- The keys by which instructions name programs and accounts. -/
def accountKeys (tx : Transaction) : List String :=
  tx.keys ++ tx.execution.writable ++ tx.execution.readonly

/-- The instructions of the top level, then those that they made. -/
def allInstructions (tx : Transaction) : List Instruction :=
  tx.instructions ++ tx.execution.inner

end Transaction

/-- The instructions among `instructions` of the program with this key. -/
def ofProgram (keys : List String) (program : String) (instructions : List Instruction) :
    List Instruction :=
  instructions.filter fun i => keys[i.program]? = some program

/-- An instruction that completes a transfer. -/
structure Redeeming where
  method : String
  /-- The account that holds the attestation. -/
  account : String
  deriving DecidableEq, Repr

/-- The method of an instruction of the token bridge by its first byte, if it completes a transfer.
-/
def method? : UInt8 → Option String
  | 2 => some "completeNative"
  | 3 => some "completeWrapped"
  | _ => none

/-- The place of the account that holds the attestation among the accounts of the instruction. -/
def vaaPlace : Nat := 2

/-- What an instruction of the token bridge completes. -/
def Instruction.redeeming? (keys : List String) (i : Instruction) : Option Redeeming := do
  let data ← Text.Base58.decode i.data
  let method ← method? (← data.head?)
  let account ← keys[← i.accounts[vaaPlace]?]?
  return { method, account }

/-- The attestation that an instruction of the core bridge posts. -/
def Instruction.postedVaa? (i : Instruction) : Option PostedVaa := do
  (PostedVaa.parse (← Text.Base58.decode i.data)).toOption

/-- The transfers that instructions of the top level complete. -/
def Transaction.redeemings (tx : Transaction) (tokenBridge : String) : List Redeeming :=
  (ofProgram tx.accountKeys tokenBridge tx.instructions).filterMap
    (Instruction.redeeming? tx.accountKeys)

/-- The first attestation that the transaction posts. -/
def Transaction.postedVaa? (tx : Transaction) (coreBridge : String) : Option PostedVaa :=
  (ofProgram tx.accountKeys coreBridge tx.allInstructions).findSome? Instruction.postedVaa?

end RedemptionWatch.Solana
