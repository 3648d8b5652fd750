import RedemptionWatch.ChainId
import RedemptionWatch.Fetch
import RedemptionWatch.Json.Record
import RedemptionWatch.Json.Selective

/-!
# Configuration entries

A configuration lists watchers, one entry each, as a JSON object with the chain, its endpoint and,
by the family of the chain, what is tracked there. An `Entry` is what was written, with defaults
filled in and nothing checked.
-/

namespace RedemptionWatch.Config

/-- Method names by selector, by contract, as they were written. -/
abbrev Contracts := Table (Table String)

/-- What is tracked on a chain, by its family. -/
inductive Tracking where
  | evm (contracts : Contracts)
  | ankr (blockchain : String) (contracts : Contracts)
  | solana (tokenBridge coreBridge : Option String)
  | aptos (moduleAddress : String) (functions : Table String)
  | terra (listingUrl contract : String) (methods : List String)
  deriving DecidableEq, Repr

/-- The entry of a watcher. -/
structure Entry where
  chain : String
  chainId : Option ChainId
  url : String
  /-- Requests per second, 0 for no limit. -/
  rateLimit : Float
  pageSize : UInt64
  waitSeconds : UInt64
  initialBlock : UInt64
  retry : Option RetryPolicy
  tracking : Tracking
  deriving Repr

/-! ## Reading -/

/-- Which parts of a configuration are asked for: entries as a whole, retries and the configuration
itself by their members. -/
def interest : Json.Interest :=
  .record [("watchers", .list (.record
    [("retry", .record [("attempts", .whole .full), ("delay_ms", .whole .full)] .shape)] .full))]
    .shape

/-- Texts by their keys. -/
def texts? : Json → Option (Table String) :=
  Json.table? Json.string?

/-- Method names by selector, by contract. -/
def contracts? : Json → Option Contracts :=
  Json.table? texts?

/-- The families in the order of their numbers. -/
def families : List String := ["evm", "ankr", "solana", "aptos", "terra"]

/-- A family by its name or number. -/
def family? : Json → Option String
  | .string s => if s ∈ families then some s else none
  | j => (Json.uint64? j).bind fun n => families[n.toNat]?

/-- What an entry of this family tracks. -/
def Tracking.ofJson? (family : String) (entry : Json) : Option Tracking := do
  match family with
  | "evm" =>
    match ← Json.fields? [.required "contracts"] entry with
    | [contracts] => return .evm (← Json.required contracts? contracts)
    | _ => none
  | "ankr" =>
    match ← Json.fields? [.required "blockchain", .required "contracts"] entry with
    | [blockchain, contracts] =>
      return .ankr (← Json.required Json.string? blockchain) (← Json.required contracts? contracts)
    | _ => none
  | "solana" =>
    match ← Json.fields? [.defaulted "token_bridge", .defaulted "core_bridge"] entry with
    | [tokenBridge, coreBridge] =>
      return .solana (← Json.optional Json.string? tokenBridge)
        (← Json.optional Json.string? coreBridge)
    | _ => none
  | "aptos" =>
    match ← Json.fields? [.required "module_address", .required "functions"] entry with
    | [address, functions] =>
      return .aptos (← Json.required Json.string? address) (← Json.required texts? functions)
    | _ => none
  | "terra" =>
    match ← Json.fields? [.required "fcd_url", .required "contract", .required "methods"] entry with
    | [listingUrl, contract, methods] =>
      return .terra (← Json.required Json.string? listingUrl)
        (← Json.required Json.string? contract)
        (← Json.required (Json.list? Json.string?) methods)
    | _ => none
  | _ => none

/-- How often and how fast requests are tried again. -/
def retry? (j : Json) : Option RetryPolicy := do
  match ← Json.fields? [.defaulted "attempts", .defaulted "delay_ms"] j with
  | [attempts, delay] =>
    return .of (← Json.defaulted RetryPolicy.standard.attempts Json.uint32? attempts)
      (← Json.defaulted RetryPolicy.standard.delay (fun j => (Json.uint64? j).map (·.toNat)) delay)
  | _ => none

/-- An entry. It is an object in any case. -/
def Entry.ofJson? : Json → Option Entry
  | .object members => do
    let entry := Json.object members
    match ← Json.fields? [.required "chain", .defaulted "chain_id", .defaulted "url",
        .defaulted "rate_limit", .defaulted "size_blocks", .defaulted "wait_seconds",
        .defaulted "initial_block", .defaulted "retry", .required "family"] entry with
    | [chain, chainId, url, rateLimit, pageSize, wait, initialBlock, retry, family] => do
      let family ← Json.required family? family
      return {
        chain := ← Json.required Json.string? chain
        chainId := (← Json.optional Json.uint16? chainId).map ChainId.mk
        url := ← Json.defaulted "" Json.string? url
        rateLimit := ← Json.defaulted 0 Json.float? rateLimit
        pageSize := ← Json.defaulted 100 Json.uint64? pageSize
        waitSeconds := ← Json.defaulted 5 Json.uint64? wait
        initialBlock := ← Json.defaulted 0 Json.uint64? initialBlock
        retry := ← Json.optional retry? retry
        tracking := ← Tracking.ofJson? family entry }
    | _ => none
  | _ => none

/-- The entries of a configuration. -/
def entries? (text : String) : Option (List Entry) := do
  match ← Json.fields? [.defaulted "watchers"] (← interest.read? text) with
  | [watchers] => Json.defaulted [] (Json.list? Entry.ofJson?) watchers
  | _ => none

end RedemptionWatch.Config
