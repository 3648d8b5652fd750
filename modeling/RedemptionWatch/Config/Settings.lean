import RedemptionWatch.Config.Entry
import RedemptionWatch.Source
import RedemptionWatch.Text.Quoted

/-!
# Settings

Entries of a configuration that have been checked: `Config.load` gives the settings of all watchers,
or the first error. Addresses and selectors come in canonical form, chain names are unique, and
every watcher tracks something.
-/

namespace RedemptionWatch

/-- The settings of a watcher. -/
structure Settings where
  chain : String
  chainId : ChainId
  /-- Requests per second, 0 for no limit. -/
  rateLimit : Float
  pageSize : UInt64
  waitSeconds : UInt64
  initialBlock : UInt64
  retry : RetryPolicy
  source : Source
  deriving Repr

/-- The watcher with these settings. -/
def Settings.watcher (s : Settings) : Watcher where
  chain := s.chain
  chainId := s.chainId
  family := s.source.family
  mode := s.source.mode
  pageSize := s.pageSize
  wait := s.waitSeconds.toNat * 1000
  initialBlock := s.initialBlock
  retry := s.retry

/-- Why a configuration is refused. -/
inductive ConfigError where
  /-- The text is no configuration. -/
  | parse
  | missingUrl (chain : String)
  | invalidUrl (chain url : String) (reason : UrlError)
  | invalidAddress (chain address : String)
  | invalidSelector (chain selector : String)
  | zeroPageSize (chain : String)
  | unknownChainId (chain : String)
  | nothingTracked (chain : String)
  | duplicateChain (chain : String)
  deriving DecidableEq, Repr

/-- The text of an error. -/
def ConfigError.message : ConfigError → String
  | parse => "invalid watcher config"
  | missingUrl chain => chain ++ ": missing url"
  | invalidUrl chain url reason =>
    chain ++ ": invalid url " ++ Text.Quoted.text url ++ ": " ++ reason.message
  | invalidAddress chain address => chain ++ ": invalid address " ++ Text.Quoted.text address
  | invalidSelector chain selector =>
    chain ++ ": invalid method selector " ++ Text.Quoted.text selector
  | zeroPageSize chain => chain ++ ": size_blocks must be at least 1"
  | unknownChainId chain => chain ++ ": no chain_id given and the name is not a known chain"
  | nothingTracked chain => chain ++ ": no tracked contracts or methods"
  | duplicateChain chain => "duplicate watcher for chain " ++ chain

namespace Config

/-- Is a text blank? -/
def isBlank (s : String) : Bool :=
  s.toList.all Text.isBlank

/-- A URL of a chain. -/
def urlOf (chain url : String) : Except ConfigError Url :=
  if isBlank url then .error (.missingUrl chain)
  else match Url.ofText url with
    | .ok u => .ok u
    | .error reason => .error (.invalidUrl chain url reason)

/-- Adds the selectors of a contract to a table. -/
def addSelectors (chain : String) : List (String × String) → Table String →
    Except ConfigError (Table String)
  | [], table => .ok table
  | (selector, method) :: rest, table =>
    match Address.selector? selector with
    | some s => addSelectors chain rest (table.insert s method)
    | none => .error (.invalidSelector chain selector)

/-- Adds contracts to a table. Two spellings of one address are one contract. -/
def addContracts (chain : String) : List (String × Table String) → Evm.MethodTable →
    Except ConfigError Evm.MethodTable
  | [], methods => .ok methods
  | (address, selectors) :: rest, methods =>
    match Address.account? address with
    | some a => do
      let table ← addSelectors chain selectors.entries ((methods.get? a).getD .empty)
      addContracts chain rest (methods.insert a table)
    | none => .error (.invalidAddress chain address)

/-- The tracked methods in canonical form. There is at least one. -/
def methodTable (chain : String) (contracts : Contracts) :
    Except ConfigError Evm.MethodTable := do
  let methods ← addContracts chain contracts.entries .empty
  if methods.entries.all (·.2.isEmpty) then throw (.nothingTracked chain)
  return methods

/-- A program of Solana: 32 bytes in base 58. -/
def program (chain : String) (given : Option String) (usual : String) :
    Except ConfigError String :=
  let key := given.getD usual
  match Text.Base58.decode key with
  | some bs => if bs.length = 32 then .ok key else .error (.invalidAddress chain key)
  | none => .error (.invalidAddress chain key)

/-- The source of an entry, whose endpoint is still to be checked. -/
def sourceOf (chain : String) (chainId : ChainId) (pageSize : UInt64) :
    Tracking → Except ConfigError (Url → Source)
  | .evm contracts => do
    let methods ← methodTable chain contracts
    return fun url => .evm { chainId, url, methods }
  | .ankr blockchain contracts => do
    let methods ← methodTable chain contracts
    return fun url => .ankr { chainId, url, blockchain, methods, pageSize }
  | .solana tokenBridge coreBridge => do
    let tokenBridge ← program chain tokenBridge Solana.tokenBridge
    let coreBridge ← program chain coreBridge Solana.coreBridge
    return fun url => .solana { chainId, url, tokenBridge, coreBridge }
  | .aptos moduleAddress functions =>
    match Address.move? moduleAddress with
    | none => throw (.invalidAddress chain moduleAddress)
    | some address => do
      if functions.isEmpty then throw (.nothingTracked chain)
      return fun url => .aptos { chainId, url, tracked := { address, functions } }
  | .terra listingUrl contract methods => do
    if isBlank contract then throw (.invalidAddress chain contract)
    if methods.isEmpty then throw (.nothingTracked chain)
    let listing ← urlOf chain listingUrl
    return fun url => .terra { chainId, url, listing, contract, methods }

/-- The settings that an entry gives. -/
def Entry.settings (e : Entry) : Except ConfigError Settings := do
  match e.chainId <|> ChainId.ofName? e.chain with
  | none => throw (.unknownChainId e.chain)
  | some chainId =>
    if e.pageSize = 0 then throw (.zeroPageSize e.chain)
    let source ← sourceOf e.chain chainId e.pageSize e.tracking
    let url ← urlOf e.chain e.url
    return {
      chain := e.chain
      chainId
      rateLimit := e.rateLimit
      pageSize := e.pageSize
      waitSeconds := e.waitSeconds
      initialBlock := e.initialBlock
      retry := e.retry.getD .standard
      source := source url }

/-- The settings of entries after those of the chains in `seen`. -/
def settingsAfter (seen : List String) : List Entry → Except ConfigError (List Settings)
  | [] => .ok []
  | e :: rest => do
    if e.chain ∈ seen then throw (.duplicateChain e.chain)
    let s ← e.settings
    return s :: (← settingsAfter (e.chain :: seen) rest)

/-- The settings that a configuration gives. -/
def load (text : String) : Except ConfigError (List Settings) :=
  match entries? text with
  | some entries => settingsAfter [] entries
  | none => .error .parse

end Config

/-- The settings with another endpoint. -/
def Settings.withUrl (s : Settings) (url : String) : Except ConfigError Settings := do
  let url ← Config.urlOf s.chain url
  return { s with source := s.source.withUrl url }

end RedemptionWatch
