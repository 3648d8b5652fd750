import RedemptionWatch.Ankr.Source
import RedemptionWatch.Aptos.Source
import RedemptionWatch.Evm.Source
import RedemptionWatch.Solana.Source
import RedemptionWatch.Terra.Source
import RedemptionWatch.Watch.Watcher

/-!
# Sources of redemptions

A chain of any family as watchers see it: the latest block, the redemptions of a block, and pages of
activity. Reading a block is a loop, since the transactions of a block may be listed in pages.
-/

namespace RedemptionWatch

/-- A chain of one of the families. -/
inductive Source where
  | evm (source : Evm.Source)
  | ankr (source : Ankr.Source)
  | solana (source : Solana.Source)
  | aptos (source : Aptos.Source)
  | terra (source : Terra.Source)
  deriving DecidableEq, Repr

namespace Source

/-- The name of the family. -/
def family : Source → String
  | evm _ => "evm"
  | ankr _ => "ankr"
  | solana _ => "solana"
  | aptos _ => "aptos"
  | terra _ => "terra"

/-- How chains of the family are scanned. -/
def mode : Source → ScanMode
  | ankr _ => .activity
  | _ => .blocks

/-- The endpoint. -/
def url : Source → Url
  | evm s => s.url
  | ankr s => s.url
  | solana s => s.url
  | aptos s => s.url
  | terra s => s.url

/-- The source with another endpoint. -/
def withUrl (source : Source) (url : Url) : Source :=
  match source with
  | evm s => evm { s with url }
  | ankr s => ankr { s with url }
  | solana s => solana { s with url }
  | aptos s => aptos { s with url }
  | terra s => terra { s with url }

/-- The latest block. -/
def latestBlock : Source → Endpoint.Fetch UInt64
  | evm s => Evm.latestBlock s.url
  | ankr s => Evm.latestBlock s.url
  | solana s => s.latestBlock
  | aptos s => s.latestBlock
  | terra s => s.latestBlock

/-- The redemptions of a block in one or more rounds. The aggregator knows no blocks. -/
def readBlock (number : UInt64) :
    Source → Terra.Pages → Endpoint.Fetch (Terra.Pages ⊕ Option (List Candidate))
  | evm s, _ => return .inr (some (← s.candidates number))
  | ankr _, _ => return .inr none
  | solana s, _ => return .inr (← s.candidates? number)
  | aptos s, _ => return .inr (some (← s.candidates number))
  | terra s, pages => do
    match ← s.candidates number pages with
    | .inl pages => return .inl pages
    | .inr candidates => return .inr (some candidates)

/-- The redemptions of a block; a number may have no block. -/
def block (source : Source) (number : UInt64) :
    Loop Endpoint.interface Terra.Pages (Except FetchError (Option (List Candidate))) :=
    fun pages => do
  match ← (source.readBlock number pages).run with
  | .error e => return .inr (.error e)
  | .ok (.inl pages) => return .inl pages
  | .ok (.inr candidates) => return .inr (.ok candidates)

/-- A page of the activity in a range of blocks. Only the aggregator lists any. -/
def activity (range : BlockRange) (token : Option String) : Source → Endpoint.Fetch ActivityPage
  | ankr s => s.activity range token
  | _ => return ⟨[], none, none⟩

end Source

end RedemptionWatch
