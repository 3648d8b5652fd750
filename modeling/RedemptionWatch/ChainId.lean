import RedemptionWatch.Text.Blank
import RedemptionWatch.Text.Numeral

/-!
# Chain ids

The numbers by which chains are known across the bridge, and the names of some of them.
-/

namespace RedemptionWatch

/-- The number of a chain. Not every number has a name. -/
structure ChainId where
  number : UInt16
  deriving DecidableEq, Repr, Inhabited

namespace ChainId

/-- The chains that have a name. -/
def named : List (ChainId × String) :=
  [(⟨1⟩, "solana"), (⟨2⟩, "ethereum"), (⟨3⟩, "terra"), (⟨4⟩, "bsc"), (⟨5⟩, "polygon"),
   (⟨6⟩, "avalanche"), (⟨7⟩, "oasis"), (⟨10⟩, "fantom"), (⟨11⟩, "karura"), (⟨12⟩, "acala"),
   (⟨13⟩, "klaytn"), (⟨14⟩, "celo"), (⟨16⟩, "moonbeam"), (⟨18⟩, "terra2"), (⟨22⟩, "aptos"),
   (⟨23⟩, "arbitrum"), (⟨24⟩, "optimism"), (⟨30⟩, "base")]

/-- The name of a chain. -/
def name? (c : ChainId) : Option String :=
  (named.find? (·.1 = c)).map (·.2)

/-- The chain of a name, in any letter case and with blanks around it. -/
def ofName? (s : String) : Option ChainId :=
  let s := Text.asciiLower (Text.trim s)
  (named.find? (·.2 = s)).map (·.1)

/-- The chain of a name or of a decimal number. -/
def ofText? (s : String) : Option ChainId :=
  ofName? s <|> (Text.Numeral.uint16? (Text.trim s)).map ChainId.mk

/-- The name of a chain, or its number if it has none. -/
def text (c : ChainId) : String :=
  c.name?.getD (toString c.number.toNat)

end ChainId

end RedemptionWatch
