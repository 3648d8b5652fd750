import RedemptionWatch.ChainId
import RedemptionWatch.Text.Hex

/-!
# Message ids

A message is known by the chain that emitted it, the 32-byte address of its emitter there, and its
sequence number. `MessageId.of` writes the three as `chain/emitter/sequence`, the key of every
redemption record.
-/

namespace RedemptionWatch

/-- A string of 32 bytes. -/
abbrev Address32 := { bs : List UInt8 // bs.length = 32 }

/-- Thirty-two times the same byte. -/
def Address32.fill (b : UInt8) : Address32 :=
  ⟨List.replicate 32 b, by simp⟩

/-- The text by which a message is known. -/
structure MessageId where
  text : String
  deriving DecidableEq, Repr, Inhabited

/-- The id of the message with this sequence number from this emitter. -/
def MessageId.of (chain : ChainId) (emitter : Address32) (sequence : UInt64) : MessageId :=
  ⟨String.ofList (Text.Numeral.decimal chain.number.toNat ++ '/' ::
    (Text.Hex.encodeChars emitter.val ++ '/' :: Text.Numeral.decimal sequence.toNat))⟩

end RedemptionWatch
