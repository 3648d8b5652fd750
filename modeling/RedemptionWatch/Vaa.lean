import RedemptionWatch.MessageId
import RedemptionWatch.Octets

/-!
# Attestations

An attestation (VAA) carries a message across the bridge. It comes in two layouts:

* signed, with big-endian numbers and the guardians' signatures, in calldata and arguments;
* posted, with little-endian numbers and no signatures, as instruction data of the Solana core
  bridge.

Both hold the same body, from which `VaaBody.messageId` reads the identity of the message.
`SignedVaa.parse` and `PostedVaa.parse` read the layouts, `SignedVaa.bytes` and `PostedVaa.bytes`
write them.
-/

namespace RedemptionWatch

/-- What every attestation says about its message, the payload apart. -/
structure VaaBody where
  timestamp : UInt32
  nonce : UInt32
  emitterChain : ChainId
  emitterAddress : Address32
  sequence : UInt64
  consistencyLevel : UInt8
  deriving DecidableEq, Repr

/-- The part of an attestation that is cut short. -/
inductive VaaPart where
  | signatures
  | body
  | payload
  deriving DecidableEq, Repr

/-- Why bytes are no attestation. -/
inductive VaaError where
  /-- Fewer bytes than any attestation has. -/
  | tooShort (length need : Nat)
  /-- A version other than 1. -/
  | unsupportedVersion (version : UInt8)
  /-- The bytes end inside this part. -/
  | truncated (part : VaaPart)
  /-- The instruction is another one. -/
  | notPosted (tag : UInt8)
  /-- The text is no hexadecimal form of bytes. -/
  | invalidHex (reason : Text.Hex.Error)
  deriving DecidableEq, Repr

namespace VaaBody

/-- The number of bytes of a body. -/
def size : Nat := 51

/-- The body as bytes. -/
def bytes (order : ByteOrder) (b : VaaBody) : List UInt8 :=
  order.write 4 b.timestamp.toNat ++ order.write 4 b.nonce.toNat ++
    order.write 2 b.emitterChain.number.toNat ++ b.emitterAddress.val ++
    order.write 8 b.sequence.toNat ++ [b.consistencyLevel]

/-- The number in `width` bytes of `bs` from `start`. -/
def field (order : ByteOrder) (bs : List UInt8) (start width : Nat) : Nat :=
  order.read ((bs.drop start).take width)

/-- The body that 51 bytes hold. -/
def ofBytes (order : ByteOrder) (bs : List UInt8) (h : bs.length = size) : VaaBody where
  timestamp := UInt32.ofNat (field order bs 0 4)
  nonce := UInt32.ofNat (field order bs 4 4)
  emitterChain := ⟨UInt16.ofNat (field order bs 8 2)⟩
  emitterAddress := ⟨(bs.drop 10).take 32, by simp [h, size]⟩
  sequence := UInt64.ofNat (field order bs 42 8)
  consistencyLevel := UInt8.ofNat (field order bs 50 1)

/-- The id of the message that is attested. -/
def messageId (b : VaaBody) : MessageId :=
  MessageId.of b.emitterChain b.emitterAddress b.sequence

theorem length_bytes (order : ByteOrder) (b : VaaBody) : (b.bytes order).length = size := by
  simp [bytes, ByteOrder.length_write, b.emitterAddress.property, size]

end VaaBody

/-- A signed attestation. Its signatures are counted and not checked. -/
structure SignedVaa where
  version : UInt8
  guardianSetIndex : UInt32
  signatureCount : UInt8
  body : VaaBody
  payload : List UInt8
  deriving DecidableEq, Repr

namespace SignedVaa

/-- The number of bytes before the signatures. -/
def headerSize : Nat := 6

/-- The number of bytes of one signature. -/
def signatureSize : Nat := 66

/-- The attestation with the given signatures as bytes. -/
def bytes (v : SignedVaa) (signatures : List UInt8) : List UInt8 :=
  v.version :: (Octets.bigEndian 4 v.guardianSetIndex.toNat ++ v.signatureCount ::
    (signatures ++ (v.body.bytes .big ++ v.payload)))

/-- The attestation whose body and payload follow the signatures. -/
def ofRest (version : UInt8) (guardianSetIndex : UInt32) (signatureCount : UInt8)
    (rest : List UInt8) : Except VaaError SignedVaa :=
  if h : rest.length < VaaBody.size then .error (.truncated .body)
  else .ok {
    version, guardianSetIndex, signatureCount
    body := VaaBody.ofBytes .big (rest.take VaaBody.size) (by simp; omega)
    payload := rest.drop VaaBody.size }

/-- The attestation that `bs` holds; every byte after the body is payload. -/
def parse (bs : List UInt8) : Except VaaError SignedVaa :=
  match bs with
  | version :: g₀ :: g₁ :: g₂ :: g₃ :: count :: rest =>
    if version ≠ 1 then .error (.unsupportedVersion version)
    else if rest.length < signatureSize * count.toNat then .error (.truncated .signatures)
    else ofRest version (UInt32.ofNat (Octets.ofBigEndian [g₀, g₁, g₂, g₃])) count
      (rest.drop (signatureSize * count.toNat))
  | _ => .error (.tooShort bs.length headerSize)

/-- The attestation that a hexadecimal text holds. -/
def parseHex (s : String) : Except VaaError SignedVaa :=
  match Text.Hex.decode s with
  | .ok bs => parse bs
  | .error reason => .error (.invalidHex reason)

/-- The id of the message that is attested. -/
def messageId (v : SignedVaa) : MessageId :=
  v.body.messageId

end SignedVaa

/-- An attestation as it is posted on Solana. -/
structure PostedVaa where
  version : UInt8
  guardianSetIndex : UInt32
  body : VaaBody
  payload : List UInt8
  deriving DecidableEq, Repr

namespace PostedVaa

/-- The first byte of the instruction that posts an attestation. -/
def tag : UInt8 := 2

/-- The number of bytes before the payload. -/
def headerSize : Nat := 61

/-- The instruction as bytes. -/
def bytes (v : PostedVaa) : List UInt8 :=
  tag :: v.version :: (Octets.littleEndian 4 v.guardianSetIndex.toNat ++
    (v.body.bytes .little ++ (Octets.littleEndian 4 v.payload.length ++ v.payload)))

/-- The attestation that an instruction posts; bytes after the payload are ignored. -/
def parse (bs : List UInt8) : Except VaaError PostedVaa :=
  if h : bs.length < headerSize then .error (.tooShort bs.length headerSize)
  else
    let first := bs.headD 0
    if first ≠ tag then .error (.notPosted first)
    else
      let size := Octets.ofLittleEndian ((bs.drop 57).take 4)
      let rest := bs.drop headerSize
      if rest.length < size then .error (.truncated .payload)
      else .ok {
        version := (bs.drop 1).headD 0
        guardianSetIndex := UInt32.ofNat (Octets.ofLittleEndian ((bs.drop 2).take 4))
        body := VaaBody.ofBytes .little ((bs.drop 6).take VaaBody.size) (by
          simp only [headerSize] at h
          simp only [VaaBody.size, List.length_take, List.length_drop]
          omega)
        payload := rest.take size }

/-- The id of the message that is attested. -/
def messageId (v : PostedVaa) : MessageId :=
  v.body.messageId

end PostedVaa

/-! ## Texts of the errors -/

/-- The name of a part. -/
def VaaPart.text : VaaPart → String
  | signatures => "signatures"
  | body => "body"
  | payload => "payload"

/-- The text of an error. -/
def VaaError.message : VaaError → String
  | tooShort length need =>
    "vaa too short: " ++ toString length ++ " bytes, need at least " ++ toString need
  | unsupportedVersion version => "unsupported vaa version " ++ toString version.toNat
  | truncated part => "vaa truncated: " ++ part.text
  | notPosted tag => "not a PostVAA instruction (tag 0x" ++ Text.Hex.encode [tag] ++ ")"
  | invalidHex reason => "invalid hex: " ++ reason.message

end RedemptionWatch
