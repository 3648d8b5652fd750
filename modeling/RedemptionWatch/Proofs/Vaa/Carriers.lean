import RedemptionWatch.Aptos.Block
import RedemptionWatch.Proofs.Evm.Calldata
import RedemptionWatch.Proofs.Text.Base64
import RedemptionWatch.Proofs.Text.Hex
import RedemptionWatch.Terra.Transaction

/-!
# All carriers of attestations agree

An attestation reaches a chain as the argument of a call on EVM chains, as a hexadecimal argument on
Aptos, and in base 64 within a message on Terra. The same bytes are read in the same way from all
three, be they an attestation or not (`SignedVaa.carriers_agree`): each carrier hands all of the
bytes to `SignedVaa.parse` and nothing else, and passes its refusal on.
-/

namespace RedemptionWatch

variable {bs : List UInt8}

namespace Aptos

/-- The attestation of a list of one argument is what its text spells. -/
theorem vaaOfArguments_singleton {hex : String} (h : Text.Hex.Spells hex bs) :
    vaaOfArguments [.string hex] = (SignedVaa.parse bs).mapError .vaa := by
  have hparse : SignedVaa.parseHex hex = SignedVaa.parse bs := by
    unfold SignedVaa.parseHex
    rw [Text.Hex.decode_of_spells h]
  unfold vaaOfArguments
  simp only [List.head?_cons, Option.bind_some, Json.string?, hparse]
  cases SignedVaa.parse bs <;> rfl

end Aptos

namespace Terra

variable {m body : Json} {contract text : String} {tx : Transaction}

/-- The message asks in plain JSON for the submission of this text. -/
def SubmitsInline (m : Json) (text : String) : Prop :=
  ∃ body, (m.get? "execute_msg" <|> m.get? "msg") = some body ∧
    follow? body ["submit_vaa", "data"] = some (.string text)

theorem submittedText?_of_inline (h : SubmitsInline m text) : submittedText? m = some text := by
  obtain ⟨body, hbody, hdata⟩ := h
  have hmessage : messageBody? m = some body := by
    unfold messageBody?
    rw [hbody]
    cases body with
    | string encoded => exact nomatch hdata
    | _ => rfl
  unfold submittedText?
  rw [hmessage, Option.bind_eq_bind, Option.bind_some, hdata]
  rfl

theorem vaaOfText_encode (bs : List UInt8) :
    vaaOfText (Text.Base64.encode bs) = (SignedVaa.parse bs).mapError .vaa := by
  unfold vaaOfText
  rw [Text.Base64.decode_encode]
  cases hparse : SignedVaa.parse bs <;> simp only [hparse] <;> rfl

/-- The first message to the contract decides. -/
theorem submitted?_of_find? (hm : tx.messages.find? (isFor contract) = some m)
    (htext : submittedText? m = some text) : tx.submitted? contract = some (vaaOfText text) := by
  have hhead : (tx.messages.filter (isFor contract)).head? = some m := by
    rw [List.head?_filter, hm]
  obtain ⟨rest, hfilter⟩ := List.head?_eq_some_iff.mp hhead
  unfold Transaction.submitted?
  rw [hfilter, List.findSome?_cons, htext]
  rfl

end Terra

/-- **All carriers agree.** The same bytes in calldata, in a hexadecimal argument and in base 64 in
the first message to a contract are read alike: as the attestation they are, or as none for the same
reason. A byte string has fewer than `2 ^ 64` bytes. -/
theorem SignedVaa.carriers_agree (hbs : bs.length < 2 ^ 64) (selector : Evm.Selector)
    {input hex : String} (hinput : Text.Hex.Spells input (Evm.Calldata.encode selector bs))
    (hhex : Text.Hex.Spells hex bs) {contract : String} {tx : Terra.Transaction} {m : Json}
    (hm : tx.messages.find? (Terra.isFor contract) = some m)
    (hsubmits : Terra.SubmitsInline m (Text.Base64.encode bs)) :
    Evm.Calldata.vaaOfText input = (SignedVaa.parse bs).mapError .vaa ∧
      Aptos.vaaOfArguments [.string hex] = (SignedVaa.parse bs).mapError .vaa ∧
      tx.submitted? contract = some ((SignedVaa.parse bs).mapError .vaa) := by
  refine ⟨?_, Aptos.vaaOfArguments_singleton hhex, ?_⟩
  · rw [Evm.Calldata.vaaOfText_of_decode (Text.Hex.decode_of_spells hinput),
      Evm.Calldata.vaa_encode selector hbs]
  · rw [Terra.submitted?_of_find? hm (Terra.submittedText?_of_inline hsubmits),
      Terra.vaaOfText_encode]

namespace SignedVaa

/-- The attestation of message 77, without signatures. -/
def carried : SignedVaa := ⟨1, 3, 0, ⟨5, 6, ⟨2⟩, .fill 0xab, 77, 1⟩, [0xff]⟩

/-- The call by which it is redeemed. -/
def carrierInput : String :=
  .ofList ('0' :: 'x' :: Text.Hex.encodeChars
    (Evm.Calldata.encode ⟨[0xc6, 0x87, 0x85, 0x19], rfl⟩ (carried.bytes [])))

/-- The argument by which it is redeemed, in capital letters. -/
def carrierArgument : String :=
  .ofList ((Text.Hex.encodeChars (carried.bytes [])).map Char.toUpper)

/-- The message by which it is redeemed. -/
def carrierMessage : Json :=
  .object [("contract", .string "terra1bridge"), ("execute_msg", .object [("submit_vaa",
    .object [("data", .string (Text.Base64.encode (carried.bytes [])))])])]

/-- The transaction of that message, after one to another contract. -/
def carrierTransaction : Terra.Transaction where
  hash := "A1"
  timestamp := none
  code := none
  content := .object [("body", .object [("messages",
    .array [.object [("contract", .string "terra1token")], carrierMessage])])]
  attributes := []

theorem carriers_agree_carried :
    Evm.Calldata.vaaOfText carrierInput = .ok carried ∧
      Aptos.vaaOfArguments [.string carrierArgument] = .ok carried ∧
      carrierTransaction.submitted? "terra1bridge" = some (.ok carried) := by
  have hparse : parse (carried.bytes []) = .ok carried := by decide +kernel
  have hlength : (carried.bytes []).length < 2 ^ 64 := by decide
  have hinput : Text.Hex.Spells carrierInput
      (Evm.Calldata.encode ⟨[0xc6, 0x87, 0x85, 0x19], rfl⟩ (carried.bytes [])) :=
    ⟨['0', 'x'], by decide, _, Text.Hex.areDigitsOf_encodeChars _, String.toList_ofList⟩
  have hupper : Text.Hex.AreDigitsOf ((Text.Hex.encodeChars (carried.bytes [])).map Char.toUpper)
      (carried.bytes []) := by
    unfold Text.Hex.AreDigitsOf
    decide +kernel
  have hargument : Text.Hex.Spells carrierArgument (carried.bytes []) :=
    ⟨[], by decide, _, hupper, String.toList_ofList⟩
  have hmessage : carrierTransaction.messages.find? (Terra.isFor "terra1bridge") =
      some carrierMessage := rfl
  have hsubmits : Terra.SubmitsInline carrierMessage (Text.Base64.encode (carried.bytes [])) :=
    ⟨_, rfl, rfl⟩
  have hagree := carriers_agree hlength _ hinput hargument hmessage hsubmits
  rw [hparse] at hagree
  exact hagree

end SignedVaa

end RedemptionWatch
