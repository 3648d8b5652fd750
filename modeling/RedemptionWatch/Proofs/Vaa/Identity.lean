import RedemptionWatch.Proofs.Vaa.Posted
import RedemptionWatch.Proofs.Vaa.Signed

/-!
# The identity of messages

Two messages have the same id only if they are the same message: same emitter chain, same emitter
address, same sequence number (`MessageId.of_inj`). For the three parts are written without a slash,
so an id falls apart at its slashes (`MessageId.splitOn_text_of`), and each part is read back from
its digits.

Attestations come in two layouts of opposite byte order. Whatever bytes are read in either of them,
what is read of the body is what stands in the bytes (`Attestation.IsReadFrom.bytes_body`), so the
ids are equal exactly if the three parts are (`Attestation.messageId_unambiguous`).
-/

namespace RedemptionWatch

/-! ## Digits -/

namespace Text

theorem Numeral.decimal_injective : Function.Injective decimal := by
  intro m n h
  calc
    m = Nat.ofDigitChars 10 (decimal m) 0 := Nat.ofDigitChars_ten_toDigits.symm
    _ = Nat.ofDigitChars 10 (decimal n) 0 := by rw [h]
    _ = n := Nat.ofDigitChars_ten_toDigits

theorem Numeral.slash_notMem_decimal (n : Nat) : '/' ∉ decimal n := by
  intro h
  have hdigit : Char.isDigit '/' = true :=
    Nat.isDigit_of_mem_toDigits (by decide) (by decide) h
  exact absurd hdigit (by decide)

namespace Hex

/-- A digit is read as the number for which it was written. -/
theorem digit?_digitChar : ∀ n < 16, Numeral.digit? (digitChar n) = some n := by
  decide

theorem digitChar_inj {m n : Nat} (hm : m < 16) (hn : n < 16) (h : digitChar m = digitChar n) :
    m = n := by
  have hdigit := digit?_digitChar m hm
  rw [h, digit?_digitChar n hn] at hdigit
  exact (Option.some.inj hdigit).symm

theorem encodeChars_injective : Function.Injective encodeChars := by
  intro bs bs' h
  induction bs generalizing bs' with
  | nil =>
    cases bs' with
    | nil => rfl
    | cons b bs' => nomatch h
  | cons a bs ih =>
    cases bs' with
    | nil => nomatch h
    | cons b bs' =>
      simp only [encodeChars, List.cons.injEq] at h
      obtain ⟨hhigh, hlow, hrest⟩ := h
      have ha := a.toNat_lt
      have hb := b.toNat_lt
      have hdiv := digitChar_inj (by omega) (by omega) hhigh
      have hmod := digitChar_inj (by omega) (by omega) hlow
      rw [ih hrest, show a = b from UInt8.toNat_inj.mp (by omega)]

theorem slash_notMem_encodeChars (bs : List UInt8) : '/' ∉ encodeChars bs := by
  have hdigit : ∀ n < 16, '/' ≠ digitChar n := by decide
  induction bs with
  | nil => exact List.not_mem_nil
  | cons b bs ih =>
    have hb := b.toNat_lt
    simp only [encodeChars, List.mem_cons, not_or]
    exact ⟨hdigit _ (by omega), hdigit _ (by omega), ih⟩

end Hex

end Text

/-! ## Ids -/

namespace MessageId

open Text

variable {chain chain' : ChainId} {emitter emitter' : Address32} {sequence sequence' : UInt64}

/-- An id falls apart at its slashes. -/
theorem splitOn_text_of (chain : ChainId) (emitter : Address32) (sequence : UInt64) :
    (of chain emitter sequence).text.toList.splitOn '/' =
      [Numeral.decimal chain.number.toNat, Hex.encodeChars emitter.val,
        Numeral.decimal sequence.toNat] := by
  have htext : (of chain emitter sequence).text.toList =
      ['/'].intercalate [Numeral.decimal chain.number.toNat, Hex.encodeChars emitter.val,
        Numeral.decimal sequence.toNat] := by
    simp [of, List.intercalate]
  rw [htext]
  refine List.splitOn_intercalate '/' (fun l hl => ?_) (List.cons_ne_nil _ _)
  rcases List.mem_cons.mp hl with rfl | hl
  · exact Numeral.slash_notMem_decimal _
  · rcases List.mem_cons.mp hl with rfl | hl
    · exact Hex.slash_notMem_encodeChars _
    · rw [List.mem_singleton.mp hl]
      exact Numeral.slash_notMem_decimal _

theorem of_inj : of chain emitter sequence = of chain' emitter' sequence' ↔
    chain = chain' ∧ emitter = emitter' ∧ sequence = sequence' := by
  constructor
  · intro h
    have hparts := splitOn_text_of chain emitter sequence
    rw [h, splitOn_text_of, List.cons.injEq, List.cons.injEq, List.cons.injEq] at hparts
    obtain ⟨hchain, hemitter, hsequence, -⟩ := hparts
    obtain ⟨number⟩ := chain
    obtain ⟨number'⟩ := chain'
    obtain rfl : number' = number :=
      UInt16.toNat_inj.mp (Numeral.decimal_injective hchain)
    obtain rfl : emitter' = emitter := Subtype.ext (Hex.encodeChars_injective hemitter)
    obtain rfl : sequence' = sequence :=
      UInt64.toNat_inj.mp (Numeral.decimal_injective hsequence)
    exact ⟨rfl, rfl, rfl⟩
  · rintro ⟨rfl, rfl, rfl⟩
    rfl

end MessageId

/-! ## Attestations in either layout -/

/-- An attestation in one of the two layouts. -/
inductive Attestation where
  | signed (attestation : SignedVaa)
  | posted (attestation : PostedVaa)
  deriving DecidableEq, Repr

namespace Attestation

variable {a : Attestation} {bs : List UInt8}

/-- What it says about its message. -/
def body : Attestation → VaaBody
  | signed v => v.body
  | posted v => v.body

/-- The id of the message that is attested. -/
def messageId : Attestation → MessageId
  | signed v => v.messageId
  | posted v => v.messageId

/-- The byte order of its layout. -/
def order : Attestation → ByteOrder
  | signed _ => .big
  | posted _ => .little

/-- The number of bytes before its body: in both layouts the header, and the signatures if there
are any. -/
def bodyStart : Attestation → Nat
  | signed v => 6 + 66 * v.signatureCount.toNat
  | posted _ => 6

/-- The bytes are read as this attestation. -/
def IsReadFrom (bs : List UInt8) : Attestation → Prop
  | signed v => SignedVaa.parse bs = .ok v
  | posted v => PostedVaa.parse bs = .ok v

instance (bs : List UInt8) : (a : Attestation) → Decidable (a.IsReadFrom bs)
  | signed v => inferInstanceAs (Decidable (SignedVaa.parse bs = .ok v))
  | posted v => inferInstanceAs (Decidable (PostedVaa.parse bs = .ok v))

theorem messageId_eq (a : Attestation) : a.messageId = a.body.messageId := by
  cases a <;> rfl

/-- What is read of the body is what stands in its place. -/
theorem IsReadFrom.bytes_body (h : a.IsReadFrom bs) :
    (bs.drop a.bodyStart).take 51 = a.body.bytes a.order := by
  cases a with
  | signed v =>
    obtain ⟨-, signatures, hlength, rfl⟩ := SignedVaa.parse_eq_ok_iff.mp h
    have hbytes : v.bytes signatures =
        (v.version :: (Octets.bigEndian 4 v.guardianSetIndex.toNat ++
          v.signatureCount :: signatures)) ++ (v.body.bytes .big ++ v.payload) := by
      simp [SignedVaa.bytes]
    have hstart : (v.version :: (Octets.bigEndian 4 v.guardianSetIndex.toNat ++
        v.signatureCount :: signatures)).length = 6 + 66 * v.signatureCount.toNat := by
      rw [SignedVaa.length_header, hlength]
    rw [bodyStart, hbytes, List.drop_left' hstart]
    exact List.take_left' (VaaBody.length_bytes _ _)
  | posted v =>
    obtain ⟨-, rest, rfl⟩ := PostedVaa.parse_eq_ok_iff.mp h
    have hbytes : v.bytes ++ rest =
        (PostedVaa.tag :: v.version :: Octets.littleEndian 4 v.guardianSetIndex.toNat) ++
          (v.body.bytes .little ++
            (Octets.littleEndian 4 v.payload.length ++ (v.payload ++ rest))) := by
      simp [PostedVaa.bytes]
    have hstart : (PostedVaa.tag :: v.version ::
        Octets.littleEndian 4 v.guardianSetIndex.toNat).length = 6 := by
      simp [Octets.length_littleEndian]
    rw [bodyStart, hbytes, List.drop_left' hstart]
    exact List.take_left' (VaaBody.length_bytes _ _)

/-- **Unambiguous identity.** Two ids are equal if and only if emitter chain, emitter address and
sequence number are. This holds of any two byte strings that are read as attestations, in whichever
layout each of them is: what is read of the body stands in the bytes, and beside these three nothing
in the bytes matters. -/
theorem messageId_unambiguous :
    (∀ chain emitter sequence chain' emitter' sequence',
      MessageId.of chain emitter sequence = MessageId.of chain' emitter' sequence' ↔
        chain = chain' ∧ emitter = emitter' ∧ sequence = sequence') ∧
    ∀ (bs bs' : List UInt8) (a a' : Attestation), a.IsReadFrom bs → a'.IsReadFrom bs' →
      (bs.drop a.bodyStart).take 51 = a.body.bytes a.order ∧
      (bs'.drop a'.bodyStart).take 51 = a'.body.bytes a'.order ∧
      (a.messageId = a'.messageId ↔ a.body.emitterChain = a'.body.emitterChain ∧
        a.body.emitterAddress = a'.body.emitterAddress ∧ a.body.sequence = a'.body.sequence) := by
  refine ⟨fun _ _ _ _ _ _ => MessageId.of_inj, fun bs bs' a a' h h' => ?_⟩
  refine ⟨h.bytes_body, h'.bytes_body, ?_⟩
  rw [messageId_eq, messageId_eq]
  exact MessageId.of_inj

/-- Message 77 of an emitter on chain 2. -/
def sampleBody : VaaBody := ⟨1700000000, 42, ⟨2⟩, .fill 0xab, 77, 15⟩

/-- The message with two signatures. -/
def sampleSigned : SignedVaa := ⟨1, 3, 2, sampleBody, [1, 2, 3]⟩

/-- The message as it was posted later, under another guardian set. -/
def samplePosted : PostedVaa :=
  ⟨1, 4, { sampleBody with timestamp := 1700000500, nonce := 7, consistencyLevel := 1 }, [9]⟩

theorem messageId_unambiguous_sampleBody :
    IsReadFrom (sampleSigned.bytes (List.replicate 132 5)) (.signed sampleSigned) ∧
    IsReadFrom (samplePosted.bytes ++ [0]) (.posted samplePosted) ∧
    (signed sampleSigned).messageId = (posted samplePosted).messageId := by
  have hsigned : IsReadFrom (sampleSigned.bytes (List.replicate 132 5)) (signed sampleSigned) := by
    decide +kernel
  have hposted : IsReadFrom (samplePosted.bytes ++ [0]) (posted samplePosted) := by
    decide +kernel
  obtain ⟨-, -, hiff⟩ := messageId_unambiguous.2 _ _ _ _ hsigned hposted
  exact ⟨hsigned, hposted, hiff.mpr ⟨rfl, rfl, rfl⟩⟩

end Attestation

end RedemptionWatch
