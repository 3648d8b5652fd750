import RedemptionWatch.Proofs.Vaa.Body

/-!
# Reading posted attestations

Exactly the instructions that post an attestation are read, whatever bytes follow them, and what is
read is what was written (`PostedVaa.parse_eq_ok_iff`). All other bytes are refused for one of three
causes, of which the first that applies is reported (`PostedVaa.parse_eq_error_iff`). With the
layout written out field by field (`PostedVaa.Posts`) that is `PostedVaa.parse_inverts`.

Sixty-one bytes or more are a header with whatever follows it (`PostedVaa.exists_header`), and
reading is known from there (`PostedVaa.parse_header`).
-/

namespace RedemptionWatch.PostedVaa

/-- The bytes are an instruction that posts the attestation: a tag, the version, the other fields
with their numbers in little-endian order, the size of the payload, and at least so many bytes. The
payload is the first of these, and the others may be any. -/
def Posts (bs : List UInt8) (v : PostedVaa) : Prop :=
  ∃ (size : Nat) (rest : List UInt8), size < 2 ^ 32 ∧ size ≤ rest.length ∧
    v.payload = rest.take size ∧
    bs = [2, v.version] ++ Octets.littleEndian 4 v.guardianSetIndex.toNat ++
      Octets.littleEndian 4 v.body.timestamp.toNat ++ Octets.littleEndian 4 v.body.nonce.toNat ++
      Octets.littleEndian 2 v.body.emitterChain.number.toNat ++ v.body.emitterAddress.val ++
      Octets.littleEndian 8 v.body.sequence.toNat ++ [v.body.consistencyLevel] ++
      Octets.littleEndian 4 size ++ rest

/-- Why bytes are refused: the first of three causes that applies. The first byte is the tag, and
the size of the payload stands in the last four of the 61 bytes before it. -/
inductive Refused (bs : List UInt8) : VaaError → Prop where
  | tooShort (h : bs.length < 61) : Refused bs (.tooShort bs.length 61)
  | tag (h : 61 ≤ bs.length) (htag : bs.getD 0 0 ≠ 2) : Refused bs (.notPosted (bs.getD 0 0))
  | payload (h : 61 ≤ bs.length) (htag : bs.getD 0 0 = 2)
      (hlength : bs.length < 61 + Octets.ofLittleEndian ((bs.drop 57).take 4)) :
      Refused bs (.truncated .payload)

variable {v : PostedVaa} {bs : List UInt8} {e : VaaError}

/-! ## The header -/

/-- What stands before the payload, if the payload is announced with this size. -/
def header (first version : UInt8) (index : UInt32) (body : VaaBody) (size : Nat) : List UInt8 :=
  first :: version :: (Octets.littleEndian 4 index.toNat ++
    (body.bytes .little ++ Octets.littleEndian 4 size))

theorem length_header (first version : UInt8) (index : UInt32) (body : VaaBody) (size : Nat) :
    (header first version index body size).length = 61 := by
  simp [header, Octets.length_littleEndian, VaaBody.length_bytes, VaaBody.size]

theorem bytes_eq (v : PostedVaa) : v.bytes =
    header tag v.version v.guardianSetIndex v.body v.payload.length ++ v.payload := by
  simp [bytes, header]

/-- Sixty-one bytes or more are a header and what follows it. -/
theorem exists_header (h : 61 ≤ bs.length) :
    ∃ (first version : UInt8) (index : UInt32) (body : VaaBody) (size : Nat) (rest : List UInt8),
      size < 2 ^ 32 ∧ bs = header first version index body size ++ rest := by
  obtain ⟨first, bs, rfl⟩ := List.exists_cons_of_length_pos (Nat.lt_of_lt_of_le (by decide) h)
  obtain ⟨version, bs, rfl⟩ := List.exists_cons_of_length_pos (l := bs)
    (by rw [List.length_cons] at h; omega)
  rw [List.length_cons, List.length_cons] at h
  obtain ⟨n, bs, hn, rfl⟩ := ByteOrder.exists_write .little (show 4 ≤ bs.length by omega)
  rw [List.length_append, ByteOrder.length_write] at h
  obtain ⟨body, bs, rfl⟩ := VaaBody.exists_bytes .little (show 51 ≤ bs.length by omega)
  rw [List.length_append, VaaBody.length_bytes, VaaBody.size] at h
  obtain ⟨size, rest, hsize, rfl⟩ := ByteOrder.exists_write .little (show 4 ≤ bs.length by omega)
  refine ⟨first, version, UInt32.ofNat n, body, size, rest, hsize, ?_⟩
  rw [header, UInt32.toNat_ofNat_of_lt' hn]
  simp [ByteOrder.write]

/-- The size of the payload is read as it was written. -/
theorem size_header {size : Nat} (hsize : size < 2 ^ 32) (first version : UInt8) (index : UInt32)
    (body : VaaBody) (rest : List UInt8) :
    Octets.ofLittleEndian (((header first version index body size ++ rest).drop 57).take 4) =
      size := by
  have hbefore : (first :: version :: (Octets.littleEndian 4 index.toNat ++
      body.bytes .little)).length = 57 := by
    simp [Octets.length_littleEndian, VaaBody.length_bytes, VaaBody.size]
  have hsplit : header first version index body size ++ rest =
      (first :: version :: (Octets.littleEndian 4 index.toNat ++ body.bytes .little)) ++
        (Octets.littleEndian 4 size ++ rest) := by
    simp [header]
  rw [hsplit, List.drop_left' hbefore, List.take_left' (Octets.length_littleEndian _ _)]
  exact ByteOrder.read_write .little hsize

/-- The fields of a header are read as they were written. -/
theorem parse_header {size : Nat} (hsize : size < 2 ^ 32) (first version : UInt8) (index : UInt32)
    (body : VaaBody) (rest : List UInt8) :
    parse (header first version index body size ++ rest) =
      if first ≠ tag then .error (.notPosted first)
      else if rest.length < size then .error (.truncated .payload)
      else .ok ⟨version, index, body, rest.take size⟩ := by
  have hlength : ¬(header first version index body size ++ rest).length < headerSize := by
    rw [List.length_append, length_header, headerSize]
    omega
  have hindex : ((header first version index body size ++ rest).drop 2).take 4 =
      Octets.littleEndian 4 index.toNat := by
    simp only [header, List.cons_append, List.drop_succ_cons, List.drop_zero, List.append_assoc]
    exact List.take_left' (Octets.length_littleEndian _ _)
  have hafter : (header first version index body size ++ rest).drop 6 =
      body.bytes .little ++ (Octets.littleEndian 4 size ++ rest) := by
    simp only [header, List.cons_append, List.drop_succ_cons, List.append_assoc]
    exact List.drop_left' (Octets.length_littleEndian _ _)
  have hbody : ((header first version index body size ++ rest).drop 6).take VaaBody.size =
      body.bytes .little := by
    rw [hafter]
    exact List.take_left' (VaaBody.length_bytes _ _)
  have hrest : (header first version index body size ++ rest).drop headerSize = rest :=
    List.drop_left' (length_header _ _ _ _ _)
  have hread : Octets.ofLittleEndian (Octets.littleEndian 4 index.toNat) = index.toNat :=
    ByteOrder.read_write .little index.toNat_lt
  have hindex' :
      UInt32.ofNat (Octets.ofLittleEndian (Octets.littleEndian 4 index.toNat)) = index := by
    rw [hread, UInt32.ofNat_toNat]
  unfold parse
  rw [dif_neg hlength]
  simp only [hindex, hbody, size_header hsize, hrest, hindex', VaaBody.ofBytes_bytes]
  rfl

theorem parse_of_length_lt (h : bs.length < 61) : parse bs = .error (.tooShort bs.length 61) := by
  unfold parse
  exact dif_pos h

/-! ## What is read and what is refused -/

/-- Exactly the instructions that post an attestation are read, as what was written. -/
theorem parse_eq_ok_iff : parse bs = .ok v ↔
    v.payload.length < 2 ^ 32 ∧ ∃ rest : List UInt8, bs = v.bytes ++ rest := by
  constructor
  · intro h
    rcases Nat.lt_or_ge bs.length 61 with hshort | hlong
    · rw [parse_of_length_lt hshort] at h
      nomatch h
    · obtain ⟨first, version, index, body, size, rest, hsize, rfl⟩ := exists_header hlong
      rw [parse_header hsize] at h
      split_ifs at h with hfirst hlength
      obtain rfl := not_not.mp hfirst
      cases h
      have hpayload : (rest.take size).length = size :=
        List.length_take_of_le (Nat.not_lt.mp hlength)
      refine ⟨lt_of_eq_of_lt hpayload hsize, rest.drop size, ?_⟩
      rw [bytes_eq, hpayload, List.append_assoc, List.take_append_drop]
  · rintro ⟨hsize, rest, rfl⟩
    have hlength : ¬(v.payload ++ rest).length < v.payload.length := by
      rw [List.length_append]
      omega
    rw [bytes_eq, List.append_assoc, parse_header hsize, if_neg (not_not.mpr rfl), if_neg hlength,
      List.take_left]

theorem parse_eq_error_iff : parse bs = .error e ↔ Refused bs e := by
  rcases Nat.lt_or_ge bs.length 61 with hshort | hlong
  · rw [parse_of_length_lt hshort]
    constructor
    · rintro ⟨⟩
      exact .tooShort hshort
    · rintro (_ | _ | _)
      · rfl
      all_goals omega
  · obtain ⟨first, version, index, body, size, rest, hsize, rfl⟩ := exists_header hlong
    have hlength : (header first version index body size ++ rest).length = 61 + rest.length := by
      rw [List.length_append, length_header]
    have hfirst : (header first version index body size ++ rest).getD 0 0 = first := rfl
    have hnumber := size_header hsize first version index body rest
    rw [parse_header hsize, tag]
    generalize header first version index body size ++ rest = bs at *
    subst hfirst hnumber
    constructor
    · intro h
      split_ifs at h with htag hpayload
      · cases h
        exact .tag hlong htag
      · cases h
        exact .payload hlong (not_not.mp htag) (by omega)
    · rintro (h | ⟨h, htag⟩ | ⟨h, htag, hpayload⟩)
      · omega
      · rw [if_pos htag]
      · rw [if_neg (not_not.mpr htag), if_pos (by omega)]

/-- The layout is what is written for the attestation, with any bytes after it. -/
theorem posts_iff : Posts bs v ↔
    v.payload.length < 2 ^ 32 ∧ ∃ rest : List UInt8, bs = v.bytes ++ rest := by
  constructor
  · rintro ⟨size, rest, hsize, hlength, hpayload, rfl⟩
    have htake : v.payload.length = size := by
      rw [hpayload, List.length_take_of_le hlength]
    refine ⟨lt_of_eq_of_lt htake hsize, rest.drop size, ?_⟩
    have hrest : rest = v.payload ++ rest.drop size := by
      rw [hpayload, List.take_append_drop]
    conv_lhs => rw [hrest]
    simp [bytes, VaaBody.bytes, ByteOrder.write, tag, htake]
  · rintro ⟨hsize, rest, rfl⟩
    refine ⟨v.payload.length, v.payload ++ rest, hsize, ?_, List.take_left.symm, ?_⟩
    · rw [List.length_append]
      omega
    · simp [bytes, VaaBody.bytes, ByteOrder.write, tag]

/-- **Exactness.** Bytes are read as a posted attestation if and only if they are laid out as an
instruction that posts it. They are refused for the first of three causes that applies. What is
written for an attestation is read back, whatever bytes follow. -/
theorem parse_inverts :
    (∀ bs v, parse bs = .ok v ↔ Posts bs v) ∧
    (∀ bs e, parse bs = .error e ↔ Refused bs e) ∧
    ∀ v : PostedVaa, v.payload.length < 2 ^ 32 → ∀ rest, parse (v.bytes ++ rest) = .ok v :=
  ⟨fun _ _ => parse_eq_ok_iff.trans posts_iff.symm, fun _ _ => parse_eq_error_iff,
    fun _ hsize rest => parse_eq_ok_iff.mpr ⟨hsize, rest, rfl⟩⟩

/-- An attestation of version 7 with a payload of three bytes. -/
def samplePosted : PostedVaa :=
  ⟨7, 3, ⟨1700000000, 42, ⟨2⟩, .fill 0xab, 77, 1⟩, [1, 2, 3]⟩

theorem parse_inverts_samplePosted : samplePosted.payload.length < 2 ^ 32 ∧
    parse (samplePosted.bytes ++ [9, 9]) = .ok samplePosted := by
  have hsize : samplePosted.payload.length < 2 ^ 32 := by decide
  obtain ⟨-, -, hread⟩ := parse_inverts
  exact ⟨hsize, hread samplePosted hsize [9, 9]⟩

end RedemptionWatch.PostedVaa
