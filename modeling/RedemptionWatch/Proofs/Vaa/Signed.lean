import RedemptionWatch.Proofs.Vaa.Body

/-!
# Reading signed attestations

Exactly the bytes of a signed attestation of version 1 are read, and what is read is what was
written, whatever the signatures and the payload (`SignedVaa.parse_eq_ok_iff`). All other bytes are
refused for one of four causes, of which the first that applies is reported
(`SignedVaa.parse_eq_error_iff`).

Six bytes or more are a header with whatever follows it (`SignedVaa.exists_header`), and reading is
known from there (`SignedVaa.parse_header`).
-/

namespace RedemptionWatch.SignedVaa

/-- Why bytes are refused: the first of four causes that applies. The first byte is the version, the
sixth the number of signatures. -/
inductive Refused (bs : List UInt8) : VaaError → Prop where
  | tooShort (h : bs.length < 6) : Refused bs (.tooShort bs.length 6)
  | version (h : 6 ≤ bs.length) (hversion : bs.getD 0 0 ≠ 1) :
      Refused bs (.unsupportedVersion (bs.getD 0 0))
  | signatures (h : 6 ≤ bs.length) (hversion : bs.getD 0 0 = 1)
      (hlength : bs.length < 6 + 66 * (bs.getD 5 0).toNat) : Refused bs (.truncated .signatures)
  | body (hversion : bs.getD 0 0 = 1) (h : 6 + 66 * (bs.getD 5 0).toNat ≤ bs.length)
      (hlength : bs.length < 57 + 66 * (bs.getD 5 0).toNat) : Refused bs (.truncated .body)

variable {v : SignedVaa} {bs rest : List UInt8} {e : VaaError} {version count : UInt8}
  {index : UInt32}

/-! ## The header -/

/-- Six bytes or more hold a version, the index of a guardian set and a number of signatures. -/
theorem exists_header (h : 6 ≤ bs.length) :
    ∃ (version : UInt8) (index : UInt32) (count : UInt8) (rest : List UInt8),
      bs = version :: (Octets.bigEndian 4 index.toNat ++ count :: rest) := by
  obtain ⟨version, bs, rfl⟩ := List.exists_cons_of_length_pos (Nat.lt_of_lt_of_le (by decide) h)
  have hlength : 5 ≤ bs.length := Nat.le_of_succ_le_succ h
  obtain ⟨n, rest, hn, rfl⟩ := ByteOrder.exists_write .big (show 4 ≤ bs.length by omega)
  rw [List.length_append, ByteOrder.length_write] at hlength
  obtain ⟨count, rest, rfl⟩ := List.exists_cons_of_length_pos (l := rest) (by omega)
  refine ⟨version, UInt32.ofNat n, count, rest, ?_⟩
  rw [UInt32.toNat_ofNat_of_lt' hn]
  rfl

theorem length_header (version : UInt8) (n : Nat) (count : UInt8) (rest : List UInt8) :
    (version :: (Octets.bigEndian 4 n ++ count :: rest)).length = 6 + rest.length := by
  simp only [List.length_cons, List.length_append, Octets.length_bigEndian]
  omega

theorem parse_of_length_lt (h : bs.length < 6) : parse bs = .error (.tooShort bs.length 6) := by
  unfold parse
  split
  · rw [List.length_cons, List.length_cons, List.length_cons, List.length_cons, List.length_cons,
      List.length_cons] at h
    omega
  · rfl

/-- The index is read as it was written, and the signatures are passed over. -/
theorem parse_header (version : UInt8) (index : UInt32) (count : UInt8) (rest : List UInt8) :
    parse (version :: (Octets.bigEndian 4 index.toNat ++ count :: rest)) =
      if version ≠ 1 then .error (.unsupportedVersion version)
      else if rest.length < 66 * count.toNat then .error (.truncated .signatures)
      else ofRest version index count (rest.drop (66 * count.toNat)) := by
  have hindex : UInt32.ofNat (Octets.ofBigEndian (Octets.bigEndian 4 index.toNat)) = index := by
    rw [Octets.ofBigEndian_bigEndian index.toNat_lt, UInt32.ofNat_toNat]
  obtain ⟨g₀, g₁, g₂, g₃, hbytes⟩ :
      ∃ g₀ g₁ g₂ g₃, Octets.bigEndian 4 index.toNat = [g₀, g₁, g₂, g₃] := ⟨_, _, _, _, rfl⟩
  rw [hbytes] at hindex ⊢
  simp only [List.cons_append, List.nil_append, parse, hindex, signatureSize]

/-! ## Body and payload -/

theorem ofRest_eq_ok_iff : ofRest version index count rest = .ok v ↔
    v.version = version ∧ v.guardianSetIndex = index ∧ v.signatureCount = count ∧
      rest = v.body.bytes .big ++ v.payload := by
  unfold ofRest
  split_ifs with h
  · refine ⟨nofun, ?_⟩
    rintro ⟨-, -, -, rfl⟩
    rw [List.length_append, VaaBody.length_bytes] at h
    omega
  · constructor
    · rintro ⟨⟩
      refine ⟨rfl, rfl, rfl, ?_⟩
      rw [VaaBody.bytes_ofBytes, List.take_append_drop]
    · rintro ⟨rfl, rfl, rfl, rfl⟩
      have htake : (v.body.bytes .big ++ v.payload).take VaaBody.size = v.body.bytes .big :=
        List.take_left' (VaaBody.length_bytes _ _)
      have hdrop : (v.body.bytes .big ++ v.payload).drop VaaBody.size = v.payload :=
        List.drop_left' (VaaBody.length_bytes _ _)
      simp only [htake, hdrop, VaaBody.ofBytes_bytes]

theorem ofRest_eq_error_iff : ofRest version index count rest = .error e ↔
    rest.length < 51 ∧ e = .truncated .body := by
  unfold ofRest
  split_ifs with h
  · rw [VaaBody.size] at h
    simp [h, eq_comm]
  · rw [VaaBody.size] at h
    simp [h]

/-! ## What is read and what is refused -/

/-- Exactly the bytes of attestations of version 1 are read, as what was written. -/
theorem parse_eq_ok_iff : parse bs = .ok v ↔ v.version = 1 ∧ ∃ signatures : List UInt8,
    signatures.length = 66 * v.signatureCount.toNat ∧ bs = v.bytes signatures := by
  constructor
  · intro h
    rcases Nat.lt_or_ge bs.length 6 with hshort | hlong
    · rw [parse_of_length_lt hshort] at h
      nomatch h
    · obtain ⟨version, index, count, rest, rfl⟩ := exists_header hlong
      rw [parse_header] at h
      split_ifs at h with hversion hlength
      obtain ⟨rfl, rfl, rfl, hrest⟩ := ofRest_eq_ok_iff.mp h
      refine ⟨not_not.mp hversion, rest.take (66 * v.signatureCount.toNat),
        List.length_take_of_le (Nat.not_lt.mp hlength), ?_⟩
      rw [bytes, ← hrest, List.take_append_drop]
  · rintro ⟨hversion, signatures, hlength, rfl⟩
    have hlong : 66 * v.signatureCount.toNat ≤
        (signatures ++ (v.body.bytes .big ++ v.payload)).length := by
      rw [List.length_append]
      omega
    rw [bytes, parse_header, if_neg (not_not.mpr hversion), if_neg (Nat.not_lt.mpr hlong),
      List.drop_left' hlength]
    exact ofRest_eq_ok_iff.mpr ⟨rfl, rfl, rfl, rfl⟩

theorem parse_eq_error_iff : parse bs = .error e ↔ Refused bs e := by
  rcases Nat.lt_or_ge bs.length 6 with hshort | hlong
  · rw [parse_of_length_lt hshort]
    constructor
    · rintro ⟨⟩
      exact .tooShort hshort
    · rintro (_ | _ | _ | _)
      · rfl
      all_goals omega
  · obtain ⟨version, index, count, rest, rfl⟩ := exists_header hlong
    have hlength := length_header version index.toNat count rest
    have hfirst :
        (version :: (Octets.bigEndian 4 index.toNat ++ count :: rest)).getD 0 0 = version := rfl
    have hsixth :
        (version :: (Octets.bigEndian 4 index.toNat ++ count :: rest)).getD 5 0 = count := rfl
    rw [parse_header]
    generalize version :: (Octets.bigEndian 4 index.toNat ++ count :: rest) = bs at *
    subst hfirst hsixth
    constructor
    · intro h
      split_ifs at h with hversion hsignatures
      · cases h
        exact .version hlong hversion
      · cases h
        exact .signatures hlong (not_not.mp hversion) (by omega)
      · obtain ⟨hbody, rfl⟩ := ofRest_eq_error_iff.mp h
        rw [List.length_drop] at hbody
        exact .body (not_not.mp hversion) (by omega) (by omega)
    · rintro (h | ⟨h, hversion⟩ | ⟨h, hversion, hsignatures⟩ | ⟨hversion, h, hbody⟩)
      · omega
      · rw [if_pos hversion]
      · rw [if_neg (not_not.mpr hversion), if_pos (by omega)]
      · rw [if_neg (not_not.mpr hversion), if_neg (by omega), ofRest_eq_error_iff, List.length_drop]
        exact ⟨by omega, rfl⟩

/-- **Exactness.** Bytes are read as a signed attestation if and only if they are what is written
for it, with any signatures. They are refused for the first of four causes that applies. -/
theorem parse_exact (bs : List UInt8) :
    (∀ v, parse bs = .ok v ↔ v.version = 1 ∧ ∃ signatures : List UInt8,
      signatures.length = 66 * v.signatureCount.toNat ∧ bs = v.bytes signatures) ∧
    ∀ e, parse bs = .error e ↔ Refused bs e :=
  ⟨fun _ => parse_eq_ok_iff, fun _ => parse_eq_error_iff⟩

end RedemptionWatch.SignedVaa
