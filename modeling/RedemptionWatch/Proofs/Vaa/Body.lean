import RedemptionWatch.Proofs.Octets
import RedemptionWatch.Vaa

/-!
# Bodies of attestations in bytes

A body and its bytes determine each other, in either byte order: any 51 bytes are the bytes of the
body that is read from them (`VaaBody.bytes_ofBytes`), and this body is the one that was written
(`VaaBody.ofBytes_bytes`). So a byte string of 51 bytes or more starts with the bytes of a body
(`VaaBody.exists_bytes`), and of one only (`VaaBody.bytes_inj`).
-/

namespace RedemptionWatch.VaaBody

variable {o : ByteOrder} {a b : VaaBody} {bs : List UInt8} {start width : Nat}

/-! ## A body from its bytes -/

theorem bytes_inj (h : a.bytes o = b.bytes o) : a = b := by
  have hsplit := h
  simp only [bytes, List.append_assoc] at hsplit
  obtain ⟨htimestamp, hsplit⟩ := List.append_inj hsplit (by simp only [ByteOrder.length_write])
  obtain ⟨hnonce, hsplit⟩ := List.append_inj hsplit (by simp only [ByteOrder.length_write])
  obtain ⟨hchain, hsplit⟩ := List.append_inj hsplit (by simp only [ByteOrder.length_write])
  obtain ⟨haddress, hsplit⟩ := List.append_inj hsplit
    (by rw [a.emitterAddress.property, b.emitterAddress.property])
  obtain ⟨hsequence, hsplit⟩ := List.append_inj hsplit (by simp only [ByteOrder.length_write])
  have hlevel := List.singleton_inj.mp hsplit
  obtain ⟨timestamp, nonce, ⟨chain⟩, address, sequence, level⟩ := a
  obtain ⟨timestamp', nonce', ⟨chain'⟩, address', sequence', level'⟩ := b
  obtain rfl : timestamp = timestamp' :=
    UInt32.toNat_inj.mp (o.write_inj timestamp.toNat_lt timestamp'.toNat_lt htimestamp)
  obtain rfl : nonce = nonce' :=
    UInt32.toNat_inj.mp (o.write_inj nonce.toNat_lt nonce'.toNat_lt hnonce)
  obtain rfl : chain = chain' :=
    UInt16.toNat_inj.mp (o.write_inj chain.toNat_lt chain'.toNat_lt hchain)
  obtain rfl : address = address' := Subtype.ext haddress
  obtain rfl : sequence = sequence' :=
    UInt64.toNat_inj.mp (o.write_inj sequence.toNat_lt sequence'.toNat_lt hsequence)
  obtain rfl : level = level' := hlevel
  rfl

/-! ## Bytes from the body that they hold -/

theorem field_lt (o : ByteOrder) (bs : List UInt8) (start width : Nat) :
    field o bs start width < 256 ^ width :=
  Nat.lt_of_lt_of_le (o.read_lt _)
    (Nat.pow_le_pow_right (by decide) (List.length_take_le width (bs.drop start)))

/-- A field is written as the bytes from which it is read. -/
theorem write_field (o : ByteOrder) (h : start + width ≤ bs.length) :
    o.write width (field o bs start width) = (bs.drop start).take width := by
  have hlength : ((bs.drop start).take width).length = width := by
    rw [List.length_take, List.length_drop]
    omega
  have hwrite := o.write_read ((bs.drop start).take width)
  rw [hlength] at hwrite
  exact hwrite

/-- Any 51 bytes are the bytes of a body. -/
theorem bytes_ofBytes (h : bs.length = size) : (ofBytes o bs h).bytes o = bs := by
  have hsize : bs.length = 51 := h
  have htimestamp : (ofBytes o bs h).timestamp.toNat = field o bs 0 4 :=
    UInt32.toNat_ofNat_of_lt' (field_lt o bs 0 4)
  have hnonce : (ofBytes o bs h).nonce.toNat = field o bs 4 4 :=
    UInt32.toNat_ofNat_of_lt' (field_lt o bs 4 4)
  have hchain : (ofBytes o bs h).emitterChain.number.toNat = field o bs 8 2 :=
    UInt16.toNat_ofNat_of_lt' (field_lt o bs 8 2)
  have haddress : (ofBytes o bs h).emitterAddress.val = (bs.drop 10).take 32 := rfl
  have hsequence : (ofBytes o bs h).sequence.toNat = field o bs 42 8 :=
    UInt64.toNat_ofNat_of_lt' (field_lt o bs 42 8)
  have hlevel : [(ofBytes o bs h).consistencyLevel] = o.write 1 (field o bs 50 1) := by
    cases o <;> rfl
  unfold bytes
  rw [htimestamp, hnonce, hchain, haddress, hsequence, hlevel, write_field o (by omega),
    write_field o (by omega), write_field o (by omega), write_field o (by omega),
    write_field o (by omega), List.drop_zero, ← List.take_add, ← List.take_add, ← List.take_add,
    ← List.take_add, ← List.take_add, List.take_of_length_le (by omega)]

theorem ofBytes_bytes (b : VaaBody) : ofBytes o (b.bytes o) (b.length_bytes o) = b :=
  bytes_inj (bytes_ofBytes (b.length_bytes o))

/-- Whatever bytes there are, the first ones are those of a body. -/
theorem exists_bytes (o : ByteOrder) (h : size ≤ bs.length) : ∃ b rest, bs = bytes o b ++ rest :=
  ⟨ofBytes o (bs.take size) (List.length_take_of_le h), bs.drop size, by
    rw [bytes_ofBytes, List.take_append_drop]⟩

end RedemptionWatch.VaaBody
