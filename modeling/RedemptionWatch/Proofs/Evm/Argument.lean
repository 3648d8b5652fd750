import RedemptionWatch.Proofs.Evm.Calldata
import RedemptionWatch.Proofs.Text.Hex

/-!
# Where calldata are read

Calldata need not be an encoding: whoever sends a call chooses all its bytes, among them the two
words that say where the argument begins and how long it is. `Calldata.vaaOfText_reads` says for all
calldata which bytes are read as the attestation. They are the ones that the two words point at if
these lie within the arguments, wherever that is (over the words themselves, for one), and there are
none otherwise.

`Calldata.vaa` computes with numbers of any size. In words of 64 bits the same steps are
`Stepwise.vaa`, where an index past the end and a sum past 64 bits are faults. No calldata lead to
one (`Stepwise.vaa_eq`): the sum that is not guarded comes after a slice that ends there.
-/

namespace RedemptionWatch.Evm.Calldata

variable {bs arguments data : List UInt8} {n offset length : Nat}

/-! ### Words -/

theorem length_of_slice? {cs : List UInt8} (h : slice? bs offset length = some cs) :
    cs.length = length := by
  unfold slice? at h
  split at h
  · obtain rfl := Option.some.inj h
    rw [List.length_take_of_le]
    rw [List.length_drop]
    omega
  · cases h

theorem word?_of_slice? {word : List UInt8} (h : slice? bs offset wordSize = some word) :
    word? bs offset =
      if (word.take 24).all (· == 0) = true then some (Octets.ofBigEndian (word.drop 24))
      else none := by
  unfold word?
  rw [h, Option.bind_eq_bind, Option.bind_some, guard]
  split <;> rfl

theorem word?_of_none (h : slice? bs offset wordSize = none) : word? bs offset = none := by
  unfold word?
  rw [h]
  rfl

/-- The number that the bytes of the word at `offset` hold. -/
def wordAt (bs : List UInt8) (offset : Nat) : Nat :=
  Octets.ofBigEndian ((bs.drop offset).take wordSize)

/-- The number in the first word: where the argument begins, with its length. -/
def offsetOf (arguments : List UInt8) : Nat :=
  wordAt arguments 0

/-- The number in the word that the first one points at: how many bytes the argument has. -/
def lengthOf (arguments : List UInt8) : Nat :=
  wordAt arguments (offsetOf arguments)

/-- The bytes in front of the last eight are zero just if the number has 64 bits, and then the last
eight hold it. -/
theorem ofBigEndian_word {word : List UInt8} (h : word.length = wordSize) :
    ((word.take 24).all (· == 0) = true ↔ Octets.ofBigEndian word < 2 ^ 64) ∧
      ((word.take 24).all (· == 0) = true →
        Octets.ofBigEndian (word.drop 24) = Octets.ofBigEndian word) := by
  have hlow : (word.drop 24).length = 8 := by
    rw [List.length_drop, h, wordSize]
  have hlt : Octets.ofBigEndian (word.drop 24) < 256 ^ 8 := by
    have hlt := Octets.ofBigEndian_lt (word.drop 24)
    rwa [hlow] at hlt
  have hsplit : Octets.ofBigEndian word =
      Octets.ofBigEndian (word.take 24) * 256 ^ 8 + Octets.ofBigEndian (word.drop 24) := by
    have happend := Octets.ofBigEndian_append (word.take 24) (word.drop 24)
    rwa [List.take_append_drop, hlow] at happend
  have hzero : (word.take 24).all (· == 0) = true ↔ Octets.ofBigEndian (word.take 24) = 0 := by
    rw [Octets.ofBigEndian_eq_zero_iff, List.all_eq_true]
    simp only [beq_iff_eq]
  rw [hzero]
  omega

/-- A word is read if it is there and its number has 64 bits. -/
theorem word?_eq (bs : List UInt8) (offset : Nat) :
    word? bs offset =
      if offset + wordSize ≤ bs.length ∧ wordAt bs offset < 2 ^ 64 then some (wordAt bs offset)
      else none := by
  by_cases hle : offset + wordSize ≤ bs.length
  · have hcut : slice? bs offset wordSize = some ((bs.drop offset).take wordSize) := if_pos hle
    obtain ⟨hguard, hvalue⟩ := ofBigEndian_word (length_of_slice? hcut)
    rw [word?_of_slice? hcut]
    by_cases hzero : (((bs.drop offset).take wordSize).take 24).all (· == 0) = true
    · rw [if_pos hzero, if_pos ⟨hle, hguard.mp hzero⟩, hvalue hzero]
      rfl
    · rw [if_neg hzero, if_neg fun h => hzero (hguard.mpr h.2)]
  · rw [word?_of_none (if_neg hle), if_neg fun h => hle h.1]

theorem word?_lt (h : word? bs offset = some n) : n < 2 ^ 64 := by
  rw [word?_eq] at h
  split at h
  · obtain rfl := Option.some.inj h
    exact And.right ‹_›
  · cases h

theorem le_of_word? (h : word? bs offset = some n) : offset + wordSize ≤ bs.length := by
  rw [word?_eq] at h
  split at h
  · exact And.left ‹_›
  · cases h

/-- The argument is the slice that the two words point at, if their numbers have 64 bits. -/
theorem argument?_eq (arguments : List UInt8) :
    argument? arguments =
      if offsetOf arguments < 2 ^ 64 ∧ lengthOf arguments < 2 ^ 64 then
        slice? arguments (offsetOf arguments + wordSize) (lengthOf arguments)
      else none := by
  by_cases hin : offsetOf arguments + wordSize + lengthOf arguments ≤ arguments.length
  · have hfirst : word? arguments 0 =
        if offsetOf arguments < 2 ^ 64 then some (offsetOf arguments) else none := by
      rw [word?_eq]
      exact if_congr (and_iff_right (by omega)) rfl rfl
    have hsecond : word? arguments (offsetOf arguments) =
        if lengthOf arguments < 2 ^ 64 then some (lengthOf arguments) else none := by
      rw [word?_eq]
      exact if_congr (and_iff_right (by omega)) rfl rfl
    unfold argument?
    rw [hfirst, Option.bind_eq_bind, ite_and]
    split
    · rw [Option.bind_some, hsecond]
      split <;> rfl
    · rfl
  · have hnone : slice? arguments (offsetOf arguments + wordSize) (lengthOf arguments) = none :=
      if_neg hin
    rw [hnone, ite_self]
    unfold argument?
    rw [word?_eq, Option.bind_eq_bind]
    split
    · rw [Option.bind_some, word?_eq]
      split
      · exact hnone
      · rfl
    · rfl

theorem vaa_of_long (h : selectorSize + wordSize + wordSize ≤ data.length) :
    vaa data =
      match argument? (data.drop selectorSize) with
      | none => .error .outOfBounds
      | some bs => (SignedVaa.parse bs).mapError .vaa := by
  unfold vaa
  rw [if_neg (by omega)]
  cases argument? (data.drop selectorSize) with
  | none => rfl
  | some bs =>
    dsimp only
    cases SignedVaa.parse bs <;> rfl

/-- What calldata with room for a selector and two words are read as. -/
theorem vaa_eq (h : selectorSize + wordSize + wordSize ≤ data.length)
    (hargs : arguments = data.drop selectorSize) :
    vaa data =
      if offsetOf arguments < 2 ^ 64 ∧ lengthOf arguments < 2 ^ 64 ∧
          offsetOf arguments + wordSize + lengthOf arguments ≤ arguments.length then
        (SignedVaa.parse ((arguments.drop (offsetOf arguments + wordSize)).take
          (lengthOf arguments))).mapError .vaa
      else .error .outOfBounds := by
  rw [vaa_of_long h, ← hargs, argument?_eq, slice?]
  simp only [← ite_and, and_assoc]
  by_cases hin : offsetOf arguments < 2 ^ 64 ∧ lengthOf arguments < 2 ^ 64 ∧
      offsetOf arguments + wordSize + lengthOf arguments ≤ arguments.length
  · rw [if_pos hin, if_pos hin]
  · rw [if_neg hin, if_neg hin]

/-! ### The same steps in words of 64 bits -/

/-- Why a computation ends without an answer. -/
inductive Stop where
  /-- An index past the end, or a sum past 64 bits that nothing guards. -/
  | fault
  | refused (reason : CalldataError)
  deriving DecidableEq, Repr

namespace Stepwise

/-- The bytes from `first` to `last`, which must be there. -/
def index (bs : List UInt8) (first last : Nat) : Except Stop (List UInt8) :=
  if first ≤ last ∧ last ≤ bs.length then .ok ((bs.drop first).take (last - first))
  else .error .fault

/-- The bytes from `first` to `last`; the calldata are refused if they are not there. -/
def get (bs : List UInt8) (first last : UInt64) : Except Stop (List UInt8) :=
  if first ≤ last ∧ last.toNat ≤ bs.length then
    .ok ((bs.drop first.toNat).take (last.toNat - first.toNat))
  else .error (.refused .outOfBounds)

/-- A sum that must not leave 64 bits. -/
def add (m n : UInt64) : Except Stop UInt64 :=
  if m.toNat + n.toNat < UInt64.size then .ok (m + n) else .error .fault

/-- A sum; the calldata are refused if it leaves 64 bits. -/
def checkedAdd (m n : UInt64) : Except Stop UInt64 :=
  if m.toNat + n.toNat < UInt64.size then .ok (m + n) else .error (.refused .outOfBounds)

/-- The number that a word holds in its last eight bytes, if the others are zero. -/
def number (word : List UInt8) : Except Stop UInt64 := do
  let high ← index word 0 24
  if high.all (· == 0) then
    let low ← index word 24 32
    return UInt64.ofNat (Octets.ofBigEndian low)
  else
    throw (.refused .outOfBounds)

/-- `size` bytes from `first` on. -/
def slice (bs : List UInt8) (first size : UInt64) : Except Stop (List UInt8) := do
  get bs first (← checkedAdd first size)

/-- The number in the word at `offset`. -/
def word (bs : List UInt8) (offset : UInt64) : Except Stop UInt64 := do
  number (← slice bs offset 32)

/-- The argument of type `bytes`. -/
def argument (arguments : List UInt8) : Except Stop (List UInt8) := do
  let offset ← number (← index arguments 0 32)
  let length ← word arguments offset
  let start ← add offset 32
  slice arguments start length

/-- The attestation that calldata carry. -/
def vaa (data : List UInt8) : Except Stop SignedVaa := do
  if data.length < 4 + 32 + 32 then
    throw (.refused (.tooShort data.length))
  else
    let arguments ← index data 4 data.length
    let bs ← argument arguments
    (SignedVaa.parse bs).mapError fun reason => .refused (.vaa reason)

/-- What is not there makes the calldata refused. -/
def orRefused {α : Type} : Option α → Except Stop α
  | some a => .ok a
  | none => .error (.refused .outOfBounds)

/-- A slice is cut out in 64 bits as it is without a bound, or the calldata are refused. -/
theorem slice_eq (h : bs.length < 2 ^ 64) (first size : UInt64) :
    slice bs first size = orRefused (slice? bs first.toNat size.toNat) := by
  unfold slice checkedAdd slice?
  by_cases hsum : first.toNat + size.toNat < UInt64.size
  · have hlast : (first + size).toNat = first.toNat + size.toNat := by
      rw [UInt64.toNat_add]
      exact Nat.mod_eq_of_lt hsum
    have hle : first ≤ first + size := by
      rw [UInt64.le_iff_toNat_le, hlast]
      omega
    rw [if_pos hsum]
    change get bs first (first + size) = _
    unfold get
    by_cases hin : first.toNat + size.toNat ≤ bs.length
    · rw [hlast, if_pos ⟨hle, hin⟩, if_pos hin, Nat.add_sub_cancel_left]
      rfl
    · rw [hlast, if_neg fun h => hin h.2, if_neg hin]
      rfl
  · have hsize : UInt64.size = 2 ^ 64 := rfl
    rw [if_neg hsum, if_neg (by omega)]
    rfl

/-- Of a whole word the last eight bytes are read without a fault. -/
theorem number_eq {word : List UInt8} (h : slice? bs offset wordSize = some word) :
    number word = orRefused ((word? bs offset).map UInt64.ofNat) := by
  have hlength : word.length = wordSize := length_of_slice? h
  have hhigh : index word 0 24 = .ok (word.take 24) :=
    if_pos ⟨by omega, by rw [hlength, wordSize]; omega⟩
  have hlow : index word 24 32 = .ok (word.drop 24) := by
    have htake : (word.drop 24).take 8 = word.drop 24 := by
      rw [List.take_of_length_le]
      rw [List.length_drop, hlength, wordSize]
    rw [← htake]
    exact if_pos ⟨by omega, by rw [hlength, wordSize]⟩
  unfold number
  rw [hhigh, word?_of_slice? h]
  change (if (word.take 24).all (· == 0) = true then _ else _) = _
  by_cases hzero : (word.take 24).all (· == 0) = true
  · rw [if_pos hzero, if_pos hzero, hlow]
    rfl
  · rw [if_neg hzero, if_neg hzero]
    rfl

theorem word_eq (h : bs.length < 2 ^ 64) (offset : UInt64) :
    word bs offset = orRefused ((word? bs offset.toNat).map UInt64.ofNat) := by
  have hslice : slice bs offset 32 = orRefused (slice? bs offset.toNat wordSize) :=
    slice_eq h offset 32
  unfold word
  rw [hslice]
  cases hcut : slice? bs offset.toNat wordSize with
  | none =>
    rw [word?_of_none hcut]
    rfl
  | some word => exact number_eq hcut

/-- No step to the argument is a fault: where the length stands, there is a word, and so the sum
that nothing guards is a place within the arguments. -/
theorem argument_eq (hword : wordSize ≤ arguments.length) (h : arguments.length < 2 ^ 64) :
    argument arguments = orRefused (argument? arguments) := by
  have hindex : index arguments 0 32 = .ok (arguments.take 32) := if_pos ⟨by omega, hword⟩
  have hfirst : slice? arguments 0 wordSize = some (arguments.take 32) := if_pos (by omega)
  unfold argument argument?
  rw [hindex]
  change (number (arguments.take 32) >>= _) = _
  rw [number_eq hfirst]
  cases hoffset : word? arguments 0 with
  | none => rfl
  | some offset =>
    have hfits : (UInt64.ofNat offset).toNat = offset :=
      UInt64.toNat_ofNat_of_lt' (word?_lt hoffset)
    have hread : word arguments (UInt64.ofNat offset) =
        orRefused ((word? arguments offset).map UInt64.ofNat) := by
      rw [word_eq h, hfits]
    change (word arguments (UInt64.ofNat offset) >>= _) =
      orRefused (word? arguments offset >>= _)
    rw [hread]
    cases hlength : word? arguments offset with
    | none => rfl
    | some length =>
      have hin : offset + wordSize < 2 ^ 64 := lt_of_le_of_lt (le_of_word? hlength) h
      have hadd : add (UInt64.ofNat offset) 32 = .ok (UInt64.ofNat offset + 32) := by
        refine if_pos ?_
        rw [hfits]
        exact hin
      have hstart : (UInt64.ofNat offset + 32).toNat = offset + wordSize := by
        rw [UInt64.toNat_add, hfits]
        exact Nat.mod_eq_of_lt hin
      change (add (UInt64.ofNat offset) 32 >>= _) = _
      rw [hadd]
      change slice arguments (UInt64.ofNat offset + 32) (UInt64.ofNat length) = _
      rw [slice_eq h, hstart, UInt64.toNat_ofNat_of_lt' (word?_lt hlength)]
      rfl

/-- No calldata make any step a fault. -/
theorem vaa_eq (h : data.length < 2 ^ 64) : vaa data = (Calldata.vaa data).mapError .refused := by
  unfold vaa
  by_cases hshort : data.length < selectorSize + wordSize + wordSize
  · have hvaa : Calldata.vaa data = .error (.tooShort data.length) := if_pos hshort
    rw [hvaa]
    exact if_pos hshort
  · have hlong : selectorSize + wordSize + wordSize ≤ data.length := Nat.le_of_not_lt hshort
    have hindex : index data 4 data.length = .ok (data.drop selectorSize) := by
      have htake : (data.drop 4).take (data.length - 4) = data.drop 4 :=
        List.take_of_length_le List.length_drop.le
      rw [selectorSize, ← htake]
      exact if_pos ⟨le_trans (by decide) hlong, le_rfl⟩
    have hword : wordSize ≤ (data.drop selectorSize).length := by
      rw [List.length_drop]
      omega
    have hsize : (data.drop selectorSize).length < 2 ^ 64 := by
      rw [List.length_drop]
      omega
    rw [if_neg (by exact hshort), hindex, vaa_of_long hlong]
    change (argument (data.drop selectorSize) >>= _) = _
    rw [argument_eq hword hsize]
    cases argument? (data.drop selectorSize) with
    | none => rfl
    | some bs =>
      change (SignedVaa.parse bs).mapError (fun reason => Stop.refused (.vaa reason)) =
        ((SignedVaa.parse bs).mapError CalldataError.vaa).mapError Stop.refused
      cases SignedVaa.parse bs <;> rfl

end Stepwise

/-- **What calldata are read as.** The arguments follow the selector; `o` is the number in their
first word, and `l` the number in the word at `o`. Calldata without room for a selector and two
words are refused with their length. All others are read as the attestation in the `l` bytes from
`o + 32` on if both numbers have 64 bits and the word at `o` and these bytes lie within the
arguments, and lead out of bounds otherwise. In 64 bits, where a byte string has fewer than `2 ^ 64`
bytes, the same comes out and no step is a fault. -/
theorem vaaOfText_reads {input : String} (hinput : Text.Hex.decode input = .ok data) :
    let arguments := data.drop 4
    let o := Octets.ofBigEndian (arguments.take 32)
    let l := Octets.ofBigEndian ((arguments.drop o).take 32)
    (data.length < 68 → vaaOfText input = .error (.tooShort data.length)) ∧
      (68 ≤ data.length →
        vaaOfText input =
          if o < 2 ^ 64 ∧ l < 2 ^ 64 ∧
              o + 32 ≤ arguments.length ∧ o + 32 + l ≤ arguments.length then
            (SignedVaa.parse ((arguments.drop (o + 32)).take l)).mapError .vaa
          else .error .outOfBounds) ∧
      (data.length < 2 ^ 64 → Stepwise.vaa data = (vaaOfText input).mapError .refused) := by
  intro arguments o l
  rw [vaaOfText_of_decode hinput]
  refine ⟨fun hshort => if_pos hshort, fun hlong => ?_, Stepwise.vaa_eq⟩
  have hread : vaa data = if o < 2 ^ 64 ∧ l < 2 ^ 64 ∧ o + 32 + l ≤ arguments.length then
      (SignedVaa.parse ((arguments.drop (o + 32)).take l)).mapError .vaa
    else .error .outOfBounds := vaa_eq hlong rfl
  have hwithin : o + 32 + l ≤ arguments.length ↔
      o + 32 ≤ arguments.length ∧ o + 32 + l ≤ arguments.length :=
    (and_iff_right_of_imp fun h => by omega).symm
  rw [hread]
  exact if_congr (and_congr_right' (and_congr_right' hwithin)) rfl rfl

/-- A selector and two words of zeros. The first word points at itself, so it is read a second time,
as the length. -/
def sampleOverlap : List UInt8 :=
  [198, 135, 133, 25] ++ List.replicate 64 0

theorem vaaOfText_reads_sampleOverlap :
    vaaOfText (String.ofList ('0' :: 'x' :: Text.Hex.encodeChars sampleOverlap)) =
        (SignedVaa.parse []).mapError .vaa ∧
      Stepwise.vaa sampleOverlap = ((SignedVaa.parse []).mapError .vaa).mapError .refused := by
  obtain ⟨-, hlong, hsteps⟩ := vaaOfText_reads (Text.Hex.decode_marked sampleOverlap)
  have hbounds : (0 : Nat) < 2 ^ 64 ∧ 0 < 2 ^ 64 ∧ 0 + 32 ≤ 64 ∧ 0 + 32 + 0 ≤ 64 := by decide
  have hread := (hlong (by decide)).trans (if_pos hbounds)
  refine ⟨hread, ?_⟩
  rw [hsteps (by decide), hread]
  rfl

end RedemptionWatch.Evm.Calldata
