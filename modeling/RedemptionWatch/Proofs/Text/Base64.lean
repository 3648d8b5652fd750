import Mathlib.Data.Option.Basic
import RedemptionWatch.Text.Base64

/-!
# Bytes in base 64 are read back

What `Base64.encode` writes, `Base64.decode` reads (`Base64.decode_encode`). Every character of the
alphabet has its number back (`Base64.value?_digitChar`) and is not the filling, so a whole group is
never taken for a filled one (`Base64.decodeChars_group`), and a group of three bytes is four
numbers below 64.
-/

namespace RedemptionWatch.Text.Base64

/-- A character of the alphabet has its number back, and is not the filling. -/
theorem value?_digitChar : ∀ n < 64, value? (digitChar n) = some n ∧ digitChar n ≠ '=' := by
  decide +kernel

section Groups

variable {a b c d : Char} {w x y z : Nat} {rest : List Char} {bytes : List UInt8}

/-- A group of one byte, filled up. -/
theorem decodeChars_one (ha : value? a = some w) (hb : value? b = some x) (hx : x % 16 = 0) :
    decodeChars [a, b, '=', '='] = some [UInt8.ofNat (w * 4 + x / 16)] := by
  have hfill : (guard (x % 16 = 0) : Option Unit) = some () := if_pos hx
  rw [decodeChars, ha, hb]
  simp only [Option.bind_eq_bind, Option.bind_some, hfill]
  rfl

/-- A group of two bytes, filled up. -/
theorem decodeChars_two (ha : value? a = some w) (hb : value? b = some x) (hc : value? c = some y)
    (hne : c ≠ '=') (hy : y % 4 = 0) : decodeChars [a, b, c, '='] =
      some [UInt8.ofNat (w * 4 + x / 16), UInt8.ofNat (x % 16 * 16 + y / 4)] := by
  have hfill : (guard (y % 4 = 0) : Option Unit) = some () := if_pos hy
  rw [decodeChars, ha, hb, hc]
  · simp only [Option.bind_eq_bind, Option.bind_some, hfill]
    rfl
  · exact hne

/-- A group that is not filled up comes before the rest. -/
theorem decodeChars_group (ha : value? a = some w) (hb : value? b = some x)
    (hc : value? c = some y) (hd : value? d = some z) (hne : d ≠ '=')
    (hrest : decodeChars rest = some bytes) : decodeChars (a :: b :: c :: d :: rest) =
      some (UInt8.ofNat (w * 4 + x / 16) :: UInt8.ofNat (x % 16 * 16 + y / 4) ::
        UInt8.ofNat (y % 4 * 64 + z) :: bytes) := by
  rw [decodeChars, ha, hb, hc, hd, hrest]
  · rfl
  · exact fun _ h => absurd h hne
  · exact fun h => absurd h hne

end Groups

theorem decodeChars_encodeChars (bs : List UInt8) : decodeChars (encodeChars bs) = some bs := by
  induction bs using encodeChars.induct with
  | case1 => rfl
  | case2 a =>
    have ha := a.toNat_lt
    obtain ⟨hfirst, -⟩ := value?_digitChar (a.toNat / 4) (by omega)
    obtain ⟨hsecond, -⟩ := value?_digitChar (a.toNat % 4 * 16) (by omega)
    have hbyte : a.toNat / 4 * 4 + a.toNat % 4 * 16 / 16 = a.toNat := by omega
    rw [encodeChars, decodeChars_one hfirst hsecond (by omega), hbyte, UInt8.ofNat_toNat]
  | case3 a b =>
    have ha := a.toNat_lt
    have hb := b.toNat_lt
    obtain ⟨hfirst, -⟩ := value?_digitChar (a.toNat / 4) (by omega)
    obtain ⟨hsecond, -⟩ := value?_digitChar (a.toNat % 4 * 16 + b.toNat / 16) (by omega)
    obtain ⟨hthird, hne⟩ := value?_digitChar (b.toNat % 16 * 4) (by omega)
    have hbyte : a.toNat / 4 * 4 + (a.toNat % 4 * 16 + b.toNat / 16) / 16 = a.toNat := by omega
    have hbyte' : (a.toNat % 4 * 16 + b.toNat / 16) % 16 * 16 + b.toNat % 16 * 4 / 4 = b.toNat := by
      omega
    rw [encodeChars, decodeChars_two hfirst hsecond hthird hne (by omega), hbyte, hbyte',
      UInt8.ofNat_toNat, UInt8.ofNat_toNat]
  | case4 a b c rest ih =>
    have ha := a.toNat_lt
    have hb := b.toNat_lt
    have hc := c.toNat_lt
    obtain ⟨hfirst, -⟩ := value?_digitChar (a.toNat / 4) (by omega)
    obtain ⟨hsecond, -⟩ := value?_digitChar (a.toNat % 4 * 16 + b.toNat / 16) (by omega)
    obtain ⟨hthird, -⟩ := value?_digitChar (b.toNat % 16 * 4 + c.toNat / 64) (by omega)
    obtain ⟨hfourth, hne⟩ := value?_digitChar (c.toNat % 64) (by omega)
    have hbyte : a.toNat / 4 * 4 + (a.toNat % 4 * 16 + b.toNat / 16) / 16 = a.toNat := by omega
    have hbyte' : (a.toNat % 4 * 16 + b.toNat / 16) % 16 * 16 +
        (b.toNat % 16 * 4 + c.toNat / 64) / 4 = b.toNat := by omega
    have hbyte'' : (b.toNat % 16 * 4 + c.toNat / 64) % 4 * 64 + c.toNat % 64 = c.toNat := by omega
    rw [encodeChars, decodeChars_group hfirst hsecond hthird hfourth hne ih, hbyte, hbyte',
      hbyte'', UInt8.ofNat_toNat, UInt8.ofNat_toNat, UInt8.ofNat_toNat]

theorem decode_encode (bs : List UInt8) : decode (encode bs) = some bs := by
  unfold decode encode
  rw [String.toList_ofList, decodeChars_encodeChars]

end RedemptionWatch.Text.Base64
