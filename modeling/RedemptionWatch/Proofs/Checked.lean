import Mathlib.Algebra.Group.Nat.Defs
import Mathlib.Order.Basic
import RedemptionWatch.Checked

/-!
# Arithmetic on numbers of 64 bits

A computation that does not break off comes to the result that it has in the natural numbers
(`Checked.add_eq_ok_iff` and the like). One that saturates comes to the nearest number there is.
-/

namespace RedemptionWatch

variable {a b n : UInt64} {reason : Breakdown}

namespace Checked

theorem add_eq_ok (h : a.toNat + b.toNat < 2 ^ 64) : add a b = .ok (a + b) :=
  if_pos h

theorem sub_eq_ok (h : b ≤ a) : sub a b = .ok (a - b) :=
  if_pos h

theorem mul_eq_ok (h : a.toNat * b.toNat < 2 ^ 64) : mul a b = .ok (a * b) :=
  if_pos h

theorem add_eq_ok_iff : add a b = .ok n ↔ n.toNat = a.toNat + b.toNat := by
  by_cases h : a.toNat + b.toNat < 2 ^ 64
  · rw [add_eq_ok h, Except.ok.injEq, ← UInt64.toNat_inj, UInt64.toNat_add, Nat.mod_eq_of_lt h]
    exact eq_comm
  · have hbreaks : add a b = .error .add := if_neg h
    have hn := n.toNat_lt
    rw [hbreaks]
    exact iff_of_false nofun (by omega)

theorem add_eq_error_iff : add a b = .error reason ↔
    2 ^ 64 ≤ a.toNat + b.toNat ∧ reason = .add := by
  by_cases h : a.toNat + b.toNat < 2 ^ 64
  · rw [add_eq_ok h]
    exact iff_of_false nofun fun hbreaks => Nat.not_le.mpr h hbreaks.1
  · have hbreaks : add a b = .error .add := if_neg h
    rw [hbreaks, Except.error.injEq]
    exact ⟨fun heq => ⟨Nat.not_lt.mp h, heq.symm⟩, fun heq => heq.2.symm⟩

end Checked

namespace Saturating

theorem toNat_add (a b : UInt64) :
    (add a b).toNat = min (a.toNat + b.toNat) (2 ^ 64 - 1) := by
  have hsize : UInt64.size = 2 ^ 64 := rfl
  unfold add
  split_ifs with h
  · rw [UInt64.toNat_add, Nat.mod_eq_of_lt h]
    omega
  · have hmax : (UInt64.ofNat (UInt64.size - 1)).toNat = 2 ^ 64 - 1 := rfl
    omega

end Saturating

end RedemptionWatch
