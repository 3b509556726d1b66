import Mathlib.Algebra.Group.Nat.Defs
import Mathlib.Tactic.Common
import BrokerRelay.Bytes
/-!
# Numbers as bytes

A number is written with a fixed count of base-256 digits, in either order, and read back; both
directions are exact as long as the number has no more digits than that.
-/

namespace BrokerRelay.Bytes

/-! ## §1 Least significant digit first -/

@[simp]
theorem length_ofNatLE (size n : Nat) : (ofNatLE size n).length = size := by
  induction size generalizing n with
  | zero => rfl
  | succ size ih => exact congrArg Nat.succ (ih (n / 256))

theorem toNatLE_cons (b : UInt8) (bs : Bytes) : toNatLE (b :: bs) = toNatLE bs * 256 + b.toNat := rfl

theorem toNatLE_lt (bs : Bytes) : toNatLE bs < 256 ^ bs.length := by
  induction bs with
  | nil => exact Nat.one_pos
  | cons b bs ih =>
    have hb := b.toNat_lt
    rw [toNatLE_cons, List.length_cons, Nat.pow_succ]
    omega

theorem toNatLE_ofNatLE {size n : Nat} (h : n < 256 ^ size) : toNatLE (ofNatLE size n) = n := by
  induction size generalizing n with
  | zero => exact (Nat.lt_one_iff.mp h).symm
  | succ size ih =>
    have hrest : n / 256 < 256 ^ size := by
      rw [Nat.pow_succ] at h
      omega
    have hdigit : (UInt8.ofNat (n % 256)).toNat = n % 256 :=
      UInt8.toNat_ofNat_of_lt' (Nat.mod_lt n (by decide))
    unfold ofNatLE
    rw [toNatLE_cons, ih hrest, hdigit]
    omega

theorem ofNatLE_toNatLE (bs : Bytes) : ofNatLE bs.length (toNatLE bs) = bs := by
  induction bs with
  | nil => rfl
  | cons b bs ih =>
    have hb := b.toNat_lt
    -- the first byte is the lowest digit, and the others are what is left of the number
    have hmod : toNatLE (b :: bs) % 256 = b.toNat := by
      rw [toNatLE_cons]
      omega
    have hdiv : toNatLE (b :: bs) / 256 = toNatLE bs := by
      rw [toNatLE_cons]
      omega
    rw [List.length_cons, ofNatLE, hmod, hdiv, ih, UInt8.ofNat_toNat]

/-! ## §2 Most significant digit first -/

theorem toNatBE_eq (bs : Bytes) : toNatBE bs = toNatLE bs.reverse := by
  unfold toNatBE toNatLE
  rw [List.foldr_reverse]

@[simp]
theorem length_ofNatBE (size n : Nat) : (ofNatBE size n).length = size := by
  unfold ofNatBE
  rw [List.length_reverse, length_ofNatLE]

theorem toNatBE_lt (bs : Bytes) : toNatBE bs < 256 ^ bs.length := by
  rw [toNatBE_eq, ← List.length_reverse]
  exact toNatLE_lt bs.reverse

theorem toNatBE_ofNatBE {size n : Nat} (h : n < 256 ^ size) : toNatBE (ofNatBE size n) = n := by
  unfold ofNatBE
  rw [toNatBE_eq, List.reverse_reverse, toNatLE_ofNatLE h]

theorem ofNatBE_toNatBE (bs : Bytes) : ofNatBE bs.length (toNatBE bs) = bs := by
  unfold ofNatBE
  rw [toNatBE_eq, ← List.length_reverse, ofNatLE_toNatLE, List.reverse_reverse]

end BrokerRelay.Bytes
