import CredentialRotation.Octets
import Mathlib.Algebra.Order.Ring.Nat

/-!
Numbers in base 256. The octets of a number write that number, in as few octets as it takes.
-/
namespace CredentialRotation.Octets

@[simp] theorem toNat_nil : toNat [] = 0 := rfl

theorem toNat_zero_cons (bs : Octets) : toNat (0 :: bs) = toNat bs := rfl

@[simp] theorem toNat_concat (bs : Octets) (b : UInt8) :
    toNat (bs ++ [b]) = toNat bs * 256 + b.toNat := by
  rw [toNat, List.foldl_append]
  rfl

@[simp] theorem length_ofNatWidth (width n : Nat) : (ofNatWidth width n).length = width := by
  induction width generalizing n with
  | zero => rfl
  | succ width ih => rw [ofNatWidth, List.length_append, ih, List.length_singleton]

theorem toNat_ofNatWidth {width n : Nat} (h : n < 256 ^ width) :
    toNat (ofNatWidth width n) = n := by
  induction width generalizing n with
  | zero =>
    rw [pow_zero] at h
    rw [ofNatWidth, toNat_nil]
    omega
  | succ width ih =>
    have shorter : n / 256 < 256 ^ width := Nat.div_lt_of_lt_mul (by rwa [pow_succ'] at h)
    rw [ofNatWidth, toNat_concat, ih shorter, UInt8.toNat_ofNat']
    omega

/-- The first octet is the most significant one. -/
theorem ofNatWidth_succ (width n : Nat) :
    ofNatWidth (width + 1) n = UInt8.ofNat (n / 256 ^ width % 256) :: ofNatWidth width n := by
  induction width generalizing n with
  | zero => simp [ofNatWidth]
  | succ width ih =>
    rw [ofNatWidth, ih, Nat.div_div_eq_div_mul, ← pow_succ']
    rfl

/-- A number other than zero lies between the powers of 256 that its width names. -/
theorem widthOf_bounds {n : Nat} (h : n ≠ 0) :
    ∃ width, widthOf n = width + 1 ∧ 256 ^ width ≤ n ∧ n < 256 ^ (width + 1) := by
  refine ⟨n.log2 / 8, by rw [widthOf, if_neg h], ?_, ?_⟩
  · have low := Nat.log2_self_le h
    calc 256 ^ (n.log2 / 8) = 2 ^ (8 * (n.log2 / 8)) := by rw [pow_mul]; rfl
      _ ≤ 2 ^ n.log2 := Nat.pow_le_pow_right (by omega) (by omega)
      _ ≤ n := low
  · have high := Nat.lt_log2_self (n := n)
    calc n < 2 ^ (n.log2 + 1) := high
      _ ≤ 2 ^ (8 * (n.log2 / 8 + 1)) := Nat.pow_le_pow_right (by omega) (by omega)
      _ = 256 ^ (n.log2 / 8 + 1) := by rw [pow_mul]; rfl

theorem lt_pow_widthOf (n : Nat) : n < 256 ^ widthOf n := by
  by_cases zero : n = 0
  · rw [zero]
    exact Nat.pow_pos (by omega)
  · obtain ⟨width, width_eq, -, high⟩ := widthOf_bounds zero
    rw [width_eq]
    exact high

theorem widthOf_le {n width : Nat} (h : n < 256 ^ width) : widthOf n ≤ width := by
  by_cases zero : n = 0
  · simp [zero, widthOf]
  · obtain ⟨less, width_eq, low, -⟩ := widthOf_bounds zero
    have := (Nat.pow_lt_pow_iff_right (by omega)).1 (low.trans_lt h)
    omega

@[simp] theorem length_ofNat (n : Nat) : (ofNat n).length = widthOf n :=
  length_ofNatWidth _ n

/-- The octets of a number write this number. -/
@[simp] theorem toNat_ofNat (n : Nat) : toNat (ofNat n) = n :=
  toNat_ofNatWidth (lt_pow_widthOf n)

/-- No octet in front is wasted on a zero. -/
theorem exists_ofNat_eq_cons {n : Nat} (h : n ≠ 0) :
    ∃ first rest, ofNat n = first :: rest ∧ first ≠ 0 := by
  obtain ⟨width, width_eq, low, high⟩ := widthOf_bounds h
  refine ⟨_, _, by rw [ofNat, width_eq, ofNatWidth_succ], ?_⟩
  have small : n / 256 ^ width < 256 := Nat.div_lt_of_lt_mul (by rwa [pow_succ] at high)
  have large : 0 < n / 256 ^ width := Nat.div_pos low (Nat.pow_pos (by omega))
  rw [Nat.mod_eq_of_lt small]
  intro zero
  have := congrArg UInt8.toNat zero
  rw [UInt8.toNat_ofNat', Nat.mod_eq_of_lt small] at this
  exact absurd this (Nat.ne_of_gt large)

/-- The lowercase text of octets has the two digits of each. -/
theorem toList_hex (bs : Octets) :
    (hex bs).toList =
      bs.flatMap fun b => [Nat.digitChar (b.toNat / 16), Nat.digitChar (b.toNat % 16)] := by
  have digits : ∀ n < 16,
      hexDigit #['0', '1', '2', '3', '4', '5', '6', '7', '8', '9', 'a', 'b', 'c', 'd', 'e', 'f'] n =
        Nat.digitChar n := by
    decide
  rw [hex, hexText, String.toList_ofList]
  congr 1
  funext b
  have small : b.toNat < 256 := b.toNat_lt
  rw [digits _ (by omega), digits _ (by omega)]

end CredentialRotation.Octets
