/-!
Powers and inverses modulo a number. Powers are computed by repeated squaring and are the remainders
of the powers proper.
-/
namespace CredentialRotation.Modular

/-- The remainder of a power. -/
def pow (base exponent modulus : Nat) : Nat :=
  if exponent = 0 then 1 % modulus
  else
    let half := pow (base * base % modulus) (exponent / 2) modulus
    if exponent % 2 = 0 then half else half * base % modulus
termination_by exponent

theorem pow_eq (base exponent modulus : Nat) :
    pow base exponent modulus = Nat.pow base exponent % modulus := by
  rw [Nat.pow_eq]
  fun_induction pow base exponent modulus with
  | case1 => simp
  | case2 base exponent _ half even ih =>
    have split : exponent = 2 * (exponent / 2) := by omega
    rw [show half = _ from ih, ← Nat.pow_mod]
    conv => rhs; rw [split, Nat.pow_mul, Nat.pow_two]
  | case3 base exponent _ half odd ih =>
    have split : exponent = 2 * (exponent / 2) + 1 := by omega
    rw [show half = _ from ih, ← Nat.pow_mod, Nat.mod_mul_mod]
    conv => rhs; rw [split, Nat.pow_succ, Nat.pow_mul, Nat.pow_two]

/-- The inverse of a number that a prime modulus does not divide. -/
def inverse (n modulus : Nat) : Nat :=
  pow n (modulus - 2) modulus

/-- The number whose `k`th power is the largest that does not exceed `n`, sought below `2 ^ bits`
from its highest digit on. -/
def floorRoot (k bits n : Nat) : Nat :=
  (List.range bits).foldr (fun i root =>
    let larger := root + Nat.pow 2 i
    if Nat.pow larger k ≤ n then larger else root) 0

end CredentialRotation.Modular
