import CredentialRotation.Number.Decimal
import Mathlib.Data.Nat.Digits.Defs

/-!
The digits of decimals: what stands on both sides of a point, and the number that it is.
-/
namespace CredentialRotation
variable {n : Nat} {c : Char}

section Digits

theorem isDigit_of_mem_toDigits (mem : c ∈ Nat.toDigits 10 n) : c.isDigit = true :=
  Nat.isDigit_of_mem_toDigits (by decide) (by decide) mem

/-- No number but zero starts with a zero. -/
theorem head?_toDigits_ne (positive : 0 < n) : (Nat.toDigits 10 n).head? ≠ some '0' := by
  induction n using Nat.strongRecOn with
  | ind n ih =>
    by_cases small : n < 10
    · have digit : ∀ n < 10, 0 < n → [n.digitChar].head? ≠ some '0' := by decide
      rw [Nat.toDigits_of_lt_base small]
      exact digit n small positive
    · have base : 10 ≤ n := Nat.le_of_not_lt small
      rw [Nat.toDigits_of_base_le (by decide) base, List.head?_append]
      intro zero
      rcases Option.or_eq_some_iff.1 zero with zero | ⟨none, -⟩
      · exact ih (n / 10) (by omega) (by omega) zero
      · exact Nat.toDigits_ne_nil (List.head?_eq_none_iff.1 none)

/-- The whole part of a number in base ten starts with a zero only if it has no other digit. -/
def Leading (whole : List Char) : Prop :=
  whole.head? = some '0' → whole = ['0']

theorem leading_toDigits (n : Nat) : Leading (Nat.toDigits 10 n) := by
  intro zero
  rcases Nat.eq_zero_or_pos n with rfl | positive
  · rfl
  · exact absurd zero (head?_toDigits_ne positive)

end Digits

/-- Digits on both sides of a point. -/
structure Pointed (whole fraction : List Char) : Prop where
  wholeDigits : ∀ c ∈ whole, c.isDigit = true
  fractionDigits : ∀ c ∈ fraction, c.isDigit = true
  whole_ne : whole ≠ []
  fraction_ne : fraction ≠ []
  leading : Leading whole

namespace Decimal
variable {d : Decimal}

theorem magnitude_of_nonneg (whole : 0 ≤ d.exponent) :
    d.magnitude = Nat.toDigits 10 d.digits ++ List.replicate d.exponent.toNat '0' :=
  if_pos whole

/-- A number with places behind the point has its digits on both sides of it. -/
theorem magnitude_of_neg (positive : 0 < d.digits) (broken : d.exponent < 0) :
    ∃ whole fraction, d.magnitude = whole ++ '.' :: fraction ∧ Pointed whole fraction ∧
      fraction.length = (-d.exponent).toNat ∧
      Nat.ofDigitChars 10 (whole ++ fraction) 0 = d.digits := by
  let digits := Nat.toDigits 10 d.digits
  let places := (-d.exponent).toNat
  let padded := List.replicate (places + 1 - digits.length) '0' ++ digits
  have several : 0 < places := by omega
  have long : places + 1 ≤ padded.length := by
    simp only [padded, List.length_append, List.length_replicate]
    omega
  have digit : ∀ c ∈ padded, c.isDigit = true := by
    intro c mem
    rcases List.mem_append.1 mem with mem | mem
    · rw [List.eq_of_mem_replicate mem]
      rfl
    · exact isDigit_of_mem_toDigits mem
  refine ⟨padded.take (padded.length - places), padded.drop (padded.length - places),
    if_neg (Int.not_le.2 broken), ⟨fun c mem => digit c (List.mem_of_mem_take mem),
      fun c mem => digit c (List.mem_of_mem_drop mem), ?_, ?_, ?_⟩, ?_, ?_⟩
  · exact List.ne_nil_of_length_pos (by rw [List.length_take]; omega)
  · exact List.ne_nil_of_length_pos (by rw [List.length_drop]; omega)
  · by_cases short : digits.length ≤ places
    · -- Then one zero stands in front of the point.
      have one : padded.length - places = 1 := by
        simp only [padded, List.length_append, List.length_replicate]
        omega
      rw [one]
      intro zero
      match padded, zero with
      | c :: cs, zero => exact congrArg (List.cons · []) (Option.some.inj zero)
    · -- Then no zero was put in front of the digits.
      have same : padded = digits := by
        have none : places + 1 - digits.length = 0 := by omega
        simp only [padded, none]
        rfl
      intro zero
      rw [same, List.head?_take, if_neg (by omega)] at zero
      exact absurd zero (head?_toDigits_ne positive)
  · rw [List.length_drop]
    omega
  · rw [List.take_append_drop, Nat.ofDigitChars_append, Nat.ofDigitChars_replicate_zero,
      Nat.mul_zero]
    exact Nat.ofDigitChars_ten_toDigits

end Decimal
end CredentialRotation
