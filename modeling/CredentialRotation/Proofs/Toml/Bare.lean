import CredentialRotation.Proofs.Number.Binary
import CredentialRotation.Toml.Bare
import Mathlib

/-!
Scalars without quotes are read back: whole numbers, truth values, and numbers with a point.
-/
namespace CredentialRotation.Toml

/-- Two characters that a test tells apart. -/
theorem ne_of_test {test : Char → Bool} {c d : Char} (passes : test c = true)
    (fails : test d = false) : c ≠ d := by
  rintro rfl
  rw [passes] at fails
  cases fails

namespace Bare
variable {token digits whole fraction rest : List Char} {n : Nat}

/-- A line end ends a scalar. -/
theorem read_token (bare : ∀ c ∈ token, isBare c = true) (rest : List Char) :
    read (token ++ '\n' :: rest) = (ofToken? token).map (·, '\n' :: rest) := by
  have front : (token ++ '\n' :: rest).takeWhile isBare = token := by
    rw [List.takeWhile_append_of_pos bare]
    simp [List.takeWhile, show isBare '\n' = false from rfl]
  have behind : (token ++ '\n' :: rest).dropWhile isBare = '\n' :: rest := by
    rw [List.dropWhile_append_of_pos bare]
    rfl
  simp only [read, front, behind]
  rfl

section Digits

theorem isBare_of_isDigit {c : Char} (digit : c.isDigit = true) : isBare c = true := by
  simp [isBare, Char.isAlphanum, digit]

/-- Behind a digit an underscore would join it to the next one. -/
theorem ungrouped?_cons {c d : Char} (digit : c.isDigit = true) (underscore : d ≠ '_') :
    ungrouped? Char.isDigit (c :: d :: rest) =
      (ungrouped? Char.isDigit (d :: rest)).map (c :: ·) := by
  rw [ungrouped?.eq_4, if_pos digit]
  · exact nofun
  · exact fun _ same => underscore (List.cons.inj same).1

theorem ungrouped?_digits (all : ∀ c ∈ digits, c.isDigit = true) (nonempty : digits ≠ []) :
    ungrouped? Char.isDigit digits = some digits := by
  induction digits with
  | nil => exact absurd rfl nonempty
  | cons c digits ih =>
    rw [List.forall_mem_cons] at all
    cases digits with
    | nil => exact if_pos all.1
    | cons d digits =>
      rw [ungrouped?_cons all.1 (ne_of_test (all.2 d List.mem_cons_self) rfl),
        ih all.2 (List.cons_ne_nil _ _)]
      rfl

/-- A point ends the digits of a whole number. -/
theorem ungrouped?_of_point (all : ∀ c ∈ digits, c.isDigit = true) :
    ungrouped? Char.isDigit (digits ++ '.' :: rest) = none := by
  induction digits with
  | nil =>
    rw [List.nil_append]
    unfold ungrouped?
    split <;> first | rfl | (next same => cases same; rfl)
  | cons c digits ih =>
    rw [List.forall_mem_cons] at all
    cases digits with
    | nil =>
      rw [List.singleton_append, ungrouped?_cons all.1 (by decide), ← List.nil_append ('.' :: rest),
        ih all.2]
      rfl
    | cons d digits =>
      rw [List.cons_append, List.cons_append,
        ungrouped?_cons all.1 (ne_of_test (all.2 d List.mem_cons_self) rfl), ← List.cons_append,
        ih all.2]
      rfl

theorem valueIn_digits (all : ∀ c ∈ digits, c.isDigit = true) :
    valueIn 10 digits = Nat.ofDigitChars 10 digits 0 := by
  rw [Nat.ofDigitChars_eq_foldl, valueIn]
  refine List.foldl_ext _ _ _ fun n c mem => ?_
  rw [digitValue, if_pos (all c mem)]

theorem wholeDigits?_digits (all : ∀ c ∈ digits, c.isDigit = true) (nonempty : digits ≠ [])
    (leading : Leading digits) : wholeDigits? digits = some digits := by
  have zero : startsWithZero digits = false := by
    unfold startsWithZero
    split
    · cases leading rfl
    · rfl
  simp [wholeDigits?, ungrouped?_digits all nonempty, zero]

/-- A number that starts with a digit has no sign. -/
theorem splitSign_digits (all : ∀ c ∈ digits, c.isDigit = true) (nonempty : digits ≠ [])
    (rest : List Char) (negative : Bool) :
    Decimal.splitSign (Binary.signText negative ++ (digits ++ rest)) =
      (negative, digits ++ rest) := by
  cases negative with
  | true => rfl
  | false =>
    cases digits with
    | nil => exact absurd rfl nonempty
    | cons d digits =>
      have sign (c : Char) (other : c.isDigit = false) (cs : List Char)
          (same : d :: digits ++ rest = c :: cs) : False :=
        ne_of_test (all d List.mem_cons_self) other (List.cons.inj same).1
      rw [Binary.signText, if_neg (by decide), List.nil_append, Decimal.splitSign.eq_3]
      · exact sign '-' rfl
      · exact sign '+' rfl

end Digits
section Scalars

theorem ne_letter_cons (letterless : ∀ c ∈ token, c.isAlpha = false) {c : Char}
    (letter : c.isAlpha = true) (cs : List Char) : token ≠ c :: cs := by
  rintro rfl
  rw [List.forall_mem_cons, letter] at letterless
  cases letterless.1

/-- A text without letters gives no prefix for another base. -/
theorem integer?_of_letterless (letterless : ∀ c ∈ token, c.isAlpha = false) {negative : Bool}
    (splits : Decimal.splitSign token = (negative, digits)) :
    integer? token = (wholeDigits? digits).map fun whole =>
      integer (if negative then -(valueIn 10 whole : Int) else valueIn 10 whole) := by
  have second (c : Char) (letter : c.isAlpha = true) (cs : List Char)
      (same : token = '0' :: c :: cs) : False := by
    subst same
    exact ne_letter_cons (List.forall_mem_cons.1 letterless).2 letter cs rfl
  rw [integer?.eq_4 token (second 'x' rfl) (second 'o' rfl) (second 'b' rfl), splits]
  dsimp only
  cases wholeDigits? digits <;> rfl

theorem ofToken?_of_letterless (letterless : ∀ c ∈ token, c.isAlpha = false) :
    ofToken? token =
      (integer? token <|> float? token <|> if isMoment token then some .moment else none) := by
  have notTrue : token ≠ "true".toList := ne_letter_cons letterless rfl ['r', 'u', 'e']
  have notFalse : token ≠ "false".toList := ne_letter_cons letterless rfl ['a', 'l', 's', 'e']
  rw [ofToken?, if_neg notTrue, if_neg notFalse]

theorem isAlpha_of_isDigit {c : Char} (digit : c.isDigit = true) : c.isAlpha = false := by
  simp only [Char.isDigit, Bool.and_eq_true, decide_eq_true_eq, UInt32.le_iff_toNat_le, ge_iff_le,
    Char.isAlpha, Char.isUpper, Char.isLower, Bool.or_eq_false_iff, Bool.and_eq_false_iff,
    decide_eq_false_iff_not] at digit ⊢
  have nine : '9'.val.toNat = 57 := rfl
  have a : 'a'.val.toNat = 97 := rfl
  have upper : 'A'.val.toNat = 65 := rfl
  omega

/-- A whole number is read back. -/
theorem read_toDigits (small : n < 2 ^ 128) (rest : List Char) :
    read (Nat.toDigits 10 n ++ '\n' :: rest) = some (.integer n, '\n' :: rest) := by
  have digits : ∀ c ∈ Nat.toDigits 10 n, c.isDigit = true := fun c => isDigit_of_mem_toDigits
  have letterless : ∀ c ∈ Nat.toDigits 10 n, c.isAlpha = false :=
    fun c mem => isAlpha_of_isDigit (digits c mem)
  have sign : Decimal.splitSign (Nat.toDigits 10 n) = (false, Nat.toDigits 10 n) := by
    simpa [Binary.signText] using splitSign_digits digits Nat.toDigits_ne_nil [] false
  have whole : integer? (Nat.toDigits 10 n) = some (.integer n) := by
    have range : -(Nat.pow 2 127 : Int) ≤ n ∧ (n : Int) < Nat.pow 2 128 :=
      ⟨by omega, by exact_mod_cast small⟩
    rw [integer?_of_letterless letterless sign, wholeDigits?_digits digits Nat.toDigits_ne_nil
      (leading_toDigits n), Option.map_some, if_neg Bool.false_ne_true, valueIn_digits digits,
      Nat.ofDigitChars_ten_toDigits, integer, if_pos range]
  rw [read_token fun c mem => isBare_of_isDigit (digits c mem), ofToken?_of_letterless letterless,
    whole]
  rfl

theorem read_boolean (b : Bool) (rest : List Char) :
    read ((if b then "true" else "false").toList ++ '\n' :: rest) =
      some (.boolean b, '\n' :: rest) := by
  rw [read_token (List.all_eq_true.1 (by cases b <;> rfl))]
  cases b <;> rfl

theorem isMark_of_isDigit {c : Char} (digit : c.isDigit = true) : isMark c = false := by
  simp [isMark, ne_of_test (d := '.') digit rfl, ne_of_test (d := 'e') digit rfl,
    ne_of_test (d := 'E') digit rfl]

theorem decimal?_pointed (negative : Bool) (pointed : Pointed whole fraction) :
    decimal? (Binary.signText negative ++ (whole ++ '.' :: fraction)) =
      some ⟨negative, Nat.ofDigitChars 10 (whole ++ fraction) 0, -fraction.length⟩ := by
  have unmarked {digits : List Char} (all : ∀ c ∈ digits, c.isDigit = true) :
      ∀ c ∈ digits, (!isMark c) = true := fun c mem => by rw [isMark_of_isDigit (all c mem)]; rfl
  have front : (whole ++ '.' :: fraction).takeWhile (!isMark ·) = whole := by
    rw [List.takeWhile_append_of_pos (unmarked pointed.wholeDigits)]
    simp [List.takeWhile, show isMark '.' = true from rfl]
  have behind : (whole ++ '.' :: fraction).dropWhile (!isMark ·) = '.' :: fraction := by
    rw [List.dropWhile_append_of_pos (unmarked pointed.wholeDigits)]
    rfl
  have all : fraction.takeWhile (!isMark ·) = fraction :=
    List.takeWhile_eq_self_iff.2 (unmarked pointed.fractionDigits)
  have none : fraction.dropWhile (!isMark ·) = [] :=
    List.dropWhile_eq_nil_iff.2 (unmarked pointed.fractionDigits)
  have digits : ∀ c ∈ whole ++ fraction, c.isDigit = true := fun c mem =>
    (List.mem_append.1 mem).elim (pointed.wholeDigits c) (pointed.fractionDigits c)
  rw [decimal?, splitSign_digits pointed.wholeDigits pointed.whole_ne]
  simp only [front, behind, all, none,
    wholeDigits?_digits pointed.wholeDigits pointed.whole_ne pointed.leading,
    ungrouped?_digits pointed.fractionDigits pointed.fraction_ne, exponent?,
    ← valueIn_digits digits]
  simp

theorem read_pointed (negative : Bool) (pointed : Pointed whole fraction)
    (small : Nat.ofDigitChars 10 (whole ++ fraction) 0 < 10 ^ fraction.length * 2 ^ 130) :
    ∃ x, ∀ rest, read (Binary.signText negative ++ whole ++ '.' :: fraction ++ '\n' :: rest) =
      some (.float x, '\n' :: rest) := by
  let token := Binary.signText negative ++ (whole ++ '.' :: fraction)
  have parts : ∀ c ∈ token, c = '-' ∨ c = '.' ∨ c.isDigit = true := by
    intro c mem
    rcases List.mem_append.1 mem with mem | mem
    · cases negative with
      | true => exact .inl (List.mem_singleton.1 mem)
      | false => cases mem
    · rcases List.mem_append.1 mem with mem | mem
      · exact .inr (.inr (pointed.wholeDigits c mem))
      · exact .inr ((List.mem_cons.1 mem).imp_right (pointed.fractionDigits c))
  have letterless : ∀ c ∈ token, c.isAlpha = false := by
    intro c mem
    obtain rfl | rfl | digit := parts c mem
    exacts [rfl, rfl, isAlpha_of_isDigit digit]
  have bare : ∀ c ∈ token, isBare c = true := by
    intro c mem
    obtain rfl | rfl | digit := parts c mem
    exacts [rfl, rfl, isBare_of_isDigit digit]
  have sign := splitSign_digits pointed.wholeDigits pointed.whole_ne ('.' :: fraction) negative
  have notWhole : integer? token = none := by
    have point : wholeDigits? (whole ++ '.' :: fraction) = none := by
      rw [wholeDigits?, ungrouped?_of_point pointed.wholeDigits]
      rfl
    rw [integer?_of_letterless letterless sign, point]
    rfl
  obtain ⟨m, e, finite⟩ := Binary.ofDecimal_finite
    (d := ⟨negative, Nat.ofDigitChars 10 (whole ++ fraction) 0, -fraction.length⟩) rfl small
  have float : float? token = some (.float (.finite negative m e)) := by
    have unsigned := (List.forall_mem_append.1 letterless).2
    rw [float?, sign]
    dsimp only
    split
    · next same => cases ne_letter_cons unsigned rfl ['n', 'f'] same
    · next same => cases ne_letter_cons unsigned rfl ['a', 'n'] same
    · rw [decimal?_pointed negative pointed]
      simp only [Option.bind_eq_bind, Option.bind_some, finite]
      rfl
  refine ⟨.finite negative m e, fun rest => ?_⟩
  rw [List.append_assoc (Binary.signText negative), read_token bare,
    ofToken?_of_letterless letterless, notWhole, float]
  rfl

end Scalars
end Bare
end CredentialRotation.Toml
