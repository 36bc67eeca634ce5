import CredentialRotation.Number.Binary
import CredentialRotation.Proofs.Number.Decimal
import Mathlib.Tactic.Ring
import Mathlib.Algebra.Order.Ring.Nat

/-!
The shortest decimals of binary numbers. Every finite number has one, which is not much larger than
the number itself, so that a range with more bits has a finite number for it.
-/
namespace CredentialRotation.Binary
variable {p : Precision} {negative : Bool} {n d k m c : Nat} {e t : Int}

/-- Quotients below some power of two are finite. -/
theorem ofQuotient_finite (below : n < d * 2 ^ k)
    (fits : max (p.least + 1) (k - p.bits + 2) ≤ p.greatest) :
    ∃ m e, ofQuotient p negative n d = .finite negative m e := by
  unfold ofQuotient
  split
  · exact ⟨_, _, rfl⟩
  · next nonzero =>
    have size : n.log2 ≤ d.log2 + k := by
      have bound : n < 2 ^ (d.log2 + 1 + k) := by
        calc n < d * 2 ^ k := below
          _ ≤ 2 ^ (d.log2 + 1) * 2 ^ k := Nat.mul_le_mul_right _ Nat.lt_log2_self.le
          _ = 2 ^ (d.log2 + 1 + k) := (Nat.pow_add ..).symm
      have := (Nat.log2_lt nonzero).2 bound
      omega
    -- Neither the one place by which the guess may be short nor a carry leaves the range.
    have limit (b : Prop) [Decidable b] :
        max p.least (if b then (n.log2 : Int) - d.log2 - p.bits
          else (n.log2 : Int) - d.log2 - p.bits + 1) + 1 ≤ p.greatest := by
      split <;> omega
    dsimp only
    generalize chosen : max p.least _ = e
    have fits : e + 1 ≤ p.greatest := chosen ▸ limit _
    generalize roundHalfEven _ _ = m
    by_cases carries : m = Nat.pow 2 p.bits
    · rw [if_pos carries]
      exact ⟨_, _, if_neg (Int.not_lt.2 fits)⟩
    · rw [if_neg carries]
      exact ⟨_, _, if_neg (Int.not_lt.2 (Int.le_of_lt fits))⟩

theorem ofDecimal_finite {d : Decimal} {places : Nat} (exponent : d.exponent = -places)
    (below : d.digits < 10 ^ places * 2 ^ 130) :
    ∃ m e, ofDecimal .double d = .finite d.negative m e := by
  have low : ¬ d.height > extreme := by
    have length : (Nat.toDigits 10 d.digits).length ≤ places + 40 := by
      rw [Nat.length_toDigits_le_iff (by decide) (by omega), Nat.pow_add]
      exact below.trans_le (Nat.mul_le_mul_left _ (by decide))
    rw [Decimal.height, exponent, extreme]
    omega
  unfold ofDecimal
  split
  · exact ⟨_, _, rfl⟩
  · rw [exponent, scaled]
    exact ofQuotient_finite (k := 130) (by simpa using below) (by decide)

section Shortest

/-- The finite numbers of a range. -/
def Fits (p : Precision) : Binary → Prop
  | .finite _ m e => m < 2 ^ p.bits ∧ p.least ≤ e ∧ e ≤ p.greatest
  | _ => False

/-- What rounds to a number lies between the points half-way to its neighbours. -/
theorem roundsTo_eq (p : Precision) (m : Nat) (e t : Int) (c : Nat) :
    ∃ reach, 0 < reach ∧ reach ≤ 2 ∧ roundsTo p m e t c =
      let scale := 2 ^ (e - 2).toNat * 10 ^ (-t).toNat
      let x := c * (2 ^ (2 - e).toNat * 10 ^ t.toNat)
      if m % 2 = 0 then (4 * m - reach) * scale ≤ x ∧ x ≤ (4 * m + 2) * scale
      else (4 * m - reach) * scale < x ∧ x < (4 * m + 2) * scale := by
  refine ⟨if m = Nat.pow 2 (p.bits - 1) ∧ e > p.least then 1 else 2, by split <;> decide,
    by split <;> decide, ?_⟩
  simp only [roundsTo, scaled, Int.neg_sub, Nat.one_mul, Nat.pow_eq]
  split <;> simp

theorem bounds_of_roundsTo (positive : 0 < m) (rounds : roundsTo p m e t c = true) :
    0 < c ∧ c * (2 ^ (2 - e).toNat * 10 ^ t.toNat) ≤
      (4 * m + 2) * (2 ^ (e - 2).toNat * 10 ^ (-t).toNat) := by
  obtain ⟨reach, -, near, same⟩ := roundsTo_eq p m e t c
  have scale : 0 < 2 ^ (e - 2).toNat * 10 ^ (-t).toNat := by positivity
  have low : 0 < (4 * m - reach) * (2 ^ (e - 2).toNat * 10 ^ (-t).toNat) :=
    Nat.mul_pos (by omega) scale
  rw [same] at rounds
  dsimp only at rounds
  have between : (4 * m - reach) * (2 ^ (e - 2).toNat * 10 ^ (-t).toNat) ≤
      c * (2 ^ (2 - e).toNat * 10 ^ t.toNat) ∧ c * (2 ^ (2 - e).toNat * 10 ^ t.toNat) ≤
      (4 * m + 2) * (2 ^ (e - 2).toNat * 10 ^ (-t).toNat) := by
    split at rounds
    · exact rounds
    · exact ⟨rounds.1.le, rounds.2.le⟩
  exact ⟨Nat.pos_of_mul_pos_right (low.trans_le between.1), between.2⟩

/-- On a fine grid there is the number itself. -/
theorem roundsTo_of_exact (positive : 0 < m) (fine : t ≤ 0)
    (exact : c * 2 ^ (-e).toNat = m * 2 ^ e.toNat * 10 ^ (-t).toNat) :
    roundsTo p m e t c = true := by
  obtain ⟨reach, far, near, same⟩ := roundsTo_eq p m e t c
  have scales : (2 - e).toNat + e.toNat = 2 + (e - 2).toNat + (-e).toNat := by omega
  have whole : t.toNat = 0 := by omega
  have middle : c * (2 ^ (2 - e).toNat * 10 ^ t.toNat) =
      4 * m * (2 ^ (e - 2).toNat * 10 ^ (-t).toNat) := by
    refine Nat.eq_of_mul_eq_mul_right (Nat.two_pow_pos (-e).toNat) ?_
    calc c * (2 ^ (2 - e).toNat * 10 ^ t.toNat) * 2 ^ (-e).toNat
        = c * 2 ^ (-e).toNat * 2 ^ (2 - e).toNat := by rw [whole]; ring
      _ = m * 10 ^ (-t).toNat * 2 ^ ((2 - e).toNat + e.toNat) := by rw [exact]; ring
      _ = 4 * m * (2 ^ (e - 2).toNat * 10 ^ (-t).toNat) * 2 ^ (-e).toNat := by rw [scales]; ring
  have scale : 0 < 2 ^ (e - 2).toNat * 10 ^ (-t).toNat := by positivity
  rw [same]
  dsimp only
  rw [middle]
  have above : (4 * m - reach) * (2 ^ (e - 2).toNat * 10 ^ (-t).toNat) <
      4 * m * (2 ^ (e - 2).toNat * 10 ^ (-t).toNat) := Nat.mul_lt_mul_of_pos_right (by omega) scale
  have below : 4 * m * (2 ^ (e - 2).toNat * 10 ^ (-t).toNat) <
      (4 * m + 2) * (2 ^ (e - 2).toNat * 10 ^ (-t).toNat) :=
    Nat.mul_lt_mul_of_pos_right (by omega) scale
  split
  · exact ⟨above.le, below.le⟩
  · exact ⟨above, below⟩

theorem roundsTo_of_onGrid (found : onGrid p m e t = some c) : roundsTo p m e t c = true :=
  List.find?_some found

theorem onGrid_of_fine (positive : 0 < m) (fine : t ≤ 0) (finer : t ≤ e) :
    ∃ c, onGrid p m e t = some c := by
  let a := m * 2 ^ e.toNat * 10 ^ (-t).toNat
  let b := 2 ^ (-e).toNat
  have divides : b ∣ a := by
    have order : (-e).toNat ≤ (-t).toNat := by omega
    have factor : b ∣ 10 ^ (-t).toNat :=
      (Nat.pow_dvd_pow 2 order).trans (pow_dvd_pow_of_dvd (by decide) _)
    exact factor.mul_left _
  have rounds : roundsTo p m e t (a / b) = true :=
    roundsTo_of_exact positive fine (Nat.div_mul_cancel divides)
  have whole : t.toNat = 0 := by omega
  have grid : onGrid p m e t =
      (if 2 * (a % b) < b then [a / b, a / b + 1] else [a / b + 1, a / b]).find?
        (roundsTo p m e t) := by
    simp only [onGrid, scaled, Int.neg_neg, Nat.one_mul, Nat.pow_eq, whole, Nat.pow_zero,
      Nat.mul_one, a, b]
  have first : 2 * (a % b) < b := by
    rw [Nat.mod_eq_zero_of_dvd divides]
    exact Nat.two_pow_pos _
  rw [grid, if_pos first, List.find?_cons_of_pos rounds]
  exact ⟨_, rfl⟩

/-- Every finite number of single precision has a shortest decimal, of bounded size. -/
theorem shortest?_single (fits : Fits .single (.finite negative m e)) :
    ∃ c t, shortest? .single (.finite negative m e) = some ⟨negative, c, t⟩ ∧
      (c = 0 → t = 0) ∧ c * 10 ^ t.toNat < 10 ^ (-t).toNat * 2 ^ 130 := by
  obtain ⟨size, least, greatest⟩ := fits
  rcases Nat.eq_zero_or_pos m with rfl | positive
  · exact ⟨0, 0, rfl, fun _ => rfl, by decide⟩
  let exponents : List Int := (List.range (42 - (-149) + 1 : Int).toNat).map fun (i : Nat) => 42 - i
  have search : shortest? .single (.finite negative m e) =
      exponents.findSome? fun t => (onGrid .single m e t).map (⟨negative, ·, t⟩) :=
    shortest?.eq_2 _ _ _ _ positive.ne'
  obtain ⟨d, shortest⟩ : ∃ d, shortest? .single (.finite negative m e) = some d := by
    rw [← Option.isSome_iff_exists, search, List.findSome?_isSome_iff]
    obtain ⟨c, finest⟩ : ∃ c, onGrid .single m e (-149) = some c :=
      onGrid_of_fine positive (by decide) least
    exact ⟨-149, by decide, by rw [finest]; rfl⟩
  obtain ⟨t, -, chosen⟩ := List.exists_of_findSome?_eq_some (search ▸ shortest)
  obtain ⟨c, found, rfl⟩ := Option.map_eq_some_iff.1 chosen
  obtain ⟨nonzero, high⟩ := bounds_of_roundsTo positive (roundsTo_of_onGrid found)
  refine ⟨c, t, shortest, fun zero => absurd zero nonzero.ne', ?_⟩
  have mantissa : 4 * m + 2 < 2 ^ 26 := by
    have size : m < 2 ^ 24 := size
    omega
  have exponent : (e - 2).toNat ≤ 104 := by
    have greatest : e ≤ 104 := greatest
    omega
  calc c * 10 ^ t.toNat
      ≤ c * (2 ^ (2 - e).toNat * 10 ^ t.toNat) :=
        Nat.mul_le_mul_left _ (Nat.le_mul_of_pos_left _ (Nat.two_pow_pos _))
    _ ≤ (4 * m + 2) * (2 ^ (e - 2).toNat * 10 ^ (-t).toNat) := high
    _ ≤ (4 * m + 2) * (2 ^ 104 * 10 ^ (-t).toNat) :=
        Nat.mul_le_mul_left _ (Nat.mul_le_mul_right _ (Nat.pow_le_pow_right (by decide) exponent))
    _ < 2 ^ 26 * (2 ^ 104 * 10 ^ (-t).toNat) := Nat.mul_lt_mul_of_pos_right mantissa (by positivity)
    _ = 10 ^ (-t).toNat * 2 ^ 130 := by ring

end Shortest
section Text

/-- The text of a sign. -/
def signText (negative : Bool) : List Char := if negative then ['-'] else []

theorem toList_text (d : Decimal) : d.text.toList = signText d.negative ++ d.magnitude := by
  unfold Decimal.text signText
  cases d.negative <;> simp

/-- A finite number is shown as digits on both sides of a point. -/
theorem shownWithPoint_single (fits : Fits .single (.finite negative m e)) :
    ∃ whole fraction, ((Binary.finite negative m e).shownWithPoint .single).toList =
        signText negative ++ whole ++ '.' :: fraction ∧ Pointed whole fraction ∧
      Nat.ofDigitChars 10 (whole ++ fraction) 0 < 10 ^ fraction.length * 2 ^ 130 := by
  obtain ⟨c, t, shortest, zero, bound⟩ := shortest?_single fits
  let d : Decimal := ⟨negative, c, t⟩
  have text : (Binary.finite negative m e).shown .single = d.text := by
    rw [shown.eq_3 .single (.finite negative m e) nofun nofun, shortest]
    rfl
  have withPoint : ((Binary.finite negative m e).shownWithPoint .single).toList =
      signText negative ++ d.magnitude ++ if '.' ∈ d.magnitude then [] else ['.', '0'] := by
    rw [shownWithPoint.eq_1, text, toList_text]
    have sign : '.' ∉ signText d.negative := by
      simp only [signText]
      split <;> decide
    by_cases point : '.' ∈ d.magnitude
    · simp [point, toList_text, d]
    · simp [point, sign, toList_text, d]
  rw [withPoint]
  by_cases broken : t < 0
  · have positive : 0 < c := Nat.pos_of_ne_zero fun same => broken.ne (zero same)
    obtain ⟨whole, fraction, magnitude, pointed, places, value⟩ :=
      Decimal.magnitude_of_neg (d := d) positive broken
    refine ⟨whole, fraction, ?_, pointed, ?_⟩
    · rw [magnitude, if_pos (by simp), List.append_nil, List.append_assoc]
    · have whole : t.toNat = 0 := by omega
      rw [value, places]
      simpa [whole, d] using bound
  · have places : (-t).toNat = 0 := by omega
    let whole := Nat.toDigits 10 c ++ List.replicate t.toNat '0'
    have digits : ∀ c ∈ whole, c.isDigit = true := by
      intro c mem
      rcases List.mem_append.1 mem with mem | mem
      · exact isDigit_of_mem_toDigits mem
      · rw [List.eq_of_mem_replicate mem]
        rfl
    have nonempty : whole ≠ [] := by simp [whole, Nat.toDigits_ne_nil]
    have zeroDigit : ∀ c ∈ ['0'], c.isDigit = true := List.forall_mem_singleton.2 rfl
    refine ⟨whole, ['0'], ?_, ⟨digits, zeroDigit, nonempty, nofun, ?_⟩, ?_⟩
    · have magnitude : d.magnitude = whole := Decimal.magnitude_of_nonneg (Int.not_lt.1 broken)
      rw [magnitude, if_neg fun mem => absurd (digits '.' mem) (by decide), List.append_assoc]
    · intro front
      rcases Nat.eq_zero_or_pos c with rfl | positive
      · obtain rfl := zero rfl
        rfl
      · rw [List.head?_append] at front
        rcases Option.or_eq_some_iff.1 front with front | ⟨none, -⟩
        · exact absurd front (head?_toDigits_ne positive)
        · exact absurd (List.head?_eq_none_iff.1 none) Nat.toDigits_ne_nil
    · have value : Nat.ofDigitChars 10 (whole ++ ['0']) 0 = 10 * (c * 10 ^ t.toNat) := by
        rw [Nat.ofDigitChars_append, Nat.ofDigitChars_append, Nat.ofDigitChars_ten_toDigits,
          Nat.ofDigitChars_replicate_zero, Nat.ofDigitChars_cons, Nat.ofDigitChars_nil,
          Nat.sub_self, Nat.add_zero, Nat.mul_comm c]
      rw [value]
      rw [places] at bound
      exact Nat.mul_lt_mul_of_pos_left (by simpa using bound) (by decide)

end Text
end CredentialRotation.Binary
