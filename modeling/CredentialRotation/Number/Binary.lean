import CredentialRotation.Number.Decimal

/-!
Numbers `m * 2 ^ e` with a mantissa of bounded size: rounding to the nearest of them, and the
shortest decimal that rounds to a given one.
-/
namespace CredentialRotation

/-- A range of binary numbers: mantissas are below `2 ^ bits`, exponents lie between two bounds. -/
structure Precision where
  bits : Nat
  least : Int
  greatest : Int
  deriving DecidableEq, Repr

namespace Precision

def single : Precision := ⟨24, -149, 104⟩
def double : Precision := ⟨53, -1074, 971⟩

end Precision

/-- A binary number with a sign, beside what lies beyond all of them and what is no number. -/
inductive Binary
  | notANumber
  | infinite (negative : Bool)
  | finite (negative : Bool) (mantissa : Nat) (exponent : Int)
  deriving DecidableEq, Repr

namespace Binary

/-- The quotient's nearest whole number; a half goes to the even one. -/
def roundHalfEven (n d : Nat) : Nat :=
  if 2 * (n % d) < d ∨ (2 * (n % d) = d ∧ n / d % 2 = 0) then n / d else n / d + 1

/-- A quotient with a power of a base taken out of it. -/
def scaled (base n d : Nat) (e : Int) : Nat × Nat :=
  (n * Nat.pow base (-e).toNat, d * Nat.pow base e.toNat)

/-- The binary number nearest to a quotient; of two equally near ones it is that with the even
mantissa. -/
def ofQuotient (p : Precision) (negative : Bool) (n d : Nat) : Binary :=
  if n = 0 then .finite negative 0 p.least
  else
    let guess : Int := (Nat.log2 n : Int) - Nat.log2 d - p.bits
    let (a, b) := scaled 2 n d guess
    let e := max p.least (if a / b < Nat.pow 2 p.bits then guess else guess + 1)
    let (a, b) := scaled 2 n d e
    let m := roundHalfEven a b
    let (m, e) := if m = Nat.pow 2 p.bits then (m / 2, e + 1) else (m, e)
    if e > p.greatest then .infinite negative else .finite negative m e

def ofInt (p : Precision) (n : Int) : Binary :=
  ofQuotient p (n < 0) n.natAbs 1

/-- Decimals of this height and more are beyond all binary numbers, and those that are as far below
the point round to zero. -/
def extreme : Int := 400

def ofDecimal (p : Precision) (x : Decimal) : Binary :=
  if x.digits = 0 ∨ x.height < -extreme then ofQuotient p x.negative 0 1
  else if x.height > extreme then .infinite x.negative
  else
    let (n, d) := scaled 10 x.digits 1 (-x.exponent)
    ofQuotient p x.negative n d

/-- The same number, rounded to another precision. -/
def round (p : Precision) : Binary → Binary
  | .finite negative m e =>
    let (n, d) := scaled 2 m 1 (-e)
    ofQuotient p negative n d
  | x => x

/-- A number in decimal digits, or the name of what is none. -/
def ofText? (p : Precision) (s : String) : Option Binary :=
  let (negative, cs) := Decimal.splitSign s.toList
  match String.ofList (cs.map Char.toLower) with
  | "nan" => some .notANumber
  | "inf" | "infinity" => some (.infinite negative)
  | _ => (Decimal.ofText? s).map (ofDecimal p)

/-- Whether `c * 10 ^ t` rounds to `m * 2 ^ e`: it lies between the points half-way to the
neighbours, which count as well if `m` is even. The neighbour below is nearer where the mantissa is
the least of its size. -/
def roundsTo (p : Precision) (m : Nat) (e t : Int) (c : Nat) : Bool :=
  let reach := if m = Nat.pow 2 (p.bits - 1) ∧ e > p.least then 1 else 2
  let (a, b) := scaled 2 1 1 (2 - e)
  let (a, b) := scaled 10 a b t
  let low := (4 * m - reach) * a
  let high := (4 * m + 2) * a
  if m % 2 = 0 then low ≤ c * b ∧ c * b ≤ high else low < c * b ∧ c * b < high

/-- The multiple of `10 ^ t` that rounds to `m * 2 ^ e` and is nearest to it, as its factor. Of two
equally near ones it is the larger. -/
def onGrid (p : Precision) (m : Nat) (e t : Int) : Option Nat :=
  let (a, b) := scaled 2 m 1 (-e)
  let (a, b) := scaled 10 a b t
  let below := a / b
  let candidates := if 2 * (a % b) < b then [below, below + 1] else [below + 1, below]
  candidates.find? (roundsTo p m e t)

/-- The decimal with the fewest digits that rounds to a finite number. -/
def shortest? (p : Precision) : Binary → Option Decimal
  | .finite negative 0 _ => some ⟨negative, 0, 0⟩
  | .finite negative m e =>
    let highest := (p.greatest + p.bits) / 3
    let exponents := (List.range (highest - p.least + 1).toNat).map fun (i : Nat) => highest - i
    exponents.findSome? fun t => (onGrid p m e t).map (⟨negative, ·, t⟩)
  | _ => none

/-- The shortest decimal, or the name of what is no finite number. -/
def shown (p : Precision) (x : Binary) : String :=
  match x with
  | .notANumber => "NaN"
  | .infinite negative => if negative then "-inf" else "inf"
  | x => ((x.shortest? p).map Decimal.text).getD ""

/-- The same, but for whole numbers with a zero behind a point. -/
def shownWithPoint (p : Precision) (x : Binary) : String :=
  let text := x.shown p
  match x with
  | .finite .. => if text.toList.contains '.' then text else text ++ ".0"
  | _ => text

end Binary
end CredentialRotation
