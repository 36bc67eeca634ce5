/-!
Numbers of the form `n * 10 ^ e` and their text without an exponent.
-/
namespace CredentialRotation

/-- The number `digits * 10 ^ exponent`, with a sign that also zero can have. -/
structure Decimal where
  negative : Bool
  digits : Nat
  exponent : Int
  deriving DecidableEq, Repr

namespace Decimal

/-- The digits of the magnitude, with a point and zeros where the exponent asks for them. -/
def magnitude (d : Decimal) : List Char :=
  let digits := Nat.toDigits 10 d.digits
  let places := (-d.exponent).toNat
  let padded := List.replicate (places + 1 - digits.length) '0' ++ digits
  if d.exponent ≥ 0 then digits ++ List.replicate d.exponent.toNat '0'
  else padded.take (padded.length - places) ++ '.' :: padded.drop (padded.length - places)

def text (d : Decimal) : String :=
  (if d.negative then "-" else "") ++ String.ofList d.magnitude

/-- The place in front of the first digit: the number is below `10 ^ d.height`. -/
def height (d : Decimal) : Int :=
  (Nat.toDigits 10 d.digits).length + d.exponent

def value (digits : List Char) : Nat :=
  digits.foldl (fun n c => 10 * n + (c.toNat - '0'.toNat)) 0

/-- A sign, if there is one, and what follows it. -/
def splitSign : List Char → Bool × List Char
  | '-' :: cs => (true, cs)
  | '+' :: cs => (false, cs)
  | cs => (false, cs)

/-- Digits with an optional point among them and an optional exponent behind them. -/
def ofText? (s : String) : Option Decimal := do
  let (negative, cs) := splitSign s.toList
  let whole := cs.takeWhile Char.isDigit
  let (fraction, cs) := match cs.dropWhile Char.isDigit with
    | '.' :: cs => (cs.takeWhile Char.isDigit, cs.dropWhile Char.isDigit)
    | cs => ([], cs)
  if whole.isEmpty && fraction.isEmpty then none
  let scaled (e : Int) : Decimal := ⟨negative, value (whole ++ fraction), e - fraction.length⟩
  match cs with
  | [] => return scaled 0
  | 'e' :: cs | 'E' :: cs =>
    let (below, digits) := splitSign cs
    if digits.isEmpty || !digits.all Char.isDigit then none
    return scaled (if below then -(value digits : Int) else value digits)
  | _ => none

end Decimal
end CredentialRotation
