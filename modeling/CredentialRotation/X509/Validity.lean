import CredentialRotation.Calendar
import CredentialRotation.Der.Lenient

/-!
The two written forms of a moment in a certificate. Both are read leniently: seconds may be
missing, the short form may name an offset from Greenwich, and the long form may have a fraction.
-/
namespace CredentialRotation.X509.Moment

def digit? (b : UInt8) : Option Nat :=
  if 48 ≤ b.toNat ∧ b.toNat ≤ 57 then some (b.toNat - 48) else none

def pair : Der.Reader Nat
  | a :: b :: rest => do return ((← digit? a) * 10 + (← digit? b), rest)
  | _ => none

/-- Two digits, or zero where at most one octet is left. -/
def pairOrLast : Der.Reader Nat
  | bs@(_ :: _ :: _) => pair bs
  | bs => some (0, bs)

def zed : UInt8 := 90

/-- An offset of at most 25 hours and 59 minutes, or a Z. -/
def isZone : Octets → Bool
  | [z] => z = zed
  | [sign, a, b, c, d] =>
    (sign = 43 || sign = 45) &&
      match pair [a, b], pair [c, d] with
      | some (h, _), some (m, _) => h ≤ 25 && m < 60
      | _, _ => false
  | _ => false

/-- The short form: two digits of the year, where 50 and later belong to the last century. -/
def short? (bs : Octets) : Option CalendarTime := do
  let read : Der.Reader CalendarTime := do
    let yy ← pair
    let month ← pair
    let day ← pair
    let hour ← pair
    let minute ← pair
    let second ← pairOrLast
    return ⟨if yy < 50 then 2000 + yy else 1900 + yy, month, day, hour, minute, second⟩
  let (t, zone) ← read bs
  if t.isReal && isZone zone then some t else none

/-- A point and at most three digits, then a Z. -/
def isFractionZone : Octets → Bool
  | [z] => z = zed
  | 46 :: rest =>
    let digits := rest.takeWhile fun b => (digit? b).isSome
    digits.length ≤ 3 && rest.drop digits.length = [zed]
  | _ => false

/-- The long form: four digits of the year. -/
def long? (bs : Octets) : Option CalendarTime := do
  let read : Der.Reader CalendarTime := do
    let century ← pair
    let yy ← pair
    let month ← pair
    let day ← pair
    let hour ← pair
    let minute ← pair
    let second ← pairOrLast
    return ⟨century * 100 + yy, month, day, hour, minute, second⟩
  let (t, zone) ← read bs
  if t.isReal && isFractionZone zone then some t else none

/-- Reads a moment in the form its tag announces. -/
def read : Der.Reader CalendarTime := do
  let e ← Der.Lenient.element
  if e.header.tag = 23 then short? e.content
  else if e.header.tag = 24 then long? e.content
  else failure

end CredentialRotation.X509.Moment
