import CredentialRotation.Digest.Sha2

/-!
Signatures over the twisted Edwards curve `y² - x² = 1 + d x² y²` modulo `2 ^ 255 - 19`. Points are
ratios, and the law of addition needs no cases.
-/
namespace CredentialRotation.Ed25519

def field : Nat := Nat.pow 2 255 - 19

/-- The number of multiples of the generator. -/
def order : Nat := Nat.pow 2 252 + 27742317777372353535851937790883648493

/-- The coefficient of the curve. -/
def d : Nat := (field - 121665) * Modular.inverse 121666 field % field

/-- The point `(x / z, y / z)`. -/
structure Point where
  x : Int
  y : Int
  z : Int
  deriving DecidableEq, Repr

def neutral : Point := ⟨0, 1, 1⟩

/-- The sum of any two points. -/
def add (p q : Point) : Point :=
  let m : Int := field
  let zz := p.z * q.z % m
  let xx := p.x * q.x % m
  let yy := p.y * q.y % m
  let e := d * (xx * yy % m) % m
  let f := zz * zz - e
  let g := zz * zz + e
  ⟨zz * f % m * (p.x * q.y + p.y * q.x) % m, zz * g % m * (yy + xx) % m, f * g % m⟩

/-- A point added to itself a number of times. -/
def times (n : Nat) (p : Point) : Point :=
  if n = 0 then neutral
  else
    let half := times (n / 2) (add p p)
    if n % 2 = 0 then half else add half p
termination_by n

def negate (p : Point) : Point := ⟨-p.x, p.y, p.z⟩

/-- A root of a number modulo the field's size, if there is one. -/
def squareRoot? (n : Nat) : Option Nat :=
  let root := Modular.pow n ((field + 3) / 8) field
  let turned := root * Modular.pow 2 ((field - 1) / 4) field % field
  if root * root % field = n % field then some root
  else if turned * turned % field = n % field then some turned
  else none

/-- The number written least significant octet first. -/
def littleEndian (bs : Octets) : Nat :=
  Octets.toNat bs.reverse

/-- Reads a point from its second coordinate and the parity of the first, which is the highest bit.
A coordinate that is too large stands for its remainder. -/
def point? (bs : Octets) : Option Point := do
  if bs.length ≠ 32 then none
  let n := littleEndian bs
  let y := n % Nat.pow 2 255 % field
  let x ← squareRoot?
    ((y * y + (field - 1)) * Modular.inverse ((d * (y * y) + 1) % field) field % field)
  let x : Int := if x % 2 = n / Nat.pow 2 255 then x else -x
  return ⟨x, y, 1⟩

/-- Writes a point. -/
def encode (p : Point) : Octets :=
  let inverse := Modular.inverse (p.z % field).toNat field
  let x := (p.x * inverse % field).toNat
  let y := (p.y * inverse % field).toNat
  (Octets.ofNatWidth 32 (y + x % 2 * Nat.pow 2 255)).reverse

/-- The point with `y = 4 / 5` and an even first coordinate. -/
def generator : Point :=
  (point? (Octets.ofNatWidth 32 (4 * Modular.inverse 5 field % field)).reverse).getD neutral

/-- The first half of a signature is compared with the point that its second half, the key and the
message lead to. -/
def verify (key message signature : Octets) : Bool :=
  let (r, s) := signature.splitAt 32
  let scalar := littleEndian s
  match point? key with
  | some a =>
    let challenge := littleEndian (Digest.of .sha512 (r ++ key ++ message)) % order
    s.length = 32 && scalar < order &&
      encode (add (times scalar generator) (times challenge (negate a))) = r
  | none => false

end CredentialRotation.Ed25519
