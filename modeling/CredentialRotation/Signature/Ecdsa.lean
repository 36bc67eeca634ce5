import CredentialRotation.Der.Strict
import CredentialRotation.Digest.Sha2

/-!
Signatures over the two prime curves in use. Points are ratios, and the law of addition needs no
cases.
-/
namespace CredentialRotation

/-- A curve `y² = x³ - 3x + b` over a prime field, with a generator of prime order. -/
structure PrimeCurve where
  /-- The octets of a coordinate. -/
  size : Nat
  field : Nat
  order : Nat
  b : Nat
  generatorX : Nat
  generatorY : Nat

namespace PrimeCurve

def p256 : PrimeCurve where
  size := 32
  field := Nat.pow 2 256 - Nat.pow 2 224 + Nat.pow 2 192 + Nat.pow 2 96 - 1
  order := 0xffffffff00000000ffffffffffffffffbce6faada7179e84f3b9cac2fc632551
  b := 0x5ac635d8aa3a93e7b3ebbd55769886bc651d06b0cc53b0f63bce3c3e27d2604b
  generatorX := 0x6b17d1f2e12c4247f8bce6e563a440f277037d812deb33a0f4a13945d898c296
  generatorY := 0x4fe342e2fe1a7f9b8ee7eb4a7c0f9e162bce33576b315ececbb6406837bf51f5

def p384 : PrimeCurve where
  size := 48
  field := Nat.pow 2 384 - Nat.pow 2 128 - Nat.pow 2 96 + Nat.pow 2 32 - 1
  order := Nat.pow 2 384 - 0x389cb27e0bc8d220a7e5f24db74f58851313e695333ad68d
  b :=
    0xb3312fa7e23ee7e4988e056be3f82d19181d9c6efe8141120314088f5013875ac656398d8a2ed19d2a85c8edd3ec2aef
  generatorX :=
    0xaa87ca22be8b05378eb1c71ef320ad746e1d3b628ba79b9859f741e082542a385502f25dbf55296c3a545e3872760ab7
  generatorY :=
    0x3617de4a96262c6f5d9e98bf9292dc29f8f41dbd289a147ce9da3113b5f0b8c00a60b1ce1d7e819d7a431d7c90ea0e5f

/-- The point `(x / z, y / z)`, or the neutral one if `z` is zero. -/
structure Point where
  x : Int
  y : Int
  z : Int
  deriving Repr

def neutral : Point := ⟨0, 1, 0⟩

variable (curve : PrimeCurve)

/-- The sum of any two points. -/
def add (p q : Point) : Point :=
  let m : Int := curve.field
  let b3 : Int := 3 * curve.b
  let xx := p.x * q.x % m
  let yy := p.y * q.y % m
  let zz := p.z * q.z % m
  let xy := (p.x * q.y + q.x * p.y) % m
  let xz := (p.x * q.z + q.x * p.z) % m
  let yz := (p.y * q.z + q.y * p.z) % m
  let t := (b3 * zz - 3 * xz) % m
  let u := (b3 * xz - 3 * xx - 9 * zz) % m
  let v := 3 * (xx - zz)
  ⟨(xy * (yy - t) - yz * u) % m, (v * u + (yy + t) * (yy - t)) % m, (yz * (yy + t) + xy * v) % m⟩

/-- A point added to itself a number of times. -/
def times (n : Nat) (p : Point) : Point :=
  if n = 0 then neutral
  else
    let half := times (n / 2) (curve.add p p)
    if n % 2 = 0 then half else curve.add half p
termination_by n

def generator : Point := ⟨curve.generatorX, curve.generatorY, 1⟩

/-- Reads a point in its uncompressed form. It has to lie on the curve. -/
def point? (bs : Octets) : Option Point :=
  match bs with
  | 4 :: rest =>
    let x := Octets.toNat (rest.take curve.size)
    let y := Octets.toNat (rest.drop curve.size)
    if rest.length = 2 * curve.size ∧ x < curve.field ∧ y < curve.field ∧
        ((y * y : Int) - (x * x * x - 3 * x + curve.b)) % curve.field = 0 then
      some ⟨x, y, 1⟩
    else none
  | _ => none

/-- Reads the two numbers of a signature. -/
def signature? (bs : Octets) : Option (Nat × Nat) := do
  let bs ← Der.Strict.whole? Der.Strict.sequenceTag bs
  let (r, bs) ← Der.Strict.natural? bs
  let (s, bs) ← Der.Strict.natural? bs
  if bs.isEmpty ∧ 0 < r ∧ r < curve.order ∧ 0 < s ∧ s < curve.order then some (r, s) else none

/-- The first octets of the digest, as many as a coordinate has, are what was signed. -/
def verify (digest : Digest) (key message signature : Octets) : Bool :=
  match curve.point? key, curve.signature? signature with
  | some q, some (r, s) =>
    let e := Octets.toNat ((digest.of message).take curve.size)
    let w := Modular.inverse s curve.order
    let sum := curve.add (curve.times (e * w % curve.order) curve.generator)
      (curve.times (r * w % curve.order) q)
    let x := (sum.x * Modular.inverse sum.z.toNat curve.field % curve.field).toNat
    sum.z ≠ 0 && x % curve.order = r
  | _, _ => false

end PrimeCurve
end CredentialRotation
