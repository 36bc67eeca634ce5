import CredentialRotation.Der.Oid
import CredentialRotation.Der.Strict
import CredentialRotation.Digest.Sha2
import CredentialRotation.Rsa.Components

/-!
RSA public keys and the two kinds of signature that they verify: a digest behind fixed padding, and
a digest that is salted and masked.
-/
namespace CredentialRotation.Rsa

/-- Modulus and exponent of a key that verifies signatures. -/
structure PublicKey where
  modulus : Nat
  exponent : Nat
  deriving DecidableEq, Repr

namespace PublicKey

open Der.Strict

/-- Reads a sequence of exactly two numbers. -/
def read? (bs : Octets) : Option PublicKey := do
  let bs ← whole? sequenceTag bs
  let (modulus, bs) ← natural? bs
  let (exponent, bs) ← natural? bs
  if bs.isEmpty then some ⟨modulus, exponent⟩ else none

/-- The octets of the modulus, and of every signature. -/
def size (key : PublicKey) : Nat :=
  Octets.widthOf key.modulus

/-- The sizes that signatures are verified for: 2048 bits, counted in whole octets, to 8192. -/
def isSupported (key : PublicKey) : Bool :=
  2048 ≤ key.size * 8 && bitLength key.modulus ≤ 8192 && key.modulus % 2 = 1 &&
    3 ≤ key.exponent && key.exponent < Nat.pow 2 33 && key.exponent % 2 = 1

/-- The number that was signed. -/
def recover? (key : PublicKey) (signature : Octets) : Option Nat :=
  let s := signature.toNat
  if key.isSupported ∧ signature.length = key.size ∧ s < key.modulus then
    some (Modular.pow s key.exponent key.modulus)
  else none

/-- The algorithm identifier of a digest. -/
def digestIdentifier (digest : Digest) : Octets :=
  encode sequenceTag
    (encode 6 (Oid.ofArcs [2, 16, 840, 1, 101, 3, 4, 2, digest.arc]).content ++ encode 5 [])

/-- A digest behind its identifier. -/
def digestInfo (digest : Digest) (message : Octets) : Octets :=
  encode sequenceTag (digestIdentifier digest ++ encode octetStringTag (digest.of message))

/-- The fixed padding is as long as the key asks for. -/
def verifyPadded (key : PublicKey) (digest : Digest) (message signature : Octets) : Bool :=
  match key.recover? signature with
  | none => false
  | some n =>
    let info := digestInfo digest message
    let filler := List.replicate (key.size - info.length - 3) 255
    Octets.ofNatWidth key.size n = 0 :: 1 :: filler ++ 0 :: info

/-- As many octets as asked for that a seed is stretched to. -/
def mask (digest : Digest) (seed : Octets) (size : Nat) : Octets :=
  ((List.range (size / digest.size + 1)).flatMap fun i =>
    digest.of (seed ++ Octets.ofNatWidth 4 i)).take size

/-- The salt is as long as the digest, and all bits in front of it but one are zero. -/
def verifySalted (key : PublicKey) (digest : Digest) (message signature : Octets) : Bool :=
  match key.recover? signature with
  | none => false
  | some n =>
    let bits := bitLength key.modulus - 1
    let size := (bits + 7) / 8
    let maskedSize := size - digest.size - 1
    let (masked, rest) := (Octets.ofNatWidth size n).splitAt maskedSize
    let (digested, trailer) := rest.splitAt digest.size
    let plain := Octets.toNat (masked.zipWith (· ^^^ ·) (mask digest digested maskedSize)) %
      Nat.pow 2 (bits - 8 * (digest.size + 1))
    let salt := Octets.ofNatWidth digest.size plain
    n < Nat.pow 2 bits && trailer = [0xbc] && plain / Nat.pow 256 digest.size = 1 &&
      digest.of (List.replicate 8 0 ++ digest.of message ++ salt) = digested

end PublicKey
end CredentialRotation.Rsa
