import CredentialRotation.Rsa.PublicKey
import CredentialRotation.Signature.Ecdsa
import CredentialRotation.Signature.Ed25519

/-!
The signature schemes that certificates may be signed with. A scheme is recognised by the octets of
the algorithm identifier, and it goes only with keys that name the right algorithm of their own.
-/
namespace CredentialRotation

inductive SignatureScheme
  | ecdsaP256 (digest : Digest)
  | ecdsaP384 (digest : Digest)
  | ed25519
  | rsaSalted (digest : Digest)
  | rsaPadded (digest : Digest) (withNull : Bool)
  deriving DecidableEq, Repr

namespace SignatureScheme

open Der.Strict

/-- The schemes in use. -/
def all : List SignatureScheme :=
  [.ecdsaP256 .sha256, .ecdsaP256 .sha384, .ecdsaP384 .sha256, .ecdsaP384 .sha384, .ed25519,
   .rsaSalted .sha256, .rsaSalted .sha384, .rsaSalted .sha512,
   .rsaPadded .sha256 true, .rsaPadded .sha384 true, .rsaPadded .sha512 true,
   .rsaPadded .sha256 false, .rsaPadded .sha384 false, .rsaPadded .sha512 false]

private def oid (arcs : List Nat) : Octets :=
  encode 6 (Oid.ofArcs arcs).content

private def null : Octets := encode 5 []

/-- Digest, mask and length of the salt, each under a tag of its own. -/
private def saltedParameters (digest : Digest) : Octets :=
  let id := Rsa.PublicKey.digestIdentifier digest
  let mask := encode sequenceTag (oid [1, 2, 840, 113549, 1, 1, 8] ++ id)
  encode sequenceTag
    (encode 0xa0 id ++ encode 0xa1 mask ++ encode 0xa2 (encodeNatural digest.size))

private def ecdsaIdentifier (digest : Digest) : Octets :=
  oid [1, 2, 840, 10045, 4, 3, digest.arc + 1]

private def rsaArc : Digest → Nat
  | .sha256 => 11
  | .sha384 => 12
  | .sha512 => 13

/-- The content of the algorithm identifier in a signed structure. -/
def identifier : SignatureScheme → Octets
  | .ecdsaP256 digest | .ecdsaP384 digest => ecdsaIdentifier digest
  | .ed25519 => oid [1, 3, 101, 112]
  | .rsaSalted digest => oid [1, 2, 840, 113549, 1, 1, 10] ++ saltedParameters digest
  | .rsaPadded digest withNull =>
    oid [1, 2, 840, 113549, 1, 1, rsaArc digest] ++ if withNull then null else []

/-- The content of the algorithm identifier in the key. -/
def keyIdentifier : SignatureScheme → Octets
  | .ecdsaP256 _ => oid [1, 2, 840, 10045, 2, 1] ++ oid [1, 2, 840, 10045, 3, 1, 7]
  | .ecdsaP384 _ => oid [1, 2, 840, 10045, 2, 1] ++ oid [1, 3, 132, 0, 34]
  | .ed25519 => oid [1, 3, 101, 112]
  | .rsaSalted _ | .rsaPadded _ _ => oid [1, 2, 840, 113549, 1, 1, 1] ++ null

/-- Verifies a signature with the key's octets. -/
def verify (scheme : SignatureScheme) (key message signature : Octets) : Bool :=
  let withRsa (check : Rsa.PublicKey → Bool) := (Rsa.PublicKey.read? key).any check
  match scheme with
  | .ecdsaP256 digest => PrimeCurve.p256.verify digest key message signature
  | .ecdsaP384 digest => PrimeCurve.p384.verify digest key message signature
  | .ed25519 => Ed25519.verify key message signature
  | .rsaSalted digest => withRsa fun k => k.verifySalted digest message signature
  | .rsaPadded digest _ => withRsa fun k => k.verifyPadded digest message signature

end SignatureScheme
end CredentialRotation
