import CredentialRotation.Der.Oid
import CredentialRotation.Der.Strict
import CredentialRotation.Rsa.Components
import CredentialRotation.Text.Shown

/-!
RSA private keys in PKCS #8: reading and writing the distinguished encoding, and the outer form that
a signer accepts.
-/
namespace CredentialRotation

/-- A private key with its octets as they were found. -/
structure PrivateKey where
  der : Octets
  components : Rsa.Components
  deriving DecidableEq, Repr

namespace PrivateKey

open Der.Strict

/-- The algorithm every key names: RSA encryption with NULL parameters. -/
def algorithmContent : Octets :=
  encode 6 (Oid.ofArcs [1, 2, 840, 113549, 1, 1, 1]).content ++ encode 5 []

/-- Reads the inner structure: version zero and eight numbers. -/
def readComponents? (bs : Octets) : Option Rsa.Components := do
  let bs ← whole? sequenceTag bs
  let (version, bs) ← natural? bs
  let (modulus, bs) ← natural? bs
  let (publicExponent, bs) ← natural? bs
  let (privateExponent, bs) ← natural? bs
  let (p, bs) ← natural? bs
  let (q, bs) ← natural? bs
  let (exponentP, bs) ← natural? bs
  let (exponentQ, bs) ← natural? bs
  let (inverseQ, bs) ← natural? bs
  if version = 0 ∧ bs.isEmpty then
    some { modulus, publicExponent, privateExponent, p, q, exponentP, exponentQ, inverseQ }
  else none

/-- The universal types that have a tag of their own here. -/
private def knownTags : List UInt8 :=
  [1, 2, 3, 4, 5, 6, 9, 10, 12, 18, 19, 20, 21, 22, 23, 24, 26, 27, 30, 0x30, 0x31]

private def isKnownTag (tag : UInt8) : Bool :=
  tag.toNat ≥ 64 || knownTags.contains tag

/-- The optional fields behind the key. Fields under `[0]` are skipped; then may come the public key
under `[1]`, and then fields that hold one element each. Answers whether there is a public key. -/
def hasPublicKey? (bs : Octets) : Option Bool :=
  match h : element? bs with
  | none => if bs.isEmpty then some false else none
  | some (tag, content, rest) =>
    have : rest.length < bs.length := element?_length h
    if tag = 0x80 ∨ tag = 0xa0 then hasPublicKey? rest
    else if tag = 0x81 then
      match content with
      | unused :: _ => if unused = 0 ∧ onlyWrapped (rest.length + 1) rest then some true else none
      | [] => none
    else if tag ≠ 0xa1 ∧ onlyWrapped (bs.length + 1) bs then some false
    else none
  termination_by bs.length
where
  /-- Each field is constructed and holds exactly one element. -/
  onlyWrapped (fuel : Nat) (bs : Octets) : Bool :=
    match fuel with
    | 0 => false
    | fuel + 1 =>
      bs.isEmpty ||
        match element? bs with
        | some (tag, content, rest) =>
          0xa0 ≤ tag.toNat && tag.toNat < 0xbf &&
            (match element? content with
             | some (inner, _, left) => isKnownTag inner && left.isEmpty
             | none => false) &&
            onlyWrapped fuel rest
        | none => false

/-- The octets of the inner structure, and whether anything but fields under `[0]` follows it. -/
def unwrap? (der : Octets) : Option (Nat × Octets × Octets) := do
  let bs ← whole? sequenceTag der
  let (version, bs) ← natural? bs
  let (algorithm, bs) ← expect? sequenceTag bs
  let (key, extra) ← expect? octetStringTag bs
  if algorithm = algorithmContent then some (version, key, extra) else none

/-- Reads a key: version zero without, or version one with, a public key, around numbers that
belong together. -/
def ofPkcs8? (der : Octets) : Option PrivateKey := do
  if der.length > longest then none
  let (version, key, extra) ← unwrap? der
  let hasKey ← hasPublicKey? extra
  if version > 1 ∨ hasKey ≠ (version = 1 : Bool) then none
  let components ← readComponents? key
  if components.Consistent then some ⟨der, components⟩ else none

/-- The inner structure of the given numbers. -/
def encodeComponents (k : Rsa.Components) : Octets :=
  encode sequenceTag <|
    encodeNatural 0 ++ encodeNatural k.modulus ++ encodeNatural k.publicExponent ++
    encodeNatural k.privateExponent ++ encodeNatural k.p ++ encodeNatural k.q ++
    encodeNatural k.exponentP ++ encodeNatural k.exponentQ ++ encodeNatural k.inverseQ

/-- The PKCS #8 form, version zero, of the given numbers. -/
def encodePkcs8 (k : Rsa.Components) : Octets :=
  encode sequenceTag <|
    encodeNatural 0 ++ encode sequenceTag algorithmContent ++
    encode octetStringTag (encodeComponents k)

/-- The document of the given numbers, unless it would be too long. -/
def document? (k : Rsa.Components) : Option Octets :=
  if (encodePkcs8 k).length ≤ longest then some (encodePkcs8 k) else none

/-- The size that is published: whole octets of the modulus, in bits. -/
def modulusBits (key : PrivateKey) : Nat :=
  8 * Octets.widthOf key.components.modulus

/-- The outer form that a signer accepts: version zero, and at most one field, under `[0]`. -/
def isPlainForm (der : Octets) : Bool :=
  match unwrap? der with
  | some (version, _, extra) => version = 0 && (extra.isEmpty || (whole? 0xa0 extra).isSome)
  | none => false

/-- A signer can be built from the key. -/
def canSign (key : PrivateKey) : Bool :=
  isPlainForm key.der && decide key.components.Signable

/-- Shows sizes only. -/
def shown (key : PrivateKey) : String :=
  Shown.record "PrivateKey" [("algorithm", "RSA"), ("modulus_bits", toString key.modulusBits),
    ("der_length", toString key.der.length)]

end PrivateKey
end CredentialRotation
