import CredentialRotation.Credential.Chain
import CredentialRotation.Proofs.X509.Certificate
import CredentialRotation.Proofs.X509.Name
import CredentialRotation.Proofs.X509.Parts
import CredentialRotation.Proofs.X509.Validity

/-!
Certificates as they are written, with all that a certificate has or may have. What is read of a
certificate that was written are its own fields, wherever they stand.
-/
namespace CredentialRotation.X509.Written

open Der (Held Reader Reads)
open Der.Lenient (reads_element reads_within)
open Der.Strict (encode sequenceTag integerTag)

/-- A certificate with all that it can hold. -/
structure Certificate where
  version : Option Nat
  versionSmall : ∀ v ∈ version, v < 2 ^ 32
  serial : Octets
  signedWith : Algorithm
  issuer : Name
  notBefore : Moment
  notAfter : Moment
  subject : Name
  keyInfo : KeyInfo
  issuerId : Option BitString
  subjectId : Option BitString
  extensions : Option (List Extension)
  signatureAlgorithm : Algorithm
  signature : BitString

namespace Certificate
variable {v : Certificate}

def validityOctets (v : Certificate) : Octets :=
  encode sequenceTag (v.notBefore.octets ++ v.notAfter.octets)

def tailOctets (v : Certificate) : Octets :=
  uniqueIdOctets 0x81 v.issuerId ++
    (uniqueIdOctets 0x82 v.subjectId ++ extensionsOctets v.extensions)

/-- The part that is signed. -/
def signedOctets (v : Certificate) : Octets :=
  encode sequenceTag (versionOctets v.version ++ (encode integerTag v.serial ++
    (v.signedWith.octets ++ (v.issuer.octets ++ (v.validityOctets ++ (v.subject.octets ++
      (v.keyInfo.octets ++ v.tailOctets)))))))

def der (v : Certificate) : Octets :=
  encode sequenceTag (v.signedOctets ++ (v.signatureAlgorithm.octets ++ v.signature.octets))

/-- What is read of a certificate. -/
def said (v : Certificate) : CredentialRotation.Certificate where
  der := v.der
  serial := v.serial
  issuer := v.issuer.said
  subject := v.subject.said
  keyAlgorithm := v.keyInfo.kind

theorem reads_validity (held : Held v.validityOctets) :
    Reads (Der.Lenient.within 16 do
      let _ ← X509.Moment.read
      let _ ← X509.Moment.read) v.validityOctets () := by
  have inside := held.content
  exact reads_within rfl (by decide) inside
    ((Moment.reads inside.left).step ((Moment.reads inside.right).finish rfl))

theorem reads_signedPart (held : Held v.signedOctets) :
    Reads CredentialRotation.Certificate.signedPart v.signedOctets
      (v.serial, v.issuer.said, v.subject.said, v.keyInfo.kind) := by
  have inside := held.content
  obtain ⟨version, h⟩ := inside.split
  obtain ⟨serial, h⟩ := h.split
  obtain ⟨signedWith, h⟩ := h.split
  obtain ⟨issuer, h⟩ := h.split
  obtain ⟨validity, h⟩ := h.split
  obtain ⟨subject, h⟩ := h.split
  obtain ⟨keyInfo, behindKey⟩ := h.split
  refine reads_within rfl (by decide) inside ?_
  refine Reader.bind_eq_some_iff.2
    ⟨(), _, version_written v.versionSmall version serial.content, ?_⟩
  refine (reads_serialNumber serial.content).step <| (Algorithm.reads signedWith).step <|
    (Name.reads issuer).step <| (reads_validity validity).step <| (Name.reads subject).step <|
    (KeyInfo.reads keyInfo).step ?_
  let fields := (v.serial, v.issuer.said, v.subject.said, v.keyInfo.kind)
  have behind : (tail >>= fun _ => pure fields : Reader _) v.tailOctets = some (fields, []) :=
    Reader.bind_eq_some_iff.2 ⟨(), [], tail_written behindKey, rfl⟩
  simpa only [tail, bind_assoc] using behind

theorem ofDer?_der (held : Held v.der) :
    CredentialRotation.Certificate.ofDer? v.der = some v.said := by
  have inside := held.content
  obtain ⟨signed, h⟩ := inside.split
  obtain ⟨algorithm, signature⟩ := h.split
  have outer := (reads_element (by decide : sequenceTag.toNat % 32 ≠ 31) inside).last
  exact CredentialRotation.Certificate.ofDer?_eq_some_iff.2 ⟨_, [], outer, rfl,
    ⟨_, _, [], _, _, reads_signedPart signed _, Algorithm.reads algorithm _,
      (BitString.reads signature).last⟩, rfl⟩

/-- What is read of a certificate that was written are its own fields. The serial number is told with
two digits for each octet, each name is told with all its attributes in order, the kind of key is
told by the key alone, and the octets are kept as they are. -/
theorem fields_are_those_written (v : Certificate) (held : Held v.der) :
    ∃ c : CredentialRotation.Certificate,
      CredentialRotation.Certificate.ofDer v.der = .ok c ∧ c.der = v.der ∧
      c.serialText.toList =
        v.serial.flatMap (fun b => [Nat.digitChar (b.toNat / 16), Nat.digitChar (b.toNat % 16)]) ∧
      c.subject.text = v.subject.text ∧ c.issuer.text = v.issuer.text ∧
      c.keyAlgorithm = v.keyInfo.kind := by
  refine ⟨v.said, ?_, rfl, ?_, v.subject.text_said, v.issuer.text_said, rfl⟩
  · rw [CredentialRotation.Certificate.ofDer, ofDer?_der held]
  · exact Octets.toList_hex v.serial

/-- A certificate with everything that may be left out, and a serial number that starts with zeros. -/
def full : Certificate where
  version := some 2
  versionSmall := by decide
  serial := [0, 0, 255]
  signedWith := ⟨⟨[42, 3]⟩, none, nofun⟩
  issuer := ⟨[⟨[⟨.ofArcs [2, 5, 4, 3], .wide ['ä', '𐀀']⟩], nofun⟩]⟩
  notBefore := ⟨⟨1950, 2, 28, 23, 59, 59⟩, by decide, false, by decide⟩
  notAfter := ⟨⟨9999, 12, 31, 23, 59, 59⟩, by decide, true, by decide⟩
  subject := ⟨[⟨[⟨.ofArcs [2, 5, 4, 6], .text 19 (by decide) ['X', 'Y']⟩], nofun⟩,
    ⟨[⟨.ofArcs [2, 5, 4, 10], .text 12 (by decide) ['ß']⟩,
      ⟨.ofArcs [1, 2, 3], .text 22 (by decide) []⟩], nofun⟩]⟩
  keyInfo := ⟨⟨CredentialRotation.Certificate.rsaEncryption, some [5, 0], by
      rintro _ ⟨⟩
      exact Der.Lenient.isOneElement_iff.2 ⟨_, rfl⟩⟩,
    ⟨encode sequenceTag (encode integerTag [5] ++ encode integerTag [3]), 0, by decide, nofun,
      fun _ _ => Nat.mod_one _⟩⟩
  issuerId := some ⟨[128], 7, by decide, nofun, by rintro _ ⟨⟩; rfl⟩
  subjectId := some ⟨[], 0, by decide, fun _ => rfl, nofun⟩
  extensions := some [⟨⟨[85, 29, 19]⟩, true, [1]⟩, ⟨⟨[85, 29, 14]⟩, false, []⟩]
  signatureAlgorithm := ⟨⟨[42, 3]⟩, none, nofun⟩
  signature := ⟨[], 0, by decide, fun _ => rfl, nofun⟩

theorem fields_are_those_written_full :
    full.der.length < 2 ^ 64 ∧ ∃ c : CredentialRotation.Certificate,
      CredentialRotation.Certificate.ofDer full.der = .ok c ∧ c.der = full.der ∧
      c.serialText = "0000ff" ∧ c.subject.text = "C=XY, O=ß + OID(1.2.3)=" ∧
      c.issuer.text = "CN=ä𐀀" ∧ c.keyAlgorithm = .rsa := by
  have held : full.der.length < 2 ^ 64 := by decide +kernel
  obtain ⟨c, read, der, serial, subject, issuer, key⟩ := fields_are_those_written full held
  refine ⟨held, c, read, der, String.toList_inj.1 (serial.trans (by decide +kernel)),
    subject.trans (by decide +kernel), issuer.trans (by decide +kernel), key.trans ?_⟩
  exact KeyInfo.kind_eq_rsa rfl rfl (by decide : full.keyInfo.key.bits.length < 2 ^ 64)

end Certificate

end CredentialRotation.X509.Written
