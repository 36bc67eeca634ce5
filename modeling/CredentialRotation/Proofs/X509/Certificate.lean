import CredentialRotation.Der.Strict
import CredentialRotation.Proofs.Der.Lenient
import CredentialRotation.X509.Certificate

/-!
What a certificate that was read has in common with its octets. Its fields come from the element in
front of them; octets behind that element are kept.
-/
namespace CredentialRotation.Certificate

open Der (Reader)
open Der.Lenient (element IsOneElement)

/-- What the content of the outer sequence says about a certificate. -/
def SaidBy (c : Certificate) (content : Octets) : Prop :=
  ∃ mid mid' left id signature,
    signedPart content = some ((c.serial, c.issuer, c.subject, c.keyAlgorithm), mid) ∧
      algorithm mid = some (id, mid') ∧ bitString mid' = some (signature, left)

section Reading
variable {der : Octets} {c : Certificate}

/-- Octets are read as a certificate by the content of the element in front of them. -/
theorem ofDer?_eq_some_iff :
    ofDer? der = some c ↔
      ∃ e rest, element der = some (e, rest) ∧ e.header.tag = 16 ∧ c.SaidBy e.content ∧
        c.der = der := by
  simp only [ofDer?, Option.bind_eq_bind, Option.bind_eq_some_iff]
  constructor
  · rintro ⟨⟨read, rest⟩, whole, same⟩
    obtain ⟨e, outer, sequence, left, inner⟩ := Der.Lenient.within_eq_some_iff.1 whole
    obtain ⟨_, mid, signed, afterSigned⟩ := Reader.bind_eq_some_iff.1 inner
    obtain ⟨id, mid', identified, afterAlgorithm⟩ := Reader.bind_eq_some_iff.1 afterSigned
    obtain ⟨signature, left, signature_read, afterSignature⟩ :=
      Reader.bind_eq_some_iff.1 afterAlgorithm
    obtain ⟨rfl, -⟩ := Reader.pure_eq_some_iff.1 afterSignature
    cases same
    exact ⟨e, rest, outer, sequence,
      ⟨mid, mid', left, id, signature, signed, identified, signature_read⟩, rfl⟩
  · rintro ⟨e, rest, outer, sequence,
      ⟨mid, mid', left, id, signature, signed, identified, signature_read⟩, rfl⟩
    refine ⟨(c, rest), Der.Lenient.within_eq_some_iff.2 ⟨e, outer, sequence, left, ?_⟩, rfl⟩
    exact Reader.bind_eq_some_iff.2 ⟨_, mid, signed,
      Reader.bind_eq_some_iff.2 ⟨id, mid', identified,
        Reader.bind_eq_some_iff.2 ⟨signature, left, signature_read, rfl⟩⟩⟩

/-- A certificate keeps the octets it was read from. -/
theorem der_of_ofDer? (h : ofDer? der = some c) : c.der = der := by
  obtain ⟨e, rest, -, -, -, kept⟩ := ofDer?_eq_some_iff.1 h
  exact kept

/-- What stands behind a certificate is kept with it and changes nothing else. -/
theorem ofDer?_append (h : ofDer? der = some c) (surplus : Octets) :
    ofDer? (der ++ surplus) = some { c with der := der ++ surplus } := by
  obtain ⟨e, rest, outer, sequence, said, -⟩ := ofDer?_eq_some_iff.1 h
  obtain ⟨front, rfl, anyMore⟩ := Der.Lenient.takesFront_element _ _ _ outer
  refine ofDer?_eq_some_iff.2 ⟨e, rest ++ surplus, ?_, sequence, said, rfl⟩
  rw [List.append_assoc]
  exact anyMore _

/-- The octets of a certificate open with one element, which alone is read as the same certificate. -/
theorem exists_whole (h : ofDer? der = some c) :
    ∃ whole surplus, der = whole ++ surplus ∧ IsOneElement whole ∧
      ofDer? whole = some { c with der := whole } ∧ (IsOneElement der ↔ surplus = []) := by
  obtain ⟨e, rest, outer, sequence, said, -⟩ := ofDer?_eq_some_iff.1 h
  obtain ⟨whole, rfl, anyMore⟩ := Der.Lenient.takesFront_element _ _ _ outer
  have alone : element whole = some (e, []) := by
    simpa only [List.append_nil] using anyMore []
  refine ⟨whole, rest, rfl, Der.Lenient.isOneElement_iff.2 ⟨e, alone⟩,
    ofDer?_eq_some_iff.2 ⟨e, [], alone, sequence, said, rfl⟩, ?_⟩
  rw [Der.Lenient.isOneElement_iff]
  constructor
  · rintro ⟨e', other⟩
    exact (Prod.mk.inj (Option.some.inj (outer.symm.trans other))).2
  · rintro rfl
    exact ⟨e, outer⟩

end Reading

section Least

open Der.Strict (encode integerTag bitStringTag sequenceTag)

/-- The octets of a certificate with empty names and no field that may be left out. -/
def leastDer (serial : UInt8) : Octets :=
  let algorithm := encode sequenceTag (encode 6 [42, 3])
  let moment := encode 23 (Octets.ascii "200101000000Z")
  encode sequenceTag <|
    encode sequenceTag
      (encode integerTag [serial] ++ algorithm ++ encode sequenceTag [] ++
        encode sequenceTag (moment ++ moment) ++ encode sequenceTag [] ++
        encode sequenceTag (algorithm ++ encode bitStringTag [0])) ++
    algorithm ++ encode bitStringTag [0]

/-- What stands in these octets. -/
def least (serial : UInt8) : Certificate where
  der := leastDer serial
  serial := [serial]
  issuer := ⟨[]⟩
  subject := ⟨[]⟩
  keyAlgorithm := .unknown

theorem ofDer?_leastDer :
    ∀ serial ∈ [(1 : UInt8), 2], ofDer? (leastDer serial) = some (least serial) := by
  decide +kernel

end Least

end CredentialRotation.Certificate
