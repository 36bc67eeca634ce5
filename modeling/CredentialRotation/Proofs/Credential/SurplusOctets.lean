import CredentialRotation.Proofs.Credential.Bundle
import CredentialRotation.Proofs.Credential.WrittenForms

/-!
What the certificates of a chain present. The octets of each open with one whole certificate, and
this certificate alone is read; but whatever stands behind it in the block is presented with it.
-/
namespace CredentialRotation.Chain

open Der.Lenient (IsOneElement)

section Blocks
variable {der : Octets} {c : Certificate}

/-- The text of a block without a label, with the Base64 of these octets. -/
def bareBlock (der : Octets) : Octets :=
  Utf8.encode (Pem.bareBegin.text ++ (Base64.text der ++ Pem.bareEnd.text))

theorem decode_bareBlock (accepted : Certificate.ofDer? der = some c) :
    (decode (bareBlock der)).outcome = .ok ⟨[c]⟩ := by
  have octets : (Bundle.single der c accepted).octets = bareBlock der := by
    simp [Bundle.octets, Bundle.single, CertificateBlock.bare, CertificateBlock.text, bareBlock]
  rw [← octets]
  exact (Bundle.single der c accepted).decode_outcome

end Blocks

/-- The octets that a chain presents for a certificate are one whole certificate and any octets
behind it. They are nothing but a certificate exactly if nothing stands behind it, and this is not
asked for: with any other octets in that place the block is read too, and presents them. -/
theorem presented_octets_open_with_certificate {text : Octets} {chain : Chain}
    (read : (decode text).outcome = .ok chain) {c : Certificate} (mem : c ∈ chain.certificates) :
    ∃ whole surplus, c.der = whole ++ surplus ∧ IsOneElement whole ∧
      Certificate.ofDer? whole = some { c with der := whole } ∧
      (IsOneElement c.der ↔ surplus = []) ∧
      ∀ other, (decode (bareBlock (whole ++ other))).outcome =
        .ok ⟨[{ c with der := whole ++ other }]⟩ := by
  have accepted := (decode_eq_ok_iff.1 read).2 c mem
  obtain ⟨whole, surplus, parts, single, alone, exactly⟩ := Certificate.exists_whole accepted
  refine ⟨whole, surplus, parts, single, alone, exactly, fun other => ?_⟩
  exact decode_bareBlock (Certificate.ofDer?_append alone other)

/-- A certificate with one octet behind it. -/
def surplusDer : Octets := Certificate.leastDer 1 ++ [0]

theorem decode_surplus :
    (decode (bareBlock surplusDer)).outcome =
      .ok ⟨[{ Certificate.least 1 with der := surplusDer }]⟩ :=
  decode_bareBlock (Certificate.ofDer?_append (Certificate.ofDer?_leastDer 1 (by decide)) [0])

theorem presented_octets_open_with_certificate_zero :
    let c : Certificate := { Certificate.least 1 with der := surplusDer }
    (decode (bareBlock surplusDer)).outcome = .ok ⟨[c]⟩ ∧
      ∃ whole surplus, surplusDer = whole ++ surplus ∧ IsOneElement whole ∧
        Certificate.ofDer? whole = some { c with der := whole } ∧
        (IsOneElement surplusDer ↔ surplus = []) ∧
        ∀ other, (decode (bareBlock (whole ++ other))).outcome =
          .ok ⟨[{ c with der := whole ++ other }]⟩ :=
  ⟨decode_surplus, presented_octets_open_with_certificate decode_surplus List.mem_cons_self⟩

/-- So what a chain presents need not be one whole certificate. -/
theorem presented_octets_may_have_surplus :
    ¬ ∀ text chain, (decode text).outcome = .ok chain →
      ∀ der ∈ chain.ders, IsOneElement der := by
  intro whole
  have single := whole _ _ decode_surplus _ (List.mem_singleton_self _)
  obtain ⟨e, read⟩ := Der.Lenient.isOneElement_iff.1 single
  have left : (Der.Lenient.element surplusDer).map Prod.snd = some [0] := by decide +kernel
  rw [show Der.Lenient.element surplusDer = some (e, []) from read] at left
  cases left

end CredentialRotation.Chain
