import CredentialRotation.Credential.Chain
import CredentialRotation.Proofs.Pem.CertificateBlocks
import CredentialRotation.Proofs.Text.Base64
import CredentialRotation.Proofs.Text.Spacing
import CredentialRotation.Proofs.Text.Utf8
import CredentialRotation.Proofs.X509.Certificate

/-!
Bundles as they are written: certificates in Base64 between markers, with foreign octets before,
between and behind them. Reading a bundle gives back its certificates.
-/
namespace CredentialRotation

theorem Spaced.squeeze_eq {cs ds : List Char} (h : Spaced cs ds)
    (solid : ∀ c ∈ cs, isAsciiBlank c = false) : Chain.squeeze ds = cs :=
  h.filter_eq (fun c mem => by rw [solid c mem]; rfl) fun c _ blank => by rw [blank]; rfl

/-- A certificate as it is written in a bundle. -/
structure CertificateBlock where
  der : Octets
  certificate : Certificate
  accepted : Certificate.ofDer? der = some certificate
  begins : Pem.BeginMarker
  ends : Pem.EndMarker
  body : List Char
  spaced : Spaced (Base64.text der) body

namespace CertificateBlock

def text (b : CertificateBlock) : List Char :=
  b.begins.text ++ (b.body ++ b.ends.text)

/-- Any label and any spacing will do: the body is read as the certificate. -/
theorem decodeBlock_body (b : CertificateBlock) (number : Nat) :
    Chain.decodeBlock number b.body = .ok b.certificate := by
  have squeezed := b.spaced.squeeze_eq fun c mem => (Base64.text_plain mem).2
  simp only [Chain.decodeBlock, squeezed, Base64.encode_text, Base64.decode_encode, b.accepted]

theorem hyphen_not_mem_body (b : CertificateBlock) : '-' ∉ b.body := by
  intro mem
  rcases b.spaced.mem_or_blank mem with written | blank
  · exact (Base64.text_plain written).1 rfl
  · exact absurd blank (by decide)

theorem text_eq_cons (b : CertificateBlock) : ∃ rest, b.text = '-' :: rest := by
  obtain ⟨marker, starts⟩ := b.begins.text_eq_cons rfl
  exact ⟨_, by rw [text, starts, List.cons_append]⟩

/-- Whatever stands before a block, the block is read as it was written, and so is what follows. -/
theorem decodeLossy_append (b : CertificateBlock) (before after : Octets) :
    Utf8.decodeLossy (before ++ (Utf8.encode b.text ++ after)) =
      Utf8.decodeLossy before ++ (b.text ++ Utf8.decodeLossy after) :=
  Utf8.decodeLossy_append_text b.text_eq_cons before after

/-- A block with bare markers and nothing put into its body. -/
def bare (der : Octets) (certificate : Certificate)
    (accepted : Certificate.ofDer? der = some certificate) : CertificateBlock :=
  { der, certificate, accepted, begins := Pem.bareBegin, ends := Pem.bareEnd,
    body := Base64.text der, spaced := Base64.spaced_text der }

end CertificateBlock

/-- What stands in front of a block: any octets up to the end of a line, without a BEGIN marker. -/
structure Separator where
  octets : Octets
  ends : octets = [] ∨ octets.getLast? = some 10
  free : ¬ Pem.ContainsMarker "-----begin ".toList (Utf8.decodeLossy octets)

/-- The text in front of a block ends a line. -/
theorem Separator.decodeLossy_ends (s : Separator) :
    Utf8.decodeLossy s.octets = [] ∨ (Utf8.decodeLossy s.octets).getLast? = some '\n' :=
  Utf8.decodeLossy_ends s.ends

/-- A line of nothing. -/
def Separator.lineFeed : Separator where
  octets := [10]
  ends := .inr rfl
  free := by
    rintro ⟨before, after, m, joined⟩
    obtain ⟨rest, starts⟩ := m.text_eq_cons rfl
    have hyphen : '-' ∈ Utf8.decodeLossy (Utf8.encode ['\n']) := by
      rw [show Utf8.encode ['\n'] = [10] from rfl, joined, starts]
      simp
    rw [Utf8.decodeLossy_encode] at hyphen
    exact absurd hyphen (by decide)

/-- Blocks behind their separators, and any octets without a BEGIN marker behind all of them. -/
structure Bundle where
  sections : List (Separator × CertificateBlock)
  tail : Octets
  tail_free : ¬ Pem.ContainsMarker "-----begin ".toList (Utf8.decodeLossy tail)

namespace Bundle

def octets (bundle : Bundle) : Octets :=
  (bundle.sections.flatMap fun s => s.1.octets ++ Utf8.encode s.2.text) ++ bundle.tail

def ders (bundle : Bundle) : List Octets :=
  bundle.sections.map fun s => s.2.der

def certificates (bundle : Bundle) : List Certificate :=
  bundle.sections.map fun s => s.2.certificate

section Reading
variable {sections : List (Separator × CertificateBlock)} {tail : Octets}

/-- The bodies of all blocks are found, and then what is found behind them. -/
theorem certificateBodies_sections (sections : List (Separator × CertificateBlock))
    (tail : Octets) :
    Pem.certificateBodies (Utf8.decodeLossy
      ((sections.flatMap fun s => s.1.octets ++ Utf8.encode s.2.text) ++ tail)) =
      sections.map (fun s => s.2.body) ++ Pem.certificateBodies (Utf8.decodeLossy tail) := by
  induction sections with
  | nil => rfl
  | cons s sections ih =>
    obtain ⟨separator, block⟩ := s
    simp only [List.flatMap_cons, List.append_assoc, List.map_cons, List.cons_append] at ih ⊢
    rw [block.decodeLossy_append, CertificateBlock.text, List.append_assoc, List.append_assoc,
      Pem.certificateBodies_block block.begins block.ends separator.free separator.decodeLossy_ends
        block.hyphen_not_mem_body, ih]

/-- Of all that a bundle holds, exactly the bodies of its blocks are found. -/
theorem certificateBodies_eq
    (tail_free : ¬ Pem.ContainsMarker "-----begin ".toList (Utf8.decodeLossy tail)) :
    Pem.certificateBodies (Utf8.decodeLossy
      ((sections.flatMap fun s => s.1.octets ++ Utf8.encode s.2.text) ++ tail)) =
      sections.map fun s => s.2.body := by
  rw [certificateBodies_sections, Pem.certificateBodies_of_not_contains tail_free,
    List.append_nil]

theorem decodeBlocks_eq (number : Nat) :
    Chain.decodeBlocks number (sections.map fun s => s.2.body) =
      .ok (sections.map fun s => s.2.certificate) := by
  induction sections generalizing number with
  | nil => rfl
  | cons s sections ih =>
    rw [List.map_cons, Chain.decodeBlocks, s.2.decodeBlock_body, ih]
    rfl

end Reading

theorem decode_outcome (bundle : Bundle) :
    (Chain.decode bundle.octets).outcome = .ok ⟨bundle.certificates⟩ := by
  have read : Chain.decodeBlocks 0 (Pem.certificateBodies (Utf8.decodeLossy bundle.octets)) =
      .ok bundle.certificates := by
    rw [octets, certificateBodies_eq bundle.tail_free]
    exact decodeBlocks_eq 0
  rw [Chain.decode, read]
  rfl

theorem ders_certificates (bundle : Bundle) : Chain.ders ⟨bundle.certificates⟩ = bundle.ders := by
  simp only [Chain.ders, certificates, ders, List.map_map]
  apply List.map_congr_left
  intro s _
  exact Certificate.der_of_ofDer? s.2.accepted

/-- Reading a bundle gives its certificates, each once and in order, whatever labels, white space
and foreign octets it was written with. -/
theorem decode_inverts_writing (bundle : Bundle) :
    ∃ chain, (Chain.decode bundle.octets).outcome = .ok chain ∧
      chain.certificates = bundle.certificates ∧ chain.ders = bundle.ders :=
  ⟨_, bundle.decode_outcome, rfl, bundle.ders_certificates⟩

theorem tail_free_nil : ¬ Pem.ContainsMarker "-----begin ".toList (Utf8.decodeLossy []) := by
  rw [Utf8.decodeLossy_nil]
  exact Pem.not_containsMarker_nil

/-- Blocks on lines of their own. -/
def lines (blocks : List CertificateBlock) : Bundle where
  sections := blocks.map fun b => (.lineFeed, b)
  tail := []
  tail_free := tail_free_nil

/-- Nothing but one bare block. -/
def single (der : Octets) (certificate : Certificate)
    (accepted : Certificate.ofDer? der = some certificate) : Bundle where
  sections := [(⟨[], .inl rfl, tail_free_nil⟩, .bare der certificate accepted)]
  tail := []
  tail_free := tail_free_nil

end Bundle
end CredentialRotation
