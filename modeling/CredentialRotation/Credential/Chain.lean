import CredentialRotation.Log
import CredentialRotation.Pem.CertificateBlocks
import CredentialRotation.Text.Utf8
import CredentialRotation.X509.Certificate

/-!
Chains of certificates, and the reading of a chain from text with certificate blocks.
-/
namespace CredentialRotation

/-- Certificates in the order in which they are presented, the leaf first. -/
structure Chain where
  certificates : List Certificate
  deriving DecidableEq, Repr

namespace Certificate

/-- Reads a single certificate. -/
def ofDer (der : Octets) : Except CredentialFailure Certificate :=
  match ofDer? der with
  | some c => .ok c
  | none => .error (.decode .certificate)

def shown (c : Certificate) : String :=
  Shown.record "Certificate" [("serial", Shown.text c.serialText),
    ("subject", Shown.text c.subject.text), ("issuer", Shown.text c.issuer.text),
    ("public_key_algorithm", Shown.text c.keyAlgorithm.label)]

end Certificate

namespace Chain

/-- The octets of each certificate, in order. -/
def ders (chain : Chain) : List Octets :=
  chain.certificates.map (·.der)

/-- The chain of certificates that were encoded one by one. -/
def ofDers? (ders : List Octets) : Option Chain :=
  (ders.mapM Certificate.ofDer?).map Chain.mk

def serials (chain : Chain) : List String :=
  chain.certificates.map (·.serialText)

def size (chain : Chain) : Nat :=
  chain.certificates.length

def shown (chain : Chain) : String :=
  Shown.record "CertificateChain" [("length", toString chain.size),
    ("serials", Shown.list Shown.text chain.serials)]

/-- The body of a certificate block without ASCII white space. -/
def squeeze (body : List Char) : List Char :=
  body.filter fun c => !isAsciiBlank c

/-- Reads the certificate in block number `block`. -/
def decodeBlock (block : Nat) (body : List Char) : Except DecodeFailure Certificate :=
  match Base64.decode (Utf8.encode (squeeze body)) with
  | .error fault => .error (.certificateBase64 block fault)
  | .ok der =>
    match Certificate.ofDer? der with
    | some c => .ok c
    | none => .error (.certificateBlock block)

/-- Reads the certificates of the blocks from number `block` on, up to the first that fails. -/
def decodeBlocks (block : Nat) : List (List Char) → Except DecodeFailure (List Certificate)
  | [] => .ok []
  | body :: bodies => do
    let c ← decodeBlock block body
    let more ← decodeBlocks (block + 1) bodies
    return c :: more

/-- Reads all certificate blocks of a text; one block that fails fails the whole. -/
def decode (text : Octets) : Attempt Chain := do
  match decodeBlocks 0 (Pem.certificateBodies (Utf8.decodeLossy text)) with
  | .error cause => throw (.decode cause)
  | .ok certificates =>
    Attempt.report (.certificatesDecoded certificates.length)
    return ⟨certificates⟩

end Chain
end CredentialRotation
