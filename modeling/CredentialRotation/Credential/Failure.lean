import CredentialRotation.Files.Failure
import CredentialRotation.Policy.Mode
import CredentialRotation.Text.Base64
import CredentialRotation.Tls.Failure

/-!
Why credentials could not be loaded, published or used, with one wording for each cause.
-/
namespace CredentialRotation

/-- Why a text holds no certificates or no key. Blocks are counted from zero. -/
inductive DecodeFailure
  | certificateBase64 (block : Nat) (fault : Base64.Fault)
  | certificateBlock (block : Nat)
  | certificate
  | keyBase64 (fault : Base64.Fault)
  | key
  | other (text : String)
  deriving DecidableEq, Repr

/-- Why a key cannot sign. -/
inductive KeyFailure
  | refused (bits : Nat)
  | other (text : String)
  deriving DecidableEq, Repr

/-- Why there are no trusted roots. -/
inductive BundleFailure
  | undecodable (path : String) (cause : DecodeFailure)
  | unusable (path : String) (serial : String)
  | empty (path : String)
  | missing (mode : VerificationMode)
  | noRoots
  | other (text : String)
  deriving DecidableEq, Repr

inductive CredentialFailure
  | decode (cause : DecodeFailure)
  | keyNotFound
  | io (path : String) (cause : FileFailure)
  | notConfigured
  | peerRejected (reason : String)
  | unusableKey (cause : KeyFailure)
  | emptyChain
  | trustBundle (cause : BundleFailure)
  | tls (cause : HandshakeFailure)
  deriving DecidableEq, Repr

/-- The wording of a failure. What the reader of certificates or of keys has to say about its input
follows after a colon, and is left to it. -/
def DecodeFailure.message : DecodeFailure → String
  | .certificateBase64 block fault => s!"certificate block {block}: invalid Base64: {fault.message}"
  | .certificateBlock block => s!"certificate block {block}: invalid certificate encoding"
  | .certificate => "invalid certificate encoding"
  | .keyBase64 fault => s!"private key: invalid Base64: {fault.message}"
  | .key => "invalid PKCS #8 RSA private key"
  | .other text => text

/-- The wording ends where the signer's own begins. -/
def KeyFailure.message : KeyFailure → String
  | .refused bits => s!"{bits}-bit RSA key rejected by the TLS provider"
  | .other text => text

def DecodeFailure.inContext (cause : DecodeFailure) : String :=
  s!"Failed to decode PEM content: {cause.message}"

/-- The wording of a certificate that stands for no root ends after its serial, where the words of
the conversion begin. -/
def BundleFailure.message : BundleFailure → String
  | .undecodable path cause => s!"{path}: {cause.inContext}"
  | .unusable path serial => s!"{path}: serial {serial}"
  | .empty path => s!"{path}: no certificates found"
  | .missing mode => s!"verification mode '{mode.word}' needs a trust bundle"
  | .noRoots => "trust bundle contains no usable roots"
  | .other text => text

/-- The wording for a peer that a check refused. -/
def peerRejectedMessage (reason : String) : String :=
  s!"Peer certificate rejected: {reason}"

namespace CredentialFailure

/-- The wording of a failure, as far as it is the program's own: behind a failed decoding, a refused
key, a refused root or a failed handshake come the words of whoever found the fault. -/
def message : CredentialFailure → String
  | .decode cause => cause.inContext
  | .keyNotFound => "Could not find a PKCS #8 private key in input"
  | .io path cause => s!"I/O error on {path}: {cause.message}"
  | .notConfigured => "No identity credentials have been configured"
  | .peerRejected reason => peerRejectedMessage reason
  | .unusableKey cause => s!"Private key cannot be used for TLS signing: {cause.message}"
  | .emptyChain => "Certificate chain is empty"
  | .trustBundle cause => s!"Failed to load trust bundle: {cause.message}"
  | .tls _ => "TLS configuration error"

/-- A failure as the outcome of a handshake: rejections and handshake failures stay what they are,
all others keep only their wording. -/
def toHandshake : CredentialFailure → HandshakeFailure
  | .peerRejected reason => .peerRejected reason
  | .tls cause => cause
  | failure => .general failure.message

/-- The failure wraps another one. -/
def hasCause : CredentialFailure → Bool
  | .io _ _ | .tls _ => true
  | _ => false

def shown : CredentialFailure → String
  | .decode cause => "Decode(" ++ Shown.text cause.message ++ ")"
  | .keyNotFound => "KeyNotFound"
  | .io path cause => Shown.record "Io" [("path", Shown.text path), ("source", cause.shown)]
  | .notConfigured => "NotConfigured"
  | .peerRejected reason =>
    "PeerRejected(" ++ Shown.record "PeerRejectedError" [("reason", Shown.text reason)] ++ ")"
  | .unusableKey cause => "UnusableKey(" ++ Shown.text cause.message ++ ")"
  | .emptyChain => "EmptyChain"
  | .trustBundle cause => "TrustBundle(" ++ Shown.text cause.message ++ ")"
  | .tls cause => "Tls(" ++ reprStr cause ++ ")"

end CredentialFailure
end CredentialRotation
