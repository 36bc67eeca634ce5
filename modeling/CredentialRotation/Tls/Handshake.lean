import CredentialRotation.Credential.Store
import CredentialRotation.Policy.PeerPolicy

/-!
Handshakes between a client and a server, each with an identity of its own and a policy on the
other. The client verifies the server first; a server with a policy asks for a certificate in return, also
if its policy leaves chains alone. Either side has to prove that it holds the private key of its
leaf.
-/
namespace CredentialRotation

/-- What an identity presents. -/
def CertifiedKey.presented (identity : CertifiedKey) : Presented :=
  ⟨identity.chain.headD [], identity.chain.tail⟩

/-- The certificates each side saw of the other. -/
structure Connection where
  serverChain : List Octets
  clientChain : Option (List Octets)
  deriving DecidableEq, Repr

/-- How a handshake went, and what the checks of both sides were shown. -/
structure Handshake where
  outcome : Except HandshakeFailure Connection
  clientAsked : Option PeerRequest
  serverAsked : Option PeerRequest
  events : List Event

namespace Handshake

/-- What a signature by one key comes to under the public key of a leaf: it is good only if that is
the public half of the same key, and of a size that signatures are verified for. -/
def checkPossession (signer : Rsa.Components) (leaf : Octets) : Except HandshakeFailure Unit :=
  let check : Except Trust.Failure Unit := do
    let c ← Trust.Candidate.ofDer leaf
    let key ← Trust.keyOctets (SignatureScheme.rsaSalted .sha512).keyIdentifier c.keyInfo
    match Rsa.PublicKey.read? key with
    | some key =>
      if key = ⟨signer.modulus, signer.publicExponent⟩ ∧ key.isSupported then return
      else throw .badSignature
    | none => throw .badSignature
  check.mapError .certificate

/-- A verdict on a peer that also has to sign with the key of its leaf. -/
def provenBy (verdict : Verdict) (identity : CertifiedKey) : Verdict :=
  { verdict with
    outcome := do
      verdict.outcome
      checkPossession identity.signer identity.presented.endEntity }

def signingFailed : HandshakeFailure := .general "signing failed"

/-- The rest of a handshake after the client accepted the server. -/
def admitClient (fs : FileSystem) (policy : PeerPolicy) (identity : Option CertifiedKey)
    (now : Int) : Verdict :=
  match identity with
  | none => ⟨.error .noCertificatesPresented, none, []⟩
  | some identity =>
    if identity.signer.signs then
      provenBy (policy.verifyClient fs identity.presented now) identity
    else ⟨.error signingFailed, none, []⟩

/-- Runs a handshake. The client looks for its identity as soon as it is asked for one, before it
verifies the server. -/
def run (fs : FileSystem) (server : IdentityManager) (serverPolicy : Option PeerPolicy)
    (client : IdentityManager) (clientPolicy : PeerPolicy) (name : ServerName) (now : Int) :
    Handshake :=
  let resolved := server.resolve .server
  match resolved.value with
  | none =>
    ⟨.error (.general "no server certificate chain resolved"), none, none, resolved.events⟩
  | some identity =>
    if !identity.signer.signs then ⟨.error signingFailed, none, none, resolved.events⟩
    else
      let answered := if serverPolicy.isSome then client.resolve .client else pure none
      let byClient := provenBy (clientPolicy.verifyServer fs identity.presented name now) identity
      let events := resolved.events ++ answered.events ++ byClient.events
      match byClient.outcome, serverPolicy with
      | .error failure, _ => ⟨.error failure, byClient.asked, none, events⟩
      | .ok (), none => ⟨.ok ⟨identity.chain, none⟩, byClient.asked, none, events⟩
      | .ok (), some policy =>
        let byServer := admitClient fs policy answered.value now
        ⟨byServer.outcome.map fun _ => ⟨identity.chain, answered.value.map (·.chain)⟩,
          byClient.asked, byServer.asked, events ++ byServer.events⟩

end Handshake
end CredentialRotation
