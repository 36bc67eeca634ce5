import CredentialRotation.Policy.Bundle
import CredentialRotation.Trust.Path

/-!
Policies on peers: how much of a peer's chain is verified and against which roots, and a check of
one's own that may refuse a peer. A peer is accepted when both stages pass.
-/
namespace CredentialRotation

/-- What a check is shown of a peer. -/
structure PeerRequest where
  chain : Chain
  authType : KeyAlgorithm
  peerRole : Role
  serverName : Option String
  deriving DecidableEq, Repr

/-- A check accepts a peer or says why not. -/
abbrev PeerCheck := PeerRequest → Except String Unit

structure PeerPolicy where
  mode : VerificationMode
  check : Option PeerCheck
  bundle : Option BundleSupplier

/-- The certificates a peer presents: its own and those that may stand between it and a root. -/
structure Presented where
  endEntity : Octets
  intermediates : List Octets
  deriving DecidableEq, Repr

/-- What verifying a peer came to, and the request that the check was shown, if it was asked. -/
structure Verdict where
  outcome : Except HandshakeFailure Unit
  asked : Option PeerRequest
  events : List Event

namespace Verdict

def accepted (v : Verdict) : Bool :=
  match v.outcome with
  | .ok () => true
  | .error _ => false

end Verdict

namespace PeerPolicy

/-- A policy without a check. An empty path names no bundle. -/
def ofSettings (mode : VerificationMode) (path : Option String) : PeerPolicy :=
  { mode, check := none,
    bundle := (path.filter fun p => !p.isEmpty).map BundleSupplier.ofFile }

def shown (policy : PeerPolicy) : String :=
  Shown.record "PeerVerificationPolicy" [("mode", policy.mode.shown),
    ("has_peer_check", Shown.bool policy.check.isSome),
    ("has_trust_bundle", Shown.bool policy.bundle.isSome)]

/-- The text of the verifier of one kind of peer. -/
def shownVerifier (policy : PeerPolicy) : Role → String
  | .server => Shown.record "PolicyServerVerifier" [("policy", policy.shown)]
  | .client => Shown.record "PolicyClientVerifier" [("policy", policy.shown)]

/-- Asks for the trusted roots, of which there has to be one. -/
def roots (policy : PeerPolicy) (fs : FileSystem) : Attempt (List Trust.Anchor) :=
  match policy.bundle with
  | none => throw (.trustBundle (.missing policy.mode))
  | some supplier => do
    match ← supplier fs with
    | [] => throw (.trustBundle .noRoots)
    | anchors => return anchors

/-- Loads the roots if the mode needs them, so that a broken bundle shows before any handshake. -/
def validateServer (policy : PeerPolicy) (fs : FileSystem) : Attempt Unit := do
  if policy.mode.checksChain then
    let anchors ← policy.roots fs
    Attempt.report (.bundleHolds anchors.length)

/-- Verifies the path to a root, for a client's or a server's certificate. -/
def verifyPath (anchors : List Trust.Anchor) (presented : Presented) (purpose : Trust.Purpose)
    (now : Int) : Except Trust.Failure Trust.Candidate := do
  let c ← Trust.Candidate.ofDer presented.endEntity
  Trust.verifyPath anchors c presented.intermediates purpose now
  return c

/-- Verifies a server's certificate: its path, then its name. -/
def verifyServerChain (anchors : List Trust.Anchor) (presented : Presented) (server : ServerName)
    (now : Int) : Except Trust.Failure Unit := do
  let c ← verifyPath anchors presented .serverAuthentication now
  c.verifyName server

/-- The steps of a verification. -/
abbrev Verification := ExceptT HandshakeFailure Logged

/-- The roots as a step of a verification. -/
def rootsStep (policy : PeerPolicy) (fs : FileSystem) : Verification (List Trust.Anchor) :=
  let x := policy.roots fs
  ExceptT.mk ⟨x.outcome.mapError CredentialFailure.toHandshake, x.events⟩

/-- The stage that the mode decides, for a server. Without regard to the host name a mismatch of the
name is no failure. -/
def serverStage (policy : PeerPolicy) (fs : FileSystem) (presented : Presented)
    (server : ServerName) (now : Int) : Verification Unit := do
  if policy.mode.checksChain then
    let anchors ← policy.rootsStep fs
    match verifyServerChain anchors presented server now with
    | .ok () => return
    | .error .nameMismatch =>
      if policy.mode.checksHostname then throw (.certificate .nameMismatch)
      else ExceptT.lift (Logged.report (.hostnameIgnored server.shown))
    | .error failure => throw (.certificate failure)

/-- The stage that the mode decides, for a client. -/
def clientStage (policy : PeerPolicy) (fs : FileSystem) (presented : Presented) (now : Int) :
    Verification Unit := do
  if policy.mode.checksChain then
    let anchors ← policy.rootsStep fs
    match verifyPath anchors presented .clientAuthentication now with
    | .ok _ => return
    | .error failure => throw (.certificate failure)

/-- What the check is shown of presented certificates, which all have to be readable for that. -/
def request? (presented : Presented) (role : Role) (serverName : Option String) :
    Option PeerRequest := do
  let chain ← Chain.ofDers? (presented.endEntity :: presented.intermediates)
  let leaf ← chain.certificates.head?
  return ⟨chain, leaf.keyAlgorithm, role, serverName⟩

/-- Runs the check, if there is one. -/
def checkPeer (policy : PeerPolicy) (presented : Presented) (role : Role)
    (serverName : Option String) : Verdict :=
  match policy.check with
  | none => ⟨.ok (), none, []⟩
  | some check =>
    match request? presented role serverName with
    | none => ⟨.error (.certificate .malformed), none, []⟩
    | some request =>
      match check request with
      | .ok () => ⟨.ok (), some request, []⟩
      | .error reason =>
        ⟨.error (CredentialFailure.peerRejected reason).toHandshake, some request,
          [.peerRefused role reason]⟩

/-- The second stage after the first. -/
def andThen (first : Verification Unit) (second : Verdict) : Verdict :=
  let ⟨result, events⟩ := ExceptT.run first
  match result with
  | .error failure => ⟨.error failure, none, events⟩
  | .ok () => { second with events := events ++ second.events }

/-- Verifies a server by name. -/
def verifyServer (policy : PeerPolicy) (fs : FileSystem) (presented : Presented)
    (server : ServerName) (now : Int) : Verdict :=
  andThen (policy.serverStage fs presented server now)
    (policy.checkPeer presented .server (some server.text))

/-- Verifies a client. -/
def verifyClient (policy : PeerPolicy) (fs : FileSystem) (presented : Presented) (now : Int) :
    Verdict :=
  andThen (policy.clientStage fs presented now) (policy.checkPeer presented .client none)

end PeerPolicy
end CredentialRotation
