import CredentialRotation.Configuration.Basic
import CredentialRotation.Credential.Refresh
import CredentialRotation.Policy.Bundle

/-!
Looking once whether the configured identity, and the trust bundle if there is one, can be used.
-/
namespace CredentialRotation.Service

/-- The two files of the configured identity. -/
def identityFiles (c : Configuration) : IdentityFiles :=
  ⟨c.identity.keyPath, c.identity.certificatesPath⟩

/-- The configured identity, with a line on it or on what is wrong with it. -/
def checkPair (c : Configuration) (fs : FileSystem) : Logged (Option Snapshot) :=
  let files := identityFiles c
  let loaded := Snapshot.load fs files
  ⟨loaded.outcome.toOption, loaded.events ++
    match loaded.outcome with
    | .ok s => [.identityChecked files s.key.modulusBits s.leaf.serialText s.leaf.subject.text
        s.chain.size]
    | .error failure => [.identityCheckFailed files failure]⟩

/-- Whether a trust bundle can be used, with a line on it or on what is wrong with it. -/
def checkBundle (path : String) (fs : FileSystem) : Logged Bool :=
  let loaded := BundleSupplier.ofFile path fs
  ⟨loaded.outcome.isOk, loaded.events ++
    match loaded.outcome with
    | .ok anchors => [.rootsChecked path anchors.length]
    | .error failure => [.rootsCheckFailed failure]⟩

/-- Checks the identity first, and the trust bundle only if the identity can be used. -/
def check (c : Configuration) (fs : FileSystem) : Logged Bool := do
  match ← checkPair c fs with
  | none => return false
  | some _ =>
    match c.verification.trustBundlePath with
    | none => return true
    | some path => checkBundle path fs

end CredentialRotation.Service
