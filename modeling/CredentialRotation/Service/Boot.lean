import CredentialRotation.Configuration.Basic
import CredentialRotation.Policy.PeerPolicy

/-!
What the service does before it starts to refresh: it decides how clients are verified and tries
whether a server can be set up that way.
-/
namespace CredentialRotation.Service

/-- Clients are asked for certificates only if there is a trust bundle to verify them by. -/
def policy? (c : Configuration) : Option PeerPolicy :=
  c.verification.trustBundlePath.map fun path => .ofSettings c.verification.mode (some path)

/-- Without a policy a server can always be set up. -/
def validateTls (policy : Option PeerPolicy) (fs : FileSystem) : Attempt Unit :=
  let tried : Attempt Unit := match policy with
    | none => return
    | some policy => policy.validateServer fs
  ExceptT.mk ⟨tried.outcome, tried.events ++
    match tried.outcome with
    | .ok () => [.serverValidated (policy.map (·.mode))]
    | .error failure => [.serverInvalid failure]⟩

/-- Boots, or fails for the reason for which no server can be set up. -/
def boot (c : Configuration) (fs : FileSystem) : Attempt Unit := do
  let policy := policy? c
  if policy.isNone then Attempt.report .noBundleConfigured
  validateTls policy fs

/-- What is said about a failed boot, on the way out. -/
def bootFailureText (failure : CredentialFailure) : String :=
  "Error: " ++ Shown.record "Custom" [("kind", "Other"), ("error", failure.shown)]

end CredentialRotation.Service
