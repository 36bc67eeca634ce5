import CredentialRotation.Duration
import CredentialRotation.Number.Binary
import CredentialRotation.Policy.Mode

/-!
What an operator configures: logging, where the identity lies and how often it is looked at, how
peers are verified, and where errors are reported to.
-/
namespace CredentialRotation

/-- Where the identity lies, and the milliseconds between two looks at it. -/
structure IdentitySettings where
  keyPath : String
  certificatesPath : String
  refreshMillis : UInt64
  deriving DecidableEq, Repr

/-- How peers are verified. -/
structure VerificationSettings where
  mode : VerificationMode
  trustBundlePath : Option String
  deriving DecidableEq, Repr

/-- How errors are reported to a service. -/
structure ReportingSettings where
  isEnabled : Bool
  address : String
  isVerbose : Bool
  sampleRate : Binary
  mostBreadcrumbs : UInt64
  withStackTrace : Bool
  withPersonalData : Bool
  tracesSampleRate : Binary
  deriving DecidableEq, Repr

structure Configuration where
  logLevel : String
  consoleSeconds : UInt64
  identity : IdentitySettings
  verification : VerificationSettings
  reporting : ReportingSettings
  deriving DecidableEq, Repr

/-- A minute. -/
def IdentitySettings.usualRefreshMillis : UInt64 := 60000

/-- What holds where a configuration says nothing about peers. -/
def VerificationSettings.unspecified : VerificationSettings := ⟨.default, none⟩

namespace Configuration

private def everything : Binary := .ofInt .single 1

/-- The configuration to start from. -/
def initial : Configuration where
  logLevel := "info"
  consoleSeconds := 60
  identity := ⟨"key.pem", "cert.pem", IdentitySettings.usualRefreshMillis⟩
  verification := ⟨.full, some "ca.pem"⟩
  reporting := {
    isEnabled := false
    address := ""
    isVerbose := false
    sampleRate := everything
    mostBreadcrumbs := 100
    withStackTrace := true
    withPersonalData := false
    tracesSampleRate := everything }

/-- The time between two looks at the identity. -/
def refreshInterval (c : Configuration) : Duration :=
  .ofMillis c.identity.refreshMillis.toNat

/-- The time between two reports on the console. -/
def consoleInterval (c : Configuration) : Duration :=
  .ofSeconds c.consoleSeconds.toNat

end Configuration
end CredentialRotation
