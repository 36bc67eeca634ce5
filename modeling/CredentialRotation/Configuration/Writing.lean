import CredentialRotation.Configuration.Basic
import CredentialRotation.Toml.Printer

/-!
The text of a configuration: a TOML document with a table for each group of settings.
-/
namespace CredentialRotation

open Toml (Written)

def whole (n : UInt64) : Written := .natural n.toNat
def rate (x : Binary) : Written := .float .single x

namespace IdentitySettings

def entries (s : IdentitySettings) : List (String × Written) :=
  [("key_path", .text s.keyPath), ("cert_path", .text s.certificatesPath),
   ("refresh_interval_ms", whole s.refreshMillis)]

end IdentitySettings

namespace VerificationSettings

/-- A missing trust bundle is left out. -/
def entries (s : VerificationSettings) : List (String × Written) :=
  ("mode", .text s.mode.word) ::
    (s.trustBundlePath.toList.map fun path => ("trust_bundle_path", .text path))

end VerificationSettings

namespace ReportingSettings

def entries (s : ReportingSettings) : List (String × Written) :=
  [("enabled", .boolean s.isEnabled), ("dsn", .text s.address), ("debug", .boolean s.isVerbose),
   ("sample_rate", rate s.sampleRate), ("max_breadcrumbs", whole s.mostBreadcrumbs),
   ("attach_stacktrace", .boolean s.withStackTrace),
   ("send_default_pii", .boolean s.withPersonalData),
   ("traces_sample_rate", rate s.tracesSampleRate)]

end ReportingSettings

namespace Configuration

def ownEntries (c : Configuration) : List (String × Written) :=
  [("log_level", .text c.logLevel), ("log_console_interval", whole c.consoleSeconds)]

/-- The document that says all of a configuration. -/
def document (c : Configuration) : List Char :=
  Written.lines c.ownEntries ++
    Written.table "identity" c.identity.entries ++
    Written.table "verification" c.verification.entries ++
    Written.table "sentry_config" c.reporting.entries

end Configuration
end CredentialRotation
