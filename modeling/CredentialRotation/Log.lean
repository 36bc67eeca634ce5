import CredentialRotation.Credential.Failure
import CredentialRotation.Duration

/-!
What is worth a line in the log, and values that come with the events on the way to them.
-/
namespace CredentialRotation

/-- How urgent an event is. -/
inductive Level
  | error
  | warn
  | info
  | debug
  | trace
  deriving DecidableEq, Repr

/-- The word for a level, in capitals. -/
def Level.word : Level → String
  | .error => "ERROR"
  | .warn => "WARN"
  | .info => "INFO"
  | .debug => "DEBUG"
  | .trace => "TRACE"

/-- The larger, the less urgent. -/
def Level.verbosity : Level → Nat
  | .error => 1
  | .warn => 2
  | .info => 3
  | .debug => 4
  | .trace => 5

/-- The two files an identity is loaded from. -/
structure IdentityFiles where
  key : String
  certificates : String
  deriving DecidableEq, Repr

def IdentityFiles.text (files : IdentityFiles) : String :=
  s!"{files.key} / {files.certificates}"

inductive Event
  | certificatesDecoded (count : Nat)
  | severalKeys
  | gateClosed (files : IdentityFiles)
  | identityLoaded (files : IdentityFiles) (serial : String) (count : Nat)
  | refreshFailed (files : IdentityFiles) (failure : CredentialFailure)
  | zeroPeriod
  | tickAborted
  | refreshCancelled
  | identityUpdated (serial : String) (count : Nat)
  | watching (files : IdentityFiles) (period : Duration)
  | identityMissing
  | rootsLoaded (count : Nat) (path : String)
  | bundleHolds (count : Nat)
  | peerRefused (role : Role) (reason : String)
  | hostnameIgnored (shownName : String)
  | loggingInitialized
  | version
  | identityChecked (files : IdentityFiles) (bits : Nat) (serial subject : String) (count : Nat)
  | identityCheckFailed (files : IdentityFiles) (failure : CredentialFailure)
  | rootsChecked (path : String) (count : Nat)
  | rootsCheckFailed (failure : CredentialFailure)
  | noBundleConfigured
  | serverValidated (mode : Option VerificationMode)
  | serverInvalid (failure : CredentialFailure)
  | refreshStarting
  | consoleStarting (interval : Duration)
  | statistics (serial subject : String) (count : Nat) (loadedAt : String)
  | noStatistics (failure : CredentialFailure)
  | consoleStopping
  | shutdownRequested
  | shutdownCompleted
  deriving DecidableEq, Repr

namespace Event

def level : Event → Level
  | .refreshFailed .. | .tickAborted | .identityCheckFailed .. | .rootsCheckFailed _
  | .serverInvalid _ => .error
  | .severalKeys | .zeroPeriod | .peerRefused .. | .noBundleConfigured | .noStatistics _ => .warn
  | .certificatesDecoded _ | .identityMissing | .rootsLoaded .. | .bundleHolds _
  | .hostnameIgnored _ => .debug
  | .gateClosed _ => .trace
  | _ => .info

def message : Event → String
  | .certificatesDecoded count => s!"[PEM] Decoded {count} certificate(s)"
  | .severalKeys => "[PEM] More than one private key block found, refusing to guess"
  | .gateClosed files => s!"[REFRESH] Gate closed for {files.text}"
  | .identityLoaded files serial count =>
    s!"[REFRESH] Loaded identity from {files.text} (leaf serial {serial}, {count} certificate(s))"
  | .refreshFailed files failure =>
    s!"[REFRESH] Refresh of {files.text} failed, keeping current identity: {failure.message}"
  | .zeroPeriod => "[REFRESH] Refresh period of zero requested, using 1ms"
  | .tickAborted => "[REFRESH] Tick aborted, stopping periodic refresh"
  | .refreshCancelled => "[REFRESH] Periodic refresh cancelled"
  | .identityUpdated serial count =>
    s!"[IDENTITY] Identity updated (leaf serial {serial}, {count} certificate(s))"
  | .watching files period => s!"[IDENTITY] Watching {files.text} every {period.shown}"
  | .identityMissing => "[IDENTITY] Handshake requested an identity before one was configured"
  | .rootsLoaded count path => s!"[VERIFY] Loaded {count} trusted root(s) from {path}"
  | .bundleHolds count => s!"[TLS] Trust bundle holds {count} root(s)"
  | .peerRefused role reason =>
    s!"[VERIFY] Custom check rejected {role.word} peer: {peerRejectedMessage reason}"
  | .hostnameIgnored shownName => s!"[VERIFY] Ignoring hostname mismatch for {shownName}"
  | .loggingInitialized => "logging initialized."
  | .version => "identity-reloader - Version: 0.1.0"
  | .identityChecked files bits serial subject count =>
    s!"[CHECK] {files.text}: RSA key ({bits} bits), leaf serial {serial} ({subject}), " ++
      s!"{count} certificate(s)"
  | .identityCheckFailed files failure => s!"[CHECK] {files.text}: {failure.message}"
  | .rootsChecked path count => s!"[CHECK] {path}: {count} trusted root(s)"
  | .rootsCheckFailed failure => s!"[CHECK] {failure.message}"
  | .noBundleConfigured =>
    "[BOOT] No trust bundle configured, peers will not be asked for certificates"
  | .serverValidated mode =>
    "[BOOT] TLS server configuration validated (client auth: " ++
      Shown.option VerificationMode.shown mode ++ ")"
  | .serverInvalid failure =>
    s!"[BOOT] Unable to build TLS server configuration: {failure.message}"
  | .refreshStarting => "[BOOT] Starting identity refresh..."
  | .consoleStarting interval =>
    s!"[BOOT] Starting thread for console updates with {interval.shown} delay..."
  | .statistics serial subject count loadedAt =>
    s!"[STATS] Serial: {serial} - Subject: {subject} - Chain: {count} - Loaded: {loadedAt}"
  | .noStatistics failure => s!"[STATS] {failure.message}"
  | .consoleStopping => "[BOOT] Shutting down thread for console updates..."
  | .shutdownRequested => "Shutdown request received, shutting down..."
  | .shutdownCompleted => "Server shutting down completed"

/-- The part of the program that an event is reported under. -/
def target : Event → String
  | .certificatesDecoded _ | .severalKeys => "identity_reloader::ssl::pem"
  | .gateClosed _ | .identityLoaded .. | .refreshFailed .. | .zeroPeriod | .tickAborted
  | .refreshCancelled => "identity_reloader::ssl::impls::file_refresher"
  | .identityUpdated .. | .watching .. | .identityMissing =>
    "identity_reloader::ssl::impls::identity_key_manager"
  | .rootsLoaded .. | .bundleHolds _ => "identity_reloader::ssl::ssl"
  | .peerRefused .. => "identity_reloader::ssl::impls::peer_verification_policy"
  | .hostnameIgnored _ => "identity_reloader::ssl::impls::policy_server_verifier"
  | .loggingInitialized => "identity_reloader::common::common"
  | _ => "identity_reloader"

/-- Level and message. -/
def line (e : Event) : String :=
  s!"{e.level.word} {e.message}"

end Event

/-- A value and the events on the way to it, in order. -/
structure Logged (α : Type) where
  value : α
  events : List Event
  deriving DecidableEq, Repr

namespace Logged

instance : Monad Logged where
  pure a := ⟨a, []⟩
  bind x f :=
    let y := f x.value
    ⟨y.value, x.events ++ y.events⟩

@[simp] theorem pure_value {α : Type} (a : α) : (pure a : Logged α).value = a := rfl

@[simp] theorem pure_events {α : Type} (a : α) : (pure a : Logged α).events = [] := rfl

@[simp] theorem bind_value {α β : Type} (x : Logged α) (f : α → Logged β) :
    (x >>= f).value = (f x.value).value := rfl

@[simp] theorem bind_events {α β : Type} (x : Logged α) (f : α → Logged β) :
    (x >>= f).events = x.events ++ (f x.value).events := rfl

/-- Reports an event. -/
def report (e : Event) : Logged Unit := ⟨(), [e]⟩

end Logged

/-- Steps that may fail and report events either way. -/
abbrev Attempt := ExceptT CredentialFailure Logged

/-- Reports an event within an attempt. -/
def Attempt.report (e : Event) : Attempt Unit :=
  ExceptT.lift (Logged.report e)

/-- The outcome of an attempt. -/
def Attempt.outcome {α : Type} (x : Attempt α) : Except CredentialFailure α :=
  (ExceptT.run x).value

/-- The events of an attempt. -/
def Attempt.events {α : Type} (x : Attempt α) : List Event :=
  (ExceptT.run x).events

end CredentialRotation
