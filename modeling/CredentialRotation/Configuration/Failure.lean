import CredentialRotation.Configuration.Mismatch
import CredentialRotation.Files.Failure

/-!
What can go wrong before there is a configuration to run with.
-/
namespace CredentialRotation

/-- Why a text is no configuration: it is no document at all, or one that does not fit. -/
inductive LoadFailure
  | malformed
  | mismatch (cause : Mismatch)
  deriving DecidableEq, Repr

/-- Why a file gave or took no configuration. -/
inductive ConfigurationFailure
  | io (cause : FileFailure)
  | load (cause : LoadFailure)
  deriving DecidableEq, Repr

def ConfigurationFailure.message : ConfigurationFailure → String
  | .io cause => cause.message
  | .load _ => "TOML parse error"

/-- Why the program does not go on to its work. -/
inductive SetupFailure
  | unknownLevel (word : String)
  | invalidPattern (name : String)
  | patternMismatch (name value pattern : String)
  | zeroRefreshInterval
  | zeroConsoleInterval
  | fileNotWanted (path : String)
  | fileCreated (path : String)
  | fileNotCreated (path : String)
  | other (message : String)
  deriving DecidableEq, Repr

namespace SetupFailure

private def checking (name : String) : String :=
  s!"[VALIDATE CONFIG] Error checking {name} [:] "

def message : SetupFailure → String
  | .unknownLevel word => "Unknown log level encountered: '" ++ word ++ "'"
  | .invalidPattern name => s!"[VALIDATE CONFIG] Invalid pattern for {name}"
  | .patternMismatch name value pattern =>
    checking name ++ "Name: \"" ++ value ++ "\" [:] Regex: \"" ++ pattern ++ "\""
  | .zeroRefreshInterval => checking "[IDENTITY] Refresh interval" ++ "must be greater than zero"
  | .zeroConsoleInterval => checking "[LOG] Console interval" ++ "must be greater than zero"
  | .fileNotWanted path => s!"will not create automatically {path} file"
  | .fileCreated path => s!"created {path} file"
  | .fileNotCreated path => s!"could not create {path} file"
  | .other message => message

def shown (f : SetupFailure) : String :=
  Shown.record "CustomError" [("message", Shown.text f.message)]

end SetupFailure
end CredentialRotation
