import CredentialRotation.Text.Shown

/-!
Why a file could not be looked at, read or written.
-/
namespace CredentialRotation

inductive FileFailure
  | notFound
  | notDirectory
  | isDirectory
  | nameTooLong
  | nulInName
  | other (message : String)
  deriving DecidableEq, Repr

namespace FileFailure

private def system (text : String) (code : Nat) : String :=
  s!"{text} (os error {code})"

def message : FileFailure → String
  | .notFound => system "No such file or directory" 2
  | .notDirectory => system "Not a directory" 20
  | .isDirectory => system "Is a directory" 21
  | .nameTooLong => system "File name too long" 36
  | .nulInName => "file name contained an unexpected NUL byte"
  | .other text => text

private def shownSystem (code : Nat) (kind text : String) : String :=
  Shown.record "Os" [("code", toString code), ("kind", kind), ("message", Shown.text text)]

def shown : FileFailure → String
  | .notFound => shownSystem 2 "NotFound" "No such file or directory"
  | .notDirectory => shownSystem 20 "NotADirectory" "Not a directory"
  | .isDirectory => shownSystem 21 "IsADirectory" "Is a directory"
  | .nameTooLong => shownSystem 36 "InvalidFilename" "File name too long"
  | .nulInName =>
    Shown.record "Error" [("kind", "InvalidInput"), ("message", Shown.text (message .nulInName))]
  | .other text =>
    Shown.record "Custom" [("kind", "Other"), ("error", Shown.text text)]

end FileFailure
end CredentialRotation
