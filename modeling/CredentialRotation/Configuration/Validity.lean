import CredentialRotation.Configuration.Basic
import CredentialRotation.Configuration.Failure
import CredentialRotation.Pattern.Reading

/-!
What a configuration has to fulfil before the program works with it: patterns that its texts match,
and intervals that are not zero.
-/
namespace CredentialRotation

/-- A text that has to match a pattern somewhere, under the name that messages have for it. -/
structure Condition where
  name : String
  value : String
  pattern : String
  deriving DecidableEq, Repr

/-- Checks that the pattern is one and that the text matches it. -/
def Condition.check (c : Condition) : Except SetupFailure Unit :=
  match Pattern.ofText? c.pattern with
  | none => .error (.invalidPattern c.name)
  | some pattern =>
    if pattern.occursIn c.value then .ok ()
    else .error (.patternMismatch c.name c.value c.pattern)

namespace Configuration

def levelPattern : String := "^(off|trace|debug|info|warn|error)$"

/-- Paths have at least one character and no NUL. -/
def pathPattern : String := "^[^\\x00]+$"

/-- The conditions on the texts of a configuration, in the order in which they are checked. -/
def conditions (c : Configuration) : List Condition :=
  [⟨"[LOG] Level", c.logLevel, levelPattern⟩,
   ⟨"[IDENTITY] Key path", c.identity.keyPath, pathPattern⟩,
   ⟨"[IDENTITY] Certificate path", c.identity.certificatesPath, pathPattern⟩] ++
    c.verification.trustBundlePath.toList.map fun path =>
      ⟨"[VERIFICATION] Trust bundle path", path, pathPattern⟩

/-- Checks the texts in order and then the two intervals. -/
def validate (c : Configuration) : Except SetupFailure Unit := do
  c.conditions.forM Condition.check
  if c.identity.refreshMillis = 0 then throw .zeroRefreshInterval
  if c.consoleSeconds = 0 then throw .zeroConsoleInterval

end Configuration
end CredentialRotation
