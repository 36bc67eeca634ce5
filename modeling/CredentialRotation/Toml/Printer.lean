import CredentialRotation.Toml.Quoted
import CredentialRotation.Number.Binary

/-!
Documents as they are written: entries on lines of their own, and each table behind its header.
-/
namespace CredentialRotation.Toml

/-- A value to write. -/
inductive Written
  | text (content : String)
  | natural (n : Nat)
  | boolean (b : Bool)
  | float (precision : Precision) (x : Binary)
  deriving DecidableEq, Repr

namespace Written

def chars : Written → List Char
  | .text content => Quoted.write content.toList
  | .natural n => Nat.toDigits 10 n
  | .boolean b => (if b then "true" else "false").toList
  | .float _ .notANumber => "nan".toList
  | .float p x => (x.shownWithPoint p).toList

/-- The line that gives a key its value. -/
def line (key : String) (value : Written) : List Char :=
  key.toList ++ [' ', '=', ' '] ++ value.chars ++ ['\n']

def lines (entries : List (String × Written)) : List Char :=
  entries.flatMap fun (key, value) => line key value

/-- A table behind an empty line and its header. -/
def table (header : String) (entries : List (String × Written)) : List Char :=
  ['\n', '['] ++ header.toList ++ [']', '\n'] ++ lines entries

end Written
end CredentialRotation.Toml
