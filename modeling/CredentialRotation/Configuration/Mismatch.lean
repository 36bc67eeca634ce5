import CredentialRotation.Text.Shown
import CredentialRotation.Toml.Value

/-!
Why a document that is well formed is no configuration.
-/
namespace CredentialRotation

/-- What was found in place of something else. -/
inductive Found
  | text (content : String)
  | integer (n : Int)
  | float (x : Binary)
  | boolean (b : Bool)
  | sequence
  | map
  deriving DecidableEq, Repr

namespace Found

/-- Dates and times count as maps. -/
def ofValue : Toml.Value → Found
  | .scalar (.text content) => .text content
  | .scalar (.integer n) => .integer n
  | .scalar (.float x) => .float x
  | .scalar (.boolean b) => .boolean b
  | .scalar .moment | .scalar .outOfRange | .table .. => .map
  | .array .. => .sequence

private def marked (kind value : String) : String := kind ++ " \x60" ++ value ++ "\x60"

def described : Found → String
  | .text content => "string " ++ Shown.text content
  | .integer n => marked "integer" (toString n)
  | .float x => marked "floating point" (x.shownWithPoint .double)
  | .boolean b => marked "boolean" (Shown.bool b)
  | .sequence => "sequence"
  | .map => "map"

/-- The word for a kind of value. -/
def kind : Toml.Value → String
  | .scalar (.text _) => "string"
  | .scalar (.integer _) => "integer"
  | .scalar (.float _) => "float"
  | .scalar (.boolean _) => "boolean"
  | .scalar .moment | .scalar .outOfRange => "datetime"
  | .array .. => "array"
  | .table .. => "table"

end Found

/-- A place where values and settings do not agree. -/
inductive Mismatch
  | missing (field : String)
  | wrongType (found : Found) (expected : String)
  | wrongNumber (n : Int) (expected : String)
  | tooShort (length : Nat) (record : String) (fields : Nat)
  | unknownMode (word : String)
  | noMode
  | severalModes
  | modeWithContent (kind : String)
  | modeInside (kind : String)
  | notAMode
  | outOfRange
  deriving DecidableEq, Repr

namespace Mismatch

private def quoted (name : String) : String := "\x60" ++ name ++ "\x60"

def message : Mismatch → String
  | .missing field => "missing field " ++ quoted field
  | .wrongType found expected => s!"invalid type: {found.described}, expected {expected}"
  | .wrongNumber n expected =>
    s!"invalid value: {(Found.integer n).described}, expected {expected}"
  | .tooShort length record fields =>
    s!"invalid length {length}, expected {record} with {fields} elements"
  | .unknownMode word =>
    "unknown variant " ++ quoted word ++ ", expected one of " ++
      String.intercalate ", " (["full", "chain_only", "none"].map quoted)
  | .noMode => "wanted exactly 1 element, found 0 elements"
  | .severalModes => "wanted exactly 1 element, more than 1 element"
  | .modeWithContent kind => s!"expected empty {kind}"
  | .modeInside kind => s!"expected table, found {kind}"
  | .notAMode => "wanted string or table"
  | .outOfRange => "number out of range"

end Mismatch
end CredentialRotation
