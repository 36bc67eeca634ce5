import CredentialRotation.Text.Printable

/-!
The form in which values are shown to someone who debugs: quoted text, optional values, lists and
records with named fields.
-/
namespace CredentialRotation.Shown

private def lowerHex (n : Nat) : String :=
  String.ofList (Nat.toDigits 16 n)

private def escaped (c : Char) : String :=
  match c with
  | '\x00' => "\\0"
  | '\t' => "\\t"
  | '\n' => "\\n"
  | '\r' => "\\r"
  | '"' => "\\\""
  | '\\' => "\\\\"
  | c => if isPrintable c then c.toString else "\\u\x7b" ++ lowerHex c.toNat ++ "\x7d"

/-- A text in double quotes, with escapes for what does not show. -/
def text (s : String) : String :=
  "\"" ++ String.join (s.toList.map escaped) ++ "\""

def bool (b : Bool) : String :=
  if b then "true" else "false"

def option {α : Type} (shown : α → String) : Option α → String
  | none => "None"
  | some a => "Some(" ++ shown a ++ ")"

def list {α : Type} (shown : α → String) (as : List α) : String :=
  "[" ++ String.intercalate ", " (as.map shown) ++ "]"

/-- A name and its fields between braces. -/
def record (name : String) (fields : List (String × String)) : String :=
  let body := String.intercalate ", " (fields.map fun (key, value) => key ++ ": " ++ value)
  name ++ " \x7b " ++ body ++ " \x7d"

end CredentialRotation.Shown
