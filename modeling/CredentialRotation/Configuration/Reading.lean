import CredentialRotation.Configuration.Basic
import CredentialRotation.Configuration.Failure
import CredentialRotation.Text.Utf8
import CredentialRotation.Toml.Document

/-!
Configurations from TOML documents. Keys are looked at in alphabetical order, so that of several
misfits the first one in this order counts; after that fields are missed in the order of the record.
Keys that mean nothing are passed over.
-/
namespace CredentialRotation

open Toml (Value Scalar Entries)

/-- Reads what a value means, or says why it means nothing here. -/
abbrev Meaning (α : Type) := Value → Except Mismatch α

namespace Meaning

private def mistyped {α : Type} (v : Value) (expected : String) : Except Mismatch α :=
  .error (if v matches .scalar .outOfRange then .outOfRange else .wrongType (.ofValue v) expected)

def text : Meaning String
  | .scalar (.text content) => .ok content
  | v => mistyped v "a string"

def boolean : Meaning Bool
  | .scalar (.boolean b) => .ok b
  | v => mistyped v "a boolean"

/-- A whole number of 64 bits without a sign, under the name that messages have for it. -/
def unsigned (expected : String) : Meaning UInt64
  | .scalar (.integer n) =>
    if 0 ≤ n ∧ n < Nat.pow 2 64 then .ok (UInt64.ofNat n.toNat)
    else .error (.wrongNumber n expected)
  | v => mistyped v expected

/-- A number of single precision; whole numbers count if they have at most 64 bits. -/
def rate : Meaning Binary
  | .scalar (.float x) => .ok (x.round .single)
  | .scalar (.integer n) =>
    if -(Nat.pow 2 63) ≤ n ∧ n < Nat.pow 2 64 then .ok (.ofInt .single n)
    else .error (.wrongType (.integer n) "f32")
  | v => mistyped v "f32"

def modeOfWord (word : String) : Except Mismatch VerificationMode :=
  match VerificationMode.ofWord? word with
  | some m => .ok m
  | none => .error (.unknownMode word)

/-- A mode is given by its word, or by its word as the one key of a table with nothing behind it. -/
def mode : Meaning VerificationMode
  | .scalar (.text word) => modeOfWord word
  | .table _ [] => .error .noMode
  | .table _ [(word, content)] => do
    let m ← modeOfWord word
    match content with
    | .table _ [] | .array _ [] => return m
    | .table .. | .array .. => throw (.modeWithContent (Found.kind content))
    | _ => throw (.modeInside (Found.kind content))
  | .table .. => .error .severalModes
  | _ => .error .notAMode

end Meaning

/-- A field of a record, and what it holds where it is left out. -/
structure Field (α : Type) where
  name : String
  meaning : Meaning α
  fallback : Option α

/-- A field of a record, without what its value is good for. -/
abbrev FieldCheck := String × (Value → Except Mismatch Unit)

def Field.check {α : Type} (f : Field α) : FieldCheck :=
  (f.name, fun v => discard (f.meaning v))

/-- A record by the name that messages have for it, and its fields in order. -/
structure Record where
  name : String
  fields : List FieldCheck

/-- The values of a record, by the names or by the places of its fields. -/
inductive Record.Content
  | named (entries : Entries)
  | placed (items : List Value)

namespace Record

/-- Looks at all keys of a table in alphabetical order. -/
def inspect (r : Record) (entries : Entries) : Except Mismatch Unit :=
  (entries.mergeSort fun a b => a.1 ≤ b.1).forM fun (key, v) =>
    match r.fields.lookup key with
    | some check => check v
    | none => if v.any (· = .outOfRange) then throw .outOfRange else return

/-- A record is written as a table, or as an array with its values in order. Dates and times count
as tables without any of its fields. -/
def content (r : Record) : Meaning Content
  | .table _ entries => do
    r.inspect entries
    return .named entries
  | .array _ items => .ok (.placed items)
  | .scalar .moment => .ok (.named [])
  | v => Meaning.mistyped v r.name

/-- The value of a field. -/
def field {α : Type} (r : Record) (content : Content) (f : Field α) : Except Mismatch α :=
  let place := (r.fields.map (·.1)).idxOf f.name
  let (value, missing) : Option Value × Mismatch := match content with
    | .named entries => (entries.lookup f.name, .missing f.name)
    | .placed items => (items[place]?, .tooShort place r.name r.fields.length)
  match value, f.fallback with
  | some v, _ => f.meaning v
  | none, some a => .ok a
  | none, none => .error missing

end Record

namespace IdentitySettings

def keyField : Field String := ⟨"key_path", Meaning.text, none⟩

def certificatesField : Field String := ⟨"cert_path", Meaning.text, none⟩

def refreshField : Field UInt64 :=
  ⟨"refresh_interval_ms", Meaning.unsigned "u64", some usualRefreshMillis⟩

def record : Record :=
  ⟨"struct IdentityConfig", [keyField.check, certificatesField.check, refreshField.check]⟩

def meaning : Meaning IdentitySettings := fun v => do
  let content ← record.content v
  return {
    keyPath := ← record.field content keyField
    certificatesPath := ← record.field content certificatesField
    refreshMillis := ← record.field content refreshField }

end IdentitySettings

namespace VerificationSettings

def modeField : Field VerificationMode := ⟨"mode", Meaning.mode, some .default⟩

def bundleField : Field (Option String) :=
  ⟨"trust_bundle_path", fun v => some <$> Meaning.text v, some none⟩

def record : Record :=
  ⟨"struct VerificationConfig", [modeField.check, bundleField.check]⟩

def meaning : Meaning VerificationSettings := fun v => do
  let content ← record.content v
  return {
    mode := ← record.field content modeField
    trustBundlePath := ← record.field content bundleField }

end VerificationSettings

namespace ReportingSettings

def enabledField : Field Bool := ⟨"enabled", Meaning.boolean, none⟩
def addressField : Field String := ⟨"dsn", Meaning.text, none⟩
def verboseField : Field Bool := ⟨"debug", Meaning.boolean, none⟩
def rateField : Field Binary := ⟨"sample_rate", Meaning.rate, none⟩
def breadcrumbsField : Field UInt64 :=
  ⟨"max_breadcrumbs", Meaning.unsigned "usize", none⟩
def stackTraceField : Field Bool := ⟨"attach_stacktrace", Meaning.boolean, none⟩
def personalDataField : Field Bool := ⟨"send_default_pii", Meaning.boolean, none⟩
def tracesRateField : Field Binary := ⟨"traces_sample_rate", Meaning.rate, none⟩

def record : Record :=
  ⟨"struct SentryConfig",
    [enabledField.check, addressField.check, verboseField.check, rateField.check,
     breadcrumbsField.check, stackTraceField.check, personalDataField.check,
     tracesRateField.check]⟩

def meaning : Meaning ReportingSettings := fun v => do
  let content ← record.content v
  return {
    isEnabled := ← record.field content enabledField
    address := ← record.field content addressField
    isVerbose := ← record.field content verboseField
    sampleRate := ← record.field content rateField
    mostBreadcrumbs := ← record.field content breadcrumbsField
    withStackTrace := ← record.field content stackTraceField
    withPersonalData := ← record.field content personalDataField
    tracesSampleRate := ← record.field content tracesRateField }

end ReportingSettings

/-- What readers of documents in general hold: whole numbers of 64 bits with a sign. -/
private def isOrdinary : Scalar → Bool
  | .integer n => -(Nat.pow 2 63) ≤ n && n < Nat.pow 2 63
  | .outOfRange => false
  | _ => true

/-- What a text means as a document. One that does not fit counts as malformed if it holds numbers
that readers of documents in general do not hold. -/
def Meaning.ofDocument {α : Type} (meaning : Meaning α) (cs : List Char) :
    Except LoadFailure α :=
  match Entries.ofDocument? cs with
  | none => .error .malformed
  | some entries =>
    let document := Value.table .header entries
    match meaning document with
    | .ok a => .ok a
    | .error cause =>
      if document.any (!isOrdinary ·) then .error .malformed else .error (.mismatch cause)

namespace VerificationSettings

/-- The settings that the entries of a document of their own say. -/
def ofDocument (cs : List Char) : Except LoadFailure VerificationSettings :=
  Meaning.ofDocument meaning cs

end VerificationSettings

namespace Configuration

def levelField : Field String := ⟨"log_level", Meaning.text, none⟩
def consoleField : Field UInt64 :=
  ⟨"log_console_interval", Meaning.unsigned "u64", none⟩
def identityField : Field IdentitySettings :=
  ⟨"identity", IdentitySettings.meaning, none⟩
def verificationField : Field VerificationSettings :=
  ⟨"verification", VerificationSettings.meaning, some .unspecified⟩
def reportingField : Field ReportingSettings :=
  ⟨"sentry_config", ReportingSettings.meaning, none⟩

def record : Record :=
  ⟨"struct Configuration",
    [levelField.check, consoleField.check, identityField.check, verificationField.check,
     reportingField.check]⟩

def meaning : Meaning Configuration := fun v => do
  let content ← record.content v
  return {
    logLevel := ← record.field content levelField
    consoleSeconds := ← record.field content consoleField
    identity := ← record.field content identityField
    verification := ← record.field content verificationField
    reporting := ← record.field content reportingField }

/-- The configuration that some octets say. Octets that are no text stand for replacement
characters. -/
def ofOctets (data : Octets) : Except LoadFailure Configuration :=
  Meaning.ofDocument meaning (Utf8.decodeLossy data)

end Configuration
end CredentialRotation
