import CredentialRotation.Der.Oid
import CredentialRotation.Der.Lenient
import CredentialRotation.Text.Utf8
import CredentialRotation.Text.Utf16

/-!
Distinguished names: a list of relative names, each a list of attributes, and the text in which a
name is shown.
-/
namespace CredentialRotation.X509

/-- One attribute: its type, and its value under a tag. -/
structure Attribute where
  type : Oid
  tag : Nat
  value : Octets
  deriving DecidableEq, Repr

/-- A distinguished name. -/
structure Name where
  rdns : List (List Attribute)
  deriving DecidableEq, Repr

namespace Attribute

private def labels : List (Oid × String) :=
  [([2, 5, 4, 3], "CN"), ([2, 5, 4, 4], "surname"), ([2, 5, 4, 5], "serialNumber"),
   ([2, 5, 4, 6], "C"), ([2, 5, 4, 7], "L"), ([2, 5, 4, 8], "ST"), ([2, 5, 4, 9], "streetAddress"),
   ([2, 5, 4, 10], "O"), ([2, 5, 4, 11], "OU"), ([2, 5, 4, 12], "title"),
   ([2, 5, 4, 13], "description"), ([2, 5, 4, 15], "businessCategory"),
   ([2, 5, 4, 16], "postalAddress"), ([2, 5, 4, 17], "postalCode"), ([2, 5, 4, 41], "name"),
   ([2, 5, 4, 42], "givenName"), ([2, 5, 4, 43], "initials"),
   ([2, 5, 4, 44], "generationQualifier"), ([2, 5, 4, 45], "uniqueIdentifier"),
   ([2, 5, 4, 46], "dnQualifier"),
   ([0, 9, 2342, 19200300, 100, 1, 25], "DC"), ([0, 9, 2342, 19200300, 100, 1, 1], "uid"),
   ([1, 2, 840, 113549, 1, 9, 1], "Email"), ([1, 2, 840, 113549, 1, 9, 2], "unstructuredName"),
   ([1, 3, 6, 1, 4, 1, 311, 60, 2, 1, 1], "msJurisdictionLocality"),
   ([1, 3, 6, 1, 4, 1, 311, 60, 2, 1, 2], "msJurisdictionStateOrProvince"),
   ([1, 3, 6, 1, 4, 1, 311, 60, 2, 1, 3], "msJurisdictionCountry")].map
    fun (arcs, label) => (Oid.ofArcs arcs, label)

/-- The short name of an attribute type, or its arcs where it has none. -/
def label (a : Attribute) : String :=
  match labels.lookup a.type with
  | some l => l
  | none => s!"OID({a.type.dotted})"

/-- The tags of the string types whose octets are read as UTF-8. -/
def textTags : List Nat := [7, 12, 18, 19, 20, 21, 22, 25, 26, 27]

/-- The text of a value: strings as they stand, anything else in uppercase hexadecimal. -/
def valueText? (a : Attribute) : Option String :=
  if textTags.contains a.tag then String.ofList <$> Utf8.decode? a.value
  else if a.tag = 30 then String.ofList <$> Utf16.decode? a.value
  else some (Octets.hexUpper a.value)

/-- Label and value with an equals sign between them. -/
def text? (a : Attribute) : Option String :=
  a.valueText?.map fun v => s!"{a.label}={v}"

/-- Reads an attribute: a sequence of a type and a value. -/
def read : Der.Reader Attribute :=
  Der.Lenient.within 16 do
    let type ← Der.Lenient.element
    if type.header.constructed then failure
    let value ← Der.Lenient.element
    return ⟨⟨type.content⟩, value.header.tag, value.content⟩

end Attribute

namespace Name

/-- Attributes of one relative name are joined by a plus sign, relative names by a comma; there is
no text if one value has none. -/
def text? (n : Name) : Option String := do
  let rdns ← n.rdns.mapM fun rdn => do
    return String.intercalate " + " (← rdn.mapM Attribute.text?)
  return String.intercalate ", " rdns

/-- The text of a name, with a fixed text in place of the whole of one that has none. -/
def text (n : Name) : String :=
  n.text?.getD "<X509Error: Invalid X.509 name>"

def readRdn : Der.Reader (List Attribute) :=
  Der.Lenient.within 17 fun bs =>
    match Der.Lenient.many bs.length Attribute.read bs with
    | ([], _) => none
    | found => some found

/-- Reads a name. A relative name that cannot be read ends it, and so does an attribute its
relative name. -/
def read : Der.Reader Name :=
  Der.Lenient.within 16 fun bs =>
    let (rdns, rest) := Der.Lenient.many bs.length readRdn bs
    some (⟨rdns⟩, rest)

end Name
end CredentialRotation.X509
