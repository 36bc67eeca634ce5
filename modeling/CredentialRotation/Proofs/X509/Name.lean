import CredentialRotation.Proofs.Der.Written
import CredentialRotation.Proofs.Text.Utf16
import CredentialRotation.Proofs.Text.Utf8
import CredentialRotation.X509.Name

/-!
Names as they are written in certificates. A name that was written is read as that name: relative
names and their attributes in the order in which they stand, each with the text of its value.
-/
namespace CredentialRotation.X509.Written

open Der (Held Reads)
open Der.Lenient (reads_element reads_within)
open Der.Strict (encode)

/-- What each member comes to is what all come to together. -/
theorem mapM_map_eq_some {α β γ : Type} {said : α → β} {shows : β → Option γ} {text : α → γ}
    (each : ∀ a, shows (said a) = some (text a)) (items : List α) :
    (items.map said).mapM shows = some (items.map text) := by
  induction items with
  | nil => rfl
  | cons a items ih =>
    rw [List.map_cons, List.mapM_cons, each, ih]
    rfl

/-- A value of an attribute: text of a string type with octets of UTF-8, text in UTF-16, or anything
else. -/
inductive AttributeValue
  | text (tag : UInt8) (kind : tag.toNat ∈ Attribute.textTags) (cs : List Char)
  | wide (cs : List Char)
  | other (tag : UInt8) (low : tag.toNat % 32 ≠ 31)
    (kind : tag.toNat % 32 ∉ Attribute.textTags ∧ tag.toNat % 32 ≠ 30) (content : Octets)

namespace AttributeValue

def tag : AttributeValue → UInt8
  | .text tag _ _ => tag
  | .wide _ => 30
  | .other tag _ _ _ => tag

def content : AttributeValue → Octets
  | .text _ _ cs => Utf8.encode cs
  | .wide cs => Utf16.encode cs
  | .other _ _ _ content => content

/-- Text as it stands, anything else in hexadecimal. -/
def shown : AttributeValue → String
  | .text _ _ cs => String.ofList cs
  | .wide cs => String.ofList cs
  | .other _ _ _ content => Octets.hexUpper content

theorem tag_low (v : AttributeValue) : v.tag.toNat % 32 ≠ 31 := by
  cases v with
  | text tag kind cs =>
    have small : ∀ n ∈ Attribute.textTags, n % 32 ≠ 31 := by decide
    exact small _ kind
  | wide cs => exact (by decide : (30 : UInt8).toNat % 32 ≠ 31)
  | other tag low kind content => exact low

end AttributeValue

structure Attribute where
  type : Oid
  value : AttributeValue

namespace Attribute
variable {a : Attribute}

def octets (a : Attribute) : Octets :=
  encode Der.Strict.sequenceTag (encode 6 a.type.content ++ encode a.value.tag a.value.content)

/-- What is read of an attribute. -/
def said (a : Attribute) : X509.Attribute := ⟨a.type, a.value.tag.toNat % 32, a.value.content⟩

def text (a : Attribute) : String := a.said.label ++ "=" ++ a.value.shown

theorem reads (held : Held a.octets) : Reads X509.Attribute.read a.octets a.said := by
  have inside := held.content
  refine reads_within rfl (by decide) inside ?_
  refine (reads_element (by decide) inside.left.content).step ?_
  exact (reads_element a.value.tag_low inside.right.content).finish rfl

/-- The text of a written value can always be shown. -/
theorem text?_said (a : Attribute) : a.said.text? = some a.text := by
  have shown : a.said.valueText? = some a.value.shown := by
    obtain ⟨type, value⟩ := a
    cases value with
    | text tag kind cs =>
      have small : ∀ n ∈ X509.Attribute.textTags, n % 32 = n := by decide
      have tagged : (said ⟨type, .text tag kind cs⟩).tag = tag.toNat := small _ kind
      rw [X509.Attribute.valueText?, tagged, if_pos (by simpa using kind)]
      exact congrArg (Option.map String.ofList) (Utf8.decode?_encode cs)
    | wide cs => exact congrArg (Option.map String.ofList) (Utf16.decode?_encode cs)
    | other tag low kind content =>
      have unlisted : ¬ X509.Attribute.textTags.contains (tag.toNat % 32) := by
        simpa using kind.1
      exact (if_neg unlisted).trans (if_neg kind.2)
  rw [X509.Attribute.text?, shown]
  rfl

end Attribute

/-- A relative name has at least one attribute. -/
structure RelativeName where
  attributes : List Attribute
  nonempty : attributes ≠ []

namespace RelativeName
variable {r : RelativeName}

def octets (r : RelativeName) : Octets := encode 0x31 (r.attributes.flatMap Attribute.octets)

def said (r : RelativeName) : List X509.Attribute := r.attributes.map Attribute.said

def text (r : RelativeName) : String := String.intercalate " + " (r.attributes.map Attribute.text)

theorem reads (held : Held r.octets) : Reads Name.readRdn r.octets r.said := by
  have inside := held.content
  refine reads_within rfl (by decide) inside ?_
  have all := Der.Lenient.many_written (fun a mem => Attribute.reads (inside.of_mem mem)) rfl
  simp only [all, said]
  cases attributes : r.attributes with
  | nil => exact absurd attributes r.nonempty
  | cons a others => rfl

end RelativeName

structure Name where
  relativeNames : List RelativeName

namespace Name
variable {n : Name}

def octets (n : Name) : Octets :=
  encode Der.Strict.sequenceTag (n.relativeNames.flatMap RelativeName.octets)

def said (n : Name) : X509.Name := ⟨n.relativeNames.map RelativeName.said⟩

def text (n : Name) : String := String.intercalate ", " (n.relativeNames.map RelativeName.text)

theorem reads (held : Held n.octets) : Reads X509.Name.read n.octets n.said := by
  have inside := held.content
  refine reads_within rfl (by decide) inside ?_
  have all := Der.Lenient.many_written (fun r mem => RelativeName.reads (inside.of_mem mem)) rfl
  simp only [all, said]

/-- The text of a written name is made of the texts of its attributes, in order. -/
theorem text_said (n : Name) : n.said.text = n.text := by
  have relative (r : RelativeName) : (do
      return String.intercalate " + " (← r.said.mapM X509.Attribute.text?) : Option String) =
      some r.text := by
    rw [RelativeName.said, mapM_map_eq_some Attribute.text?_said]
    rfl
  rw [X509.Name.text, X509.Name.text?, said, mapM_map_eq_some relative]
  rfl

end Name
end CredentialRotation.X509.Written
