import CredentialRotation.X509.Name
import CredentialRotation.X509.Validity

/-!
X.509 certificates: what the structure says about serial number, names and public key. Signatures
are not looked at here.
-/
namespace CredentialRotation

/-- The kinds of public key that are told apart. -/
inductive KeyAlgorithm
  | rsa
  | ec
  | unknown
  deriving DecidableEq, Repr

/-- The label of a kind of key. -/
def KeyAlgorithm.label : KeyAlgorithm → String
  | .rsa => "RSA"
  | .ec => "EC"
  | .unknown => "UNKNOWN"

/-- A certificate with its octets as they were found. -/
structure Certificate where
  der : Octets
  serial : Octets
  issuer : X509.Name
  subject : X509.Name
  keyAlgorithm : KeyAlgorithm
  deriving DecidableEq, Repr

namespace Certificate

open Der (Reader Element)
open Der.Lenient (element header within many)

/-- The serial number's octets in lowercase hexadecimal. -/
def serialText (c : Certificate) : String := Octets.hex c.serial

def rsaEncryption : Oid := .ofArcs [1, 2, 840, 113549, 1, 1, 1]
def ecPublicKey : Oid := .ofArcs [1, 2, 840, 10045, 2, 1]

/-- A non-negative INTEGER below 2^32 in its shortest form. -/
def isVersion (e : Element) : Bool :=
  e.header.tag = 2 && !e.header.constructed &&
    match e.content with
    | [] => false
    | [b] => b.toNat < 128
    | a :: b :: _ =>
      a.toNat < 128 && (a.toNat ≠ 0 || b.toNat ≥ 128) && e.content.toNat < Nat.pow 2 32

/-- The optional version under the tag `[0]`. Its number is not kept. -/
def version : Reader Unit := fun bs => do
  let (h, _) ← header bs
  if h.length.isNone then none
  if h.tagClass = .contextSpecific ∧ h.tag = 0 then
    let (outer, rest) ← element bs
    let (inner, _) ← element outer.content
    if isVersion inner then some ((), rest) else none
  else some ((), bs)

def serialNumber : Reader Octets := do
  let e ← Der.Lenient.elementOrMarked
  if e.header.tag = 2 then return e.content else failure

/-- A sequence of an identifier and parameters. The parameters are only read if a header can be
read where they should stand. -/
def algorithm : Reader Oid := do
  let e ← element
  if e.header.tag ≠ 16 ∨ !e.header.constructed then failure
  let (id, rest) ← (element e.content : Option _)
  if id.header.constructed then failure
  match header rest with
  | some (h, _) => if h.length.isSome ∧ (element rest).isNone then failure
  | none => pure ()
  return ⟨id.content⟩

def trailingZeros (b : UInt8) : Nat :=
  (List.range 8).takeWhile (fun i => !b.toNat.testBit i) |>.length

/-- The octets of a BIT STRING whose unused bits are zero. -/
def bits? (e : Element) : Option Octets :=
  match e.content with
  | [] => none
  | [unused] => if unused = 0 then some [] else none
  | unused :: octets =>
    if (octets.getLast?.map trailingZeros).getD 0 < unused.toNat then none else some octets

def bitString : Reader Octets := do
  let e ← element
  if e.header.tag ≠ 3 ∨ e.header.constructed then failure
  match bits? e with
  | some octets => return octets
  | none => failure

def isInteger (e : Element) : Bool :=
  e.header.tag = 2 && !e.header.constructed

/-- A sequence that starts with two integers. -/
def isRsaKey (octets : Octets) : Bool :=
  let twoIntegers : Reader Unit := do
    if isInteger (← element) && isInteger (← element) then pure () else failure
  (within 16 twoIntegers octets).isSome

def publicKey : Reader KeyAlgorithm :=
  within 16 do
    let id ← algorithm
    let key ← bitString
    if id = rsaEncryption then return if isRsaKey key then .rsa else .unknown
    else if id = ecPublicKey then return .ec
    else return .unknown

/-- The optional unique identifier under the tag `[tag]`. -/
def uniqueId (tag : Nat) : Reader Unit := fun bs =>
  match header bs with
  | some (h, _) =>
    if h.length.isSome ∧ h.tag = tag then do
      let (e, rest) ← element bs
      if h.tagClass = .contextSpecific ∧ !h.constructed ∧ (bits? e).isSome then some ((), rest)
      else none
    else some ((), bs)
  | none => some ((), bs)

/-- An optional BOOLEAN of one octet. -/
def critical : Reader Unit := fun bs =>
  match header bs with
  | some (h, rest) =>
    if h.tag ≠ 1 then some ((), bs)
    else if h.length = some 1 then (Der.Lenient.octet rest).map fun (_, left) => ((), left)
    else none
  | none => some ((), bs)

def extension : Reader Unit :=
  within 16 do
    let id ← element
    if id.header.constructed then failure
    critical
    let value ← element
    if value.header.tag ≠ 4 ∨ value.header.constructed then failure

/-- All that follows the unique identifiers: nothing, or the header of `[3]` and after it exactly
one sequence of extensions. What an extension holds does not matter. -/
def extensions : Reader Unit
  | [] => some ((), [])
  | bs => do
    let (h, rest) ← header bs
    if h.tag ≠ 3 ∨ h.length.isNone then none
    let (list, left) ← element rest
    if list.header.tag ≠ 16 ∨ left ≠ [] then none
    if (many list.content.length extension list.content).2 = [] then some ((), []) else none

def signedPart : Reader (Octets × X509.Name × X509.Name × KeyAlgorithm) :=
  within 16 do
    version
    let serial ← serialNumber
    let _ ← algorithm
    let issuer ← X509.Name.read
    within 16 do
      let _ ← X509.Moment.read
      let _ ← X509.Moment.read
    let subject ← X509.Name.read
    let key ← publicKey
    uniqueId 1
    uniqueId 2
    extensions
    return (serial, issuer, subject, key)

/-- Reads a certificate. Octets after its outer sequence stay part of it. -/
def ofDer? (der : Octets) : Option Certificate := do
  let whole : Reader Certificate := within 16 do
    let (serial, issuer, subject, keyAlgorithm) ← signedPart
    let _ ← algorithm
    let _ ← bitString
    return { der, serial, issuer, subject, keyAlgorithm }
  let (c, _) ← whole der
  return c

end Certificate
end CredentialRotation
