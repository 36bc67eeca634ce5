import CredentialRotation.Der.Strict
import CredentialRotation.Signature.Scheme
import CredentialRotation.Trust.Failure

/-!
Certificates as a search for a path reads them: the octets of each part, kept as found and looked at
only when the search comes to it. The reading is strict: version three, the distinguished encoding,
and no critical extension that is not understood.
-/
namespace CredentialRotation.Trust

/-- Readers that say why they failed. -/
abbrev Parse := StateT Octets (Except Failure)

namespace Parse

open Der.Strict

/-- Elements have less than 65535 octets of content. -/
def short? (bs : Octets) : Option (UInt8 × Octets × Octets) := do
  let (tag, content, rest) ← element? bs
  if content.length < 65535 then some (tag, content, rest) else none

theorem short?_length {bs content rest : Octets} {tag : UInt8}
    (h : short? bs = some (tag, content, rest)) : rest.length < bs.length := by
  simp only [short?, Option.bind_eq_bind, Option.bind_eq_some_iff] at h
  obtain ⟨⟨t, c, r⟩, h₁, h₂⟩ := h
  split at h₂
  · simp only [Option.some.injEq, Prod.mk.injEq] at h₂
    obtain ⟨rfl, rfl, rfl⟩ := h₂
    exact element?_length h₁
  · simp at h₂

/-- The next element, whatever it is. -/
def element : Parse (UInt8 × Octets) := fun bs =>
  match short? bs with
  | some (tag, content, rest) => .ok ((tag, content), rest)
  | none => .error .malformed

/-- The content of the next element, which has to have this tag. -/
def expect (tag : UInt8) : Parse Octets := do
  let (found, content) ← element
  if found = tag then return content else throw .malformed

/-- The tag ahead is this one. -/
def isNext (tag : UInt8) : Parse Bool := do
  return (← get).head? = some tag

/-- Reads all of some octets. -/
def all {α : Type} (failure : Failure) (inner : Parse α) (bs : Octets) : Except Failure α := do
  let (a, rest) ← inner bs
  if rest.isEmpty then return a else throw failure

/-- Reads all of the next element's content. A different element is a failure of its own kind. -/
def nested {α : Type} (tag : UInt8) (failure : Failure) (inner : Parse α) : Parse α := fun bs =>
  match short? bs with
  | some (found, content, rest) =>
    if found = tag then (all failure inner content).map fun a => (a, rest) else .error failure
  | none => .error failure

/-- The octets of a BIT STRING without unused bits. -/
def bits : Parse Octets :=
  nested bitStringTag .trailingData do
    match ← get with
    | 0 :: octets =>
      set ([] : Octets)
      return octets
    | _ => throw .malformed

/-- A number below 256. -/
def small : Parse Nat := fun bs =>
  match natural? bs with
  | some (n, rest) => if n < 256 then .ok (n, rest) else .error .malformed
  | none => .error .malformed

/-- A BOOLEAN that may be left out, which means false. -/
def flag : Parse Bool := do
  if !(← isNext 1) then return false
  nested 1 .trailingData do
    match ← get with
    | b :: rest =>
      set rest
      if b = 0xff then return true else if b = 0 then return false else throw .malformed
    | [] => throw .malformed

/-- Takes the contents of a run of sequences into a state, one after the other. -/
def eachSequence {σ : Type} (failure : Failure) (step : σ → Octets → Except Failure σ) (s : σ)
    (bs : Octets) : Except Failure σ :=
  match _h : short? bs with
  | none => if bs.isEmpty then .ok s else .error failure
  | some (tag, content, rest) =>
    if tag = sequenceTag then do
      let s ← step s content
      eachSequence failure step s rest
    else .error failure
termination_by bs.length
decreasing_by exact short?_length (by assumption)

end Parse

/-- The extensions that are understood. -/
inductive KnownExtension
  | keyUsage
  | alternativeNames
  | basicConstraints
  | nameConstraints
  | revocationPoints
  | purposes
  deriving DecidableEq, Repr

/-- The extension of an identifier's content octets. -/
def KnownExtension.ofIdentifier? : Octets → Option KnownExtension
  | [0x55, 29, 15] => some .keyUsage
  | [0x55, 29, 17] => some .alternativeNames
  | [0x55, 29, 19] => some .basicConstraints
  | [0x55, 29, 30] => some .nameConstraints
  | [0x55, 29, 31] => some .revocationPoints
  | [0x55, 29, 37] => some .purposes
  | _ => none

/-- A certificate that may stand in a path. -/
structure Candidate where
  /-- The whole element that the signature covers. -/
  signed : Octets
  algorithm : Octets
  signature : Octets
  issuer : Octets
  validity : Octets
  subject : Octets
  keyInfo : Octets
  extensions : List (KnownExtension × Octets)
  deriving DecidableEq, Repr

namespace Candidate

open Der.Strict Parse

def extension? (c : Candidate) (which : KnownExtension) : Option Octets :=
  c.extensions.lookup which

/-- The parts of a signed structure: what is signed with its tag, what it holds, the algorithm and
the signature. -/
def signedParts : Parse (Octets × Octets × Octets × Octets) := do
  let before ← get
  let content ← expect sequenceTag
  let after ← get
  let algorithm ← expect sequenceTag
  let signature ← bits
  return (before.take (before.length - after.length), content, algorithm, signature)

def version : Parse Unit :=
  nested 0xa0 .unsupportedVersion do
    if (← small) ≠ 2 then throw .unsupportedVersion

/-- Adds an extension. Each may come once; one that is not understood must not be critical. Values
are sequences, but for the use of the key, which is not looked at. -/
def addExtension (found : List (KnownExtension × Octets)) (bs : Octets) :
    Except Failure (List (KnownExtension × Octets)) :=
  all .trailingData (do
    let id ← expect 6
    let critical ← flag
    let value ← expect octetStringTag
    match KnownExtension.ofIdentifier? id with
    | none => if critical then throw .unsupportedCriticalExtension else return found
    | some which =>
      if (found.lookup which).isSome then throw .invalidExtensionValue
      let value ←
        if which = .keyUsage then pure value
        else MonadLift.monadLift (all .malformed (expect sequenceTag) value)
      return found ++ [(which, value)]) bs

def extensionList : Parse (List (KnownExtension × Octets)) := do
  if (← get).isEmpty then return []
  nested 0xa3 .trailingData <| nested sequenceTag .trailingData do
    let bs ← get
    set ([] : Octets)
    MonadLift.monadLift (eachSequence .trailingData addExtension [] bs)

/-- Reads a certificate. -/
def ofDer (der : Octets) : Except Failure Candidate := do
  let (signed, content, algorithm, signature) ←
    all .trailingData (nested sequenceTag .trailingData signedParts) der
  all .trailingData (do
    version
    let _ ← expect integerTag
    if (← expect sequenceTag) ≠ algorithm then throw .signatureAlgorithmMismatch
    let issuer ← expect sequenceTag
    let validity ← expect sequenceTag
    let subject ← expect sequenceTag
    let keyInfo ← expect sequenceTag
    let extensions ← extensionList
    return { signed, algorithm, signature, issuer, validity, subject, keyInfo, extensions }) content

end Candidate

/-- The octets of a key in a key info structure whose algorithm identifier is the given one. -/
def keyOctets (identifier keyInfo : Octets) : Except Failure Octets :=
  Parse.all .trailingData (do
    let found ← Parse.expect Der.Strict.sequenceTag
    let key ← Parse.bits
    if found = identifier then return key
    else throw .unsupportedSignatureAlgorithmForKey) keyInfo

/-- Verifies a signature under a key info structure by one scheme. -/
def verifyBy (scheme : SignatureScheme) (keyInfo message signature : Octets) :
    Except Failure Unit := do
  let key ← keyOctets scheme.keyIdentifier keyInfo
  if scheme.verify key message signature then return else throw .badSignature

/-- Tries schemes until one goes with the key. -/
def verifyByAny (keyInfo message signature : Octets) : List SignatureScheme → Except Failure Unit
  | [] => .error .unsupportedSignatureAlgorithmForKey
  | scheme :: schemes =>
    match verifyBy scheme keyInfo message signature with
    | .error .unsupportedSignatureAlgorithmForKey => verifyByAny keyInfo message signature schemes
    | result => result

/-- Verifies a certificate's signature under its issuer's key info structure. -/
def Candidate.verifySignature (c : Candidate) (keyInfo : Octets) : Except Failure Unit :=
  match SignatureScheme.all.filter fun s => s.identifier = c.algorithm with
  | [] => .error .unsupportedSignatureAlgorithm
  | schemes => verifyByAny keyInfo c.signed c.signature schemes

end CredentialRotation.Trust
