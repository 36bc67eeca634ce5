import CredentialRotation.Trust.Candidate

/-!
Trust anchors: a name and a key that paths may end in. They come from certificates, of which neither
validity nor signature matters.
-/
namespace CredentialRotation.Trust

structure Anchor where
  subject : Octets
  keyInfo : Octets
  nameConstraints : Option Octets
  deriving DecidableEq, Repr

namespace Anchor

open Der.Strict Parse

/-- Reads the old layout of a certificate, which has no version and no extensions. -/
private def ofUnversioned : Parse Anchor :=
  nested sequenceTag .malformed do
    let anchor ← nested sequenceTag .malformed do
      let _ ← expect integerTag
      let _ ← expect sequenceTag
      let _ ← expect sequenceTag
      let _ ← expect sequenceTag
      let subject ← expect sequenceTag
      let keyInfo ← expect sequenceTag
      return { subject, keyInfo, nameConstraints := none }
    let _ ← expect sequenceTag
    let _ ← expect bitStringTag
    return anchor

/-- The anchor that a certificate stands for. -/
def ofDer (der : Octets) : Except Failure Anchor :=
  match Candidate.ofDer der with
  | .ok c => .ok ⟨c.subject, c.keyInfo, c.extension? .nameConstraints⟩
  | .error .unsupportedVersion =>
    match all .malformed ofUnversioned der with
    | .ok anchor => .ok anchor
    | .error _ => .error .malformed
  | .error failure => .error failure

end Anchor
end CredentialRotation.Trust
